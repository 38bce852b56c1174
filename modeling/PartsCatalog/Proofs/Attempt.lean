import Mathlib.Data.List.Forall2

/-!
# Laws of computations that may fail

A sequence succeeds where each of its steps does (`bind_eq_ok`).  A loop over a list succeeds with
the answers of the elements (`mapM_eq_ok_iff`), so a loop all of whose steps succeed is the same
loop without the possibility to fail (`mapM_eq_ok`, `foldlM_eq_ok`), and a loop of checks succeeds
exactly where all of them do (`forM_eq_ok`).  Loops over elements that step alike end alike
(`foldlM_congr`).  Where a loop fails, it fails with the fault of the first element that has one
(`foldlM_eq_error_iff`, `mapM_eq_error_iff`).
-/

namespace PartsCatalog

variable {ε α β : Type}

theorem bind_eq_ok {x : Except ε α} {f : α → Except ε β} {b : β} :
    (x >>= f) = .ok b ↔ ∃ a, x = .ok a ∧ f a = .ok b := by
  cases x with
  | ok a =>
    constructor
    · intro ended
      exact ⟨a, rfl, ended⟩
    · rintro ⟨_, ⟨⟩, ended⟩
      exact ended
  | error e =>
    constructor
    · rintro ⟨⟩
    · rintro ⟨_, ⟨⟩, _⟩

theorem pure_eq_ok {a b : α} : (pure a : Except ε α) = .ok b ↔ a = b := by
  rw [show (pure a : Except ε α) = .ok a from rfl, Except.ok.injEq]

theorem ok_bind {a : α} {f : α → Except ε β} : (Except.ok a >>= f) = f a := rfl

theorem eq_ok_of_toOption {x : Except ε α} {a : α} (answer : x.toOption = some a) : x = .ok a := by
  cases x with
  | ok b => exact congrArg Except.ok (Option.some.inj answer)
  | error => cases answer

/-- What has no fault has an answer. -/
theorem exists_eq_ok {x : Except ε α} (sound : ∀ fault, x ≠ .error fault) : ∃ a, x = .ok a := by
  cases x with
  | ok a => exact ⟨a, rfl⟩
  | error fault => exact absurd rfl (sound fault)

/-- The answers of a list are those of its elements, one for each. -/
theorem mapM_eq_ok_iff {f : α → Except ε β} {xs : List α} {ys : List β} :
    xs.mapM f = .ok ys ↔ List.Forall₂ (fun x y => f x = .ok y) xs ys := by
  induction xs generalizing ys with
  | nil => rw [List.mapM_nil, pure_eq_ok, List.forall₂_nil_left_iff, eq_comm]
  | cons x xs ih =>
    simp only [List.mapM_cons, bind_eq_ok, pure_eq_ok, ih, List.forall₂_cons_left_iff]
    constructor
    · rintro ⟨y, answered, rest, answers, rfl⟩
      exact ⟨y, rest, answered, answers, rfl⟩
    · rintro ⟨y, rest, answered, answers, rfl⟩
      exact ⟨y, answered, rest, answers, rfl⟩

/-- Where every element has an answer, so has the list. -/
theorem mapM_eq_ok {f : α → Except ε β} {g : α → β} {xs : List α}
    (answers : ∀ x ∈ xs, f x = .ok (g x)) : xs.mapM f = .ok (xs.map g) :=
  mapM_eq_ok_iff.2 (List.forall₂_map_right_iff.2 (List.forall₂_same.2 answers))

/-- What is in the answers was answered for some element. -/
theorem exists_of_mem_mapM {f : α → Except ε β} {xs : List α} {ys : List β} {y : β}
    (ended : xs.mapM f = .ok ys) (member : y ∈ ys) : ∃ x ∈ xs, f x = .ok y := by
  have answers := mapM_eq_ok_iff.1 ended
  clear ended
  induction answers with
  | nil => cases member
  | @cons x _ _ _ answered _ ih =>
    rcases List.mem_cons.1 member with rfl | later
    · exact ⟨x, List.mem_cons_self, answered⟩
    · obtain ⟨x', inside, answered'⟩ := ih later
      exact ⟨x', List.mem_cons_of_mem x inside, answered'⟩

/-- Where every step succeeds, whatever came before, so does the loop. -/
theorem foldlM_eq_ok {f : β → α → Except ε β} {g : β → α → β} {xs : List α}
    (steps : ∀ b, ∀ x ∈ xs, f b x = .ok (g b x)) (b : β) :
    xs.foldlM f b = .ok (xs.foldl g b) := by
  induction xs generalizing b with
  | nil => rfl
  | cons x xs ih =>
    rw [List.foldlM_cons, steps b x List.mem_cons_self, ok_bind, List.foldl_cons]
    exact ih (fun b y member => steps b y (List.mem_cons_of_mem x member)) (g b x)

/-- Lists whose elements step alike, whatever came before, end alike. -/
theorem foldlM_congr {f : β → α → Except ε β} {xs ys : List α}
    (alike : List.Forall₂ (fun x y => ∀ b, f b x = f b y) xs ys) (b : β) :
    xs.foldlM f b = ys.foldlM f b := by
  induction alike generalizing b with
  | nil => rfl
  | cons first _ ih =>
    rw [List.foldlM_cons, List.foldlM_cons, first b]
    exact bind_congr ih

/-- A list passes a check where each of its elements does. -/
theorem forM_eq_ok {check : α → Except ε Unit} {xs : List α} :
    List.forM xs check = .ok () ↔ ∀ x ∈ xs, check x = .ok () := by
  induction xs with
  | nil => simp [List.forM, pure, Except.pure]
  | cons x xs ih =>
    rw [List.forall_mem_cons, ← ih, List.forM, bind_eq_ok]
    constructor
    · rintro ⟨_, first, rest⟩
      exact ⟨first, rest⟩
    · rintro ⟨first, rest⟩
      exact ⟨_, first, rest⟩

/-! ## The first fault -/

/-- The fault of the first faulty element of a list. -/
def FirstFault (faulty : α → ε → Prop) (xs : List α) (fault : ε) : Prop :=
  ∃ before x after, xs = before ++ x :: after ∧ (∀ y ∈ before, ∀ other, ¬ faulty y other) ∧
    faulty x fault

section FirstFault

variable {faulty : α → ε → Prop} {x : α} {xs : List α} {fault : ε}

theorem not_firstFault_nil : ¬ FirstFault faulty [] fault := by
  rintro ⟨before, x, after, split, -⟩
  cases before <;> cases split

/-- The first fault is that of the head, or the head has none and the tail has it. -/
theorem firstFault_cons :
    FirstFault faulty (x :: xs) fault ↔
      faulty x fault ∨ (∀ other, ¬ faulty x other) ∧ FirstFault faulty xs fault := by
  constructor
  · rintro ⟨before, y, after, split, sound, fails⟩
    cases before with
    | nil =>
      obtain ⟨rfl, rfl⟩ := List.cons.inj split
      exact .inl fails
    | cons head before =>
      obtain ⟨rfl, rfl⟩ := List.cons.inj split
      obtain ⟨first, sound⟩ := List.forall_mem_cons.1 sound
      exact .inr ⟨first, before, y, after, rfl, sound, fails⟩
  · rintro (fails | ⟨first, before, y, after, rfl, sound, fails⟩)
    · exact ⟨[], x, xs, rfl, nofun, fails⟩
    · exact ⟨x :: before, y, after, rfl, List.forall_mem_cons.2 ⟨first, sound⟩, fails⟩

/-- There is a first fault where there is one at all. -/
theorem exists_firstFault_iff :
    (∃ fault, FirstFault faulty xs fault) ↔ ∃ x ∈ xs, ∃ fault, faulty x fault := by
  induction xs with
  | nil => exact iff_of_false (fun ⟨_, first⟩ => not_firstFault_nil first) nofun
  | cons x xs ih =>
    by_cases fails : ∃ fault, faulty x fault
    · obtain ⟨fault, fails⟩ := fails
      exact iff_of_true ⟨fault, firstFault_cons.2 (.inl fails)⟩
        ⟨x, List.mem_cons_self, fault, fails⟩
    · have sound := not_exists.1 fails
      simp only [firstFault_cons, sound, false_or, not_false_eq_true, implies_true, true_and, ih,
        List.mem_cons, exists_eq_or_imp, exists_false]

theorem not_firstFault_iff :
    (∀ fault, ¬ FirstFault faulty xs fault) ↔ ∀ x ∈ xs, ∀ fault, ¬ faulty x fault := by
  rw [← not_exists, exists_firstFault_iff]
  simp only [not_exists, not_and]

/-- What would fail with the first fault of a list and has not failed tells that nothing in the list
is faulty. -/
theorem sound_of_eq_ok {answer : Except ε β} {y : β} (answered : answer = .ok y)
    (fails : ∀ fault, FirstFault faulty xs fault → answer = .error fault) :
    ∀ x ∈ xs, ∀ fault, ¬ faulty x fault := by
  refine not_firstFault_iff.1 fun fault first => ?_
  rw [fails fault first] at answered
  cases answered

/-- Selected elements have the first fault of those they were selected from. -/
theorem firstFault_filterMap {select : β → Option α} {ys : List β} :
    FirstFault faulty (ys.filterMap select) fault ↔
      FirstFault (fun y fault => ∃ x, select y = some x ∧ faulty x fault) ys fault := by
  induction ys with
  | nil => exact iff_of_false not_firstFault_nil not_firstFault_nil
  | cons y ys ih =>
    rw [firstFault_cons, ← ih]
    cases selected : select y with
    | none => simp [List.filterMap_cons_none selected]
    | some x => simp [List.filterMap_cons_some selected, firstFault_cons]

/-- Lists whose elements have the same faults have the same first fault. -/
theorem firstFault_congr {faulty' : β → ε → Prop} {ys : List β}
    (same : List.Forall₂ (fun x y => ∀ fault, faulty x fault ↔ faulty' y fault) xs ys) :
    FirstFault faulty xs fault ↔ FirstFault faulty' ys fault := by
  induction same with
  | nil => exact iff_of_false not_firstFault_nil not_firstFault_nil
  | cons head _ ih => simp only [firstFault_cons, head, ih]

/-- A loop whose steps fail by their elements alone fails with the first fault. -/
theorem foldlM_eq_error_iff {step : β → α → Except ε β}
    (fails : ∀ done x fault, step done x = .error fault ↔ faulty x fault) (done : β) :
    xs.foldlM step done = .error fault ↔ FirstFault faulty xs fault := by
  induction xs generalizing done with
  | nil => exact iff_of_false nofun not_firstFault_nil
  | cons x xs ih =>
    rw [List.foldlM_cons, firstFault_cons]
    simp only [← fails done x]
    cases step done x with
    | ok next => simp [ok_bind, ih]
    | error other => simp [bind, Except.bind]

/-- A loop that answers each element fails with the first fault. -/
theorem mapM_eq_error_iff {f : α → Except ε β}
    (fails : ∀ x fault, f x = .error fault ↔ faulty x fault) :
    xs.mapM f = .error fault ↔ FirstFault faulty xs fault := by
  induction xs with
  | nil => exact iff_of_false nofun not_firstFault_nil
  | cons x xs ih =>
    rw [List.mapM_cons, firstFault_cons, ← ih]
    simp only [← fails x]
    cases f x with
    | ok y => cases xs.mapM f <;> simp [bind, Except.bind, pure, Except.pure]
    | error other => simp [bind, Except.bind]

end FirstFault

end PartsCatalog
