import Mathlib.Data.List.Induction
import Mathlib.Data.List.Nodup
import PartsCatalog.Proofs.Attempt
import PartsCatalog.Proofs.Keyed

/-!
# Laws of first occurrences

What is collected from a list element by element is picked out of the whole list: different
elements are `List.eraseDups` of it (`firstOccurrences_eq_eraseDups`), elements that are added
unless their key is there are the first of every key (`foldl_updateOrAppend_self`), and entries that
every row starts or changes are made of one group of rows each (`foldl_updateOrAppend_eq`).  The
groups are filtered out of the list, so a row has no part in the entry of another key
(`find?_entriesBy`).

Where rows can be faulty, collecting fails at the first faulty one, and otherwise is the same
(`Collects`).
-/

namespace PartsCatalog

/-! ## Different elements -/

section Elements

variable {α : Type} [BEq α] [LawfulBEq α] {x y : α} {xs known : List α}

theorem appendNew_of_mem (present : y ∈ known) : appendNew known y = known := by
  rw [appendNew, if_pos (List.contains_iff_mem.2 present)]

theorem appendNew_of_not_mem (absent : y ∉ known) : appendNew known y = known ++ [y] := by
  rw [appendNew, if_neg (mt List.contains_iff_mem.1 absent)]

theorem mem_appendNew : x ∈ appendNew known y ↔ x ∈ known ∨ x = y := by
  by_cases present : y ∈ known
  · rw [appendNew_of_mem present, or_iff_left_of_imp]
    rintro rfl
    exact present
  · rw [appendNew_of_not_mem present, List.mem_append, List.mem_singleton]

theorem nodup_appendNew (distinct : known.Nodup) (y : α) : (appendNew known y).Nodup := by
  by_cases present : y ∈ known
  · rwa [appendNew_of_mem present]
  · rw [appendNew_of_not_mem present]
    exact distinct.append (List.nodup_singleton y) (List.disjoint_singleton.2 present)

theorem eraseDups_concat (xs : List α) (x : α) :
    (xs ++ [x]).eraseDups = appendNew xs.eraseDups x := by
  by_cases present : x ∈ xs
  · rw [appendNew_of_mem (List.mem_eraseDups.2 present), List.eraseDups_append]
    simp [List.removeAll, present]
  · rw [appendNew_of_not_mem (mt List.mem_eraseDups.1 present), List.eraseDups_append]
    simp [List.removeAll, present, List.eraseDups_cons]

theorem firstOccurrences_eq_eraseDups (xs : List α) : firstOccurrences xs = xs.eraseDups := by
  induction xs using List.reverseRecOn with
  | nil => rfl
  | append_singleton xs x ih =>
    rw [eraseDups_concat, ← ih, firstOccurrences, List.foldl_append]
    rfl

theorem mem_firstOccurrences : x ∈ firstOccurrences xs ↔ x ∈ xs := by
  rw [firstOccurrences_eq_eraseDups, List.mem_eraseDups]

theorem nodup_firstOccurrences (xs : List α) : (firstOccurrences xs).Nodup :=
  List.foldlRecOn xs appendNew List.nodup_nil fun _ distinct y _ => nodup_appendNew distinct y

theorem foldl_appendNew_of_nodup (distinct : (known ++ xs).Nodup) :
    xs.foldl appendNew known = known ++ xs := by
  induction xs generalizing known with
  | nil => simp
  | cons y xs ih =>
    have fresh : y ∉ known := fun member =>
      List.disjoint_of_nodup_append distinct member List.mem_cons_self
    have longer : (known ++ [y] ++ xs).Nodup := by rwa [List.append_assoc]
    rw [List.foldl_cons, appendNew_of_not_mem fresh, ih longer, List.append_assoc]
    rfl

theorem firstOccurrences_of_nodup (distinct : xs.Nodup) : firstOccurrences xs = xs :=
  foldl_appendNew_of_nodup distinct

end Elements

/-! ## Entries of a key -/

section Entries

variable {α β γ κ : Type} [BEq κ] [LawfulBEq κ] {key : α → κ} {k : κ} {x : α} {xs : List α}

/-- The elements of every key, the keys in the order in which they first come. -/
def groupsBy (key : α → κ) (xs : List α) : List (List α) :=
  (xs.map key).eraseDups.map fun k => xs.filter (key · == k)

/-- One entry of every key, made of the first element of the key and those behind it. -/
def entriesBy (key : α → κ) (entry : α → List α → γ) (xs : List α) : List γ :=
  (groupsBy key xs).filterMap fun
    | [] => none
    | first :: rest => some (entry first rest)

/-- The first element of every key, in the order in which the keys first come. -/
def firstOfEach (key : α → κ) (xs : List α) : List α := entriesBy key (fun first _ => first) xs

omit [LawfulBEq κ] in
/-- What holds of a list once it holds of the elements of other keys behind the first element, holds
of every list. -/
theorem keyInduction (key : α → κ) {motive : List α → Prop} (nil : motive [])
    (cons : ∀ x xs, motive (xs.filter (key · != key x)) → motive (x :: xs)) (xs : List α) :
    motive xs :=
  match xs with
  | [] => nil
  | x :: xs => cons x xs (keyInduction key nil cons (xs.filter (key · != key x)))
termination_by xs.length
decreasing_by exact Nat.lt_succ_of_le (List.length_filter_le _ _)

omit [LawfulBEq κ] in
/-- The first key, and then the different keys of the elements of other keys. -/
theorem eraseDups_map_cons (key : α → κ) (x : α) (xs : List α) :
    ((x :: xs).map key).eraseDups =
      key x :: ((xs.filter (key · != key x)).map key).eraseDups := by
  have others : ((xs.map key).filter fun k => !k == key x) =
      (xs.filter (key · != key x)).map key := List.filter_map
  rw [List.map_cons, List.eraseDups_cons, others]

theorem groupsBy_cons (key : α → κ) (x : α) (xs : List α) :
    groupsBy key (x :: xs) =
      (x :: xs.filter (key · == key x)) :: groupsBy key (xs.filter (key · != key x)) := by
  rw [groupsBy, eraseDups_map_cons, List.map_cons, groupsBy, List.filter_cons_of_pos (by simp)]
  congr 1
  refine List.map_congr_left fun k member => ?_
  have other : k ≠ key x := by
    obtain ⟨y, inside, rfl⟩ := List.mem_map.1 (List.mem_eraseDups.1 member)
    exact bne_iff_ne.1 (List.mem_filter.1 inside).2
  rw [List.filter_cons_of_neg (by simpa using Ne.symm other), filter_filter_key_ne other]

theorem entriesBy_cons (key : α → κ) (entry : α → List α → γ) (x : α) (xs : List α) :
    entriesBy key entry (x :: xs) =
      entry x (xs.filter (key · == key x)) ::
        entriesBy key entry (xs.filter (key · != key x)) := by
  rw [entriesBy, groupsBy_cons]
  rfl

/-- Where all elements have one key, there is one entry. -/
theorem entriesBy_of_forall_eq {entry : α → List α → γ} (same : ∀ y ∈ xs, key y = key x) :
    entriesBy key entry (x :: xs) = [entry x xs] := by
  have own : xs.filter (key · == key x) = xs :=
    List.filter_eq_self.2 fun y member => beq_iff_eq.2 (same y member)
  have others : xs.filter (key · != key x) = [] :=
    List.filter_eq_nil_iff.2 fun y member => by simp [same y member]
  rw [entriesBy_cons, own, others]
  rfl

/-- The entry of a key is made of the elements of that key alone. -/
theorem find?_entriesBy {key' : γ → κ} {entry : α → List α → γ}
    (atKey : ∀ first rest, key' (entry first rest) = key first) (k : κ) (xs : List α) :
    (entriesBy key entry xs).find? (key' · == k) =
      (entriesBy key entry (xs.filter (key · == k))).head? := by
  induction xs using keyInduction key with
  | nil => rfl
  | cons x xs ih =>
    rw [entriesBy_cons]
    by_cases here : key x = k
    · subst here
      rw [List.find?_cons_of_pos (by simp [atKey]), List.filter_cons_of_pos (by simp),
        entriesBy_cons, List.filter_filter]
      simp
    · rw [List.find?_cons_of_neg (by simpa [atKey] using here), ih,
        List.filter_cons_of_neg (by simpa using here), filter_filter_key_ne (Ne.symm here)]

/-- An entry is made of the first element of its key and of those behind it. -/
theorem exists_of_mem_entriesBy {entry : α → List α → γ} {y : γ}
    (member : y ∈ entriesBy key entry xs) :
    ∃ first rest, y = entry first rest ∧ xs.filter (key · == key first) = first :: rest := by
  induction xs using keyInduction key with
  | nil => cases member
  | cons x xs ih =>
    rw [entriesBy_cons] at member
    rcases List.mem_cons.1 member with rfl | later
    · exact ⟨x, _, rfl, List.filter_cons_of_pos (by simp)⟩
    · obtain ⟨first, rest, isEntry, group⟩ := ih later
      have inside : first ∈ (xs.filter (key · != key x)).filter (key · == key first) := by
        rw [group]
        exact List.mem_cons_self
      have other : key first ≠ key x :=
        bne_iff_ne.1 (List.mem_filter.1 (List.mem_of_mem_filter inside)).2
      rw [filter_filter_key_ne other] at group
      refine ⟨first, rest, isEntry, ?_⟩
      rw [List.filter_cons_of_neg (by simpa using other.symm), group]

theorem firstOfEach_cons (key : α → κ) (x : α) (xs : List α) :
    firstOfEach key (x :: xs) = x :: firstOfEach key (xs.filter (key · != key x)) :=
  entriesBy_cons key _ x xs

theorem map_key_firstOfEach (key : α → κ) (xs : List α) :
    (firstOfEach key xs).map key = (xs.map key).eraseDups := by
  induction xs using keyInduction key with
  | nil => rfl
  | cons x xs ih => rw [firstOfEach_cons, List.map_cons, ih, eraseDups_map_cons]

/-- Every key comes once. -/
theorem nodup_map_key_firstOfEach (key : α → κ) (xs : List α) :
    ((firstOfEach key xs).map key).Nodup := by
  rw [map_key_firstOfEach, ← firstOccurrences_eq_eraseDups]
  exact nodup_firstOccurrences (xs.map key)

/-- The keys of what rows state are those that some row states. -/
theorem mem_map_key_firstOfEach_filterMap {state : β → Option α} {rows : List β} :
    k ∈ (firstOfEach key (rows.filterMap state)).map key ↔
      ∃ row ∈ rows, (state row).any (key · == k) := by
  simp only [map_key_firstOfEach, List.mem_eraseDups, List.mem_map, List.mem_filterMap,
    Option.any_eq_true, beq_iff_eq]
  constructor
  · rintro ⟨x, ⟨row, member, states⟩, atKey⟩
    exact ⟨row, member, x, states, atKey⟩
  · rintro ⟨row, member, x, states, atKey⟩
    exact ⟨x, ⟨row, member, states⟩, atKey⟩

theorem mem_of_mem_firstOfEach (member : x ∈ firstOfEach key xs) : x ∈ xs := by
  induction xs using keyInduction key with
  | nil => exact member
  | cons y xs ih =>
    rw [firstOfEach_cons] at member
    rcases List.mem_cons.1 member with rfl | later
    · exact List.mem_cons_self
    · exact List.mem_cons_of_mem y (List.mem_filter.1 (ih later)).1

/-- The first element of a key is found under it. -/
theorem find?_firstOfEach (key : α → κ) (k : κ) (xs : List α) :
    (firstOfEach key xs).find? (key · == k) = xs.find? (key · == k) := by
  rw [firstOfEach, find?_entriesBy (fun first _ => Eq.refl (key first)), ← List.head?_filter]
  cases xs.filter (key · == k) with
  | nil => rfl
  | cons first rest => rw [entriesBy_cons, List.head?_cons, List.head?_cons]

theorem find?_of_mem_firstOfEach (member : x ∈ firstOfEach key xs) :
    xs.find? (key · == key x) = some x := by
  obtain ⟨first, rest, rfl, group⟩ := exists_of_mem_entriesBy member
  rw [← List.head?_filter, group, List.head?_cons]

/-- With distinct keys, every element is the first of its key. -/
theorem firstOfEach_of_nodup (distinct : (xs.map key).Nodup) : firstOfEach key xs = xs := by
  induction xs with
  | nil => rfl
  | cons x xs ih =>
    obtain ⟨fresh, distinct⟩ := List.nodup_cons.1 distinct
    have others : xs.filter (key · != key x) = xs := List.filter_eq_self.2 fun y member =>
      bne_iff_ne.2 fun same => fresh (same ▸ List.mem_map_of_mem member)
    rw [firstOfEach_cons, others, ih distinct]

/-- The first elements are the same in whatever form the elements are shown. -/
theorem firstOfEach_map (show' : β → α) (xs : List β) :
    firstOfEach key (xs.map show') = (firstOfEach (key ∘ show') xs).map show' := by
  induction xs using keyInduction (key ∘ show') with
  | nil => rfl
  | cons x xs ih =>
    rw [List.map_cons, firstOfEach_cons, List.filter_map, firstOfEach_cons, List.map_cons, ← ih]
    rfl

/-! ## Collecting entries -/

variable (change : β → α → α) (start : β → α) {rowKey : β → κ}

/-- The entry in front takes the rows of its key, and leaves the others to the entries behind. -/
theorem foldl_updateOrAppend_cons (keeps : ∀ row x, key (change row x) = key x) (x : α)
    (xs : List α) (rows : List β) :
    rows.foldl (fun done row => updateOrAppend key (rowKey row) (change row) (start row) done)
        (x :: xs) =
      (rows.filter (rowKey · == key x)).foldl (fun x row => change row x) x ::
        (rows.filter (rowKey · != key x)).foldl (fun done row =>
          updateOrAppend key (rowKey row) (change row) (start row) done) xs := by
  induction rows generalizing x xs with
  | nil => rfl
  | cons row rows ih =>
    rw [List.foldl_cons]
    by_cases own : rowKey row = key x
    · rw [updateOrAppend_cons_of_eq own.symm, ih, keeps, List.filter_cons_of_pos (by simp [own]),
        List.filter_cons_of_neg (by simp [own]), List.foldl_cons]
    · rw [updateOrAppend_cons_of_ne (Ne.symm own), ih, List.filter_cons_of_neg (by simp [own]),
        List.filter_cons_of_pos (by simp [own]), List.foldl_cons]

/-- Rows that start or change the entry of their key make one entry of every key. -/
theorem foldl_updateOrAppend_eq (atKey : ∀ row, key (start row) = rowKey row)
    (keeps : ∀ row x, key (change row x) = key x) (rows : List β) :
    rows.foldl (fun done row => updateOrAppend key (rowKey row) (change row) (start row) done) [] =
      entriesBy rowKey (fun row rest => rest.foldl (fun x row => change row x) (start row))
        rows := by
  induction rows using keyInduction rowKey with
  | nil => rfl
  | cons row rows ih =>
    rw [List.foldl_cons, updateOrAppend, foldl_updateOrAppend_cons change start keeps, atKey, ih,
      entriesBy_cons]

/-- Elements that are added unless their key is there are the first of every key. -/
theorem foldl_updateOrAppend_self (key : α → κ) (xs : List α) :
    xs.foldl (fun done x => updateOrAppend key (key x) (fun x => x) x done) [] =
      firstOfEach key xs := by
  have collected : xs.foldl (fun done x => updateOrAppend key (key x) (fun x => x) x done) [] =
      entriesBy key (fun x rest => rest.foldl (fun x _ => x) x) xs :=
    foldl_updateOrAppend_eq (fun _ x => x) (fun x => x) (fun _ => rfl) (fun _ _ => rfl) xs
  have first : (fun (x : α) (rest : List α) => rest.foldl (fun x _ => x) x) =
      fun x _ => x := by
    funext x rest
    exact List.foldl_fixed rest
  rw [collected, first, firstOfEach]

/-! ## Rows that may be faulty -/

variable {ε : Type} {faulty : β → ε → Prop} {step : List α → β → Except ε (List α)}

/-- A step that fails on a faulty row, whatever was collected before, and otherwise starts or
changes the entry of the row's key. -/
structure Collects (key : α → κ) (rowKey : β → κ) (faulty : β → ε → Prop) (change : β → α → α)
    (start : β → α) (step : List α → β → Except ε (List α)) : Prop where
  fails : ∀ {row fault}, faulty row fault → ∀ done, step done row = .error fault
  adds : ∀ {row}, (∀ fault, ¬ faulty row fault) → ∀ done,
    step done row = .ok (updateOrAppend key (rowKey row) (change row) (start row) done)
  atKey : ∀ row, key (start row) = rowKey row
  keeps : ∀ row x, key (change row x) = key x

namespace Collects

variable {change start} (collects : Collects key rowKey faulty change start step)
include collects

omit [LawfulBEq κ] in
theorem step_eq_error_iff (done : List α) (row : β) (fault : ε) :
    step done row = .error fault ↔ faulty row fault := by
  refine ⟨fun failed => ?_, fun isFaulty => collects.fails isFaulty done⟩
  by_cases sound : ∀ fault, ¬ faulty row fault
  · rw [collects.adds sound] at failed
    cases failed
  · obtain ⟨other, isFaulty⟩ := not_forall_not.1 sound
    rw [collects.fails isFaulty] at failed
    cases failed
    exact isFaulty

omit [LawfulBEq κ] in
theorem eq_error_iff (rows : List β) (fault : ε) :
    rows.foldlM step [] = .error fault ↔ FirstFault faulty rows fault :=
  foldlM_eq_error_iff collects.step_eq_error_iff []

omit [LawfulBEq κ] in
theorem exists_error_iff (rows : List β) :
    (∃ fault, rows.foldlM step [] = .error fault) ↔ ∃ row ∈ rows, ∃ fault, faulty row fault := by
  rw [← exists_firstFault_iff]
  exact exists_congr (collects.eq_error_iff rows)

theorem eq_ok {rows : List β} (sound : ∀ row ∈ rows, ∀ fault, ¬ faulty row fault) :
    rows.foldlM step [] = .ok
      (entriesBy rowKey (fun row rest => rest.foldl (fun x row => change row x) (start row))
        rows) := by
  rw [foldlM_eq_ok (fun done row member => collects.adds (sound row member) done) [],
    foldl_updateOrAppend_eq change start collects.atKey collects.keeps]

/-- The entry of a key is the same wherever the rows of that key are. -/
theorem find?_eq {rows others : List β} {xs ys : List α} (collected : rows.foldlM step [] = .ok xs)
    (collected' : others.foldlM step [] = .ok ys)
    (same : rows.filter (rowKey · == k) = others.filter (rowKey · == k)) :
    xs.find? (key · == k) = ys.find? (key · == k) := by
  have entryKey : ∀ row rest,
      key (List.foldl (fun x row => change row x) (start row) rest) = rowKey row :=
    fun row rest => List.foldlRecOn rest (fun x row => change row x) (collects.atKey row)
      fun x atKey row _ => (collects.keeps row x).trans atKey
  have found : ∀ {rows : List β} {xs : List α}, rows.foldlM step [] = .ok xs →
      xs.find? (key · == k) = (entriesBy rowKey (fun row rest =>
        rest.foldl (fun x row => change row x) (start row))
          (rows.filter (rowKey · == k))).head? := by
    intro rows xs collected
    have sound := sound_of_eq_ok collected fun fault => (collects.eq_error_iff rows fault).2
    rw [collects.eq_ok sound] at collected
    obtain rfl := Except.ok.inj collected
    exact find?_entriesBy entryKey k rows
  rw [found collected, found collected', same]

end Collects

end Entries

end PartsCatalog
