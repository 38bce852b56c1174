import PartsCatalog.Inventory.Action

/-!
# Laws of actions

How the run of an action is taken apart.  A successful run of a sequence is a successful run of each
part (`run_bind_eq_ok` and the lemmas beside it).  For a run that ends in a fault the questions are
which fault it is and what it left behind (`FailsWith`).  `AtomicAt` says that it left nothing, and
an action is atomic if it only looks things up until nothing can fail any more
(`atomicAt_consult_bind`, `atomicAt_of_ok`).
-/

namespace PartsCatalog.Action

variable {α β : Type} {inv inv' : Inventory} {look : Inventory → Except Fault α}
  {act : Action α} {next : α → Action β} {a : α} {b : β}

/-! ## Successful runs -/

theorem run_bind_eq_ok :
    (act >>= next).run inv = .ok b inv' ↔
      ∃ a between, act.run inv = .ok a between ∧ (next a).run between = .ok b inv' := by
  rw [EStateM.run_bind]
  constructor
  · intro ended
    cases first : act.run inv with
    | ok a between =>
      rw [first] at ended
      exact ⟨a, between, rfl, ended⟩
    | error fault between =>
      rw [first] at ended
      cases ended
  · rintro ⟨a, between, first, ended⟩
    rw [first]
    exact ended

theorem run_pure_eq_ok {a' : α} :
    (pure a : Action α).run inv = .ok a' inv' ↔ a = a' ∧ inv = inv' := by
  rw [EStateM.run_pure, EStateM.Result.ok.injEq]

theorem run_map_eq_ok {f : α → β} :
    (f <$> act).run inv = .ok b inv' ↔ ∃ a, act.run inv = .ok a inv' ∧ f a = b := by
  have asBind : f <$> act = act >>= fun a => pure (f a) := map_eq_pure_bind f act
  rw [asBind, run_bind_eq_ok]
  simp

theorem run_modify_eq_ok {change : Inventory → Inventory} {done : PUnit} :
    (modify change : Action PUnit).run inv = .ok done inv' ↔ change inv = inv' := by
  rw [EStateM.run_modify, EStateM.Result.ok.injEq]
  simp

theorem run_get_eq_ok {seen : Inventory} :
    (get : Action Inventory).run inv = .ok seen inv' ↔ inv = seen ∧ inv = inv' := by
  rw [EStateM.run_get, EStateM.Result.ok.injEq]

theorem run_consult : (consult look).run inv =
    match look inv with
    | .ok a => .ok a inv
    | .error fault => .error fault inv := by
  rw [consult, EStateM.run_bind, EStateM.run_get]
  dsimp only
  cases look inv with
  | ok a => rfl
  | error fault => rfl

theorem run_consult_eq_ok : (consult look).run inv = .ok a inv' ↔ look inv = .ok a ∧ inv = inv' := by
  rw [run_consult]
  cases look inv <;> simp

theorem run_takeId_eq_ok {id : EntityId} :
    takeId.run inv = .ok id inv' ↔ inv.nextId = id ∧ inv.advance = inv' := by
  rw [show takeId.run inv = .ok inv.nextId inv.advance from rfl, EStateM.Result.ok.injEq]

theorem run_forM_cons {γ : Type} {body : γ → Action PUnit} (x : γ) (xs : List γ) :
    (List.forM (x :: xs) body).run inv = (body x >>= fun _ => xs.forM body).run inv := rfl

/-! ## Runs that end in a fault -/

/-- What holds of the fault and of the inventory left, if an action ends in a fault here. -/
def FailsWith (post : Fault → Inventory → Prop) (act : Action α) (inv : Inventory) : Prop :=
  ∀ fault inv', act.run inv = .error fault inv' → post fault inv'

variable {post : Fault → Inventory → Prop}

/-- A look-up fails with its own fault and changes nothing; what comes after it sees its answer. -/
theorem failsWith_consult_bind (missed : ∀ fault, look inv = .error fault → post fault inv)
    (later : ∀ a, look inv = .ok a → FailsWith post (next a) inv) :
    FailsWith post (consult look >>= next) inv := by
  intro fault inv' failed
  rw [EStateM.run_bind, run_consult] at failed
  cases seen : look inv with
  | ok a =>
    rw [seen] at failed
    exact later a seen _ _ failed
  | error fault =>
    rw [seen] at failed
    cases failed
    exact missed _ seen

/-- What succeeds ends in no fault. -/
theorem failsWith_of_ok (ended : act.run inv = .ok a inv') : FailsWith post act inv := by
  intro fault after failed
  rw [ended] at failed
  cases failed

theorem FailsWith.map {f : α → β} (fails : FailsWith post act inv) :
    FailsWith post (f <$> act) inv := by
  intro fault inv' failed
  have asBind : f <$> act = act >>= fun a => pure (f a) := map_eq_pure_bind f act
  rw [asBind, EStateM.run_bind] at failed
  cases ended : act.run inv with
  | ok a between =>
    rw [ended] at failed
    cases failed
  | error fault between =>
    rw [ended] at failed
    cases failed
    exact fails _ _ ended

/-! ### Leaving nothing -/

/-- An action that leaves this inventory as it is if it ends in a fault. -/
def AtomicAt (act : Action α) (inv : Inventory) : Prop :=
  ∀ fault inv', act.run inv = .error fault inv' → inv' = inv

/-- Looking something up may come before what is atomic where it is found. -/
theorem atomicAt_consult_bind (atomic : ∀ a, look inv = .ok a → AtomicAt (next a) inv) :
    AtomicAt (consult look >>= next) inv :=
  failsWith_consult_bind (fun _ _ => rfl) atomic

theorem atomicAt_of_ok (ended : act.run inv = .ok a inv') : AtomicAt act inv :=
  failsWith_of_ok ended

theorem AtomicAt.map {f : α → β} (atomic : AtomicAt act inv) : AtomicAt (f <$> act) inv :=
  FailsWith.map atomic

end PartsCatalog.Action
