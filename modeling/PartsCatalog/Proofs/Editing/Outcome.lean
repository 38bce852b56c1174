import PartsCatalog.Editing

/-!
# What an edit leaves

An edit that can fail writes its subject step by step, so it could end in a fault halfway.  Where it
does all of what a function of its subject says or nothing (`Editing.Performs`), its result and what
it leaves are told by that function.
-/

namespace PartsCatalog.Editing

variable {σ α : Type} {act : Editing σ α} {change : σ → Except Fault σ} {answer : α}
  {subject after : σ} {fault : Fault}

/-- The edit makes of its subject what `change` says, or fails with its fault and leaves the subject
as it was. -/
def Performs (act : Editing σ α) (change : σ → Except Fault σ) (answer : α) (subject : σ) : Prop :=
  act.run subject =
    match change subject with
    | .ok after => .ok answer after
    | .error fault => .error fault subject

namespace Performs

theorem of_ok (performs : Performs act change answer subject)
    (changed : change subject = .ok after) :
    act.result subject = .ok (after, answer) ∧ act.left subject = after := by
  rw [Performs, changed] at performs
  rw [result, left, performs]
  exact ⟨rfl, rfl⟩

theorem of_error (performs : Performs act change answer subject)
    (failed : change subject = .error fault) :
    act.result subject = .error fault ∧ act.left subject = subject := by
  rw [Performs, failed] at performs
  rw [result, left, performs]
  exact ⟨rfl, rfl⟩

end Performs

end PartsCatalog.Editing
