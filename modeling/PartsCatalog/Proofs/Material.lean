import PartsCatalog.Inventory.Basic
import PartsCatalog.Proofs.FieldCheck

/-!
# Laws of materials

What the operations on a material and on its names do to what it shows.
-/

namespace PartsCatalog

/-! ## Names -/

namespace Material

variable {m named : Material} {primaryName : String} {names : List String} {fault : Fault}

@[simp] theorem id_addName (name : String) : (m.addName name).id = m.id := by
  unfold addName
  split <;> rfl

@[simp] theorem id_markPrimary (name : String) : (m.markPrimary name).id = m.id := id_addName name

/-- Marking a name changes nothing but the names, and depends on nothing else. -/
theorem markPrimary_eq (name : String) :
    m.markPrimary name =
      { m with
        names := if m.lacksName name then m.names ++ [name] else m.names
        primaryName := name } := by
  unfold markPrimary addName
  split <;> rfl

/-- The names that replace others are proper, so there is at least one. -/
theorem setNames_eq_ok (ended : m.setNames primaryName names = .ok named) :
    FieldCheck.names (collectNames primaryName names) = .ok () ∧
      named = { m with names := collectNames primaryName names, primaryName } := by
  obtain ⟨_, proper, done⟩ := bind_eq_ok.1 ended
  exact ⟨proper, (pure_eq_ok.1 done).symm⟩

/-- Names are replaced where they pass the check, whatever material they are of. -/
theorem setNames_of_passed
    (passed : FieldCheck.names (collectNames primaryName names) = .ok ()) :
    m.setNames primaryName names =
      .ok { m with names := collectNames primaryName names, primaryName } := by
  rw [setNames, passed]
  rfl

theorem setNames_eq_error_iff :
    m.setNames primaryName names = .error fault ↔
      FieldCheck.names (collectNames primaryName names) = .error fault := by
  cases checked : FieldCheck.names (collectNames primaryName names) with
  | ok => simp [setNames_of_passed checked]
  | error => simp [setNames, checked, Bind.bind, Except.bind]

theorem names_ne_nil_of_setNames (ended : m.setNames primaryName names = .ok named) :
    named.names ≠ [] := by
  obtain ⟨proper, rfl⟩ := setNames_eq_ok ended
  exact FieldCheck.ne_nil_of_names proper

end Material

namespace MarkedName

variable {primaryName : String} {names : List String}

theorem mark_ne_nil (present : names ≠ []) : mark primaryName names ≠ [] := by
  simpa [mark] using present

theorem oneMarked_mark : ∀ a ∈ mark primaryName names, ∀ b ∈ mark primaryName names,
    a.isPrimary → b.isPrimary → a.name = b.name := by
  have isPrimaryName : ∀ row ∈ mark primaryName names, row.isPrimary → row.name = primaryName := by
    intro row member marked
    obtain ⟨name, -, rfl⟩ := List.mem_map.1 member
    simpa using marked
  intro a memberA b memberB markedA markedB
  rw [isPrimaryName a memberA markedA, isPrimaryName b memberB markedB]

end MarkedName

end PartsCatalog
