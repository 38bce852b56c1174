/-!
# Since

That something happened, and everything after it had a property: `Since starts stays log`.  What was
added and not removed since, what was chosen last and what was opened and not ended since are all
told from a log in this way.  A log grows at its end (`since_concat`); what comes after its first
entry is a log as well (`since_cons`).
-/

namespace PartsCatalog

variable {α : Type} {starts stays : α → Prop} {log : List α} {x : α}

/-- Something in a log starts, and everything after it stays. -/
def Since (starts stays : α → Prop) (log : List α) : Prop :=
  ∃ before x after, log = before ++ x :: after ∧ starts x ∧ ∀ later ∈ after, stays later

theorem not_since_nil : ¬ Since starts stays [] := by
  rintro ⟨before, x, after, split, -⟩
  exact List.append_ne_nil_of_right_ne_nil before (List.cons_ne_nil x after) split.symm

theorem since_cons :
    Since starts stays (x :: log) ↔
      Since starts stays log ∨ starts x ∧ ∀ later ∈ log, stays later := by
  constructor
  · rintro ⟨before, start, after, split, started, stay⟩
    rcases List.cons_eq_append_iff.1 split with ⟨rfl, same⟩ | ⟨rest, rfl, rfl⟩
    · cases same
      exact .inr ⟨started, stay⟩
    · exact .inl ⟨rest, start, after, rfl, started, stay⟩
  · rintro (⟨before, start, after, rfl, started, stay⟩ | ⟨started, stay⟩)
    · exact ⟨x :: before, start, after, rfl, started, stay⟩
    · exact ⟨[], x, log, rfl, started, stay⟩

theorem since_concat :
    Since starts stays (log ++ [x]) ↔ starts x ∨ Since starts stays log ∧ stays x := by
  constructor
  · rintro ⟨before, start, after, split, started, stay⟩
    rcases List.eq_nil_or_concat after with rfl | ⟨middle, last, rfl⟩
    · obtain ⟨-, same⟩ := List.append_inj' split rfl
      cases same
      exact .inl started
    · rw [List.concat_eq_append, ← List.cons_append, ← List.append_assoc] at split
      obtain ⟨rfl, same⟩ := List.append_inj' split rfl
      cases same
      refine .inr ⟨⟨before, start, middle, rfl, started, fun later member => ?_⟩, ?_⟩
      · exact stay later (by simp [member])
      · exact stay x (by simp)
  · rintro (started | ⟨⟨before, start, after, rfl, started, stay⟩, last⟩)
    · exact ⟨log, x, [], rfl, started, by simp⟩
    · refine ⟨before, start, after ++ [x], by simp, started, ?_⟩
      simpa [or_imp, forall_and] using ⟨stay, last⟩

end PartsCatalog
