import PartsCatalog.Access.Sessions
import PartsCatalog.Proofs.Keyed

/-!
# Laws of sessions

What giving out, revoking, looking up and sweeping tokens do to the expiry of any one token.
Looking a token up forgets it if it has expired, and sweeping does the same to all tokens at once;
for the latter it counts that every token stands once (`Sessions.Distinct`).
-/

namespace PartsCatalog

/-- The instant a span after another, whether or not it can be represented. -/
def Instant.plus (start : Instant) (span : Duration) : Instant :=
  ⟨start.nanoseconds + span.nanoseconds⟩

theorem Instant.eq_plus_of_after? {start sum : Instant} {span : Duration}
    (inRange : start.after? span = some sum) : sum = start.plus span := by
  simp only [after?] at inRange
  split at inRange
  · exact (Option.some.inj inRange).symm
  · cases inRange

namespace Sessions

variable {s s' : Sessions} {token other : SessionToken} {now : Instant}

/-- Every token stands once. -/
def Distinct (s : Sessions) : Prop := (s.entries.map Session.token).Nodup

theorem distinct_of_isEmpty (empty : s.isEmpty) : s.Distinct := by
  rw [Distinct, List.isEmpty_iff.1 empty]
  exact List.nodup_nil

theorem expiry?_of_isEmpty (empty : s.isEmpty) : s.expiry? token = none := by
  rw [expiry?, List.isEmpty_iff.1 empty]
  rfl

/-! ## Giving out -/

theorem issue_eq_ok (issued : s.issue token now = .ok s') :
    now.after? s.lifetime = some (now.plus s.lifetime) ∧
      s' = { s with
        entries := updateOrAppend Session.token token
          (fun _ => { token, expiry := now.plus s.lifetime })
          { token, expiry := now.plus s.lifetime } s.entries } := by
  unfold issue at issued
  split at issued
  · cases issued
  · rename_i expiry inRange
    obtain rfl := Instant.eq_plus_of_after? inRange
    exact ⟨inRange, (Except.ok.inj issued).symm⟩

theorem exists_issue (inRange : (now.after? s.lifetime).isSome) (token : SessionToken) :
    ∃ s', s.issue token now = .ok s' := by
  obtain ⟨expiry, inRange⟩ := Option.isSome_iff_exists.1 inRange
  unfold issue
  rw [inRange]
  exact ⟨_, rfl⟩

theorem Distinct.issue (distinct : s.Distinct) (issued : s.issue token now = .ok s') :
    s'.Distinct := by
  obtain ⟨-, rfl⟩ := issue_eq_ok issued
  exact nodup_map_key_updateOrAppend distinct rfl fun _ _ => rfl

theorem expiry?_issue (issued : s.issue token now = .ok s') :
    s'.expiry? other = if other = token then some (now.plus s.lifetime) else s.expiry? other := by
  obtain ⟨-, rfl⟩ := issue_eq_ok issued
  simp only [expiry?, find?_updateOrAppend_const, beq_iff_eq]
  split <;> rfl

/-! ## Forgetting -/

theorem Distinct.filter (distinct : s.Distinct) (keep : Session → Bool) :
    Distinct { s with entries := s.entries.filter keep } :=
  distinct.sublist (List.filter_sublist.map _)

theorem expiry?_revoke :
    (s.revoke token).expiry? other = if other = token then none else s.expiry? other := by
  rw [expiry?, revoke]
  split
  · rename_i same
    rw [same, find?_filter_key_self, Option.map_none]
  · rename_i differ
    rw [find?_filter_key_ne differ, expiry?]

theorem expiry?_lookedUp :
    (s.lookedUp token now).expiry? other =
      if other = token then (s.expiry? other).filter now.before else s.expiry? other := by
  unfold lookedUp isValid
  by_cases same : other = token
  · subst same
    cases found : s.expiry? other with
    | none =>
      rw [Option.any_none, if_neg Bool.false_ne_true, expiry?_revoke, if_pos rfl, if_pos rfl,
        Option.filter_none]
    | some expiry =>
      cases valid : now.before expiry with
      | true => simp [valid, found, Option.filter]
      | false => simp [valid, expiry?_revoke, Option.filter]
  · rw [if_neg same]
    split
    · rfl
    · rw [expiry?_revoke, if_neg same]

/-- With every token standing once, the entry that is found is kept or dropped as its own expiry
says. -/
theorem expiry?_purge (distinct : s.Distinct) :
    (s.purge now).expiry? token = (s.expiry? token).filter now.before := by
  have held {s : Sessions} (distinct : s.Distinct) (expiry : Instant) :
      s.expiry? token = some expiry ↔ { token, expiry } ∈ s.entries := by
    rw [expiry?, Option.map_eq_some_iff]
    simp only [find?_key_eq_some_iff distinct]
    constructor
    · rintro ⟨session, ⟨member, rfl⟩, rfl⟩
      exact member
    · intro member
      exact ⟨_, ⟨member, rfl⟩, rfl⟩
  apply Option.ext
  intro expiry
  rw [purge, held (distinct.filter _), Option.filter_eq_some_iff, held distinct, List.mem_filter]

end Sessions

end PartsCatalog
