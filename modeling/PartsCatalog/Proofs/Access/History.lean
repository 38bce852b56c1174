import PartsCatalog.Access.Event
import PartsCatalog.Proofs.Access.Sessions
import PartsCatalog.Proofs.Since

/-!
# Histories of access

The answers that were given during a run, and what they say about a token: a login gave it out, and
its session was ended, by being logged out or by being found to have expired.  The instants of the
events need not come in order.

The map of sessions does not come into it, so this is how access looks to somebody who only sees the
answers.  Which tokens admit can be told from there if no two logins gave out the same one
(`TokensDiffer`): then a session that was ended is never open again (`not_open_of_ended`).
-/

namespace PartsCatalog.Access

/-! ## Records -/

/-- An event and what it answered. -/
structure Record where
  event : Event
  answer : Except Fault Answer

/-- The record of an event. -/
def record (a : Access) (event : Event) : Record := ⟨event, (a.step event).2⟩

/-- The records of a run. -/
def history (a : Access) : List Event → List Record
  | [] => []
  | event :: events => a.record event :: history (a.step event).1 events

/-- An event ends a session of a token that expires at an instant: the token is logged out, or is
shown or swept when it has expired. -/
def Event.Ends (token : SessionToken) (expiry : Instant) : Event → Prop
  | login .. => False
  | authorize shown now => shown = token ∧ ¬ now.before expiry
  | logout shown => shown = token
  | purge now => ¬ now.before expiry

namespace Record

/-- The token that a login gave out, and when. -/
def issued? : Record → Option (SessionToken × Instant)
  | ⟨.login _ now _, .ok (.loggedIn (.session token))⟩ => some (token, now)
  | _ => none

/-- A record is about a token: it gave the token out, the token was shown or logged out, or all
tokens were swept. -/
def Concerns (token : SessionToken) (r : Record) : Prop :=
  match r.event with
  | .login .. => ∃ start, r.issued? = some (token, start)
  | .authorize shown _ => shown = token
  | .logout shown => shown = token
  | .purge _ => True

/-- A record leaves a session as it is: it does not end it, nor does it give the token out anew. -/
def Keeps (token : SessionToken) (expiry : Instant) (r : Record) : Prop :=
  ¬ r.event.Ends token expiry ∧ ∀ start, r.issued? ≠ some (token, start)

end Record

/-- No two logins gave out the same token. -/
def TokensDiffer (log : List Record) : Prop := ((log.filterMap Record.issued?).map Prod.fst).Nodup

/-- A login gave the token out at the start, and all records since have a property. -/
def OpenSince (kept : Record → Prop) (log : List Record) (token : SessionToken) (start : Instant) :
    Prop :=
  ∃ before opening after, log = before ++ opening :: after ∧
    opening.issued? = some (token, start) ∧ ∀ later ∈ after, kept later

/-- A login gave the token out at the start, and nothing has ended its session since. -/
def Open (lifetime : Duration) (log : List Record) (token : SessionToken) (start : Instant) :
    Prop :=
  OpenSince (fun later => ¬ later.event.Ends token (start.plus lifetime)) log token start

variable {lifetime : Duration} {token : SessionToken} {start : Instant} {r opening : Record}
  {log before after : List Record}

theorem run_append (a : Access) (before after : List Event) :
    a.run (before ++ after) = (a.run before).run after := List.foldl_append

theorem history_append (a : Access) (before after : List Event) :
    a.history (before ++ after) = a.history before ++ (a.run before).history after := by
  induction before generalizing a with
  | nil => rfl
  | cons event before ih =>
    rw [List.cons_append, history, ih]
    rfl

theorem openSince_concat {kept : Record → Prop} :
    OpenSince kept (log ++ [r]) token start ↔
      r.issued? = some (token, start) ∨ OpenSince kept log token start ∧ kept r := since_concat

/-! ## Tokens that differ -/

namespace TokensDiffer

/-- A token that was given out at one place of a history is given out at no other. -/
theorem not_issued (differ : TokensDiffer (before ++ opening :: after))
    (issued : opening.issued? = some (token, start)) (r : Record) (elsewhere : r ∈ before ++ after)
    (again : Instant) : r.issued? ≠ some (token, again) := by
  intro reissued
  have rearranged : TokensDiffer (opening :: (before ++ after)) :=
    (List.perm_middle.filterMap _ |>.map _).nodup_iff.1 differ
  rw [TokensDiffer, List.filterMap_cons_some issued, List.map_cons, List.nodup_cons] at rearranged
  have listed : (token, again) ∈ (before ++ after).filterMap Record.issued? :=
    List.mem_filterMap.2 ⟨r, elsewhere, reissued⟩
  exact rearranged.1 (List.mem_map.2 ⟨_, listed, rfl⟩)

theorem same_opening {before' after' : List Record} {opening' : Record} {start' : Instant}
    (differ : TokensDiffer (before ++ opening :: after))
    (issued : opening.issued? = some (token, start))
    (split : before ++ opening :: after = before' ++ opening' :: after')
    (issued' : opening'.issued? = some (token, start')) : start' = start ∧ after' = after := by
  have elsewhere : opening' ∉ before ++ after := fun member =>
    differ.not_issued issued opening' member start' issued'
  rw [List.mem_append, not_or] at elsewhere
  obtain ⟨-, rfl, rfl⟩ := (List.append_cons_inj_of_notMem elsewhere.1 elsewhere.2).1 split
  cases issued.symm.trans issued'
  exact ⟨rfl, rfl⟩

/-- The session of a token that differs from all others is kept by what does not end it. -/
theorem open_iff (differ : TokensDiffer log) :
    Open lifetime log token start ↔
      OpenSince (Record.Keeps token (start.plus lifetime)) log token start := by
  constructor
  · rintro ⟨before, opening, after, rfl, issued, stays⟩
    refine ⟨before, opening, after, rfl, issued, fun later member => ⟨stays later member, ?_⟩⟩
    exact differ.not_issued issued later (List.mem_append_right _ member)
  · rintro ⟨before, opening, after, rfl, issued, stays⟩
    exact ⟨before, opening, after, rfl, issued, fun later member => (stays later member).1⟩

/-- Once a session has ended, its token is never open again. -/
theorem not_open_of_ended (differ : TokensDiffer (before ++ r :: after))
    (opened : Open lifetime before token start) (ended : r.event.Ends token (start.plus lifetime))
    (again : Instant) : ¬ Open lifetime (before ++ r :: after) token again := by
  obtain ⟨earlier, opening, middle, rfl, issued, -⟩ := opened
  rintro ⟨earlier', opening', later, split, issued', stays⟩
  rw [List.append_assoc, List.cons_append] at split differ
  obtain ⟨rfl, rfl⟩ := differ.same_opening issued split issued'
  exact stays r (by simp) ended

end TokensDiffer

end PartsCatalog.Access
