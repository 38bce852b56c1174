import Mathlib.Data.List.Induction
import PartsCatalog.Proofs.Access.History
import PartsCatalog.Proofs.Attempt
import PartsCatalog.Proofs.Password.Verification

/-!
# Admission

Which tokens admit after a run: exactly those whose session is open and has not expired
(`admits_exactly_while_open`).

Seen from a single token, an event only changes the expiry that is remembered for it (`Event.bear`),
so a run is a fold over the events (`expiry?_run`); and a token has an expiry after a run exactly if
a login gave it out and all later records keep it (`expiry?_history`).
-/

namespace PartsCatalog.Access

variable {a : Access} {hash : Password.HashString} {lifetime : Duration} {token : SessionToken}
  {expiry start now : Instant}

/-! ## What an event does to a token -/

/-- The expiry of a token after an event, told from its expiry before. -/
def Event.bear (hash : Password.HashString) (lifetime : Duration) (token : SessionToken)
    (expiry? : Option Instant) : Event → Option Instant
  | login password now given =>
    if accepts hash password ∧ (now.after? lifetime).isSome ∧ given = token then
      some (now.plus lifetime)
    else expiry?
  | authorize shown now => if shown = token then expiry?.filter now.before else expiry?
  | logout shown => if shown = token then none else expiry?
  | purge now => expiry?.filter now.before

/-- Access with a password and a lifetime, in whose sessions every token stands once. -/
structure Guarded (a : Access) (hash : Password.HashString) (lifetime : Duration) : Prop where
  password : a.password = some hash
  lifetime : a.sessions.lifetime = lifetime
  distinct : a.sessions.Distinct

namespace Guarded

theorem isPublic (guarded : a.Guarded hash lifetime) : a.isPublic = false := by
  rw [Access.isPublic, guarded.password]
  rfl

/-- A login gives its token out, or it fails for one of its reasons and changes nothing. -/
theorem login_cases (guarded : a.Guarded hash lifetime) (password : String) (now : Instant)
    (token : SessionToken) :
    (accepts hash password ∧ now.after? lifetime = some (now.plus lifetime) ∧
      ∃ sessions, a.sessions.issue token now = .ok sessions ∧
        a.step (.login password now token) =
          ({ a with sessions }, .ok (.loggedIn (.session token)))) ∨
    ((accepts hash password = false ∨ now.after? lifetime = none) ∧
      ∃ fault, a.step (.login password now token) = (a, .error fault)) := by
  have handled : a.login password now token =
      if accepts hash password then
        (a.sessions.issue token now).map fun sessions => ({ a with sessions }, .session token)
      else .error .wrongPassword := by
    simp only [login, guarded.password]
  cases accepted : accepts hash password with
  | false =>
    refine .inr ⟨.inl rfl, .wrongPassword, ?_⟩
    simp [step, handle, handled, accepted]
  | true =>
    rw [accepted, if_pos rfl] at handled
    cases issued : a.sessions.issue token now with
    | ok sessions =>
      refine .inl ⟨rfl, ?_, sessions, rfl, ?_⟩
      · rw [← guarded.lifetime]
        exact (Sessions.issue_eq_ok issued).1
      · simp [step, handle, handled, issued, Except.map]
    | error fault =>
      refine .inr ⟨.inr ?_, fault, ?_⟩
      · rw [← guarded.lifetime, ← Option.not_isSome_iff_eq_none]
        intro inRange
        obtain ⟨sessions, succeeded⟩ := Sessions.exists_issue inRange token
        cases issued.symm.trans succeeded
      · simp [step, handle, handled, issued, Except.map]

/-- A login fails for an empty password, a wrong one, or an expiry out of range. -/
theorem login_fails_iff (guarded : a.Guarded hash lifetime) (password : String) (now : Instant)
    (token : SessionToken) :
    (∃ fault, (a.step (.login password now token)).2 = .error fault) ↔
      password = "" ∨ hash.verifies password = false ∨ now.after? lifetime = none := by
  have refused : accepts hash password = false ↔
      password = "" ∨ hash.verifies password = false := by
    rw [accepts, Bool.and_eq_false_iff, Bool.not_eq_false', String.isEmpty_iff]
  rw [← or_assoc, ← refused]
  rcases guarded.login_cases password now token with
    ⟨accepted, inRange, sessions, -, stepped⟩ | ⟨reason, fault, stepped⟩
  · simp [stepped, accepted, inRange]
  · exact iff_of_true ⟨fault, by rw [stepped]⟩ reason

theorem step_authorize (guarded : a.Guarded hash lifetime) (shown : SessionToken) (now : Instant) :
    (a.step (.authorize shown now)).1 =
      { a with sessions := a.sessions.lookedUp shown now } := by
  simp [step, handle, authorize, Access.shown, guarded.isPublic]

protected theorem step (guarded : a.Guarded hash lifetime) (event : Event) :
    (a.step event).1.Guarded hash lifetime := by
  cases event with
  | login password now given =>
    rcases guarded.login_cases password now given with
      ⟨-, -, sessions, issued, stepped⟩ | ⟨-, fault, stepped⟩
    · rw [stepped]
      refine ⟨guarded.password, ?_, guarded.distinct.issue issued⟩
      rw [(Sessions.issue_eq_ok issued).2]
      exact guarded.lifetime
    · rw [stepped]
      exact guarded
  | authorize shown now =>
    rw [guarded.step_authorize, Sessions.lookedUp]
    split
    · exact guarded
    · exact ⟨guarded.password, guarded.lifetime, guarded.distinct.filter _⟩
  | logout shown => exact ⟨guarded.password, guarded.lifetime, guarded.distinct.filter _⟩
  | purge now => exact ⟨guarded.password, guarded.lifetime, guarded.distinct.filter _⟩

protected theorem run (guarded : a.Guarded hash lifetime) (events : List Event) :
    (a.run events).Guarded hash lifetime := by
  induction events generalizing a with
  | nil => exact guarded
  | cons event events ih => exact ih (guarded.step event)

theorem expiry?_step (guarded : a.Guarded hash lifetime) (event : Event) :
    (a.step event).1.sessions.expiry? token =
      event.bear hash lifetime token (a.sessions.expiry? token) := by
  cases event with
  | login password now given =>
    rcases guarded.login_cases password now given with
      ⟨accepted, inRange, sessions, issued, stepped⟩ | ⟨reason, fault, stepped⟩
    · rw [stepped, Sessions.expiry?_issue issued, Event.bear, guarded.lifetime]
      simp [accepted, inRange, eq_comm]
    · rw [stepped, Event.bear, if_neg]
      rintro ⟨accepted, inRange, -⟩
      rcases reason with refused | outOfRange
      · simp [accepted] at refused
      · simp [outOfRange] at inRange
  | authorize shown now =>
    rw [guarded.step_authorize, Sessions.expiry?_lookedUp, Event.bear]
    simp only [eq_comm]
  | logout shown =>
    rw [Event.bear, ← if_congr eq_comm rfl rfl]
    exact Sessions.expiry?_revoke
  | purge now => exact Sessions.expiry?_purge guarded.distinct

/-- Seen from one token, a run is a fold over its events. -/
theorem expiry?_run (guarded : a.Guarded hash lifetime) (events : List Event) :
    (a.run events).sessions.expiry? token =
      events.foldl (Event.bear hash lifetime token) (a.sessions.expiry? token) := by
  induction events generalizing a with
  | nil => rfl
  | cons event events ih =>
    rw [List.foldl_cons, ← guarded.expiry?_step]
    exact ih (guarded.step event)

/-! ### Told by the answers -/

theorem issued?_login (guarded : a.Guarded hash lifetime) (password : String) (now : Instant)
    (given : SessionToken) :
    (a.record (.login password now given)).issued? = some (token, start) ↔
      now = start ∧ accepts hash password ∧ (now.after? lifetime).isSome ∧ given = token := by
  rcases guarded.login_cases password now given with
    ⟨accepted, inRange, sessions, -, stepped⟩ | ⟨reason, fault, stepped⟩
  · rw [record, stepped, Record.issued?]
    simp [accepted, inRange, and_comm]
  · rw [record, stepped, Record.issued?]
    · rcases reason with refused | outOfRange
      · simp [refused]
      · simp [outOfRange]
    · nofun

/-- A token has an expiry after an event if the event gave it out so, or it had it and the event
keeps it. -/
theorem expiry?_step_eq_some (guarded : a.Guarded hash lifetime) (event : Event) :
    (a.step event).1.sessions.expiry? token = some expiry ↔
      (∃ start, (a.record event).issued? = some (token, start) ∧ start.plus lifetime = expiry) ∨
      a.sessions.expiry? token = some expiry ∧ (a.record event).Keeps token expiry := by
  rw [guarded.expiry?_step]
  cases event with
  | login password now given =>
    have keeps : (a.record (.login password now given)).Keeps token expiry ↔
        ¬ (accepts hash password ∧ (now.after? lifetime).isSome ∧ given = token) := by
      constructor
      · intro kept issues
        exact kept.2 now ((guarded.issued?_login password now given).2 ⟨rfl, issues⟩)
      · intro otherwise
        refine ⟨not_false, fun start issued => otherwise ?_⟩
        exact ((guarded.issued?_login password now given).1 issued).2
    rw [keeps, Event.bear]
    simp only [guarded.issued?_login]
    by_cases issues : accepts hash password ∧ (now.after? lifetime).isSome ∧ given = token <;>
      simp [issues]
  | authorize shown now =>
    by_cases same : shown = token <;>
      simp [Event.bear, Event.Ends, Record.Keeps, record, Record.issued?, same,
        Option.filter_eq_some_iff]
  | logout shown =>
    by_cases same : shown = token <;>
      simp [Event.bear, Event.Ends, Record.Keeps, record, Record.issued?, same]
  | purge now =>
    simp [Event.bear, Event.Ends, Record.Keeps, record, Record.issued?, Option.filter_eq_some_iff]

/-- The induction is on the last event, as what opens a session comes before what keeps it. -/
theorem expiry?_history (guarded : a.Guarded hash lifetime) (fresh : a.sessions.isEmpty)
    (events : List Event) :
    (a.run events).sessions.expiry? token = some expiry ↔
      ∃ start, OpenSince (Record.Keeps token expiry) (a.history events) token start ∧
        start.plus lifetime = expiry := by
  induction events using List.reverseRecOn with
  | nil =>
    rw [run, List.foldl_nil, Sessions.expiry?_of_isEmpty fresh]
    simp [OpenSince, history]
  | append_singleton events event ih =>
    have ran : a.run (events ++ [event]) = ((a.run events).step event).1 := run_append ..
    have recorded : a.history (events ++ [event]) =
        a.history events ++ [(a.run events).record event] := history_append ..
    rw [ran, (guarded.run events).expiry?_step_eq_some, ih, recorded]
    simp only [openSince_concat, or_and_right, exists_or]
    rw [← exists_and_right]
    simp only [and_right_comm]

/-- An event that does not concern a token leaves its expiry as it is. -/
theorem bear_of_not_concerns (guarded : a.Guarded hash lifetime) {event : Event}
    (apart : ¬ (a.record event).Concerns token) (expiry? : Option Instant) :
    event.bear hash lifetime token expiry? = expiry? := by
  cases event with
  | login password now given =>
    refine if_neg fun issues => apart ⟨now, ?_⟩
    exact (guarded.issued?_login password now given).2 ⟨rfl, issues⟩
  | authorize shown now => exact if_neg apart
  | logout shown => exact if_neg apart
  | purge now => exact absurd trivial apart

theorem admits_run_of_not_concerns (guarded : a.Guarded hash lifetime) {before after : List Event}
    {event : Event} (apart : ¬ ((a.run before).record event).Concerns token) (now : Instant) :
    (a.run (before ++ event :: after)).admits token now =
      (a.run (before ++ after)).admits token now := by
  have admits (events : List Event) : (a.run events).admits token now =
      (events.foldl (Event.bear hash lifetime token) (a.sessions.expiry? token)).any
        now.before := by
    rw [Access.admits, (guarded.run events).isPublic, Bool.false_or, Sessions.isValid,
      guarded.expiry?_run]
  rw [admits, admits, List.foldl_append, List.foldl_append, List.foldl_cons,
    (guarded.run before).bear_of_not_concerns apart]

theorem admits_run_iff (guarded : a.Guarded hash lifetime) (fresh : a.sessions.isEmpty)
    {events : List Event} (differ : TokensDiffer (a.history events)) (token : SessionToken)
    (now : Instant) :
    (a.run events).admits token now ↔
      ∃ start, Open lifetime (a.history events) token start ∧ now.before (start.plus lifetime) := by
  rw [admits, (guarded.run events).isPublic, Bool.false_or, Sessions.isValid, Option.any_eq_true]
  simp only [guarded.expiry?_history fresh, differ.open_iff]
  constructor
  · rintro ⟨_, ⟨start, opened, rfl⟩, inTime⟩
    exact ⟨start, opened, inTime⟩
  · rintro ⟨start, opened, inTime⟩
    exact ⟨_, ⟨start, opened, rfl⟩, inTime⟩

end Guarded

/-! ## Access for everyone -/

theorem step_of_isPublic (isPublic : a.isPublic) (fresh : a.sessions.isEmpty) (event : Event) :
    (a.step event).1 = a := by
  have noEntries : a.sessions.entries = [] := List.isEmpty_iff.1 fresh
  have unchanged (keep : Session → Bool) :
      { a with sessions := { a.sessions with entries := a.sessions.entries.filter keep } } = a := by
    rw [noEntries, List.filter_nil, ← noEntries]
  cases event with
  | login =>
    have noPassword : a.password = none := Option.isNone_iff_eq_none.1 isPublic
    simp [step, handle, login, noPassword]
  | authorize => simp [step, handle, authorize, Access.shown, isPublic]
  | logout => exact unchanged _
  | purge => exact unchanged _

theorem run_of_isPublic (isPublic : a.isPublic) (fresh : a.sessions.isEmpty) (events : List Event) :
    a.run events = a := by
  induction events with
  | nil => rfl
  | cons event events ih =>
    rw [run, List.foldl_cons, step_of_isPublic isPublic fresh]
    exact ih

theorem isEmpty_of_new {text : Option String} (made : new text lifetime = .ok a) :
    a.sessions.isEmpty := by
  obtain ⟨password, -, made⟩ := bind_eq_ok.1 made
  obtain ⟨-, -, made⟩ := bind_eq_ok.1 made
  cases made
  rfl

theorem isEmpty_forEveryone : forEveryone.sessions.isEmpty := rfl

/-! ## Which tokens admit -/

/-- After any events since access was set up, a token admits exactly while the session that a login
opened for it is open and has not expired; so one that was ended never admits again, whatever the
clock says.  What is not about a token, a failed login above all, does not change how it is
answered.  Without a password everyone is admitted and no session is remembered. -/
theorem admits_exactly_while_open (a : Access) (fresh : a.sessions.isEmpty) (events : List Event) :
    (∀ hash, a.password = some hash →
      (TokensDiffer (a.history events) →
        (∀ token now, ((a.run events).authorize token now).2 = true ↔
          ∃ start, Open a.sessions.lifetime (a.history events) token start ∧
            now.before (start.plus a.sessions.lifetime)) ∧
        ∀ before event after token start, events = before ++ event :: after →
          Open a.sessions.lifetime (a.history before) token start →
          event.Ends token (start.plus a.sessions.lifetime) →
          ∀ now, ((a.run events).authorize token now).2 = false) ∧
      (∀ before event after token, events = before ++ event :: after →
        ¬ ((a.run before).record event).Concerns token →
        ∀ now, ((a.run events).authorize token now).2 =
          ((a.run (before ++ after)).authorize token now).2) ∧
      ∀ password now token,
        (∃ fault, ((a.run events).step (.login password now token)).2 = .error fault) ↔
          password = "" ∨ hash.verifies password = false ∨
            now.after? a.sessions.lifetime = none) ∧
    (a.isPublic → (a.run events).sessions.isEmpty ∧
      ∀ token now, ((a.run events).authorize token now).2 = true) := by
  have start {hash} (guarded : a.password = some hash) : a.Guarded hash a.sessions.lifetime :=
    ⟨guarded, rfl, Sessions.distinct_of_isEmpty fresh⟩
  refine ⟨fun hash guarded => ⟨fun differ => ⟨?_, ?_⟩, ?_, ?_⟩, fun isPublic => ?_⟩
  · exact (start guarded).admits_run_iff fresh differ
  · rintro before event after token begin rfl opened ended now
    refine Bool.eq_false_iff.2 fun admitted => ?_
    obtain ⟨again, reopened, -⟩ :=
      ((start guarded).admits_run_iff fresh differ token now).1 admitted
    rw [history_append] at differ reopened
    exact differ.not_open_of_ended opened ended again reopened
  · rintro before event after token rfl apart now
    exact (start guarded).admits_run_of_not_concerns apart now
  · exact ((start guarded).run events).login_fails_iff
  · rw [run_of_isPublic isPublic fresh]
    refine ⟨fresh, fun token now => ?_⟩
    rw [authorize, admits, isPublic]
    rfl

/-- The salt of the cellar's password. -/
def cellarSalt : List UInt8 := (List.range 16).map UInt8.ofNat

/-- Access with the password `sesame`, for a day at a time. -/
def cellar : Access :=
  { password := (Password.hash "sesame" cellarSalt).toOption, sessions := .new (.ofHours 24) }

/-- The password of the cellar is accepted. -/
theorem exists_guarded_cellar :
    ∃ hash, cellar.Guarded hash (.ofHours 24) ∧ accepts hash "sesame" := by
  obtain ⟨hash, made⟩ := Password.exists_hash "sesame" rfl cellarSalt
  have password : cellar.password = some hash := by rw [cellar, made]; rfl
  refine ⟨hash, ⟨password, rfl, .nil⟩, ?_⟩
  rw [accepts, Password.verifies_of_hash made (by decide)]
  rfl

/-- A login for the early token. -/
def earlyLogin : Event := .login "sesame" ⟨0⟩ ⟨"early"⟩

/-- A login for the late token, an hour later. -/
def lateLogin : Event := .login "sesame" ⟨3600000000000⟩ ⟨"late"⟩

/-- The early token is shown at the end of its day. -/
def earlyShown : Event := .authorize ⟨"early"⟩ ⟨86400000000000⟩

/-- The early token has expired and stays out, even if the clock goes back; the late one admits. -/
theorem cellar_keeps_early_out :
    let a := cellar.run [earlyLogin, lateLogin, earlyShown]
    (a.authorize ⟨"late"⟩ ⟨86400000000000⟩).2 = true ∧
      ∀ now, (a.authorize ⟨"early"⟩ now).2 = false := by
  intro a
  obtain ⟨hash, guarded, accepted⟩ := exists_guarded_cellar
  obtain ⟨first, isFirst⟩ : ∃ first, cellar.record earlyLogin = first := ⟨_, rfl⟩
  obtain ⟨second, isSecond⟩ : ∃ second, (cellar.step earlyLogin).1.record lateLogin = second :=
    ⟨_, rfl⟩
  obtain ⟨third, isThird⟩ : ∃ third,
      ((cellar.step earlyLogin).1.step lateLogin).1.record earlyShown = third := ⟨_, rfl⟩
  have recorded : cellar.history [earlyLogin, lateLogin, earlyShown] = [first, second, third] := by
    rw [history, history, history, history, isFirst, isSecond, isThird]
  have early : first.issued? = some (⟨"early"⟩, ⟨0⟩) := by
    rw [← isFirst, earlyLogin, guarded.issued?_login]
    exact ⟨rfl, accepted, rfl, rfl⟩
  have late : second.issued? = some (⟨"late"⟩, ⟨3600000000000⟩) := by
    rw [← isSecond, lateLogin, (guarded.step _).issued?_login]
    exact ⟨rfl, accepted, rfl, rfl⟩
  have shown : third.issued? = none := by rw [← isThird]; rfl
  have differ : TokensDiffer (cellar.history [earlyLogin, lateLogin, earlyShown]) := by
    rw [TokensDiffer, recorded, List.filterMap_cons_some early, List.filterMap_cons_some late,
      List.filterMap_cons_none shown]
    decide
  obtain ⟨admits, staysOut⟩ :=
    ((admits_exactly_while_open cellar rfl _).1 hash guarded.password).1 differ
  constructor
  · refine (admits _ _).2 ⟨⟨3600000000000⟩, ?_, rfl⟩
    refine ⟨[first], second, [third], recorded, late, ?_⟩
    simp [← isThird, record, Event.Ends, earlyShown]
  · refine staysOut [earlyLogin, lateLogin] earlyShown [] ⟨"early"⟩ ⟨0⟩ rfl ?_ ⟨rfl, by decide⟩
    refine ⟨[], first, [second], ?_, early, ?_⟩
    · rw [history, history, history, isFirst, isSecond, List.nil_append]
    · simp [← isSecond, record, Event.Ends, lateLogin]

end PartsCatalog.Access
