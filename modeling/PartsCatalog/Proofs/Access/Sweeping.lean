import PartsCatalog.Proofs.Access.Admission

/-!
# Sweeping

Sessions that have expired are forgotten when all are swept or when their token is shown, and for
what is answered it does not matter when this happens (`sweeping_is_invisible`).  Two runs, one of
which looks at the sessions more often, remember different sessions; but as the clock does not go
back, they agree on those that have not expired (`Alike`), and answers depend on nothing else.
-/

namespace PartsCatalog

/-! ## Later instants -/

namespace Instant

variable {now later : Instant} {expiry? : Option Instant}

/-- What has not expired later has not expired before. -/
theorem filter_filter_before (inOrder : now.nanoseconds ≤ later.nanoseconds) :
    (expiry?.filter now.before).filter later.before = expiry?.filter later.before := by
  cases expiry? with
  | none => rfl
  | some expiry =>
    cases valid : now.before expiry with
    | true => rw [Option.filter_some_pos valid]
    | false =>
      have expired : later.before expiry = false := by
        simp only [before, decide_eq_false_iff_not] at valid ⊢
        omega
      rw [Option.filter_some_neg valid, Option.filter_some_neg expired, Option.filter_none]

theorem filter_before_idem :
    (expiry?.filter now.before).filter now.before = expiry?.filter now.before :=
  filter_filter_before (Int.le_refl _)

theorem any_before : expiry?.any now.before = (expiry?.filter now.before).isSome := by
  cases expiry? with
  | none => rfl
  | some expiry =>
    cases valid : now.before expiry with
    | true => rw [Option.filter_some_pos valid, Option.any_some, valid, Option.isSome_some]
    | false => rw [Option.filter_some_neg valid, Option.any_some, valid, Option.isSome_none]

end Instant

/-- The elements at the places that are marked. -/
def select {α : Type} : List Bool → List α → List α
  | true :: marks, x :: xs => x :: select marks xs
  | false :: marks, _ :: xs => select marks xs
  | _, _ => []

namespace Access

/-- When an event happens.  Logging out is at no particular instant. -/
def Event.instant? : Event → Option Instant
  | login _ now _ | authorize _ now | purge now => some now
  | logout _ => none

/-- Whether an event only looks at sessions: it sweeps them, or a token is shown. -/
def Event.looks : Event → Bool
  | authorize .. | purge _ => true
  | login .. | logout _ => false

/-- The clock does not go back from one event to the next. -/
def InOrder (events : List Event) : Prop :=
  (events.filterMap Event.instant?).Pairwise fun earlier later =>
    earlier.nanoseconds ≤ later.nanoseconds

instance (events : List Event) : Decidable (InOrder events) :=
  inferInstanceAs (Decidable (List.Pairwise ..))

/-- From an instant on, the clock does not go back from one event to the next. -/
def InOrderFrom (now : Instant) (events : List Event) : Prop :=
  (now :: events.filterMap Event.instant?).Pairwise fun earlier later =>
    earlier.nanoseconds ≤ later.nanoseconds

/-- Whether a record is of a sweep. -/
def Record.isSweep (r : Record) : Bool :=
  match r.event with
  | .purge _ => true
  | _ => false

/-- The same sessions have not expired at an instant. -/
def Alike (now : Instant) (a b : Access) : Prop :=
  ∀ token, (a.sessions.expiry? token).filter now.before =
    (b.sessions.expiry? token).filter now.before

variable {a b : Access} {hash : Password.HashString} {lifetime : Duration} {token : SessionToken}
  {now later : Instant} {event : Event} {expiry? expiry?' : Option Instant}

/-- What a login answers depends on the password and the clock, and not on any session. -/
theorem Guarded.answer_login (guarded : a.Guarded hash lifetime) (password : String)
    (now : Instant) (token : SessionToken) :
    (a.step (.login password now token)).2 =
      if accepts hash password then
        match now.after? lifetime with
        | none => .error (.expiryOutOfRange lifetime)
        | some _ => .ok (.loggedIn (.session token))
      else .error .wrongPassword := by
  simp only [step, handle, login, guarded.password, Sessions.issue, guarded.lifetime]
  cases accepts hash password with
  | false => rfl
  | true => cases now.after? lifetime <;> rfl

/-! ## What an event does to the sessions that have not expired -/

theorem bear_filter_congr (same : expiry?.filter now.before = expiry?'.filter now.before)
    (atNow : ∀ instant ∈ event.instant?, instant = now) :
    (event.bear hash lifetime token expiry?).filter now.before =
      (event.bear hash lifetime token expiry?').filter now.before := by
  cases event with
  | login password now given =>
    rw [Event.bear, Event.bear]
    split
    · rfl
    · exact same
  | authorize shown instant =>
    obtain rfl : instant = now := atNow instant rfl
    rw [Event.bear, Event.bear]
    split
    · rw [same]
    · exact same
  | logout shown =>
    rw [Event.bear, Event.bear]
    split
    · rfl
    · exact same
  | purge instant =>
    obtain rfl : instant = now := atNow instant rfl
    rw [Event.bear, Event.bear, same]

/-- Looking at sessions takes away none that has not expired. -/
theorem bear_filter_of_looks (looks : event.looks)
    (atNow : ∀ instant ∈ event.instant?, instant = now) :
    (event.bear hash lifetime token expiry?).filter now.before = expiry?.filter now.before := by
  cases event with
  | login | logout => cases looks
  | authorize shown instant =>
    obtain rfl : instant = now := atNow instant rfl
    rw [Event.bear]
    split
    · exact Instant.filter_before_idem
    · rfl
  | purge instant =>
    obtain rfl : instant = now := atNow instant rfl
    exact Instant.filter_before_idem

namespace Alike

theorem refl (now : Instant) (a : Access) : Alike now a a := fun _ => rfl

theorem mono (alike : Alike now a b) (inOrder : now.nanoseconds ≤ later.nanoseconds) :
    Alike later a b := by
  intro token
  rw [← Instant.filter_filter_before inOrder, alike token, Instant.filter_filter_before inOrder]

protected theorem step (alike : Alike now a b) (guarded : a.Guarded hash lifetime)
    (guarded' : b.Guarded hash lifetime) (atNow : ∀ instant ∈ event.instant?, instant = now) :
    Alike now (a.step event).1 (b.step event).1 := by
  intro token
  rw [guarded.expiry?_step, guarded'.expiry?_step]
  exact bear_filter_congr (alike token) atNow

theorem step_of_looks (alike : Alike now a b) (guarded : a.Guarded hash lifetime)
    (looks : event.looks) (atNow : ∀ instant ∈ event.instant?, instant = now) :
    Alike now (a.step event).1 b := by
  intro token
  rw [guarded.expiry?_step, bear_filter_of_looks looks atNow, alike token]

/-- The answers are the same, but for the number of sessions that were swept. -/
theorem answer_eq (alike : Alike now a b) (guarded : a.Guarded hash lifetime)
    (guarded' : b.Guarded hash lifetime) (atNow : ∀ instant ∈ event.instant?, instant = now)
    (asks : (a.record event).isSweep = false) : (a.step event).2 = (b.step event).2 := by
  cases event with
  | login password instant given =>
    rw [guarded.answer_login, guarded'.answer_login]
  | authorize shown instant =>
    obtain rfl : instant = now := atNow instant rfl
    have admits : a.admits shown instant = b.admits shown instant := by
      rw [Access.admits, Access.admits, guarded.isPublic, guarded'.isPublic, Sessions.isValid,
        Sessions.isValid, Instant.any_before, Instant.any_before, alike shown]
    simp [Access.step, handle, authorize, admits]
  | logout => rfl
  | purge => cases asks

end Alike

/-! ## Runs -/

theorem InOrderFrom.cons {events : List Event} (inOrder : InOrderFrom now (event :: events)) :
    ∃ next, now.nanoseconds ≤ next.nanoseconds ∧ (∀ instant ∈ event.instant?, instant = next) ∧
      InOrderFrom next events := by
  unfold InOrderFrom at inOrder
  cases instant : event.instant? with
  | none =>
    rw [List.filterMap_cons_none instant] at inOrder
    exact ⟨now, Int.le_refl _, nofun, inOrder⟩
  | some next =>
    rw [List.filterMap_cons_some instant] at inOrder
    obtain ⟨first, rest⟩ := List.pairwise_cons.1 inOrder
    exact ⟨next, first next List.mem_cons_self, fun _ same => (Option.mem_some.1 same).symm, rest⟩

theorem exists_inOrderFrom {events : List Event} (inOrder : InOrder events) :
    ∃ now, InOrderFrom now events := by
  unfold InOrder at inOrder
  unfold InOrderFrom
  cases instants : events.filterMap Event.instant? with
  | nil => exact ⟨⟨0⟩, List.pairwise_singleton _ _⟩
  | cons first rest =>
    rw [instants] at inOrder
    obtain ⟨least, -⟩ := List.pairwise_cons.1 inOrder
    refine ⟨first, List.pairwise_cons.2 ⟨fun instant member => ?_, inOrder⟩⟩
    rcases List.mem_cons.1 member with rfl | later
    · exact Int.le_refl _
    · exact least instant later

theorem select_history_eq (events : List Event) (alike : Alike now a b)
    (guarded : a.Guarded hash lifetime) (guarded' : b.Guarded hash lifetime)
    (inOrder : InOrderFrom now events) {marks : List Bool}
    (sameLength : marks.length = events.length)
    (looks : ∀ pair ∈ marks.zip events, pair.1 = false → pair.2.looks) :
    (select marks (a.history events)).filter (!·.isSweep) =
      (b.history (select marks events)).filter (!·.isSweep) := by
  induction events generalizing a b now marks with
  | nil =>
    obtain rfl := List.length_eq_zero_iff.1 sameLength
    rfl
  | cons event events ih =>
    obtain ⟨next, later, atNext, inOrder⟩ := inOrder.cons
    have alike : Alike next a b := alike.mono later
    cases marks with
    | nil => cases sameLength
    | cons mark marks =>
      have rest : ∀ pair ∈ marks.zip events, pair.1 = false → pair.2.looks :=
        fun pair member => looks pair (List.mem_cons_of_mem _ member)
      cases mark with
      | false =>
        have looking : event.looks := looks (false, event) List.mem_cons_self rfl
        exact ih (alike.step_of_looks guarded looking atNext) (guarded.step event) guarded' inOrder
          (Nat.succ.inj sameLength) rest
      | true =>
        have later := ih (alike.step guarded guarded' atNext) (guarded.step event)
          (guarded'.step event) inOrder (Nat.succ.inj sameLength) rest
        have sameSweep : (b.record event).isSweep = (a.record event).isSweep := rfl
        rw [history, select, select, history, List.filter_cons, List.filter_cons, later, sameSweep]
        cases sweeps : (a.record event).isSweep with
        | true => rfl
        | false =>
          have same : a.record event = b.record event := by
            rw [record, record, alike.answer_eq guarded guarded' atNext sweeps]
          rw [same]

/-- **Sweeping is invisible.**  Take a run on access with a password in which the clock does not go
back, and leave out any of its sweeps, and any of the tokens that are shown as well: what is left is
answered as before, but for the numbers of sessions that sweeps found expired.  Read the other way
around, sweeping more often and showing more tokens changes no answer of a run. -/
theorem sweeping_is_invisible (guarded : a.Guarded hash lifetime) (events : List Event)
    (inOrder : InOrder events) (marks : List Bool) (sameLength : marks.length = events.length)
    (looks : ∀ pair ∈ marks.zip events, pair.1 = false → pair.2.looks) :
    (select marks (a.history events)).filter (!·.isSweep) =
      (a.history (select marks events)).filter (!·.isSweep) := by
  obtain ⟨now, inOrder⟩ := exists_inOrderFrom inOrder
  exact select_history_eq events (.refl now a) guarded guarded inOrder sameLength looks

/-- The sessions are swept at the end of the early token's day, just before it is shown. -/
def sweptDay : List Event := [earlyLogin, lateLogin, .purge ⟨86400000000000⟩, earlyShown]

/-- Only with the sweep is the early token forgotten before it is shown. -/
theorem sweptDay_answers :
    (cellar.run (sweptDay.take 3)).sessions.remembers ⟨"early"⟩ = false ∧
      (cellar.run (sweptDay.take 2)).sessions.remembers ⟨"early"⟩ = true ∧
      (select [true, true, false, true] (cellar.history sweptDay)).filter (!·.isSweep) =
        (cellar.history [earlyLogin, lateLogin, earlyShown]).filter (!·.isSweep) := by
  obtain ⟨hash, guarded, accepted⟩ := exists_guarded_cellar
  have opened : earlyLogin.bear hash (.ofHours 24) ⟨"early"⟩ none = some ⟨86400000000000⟩ :=
    if_pos ⟨accepted, rfl, rfl⟩
  have stays : lateLogin.bear hash (.ofHours 24) ⟨"early"⟩ (some ⟨86400000000000⟩) =
      some ⟨86400000000000⟩ := if_neg fun issues => absurd issues.2.2 (by decide)
  have swept : (Event.purge ⟨86400000000000⟩).bear hash (.ofHours 24) ⟨"early"⟩
      (some ⟨86400000000000⟩) = none := rfl
  have start : cellar.sessions.expiry? ⟨"early"⟩ = none := rfl
  refine ⟨?_, ?_, ?_⟩
  · rw [Sessions.remembers, guarded.expiry?_run, start, sweptDay]
    simp only [List.take, List.foldl, opened, stays, swept]
    rfl
  · rw [Sessions.remembers, guarded.expiry?_run, start, sweptDay]
    simp only [List.take, List.foldl, opened, stays]
    rfl
  · exact sweeping_is_invisible guarded sweptDay (by decide) [true, true, false, true] rfl
      (by decide)

end Access

end PartsCatalog
