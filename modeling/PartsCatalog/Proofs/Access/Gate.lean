import Mathlib.Data.List.TakeDrop
import Mathlib.Data.List.TakeWhile
import PartsCatalog.Access.Gate
import PartsCatalog.Proofs.Access.Admission
import PartsCatalog.Proofs.Text.Blank
import PartsCatalog.Proofs.Text.Split

/-!
# The gate

A request that needs a session is let through exactly with the cookie of a token that admits, and
the token that was set by a cookie comes back from it, whatever other cookies stand around it
(`gate_admits_with_cookie`).
-/

namespace PartsCatalog

namespace Cookie

/-- The name of a cookie: what stands before its first equals sign, without the blanks around. -/
def nameOf (pair : String) : String :=
  Text.trim (String.ofList (pair.toList.takeWhile (· != '=')))

/-- A cookie of another name, or what is no cookie, as it has no equals sign.  It is one segment of
the header. -/
structure IsForeign (segment : String) : Prop where
  single : ';' ∉ segment.toList
  other : '=' ∈ segment.toList → nameOf segment ≠ name

/-- The name and the value of the session cookie. -/
def pairOf (token : SessionToken) : String := name ++ "=" ++ token.text

variable {header pair part segment left right : String} {before after : List String}
  {token : SessionToken}

/-! ## Reading a cookie -/

theorem ne_equals_of_isBlank {c : Char} (blank : Text.isBlank c) : c ≠ '=' := by
  intro same
  have plain : Text.isBlank '=' = false := by decide
  rw [same, plain] at blank
  exact Bool.false_ne_true blank

/-- A cookie is cut at its first equals sign. -/
theorem span_equals {key rest : List Char} (plain : '=' ∉ key) :
    (key ++ '=' :: rest).span (· != '=') = (key, '=' :: rest) := by
  have passes : ∀ c ∈ key, (c != '=') = true := fun c member =>
    bne_iff_ne.2 fun same => plain (same ▸ member)
  rw [List.span_eq_takeWhile_dropWhile, List.takeWhile_append_of_pos passes,
    List.dropWhile_append_of_pos passes, List.takeWhile_cons_of_neg (by decide),
    List.dropWhile_cons_of_neg (by decide), List.append_nil]

/-- The blanks around a cookie are not part of its name. -/
theorem readPair?_eq_some {name value : String} (read : readPair? pair = some (name, value)) :
    '=' ∈ pair.toList ∧ nameOf pair = name := by
  unfold readPair? at read
  rw [Text.trim, String.toList_ofList, List.span_eq_takeWhile_dropWhile] at read
  split at read
  case h_2 => cases read
  case h_1 key rest parts =>
    cases read
    obtain ⟨keyed, valued⟩ := Prod.mk.inj parts
    obtain ⟨blanks, blanks', around, blank, -⟩ := Text.exists_blanks_around pair.toList
    have cut : Text.trimChars pair.toList = key ++ '=' :: rest := by
      rw [← keyed, ← valued, List.takeWhile_append_dropWhile]
    have plain : '=' ∉ blanks ++ key := by
      rw [List.mem_append, not_or]
      refine ⟨fun member => ne_equals_of_isBlank (blank _ member) rfl, fun member => ?_⟩
      rw [← keyed] at member
      have passed := List.mem_takeWhile_imp member
      exact bne_iff_ne.1 passed rfl
    have split : pair.toList = (blanks ++ key) ++ '=' :: (rest ++ blanks') := by
      rw [around, cut]
      simp only [List.append_assoc, List.cons_append]
    have named : pair.toList.takeWhile (· != '=') = blanks ++ key := by
      rw [split]
      exact congrArg Prod.fst ((List.span_eq_takeWhile_dropWhile ..).symm.trans (span_equals plain))
    refine ⟨by rw [split]; simp, ?_⟩
    rw [nameOf, named, Text.trim, String.toList_ofList, Text.trimChars_append_left blank, Text.trim,
      String.toList_ofList]

/-- A cookie is read as it was written, whatever blanks are around it. -/
theorem readPair?_session (blankLeft : Text.isBlankText left) (blankRight : Text.isBlankText right)
    (trimmed : Text.Trimmed token.text) (given : token.text ≠ "") :
    readPair? (left ++ pairOf token ++ right) = some (name, token.text) := by
  have text : (pairOf token).toList = (name.toList ++ ['=']) ++ token.text.toList := by
    rw [pairOf, String.toList_append, String.toList_append]
    rfl
  have whole : Text.Trimmed (pairOf token) := by
    have key : Text.TrimmedChars (name.toList ++ ['=']) := by
      refine ⟨fun c head => ?_, fun c last => ?_⟩
      · obtain rfl : 's' = c := Option.some.inj head
        rfl
      · obtain rfl : '=' = c := Option.some.inj last
        rfl
    rw [Text.Trimmed, text]
    refine key.append trimmed (by decide) fun none => given ?_
    exact String.toList_eq_nil_iff.1 none
  rw [readPair?, Text.trim_blanks_around blankLeft blankRight, Text.trim_of_trimmed whole, text,
    List.append_assoc, List.singleton_append, span_equals (by decide)]
  simp only [String.ofList_toList, Text.trim_of_trimmed trimmed]
  rfl

/-! ## Reading a header -/

theorem token?_of_split (split : Text.split ';' header = before ++ segment :: after)
    (foreign : ∀ other ∈ before, IsForeign other)
    (read : readPair? segment = some (name, token.text)) (given : token.text ≠ "") :
    token? header = some token := by
  have skipped : (before.filterMap readPair?).lookup name = none := by
    rw [List.lookup_eq_none_iff]
    intro pair member
    obtain ⟨other, inside, read⟩ := List.mem_filterMap.1 member
    obtain ⟨isPair, named⟩ := readPair?_eq_some read
    exact bne_iff_ne.2 fun same => (foreign other inside).other isPair (named.trans same.symm)
  have found : (readHeader header).lookup name = some token.text := by
    rw [readHeader, split, List.filterMap_append, List.lookup_append, skipped,
      List.filterMap_cons_some read, List.lookup_cons_self, Option.none_or]
  rw [token?, found]
  simp [given]

/-! ## Round trip -/

/-- The attributes of a cookie are apart from its name and its value. -/
theorem exists_set_eq (token : SessionToken) (lifetime : Duration) :
    ∃ rest, set token lifetime = pairOf token ++ String.singleton ';' ++ rest := by
  refine ⟨" Path=/; HttpOnly; SameSite=Lax; Max-Age=" ++ toString (max lifetime.seconds 0), ?_⟩
  have first : "; Path=/; HttpOnly; SameSite=Lax; Max-Age=" =
      String.singleton ';' ++ " Path=/; HttpOnly; SameSite=Lax; Max-Age=" := by decide
  have text : attributes (max lifetime.seconds 0) = String.singleton ';' ++
      (" Path=/; HttpOnly; SameSite=Lax; Max-Age=" ++ toString (max lifetime.seconds 0)) := by
    unfold attributes
    rw [← String.append_assoc, ← first]
    rfl
  rw [set, text, pairOf, ← String.append_assoc]

/-- A token that can be part of a cookie: it is not empty, and it has neither blanks around it nor
the sign that ends a cookie. -/
structure Fits (token : SessionToken) : Prop where
  given : token.text ≠ ""
  trimmed : Text.Trimmed token.text
  single : ';' ∉ token.text.toList

theorem Fits.of_urlSafe (given : token.text ≠ "")
    (alphabet : ∀ c ∈ token.text.toList, c ∈ Text.Base64.urlSafe) : Fits token where
  given := given
  trimmed := by
    have plain : (Text.Base64.urlSafe.any Text.isBlank) = false := by decide
    have notBlank (c : Char) (member : c ∈ token.text.toList) : Text.isBlank c = false :=
      Bool.eq_false_iff.2 (List.any_eq_false.1 plain c (alphabet c member))
    constructor
    · intro c head
      exact notBlank c (List.mem_of_mem_head? head)
    · intro c last
      exact notBlank c (List.mem_of_getLast? last)
  single := by
    intro member
    have outside : ';' ∉ Text.Base64.urlSafe := by decide
    exact outside (alphabet ';' member)

theorem Fits.single_pairOf (fits : Fits token) : ';' ∉ (pairOf token).toList := by
  rw [pairOf, String.toList_append, List.mem_append, not_or]
  exact ⟨by decide, fits.single⟩

theorem Fits.head?_split_set (fits : Fits token) (lifetime : Duration) :
    (Text.split ';' (set token lifetime)).head? = some (pairOf token) := by
  obtain ⟨rest, text⟩ := exists_set_eq token lifetime
  rw [text, Text.split_append, Text.split_of_not_mem fits.single_pairOf]
  rfl

/-- The first segment of what sets a cookie is the cookie, also with blanks around it. -/
theorem Fits.exists_split_eq (fits : Fits token) (lifetime : Duration)
    (blankLeft : Text.isBlankText left) (blankRight : Text.isBlankText right)
    (sent : part = set token lifetime ∨
      (Text.split ';' (set token lifetime)).head? = some part) :
    ∃ segment rest, Text.split ';' (left ++ part ++ right) = segment :: rest ∧
      readPair? segment = some (name, token.text) := by
  have apart : ';' ∉ (left ++ pairOf token).toList := by
    rw [String.toList_append, List.mem_append, not_or]
    exact ⟨Text.not_mem_of_isBlankText (by decide) blankLeft, fits.single_pairOf⟩
  rcases sent with rfl | first
  · obtain ⟨rest, text⟩ := exists_set_eq token lifetime
    have placed : left ++ set token lifetime ++ right =
        left ++ pairOf token ++ String.singleton ';' ++ (rest ++ right) := by
      rw [text]
      simp only [String.append_assoc]
    refine ⟨left ++ pairOf token, Text.split ';' (rest ++ right), ?_, ?_⟩
    · rw [placed, Text.split_append, Text.split_of_not_mem apart, List.singleton_append]
    · have read := readPair?_session blankLeft (by decide : Text.isBlankText "") fits.trimmed
        fits.given
      rwa [String.append_empty] at read
  · obtain rfl := Option.some.inj ((fits.head?_split_set lifetime).symm.trans first)
    refine ⟨left ++ pairOf token ++ right, [], Text.split_of_not_mem ?_,
      readPair?_session blankLeft blankRight fits.trimmed fits.given⟩
    rw [String.toList_append, List.mem_append, not_or]
    exact ⟨apart, Text.not_mem_of_isBlankText (by decide) blankRight⟩

/-- A token comes back from its cookie among others. -/
theorem Fits.token?_intercalate (fits : Fits token) (lifetime : Duration)
    (foreign : ∀ other ∈ before, IsForeign other)
    (blankLeft : Text.isBlankText left) (blankRight : Text.isBlankText right)
    (sent : part = set token lifetime ∨
      (Text.split ';' (set token lifetime)).head? = some part) :
    token? (";".intercalate (before ++ (left ++ part ++ right) :: after)) = some token := by
  obtain ⟨segment, rest, split, read⟩ := fits.exists_split_eq lifetime blankLeft blankRight sent
  have whole : before.flatMap (Text.split ';') = before := by
    rw [List.flatMap_congr fun other inside => Text.split_of_not_mem (foreign other inside).single]
    exact List.flatMap_singleton' before
  have parts : Text.split ';' (";".intercalate (before ++ (left ++ part ++ right) :: after)) =
      before ++ segment :: (rest ++ after.flatMap (Text.split ';')) := by
    refine (Text.split_intercalate ';' (by simp)).trans ?_
    rw [List.flatMap_append, whole, List.flatMap_cons, split, List.cons_append]
  exact token?_of_split parts foreign read fits.given

end Cookie

namespace Gate

/-- A path that needs a session is let through exactly if a token is found among the cookies and
admits. -/
theorem judge_eq_allow_iff {a : Access} {path : String} {cookies : Option String} {now : Instant}
    (isProtected : a.isPublic = false) (closed : isOpen path = false) :
    (judge a path cookies now).2 = .allow ↔
      ∃ header token, cookies = some header ∧ Cookie.token? header = some token ∧
        (a.authorize token now).2 = true := by
  have needsSession : (a.isPublic || isOpen path) = false := by rw [isProtected, closed]; rfl
  rw [judge, needsSession, if_neg Bool.false_ne_true]
  cases found : cookies.bind Cookie.token? with
  | none =>
    refine iff_of_false Decision.noConfusion ?_
    rintro ⟨header, token, rfl, read, -⟩
    cases found.symm.trans read
  | some token =>
    obtain ⟨header, rfl, read⟩ := Option.bind_eq_some_iff.1 found
    cases admitted : (a.authorize token now).2 with
    | true => exact iff_of_true (by simp [admitted]) ⟨header, token, rfl, read, admitted⟩
    | false =>
      refine iff_of_false (by simp [admitted]) ?_
      rintro ⟨header', token', same, read', admitted'⟩
      cases same
      cases read.symm.trans read'
      cases admitted.symm.trans admitted'

/-- **The gate lets in exactly those who show a token that admits.**  Where access has a password, a
request for a path that needs a session is let through if and only if there are cookies, a token is
found among them, and it admits at that instant; nothing else in the request matters.

The cookie brings its token back: whatever other cookies come before it, as long as none of them has
its name, whatever comes after it and whatever blanks are around it, the token that was set is the
one that is found.  What is sent may be the name and the value alone or all that set the cookie. -/
theorem gate_admits_with_cookie :
    (∀ (a : Access) (hash : Password.HashString) (path : String) (cookies : Option String)
      (now : Instant), a.password = some hash → path ≠ "/login" →
      path.startsWith "/static/" = false →
      ((judge a path cookies now).2 = .allow ↔
        ∃ header token, cookies = some header ∧ Cookie.token? header = some token ∧
          (a.authorize token now).2 = true)) ∧
    ∀ (token : SessionToken) (lifetime : Duration) (before after : List String)
      (left right part : String), token.text ≠ "" →
      (∀ c ∈ token.text.toList, c ∈ Text.Base64.urlSafe) →
      (∀ other ∈ before, Cookie.IsForeign other) →
      Text.isBlankText left → Text.isBlankText right →
      (part = Cookie.set token lifetime ∨
        (Text.split ';' (Cookie.set token lifetime)).head? = some part) →
      Cookie.token? (";".intercalate (before ++ (left ++ part ++ right) :: after)) =
        some token := by
  refine ⟨fun a hash path cookies now password notLogin notStatic => ?_, ?_⟩
  · have isProtected : a.isPublic = false := by rw [Access.isPublic, password]; rfl
    have closed : isOpen path = false := by
      rw [isOpen, notStatic, Bool.or_false, beq_eq_false_iff_ne]
      exact notLogin
    exact judge_eq_allow_iff isProtected closed
  · intro token lifetime before after left right part given alphabet foreign blankLeft blankRight
    exact (Cookie.Fits.of_urlSafe given alphabet).token?_intercalate lifetime foreign blankLeft
      blankRight

/-- The early token among other cookies, one of which has no value. -/
def cellarCookies : String := "theme=dark; session; session=early ; lang=ru"

theorem cookies_open_cellar :
    Cookie.token? cellarCookies = some ⟨"early"⟩ ∧
      (judge (Access.cellar.step Access.earlyLogin).1 "/parts" (some cellarCookies) ⟨0⟩).2 =
        .allow := by
  obtain ⟨hash, guarded, accepted⟩ := Access.exists_guarded_cellar
  have alphabet : ∀ c ∈ "early".toList, c ∈ Text.Base64.urlSafe := fun c member =>
    List.contains_iff_mem.1 (List.all_eq_true.1
      (by decide : "early".toList.all Text.Base64.urlSafe.contains) c member)
  have fits : Cookie.Fits ⟨"early"⟩ := .of_urlSafe (by decide) alphabet
  have foreign : ∀ other ∈ ["theme=dark", " session"], Cookie.IsForeign other := by
    intro other member
    rcases List.mem_pair.1 member with rfl | rfl
    · exact ⟨by decide, fun _ => by decide⟩
    · exact ⟨by decide, fun isPair => absurd isPair (by decide)⟩
  have joined : ";".intercalate (["theme=dark", " session"] ++
      (" " ++ Cookie.pairOf ⟨"early"⟩ ++ " ") :: [" lang=ru"]) = cellarCookies := by decide
  have found : Cookie.token? cellarCookies = some ⟨"early"⟩ := by
    rw [← joined]
    exact gate_admits_with_cookie.2 ⟨"early"⟩ (.ofHours 24) _ _ _ _ _ (by decide) alphabet foreign
      (by decide) (by decide) (.inr (fits.head?_split_set _))
  have admits : ((Access.cellar.step Access.earlyLogin).1.authorize ⟨"early"⟩ ⟨0⟩).2 = true := by
    rw [Access.authorize, Access.admits, Sessions.isValid, guarded.expiry?_step, Access.earlyLogin,
      Access.Event.bear, if_pos ⟨accepted, rfl, rfl⟩, Bool.or_eq_true]
    exact .inr (by decide)
  refine ⟨found, (gate_admits_with_cookie.1 _ hash "/parts" (some cellarCookies) ⟨0⟩
    (guarded.step _).password (by decide) (by decide +kernel)).2 ?_⟩
  exact ⟨cellarCookies, ⟨"early"⟩, rfl, found, admits⟩

end Gate

end PartsCatalog
