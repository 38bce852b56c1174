import PartsCatalog.Json.Reader
import PartsCatalog.Json.Writer
import PartsCatalog.Proofs.Json.Escape
import PartsCatalog.Proofs.Json.Numeral

/-!
# Reading what was written

A value whose literals are numerals and whose strings end where they are closed (`WellFormed`) reads
back from its text, in a layout that sets its parts apart by blanks alone (`readText?_write`).

The induction is on the value.  A reader is given what was written and whatever follows, and as many
calls as twice the length of what was written (`Reads`); of a list it needs one more, since the
first item follows no comma.
-/

namespace PartsCatalog.Json

variable {layout : Layout} {value : Value} {blanks closing cs rest : List Char}

/-! ## Blanks -/

/-- A text of blanks. -/
def AllBlank (cs : List Char) : Prop := ∀ c ∈ cs, isBlank c

/-- What sets the parts of a value apart means nothing. -/
structure Layout.Blank (layout : Layout) : Prop where
  lineStart (level : Nat) : AllBlank (layout.lineStart level)
  colon : ∃ blanks, layout.colon = ':' :: blanks ∧ AllBlank blanks

theorem Layout.blank_compact : Layout.compact.Blank where
  lineStart _ _ member := absurd member List.not_mem_nil
  colon := ⟨[], rfl, fun _ member => absurd member List.not_mem_nil⟩

theorem Layout.blank_indented : Layout.indented.Blank where
  lineStart level c member := by
    rcases List.mem_cons.mp member with rfl | member
    · rfl
    · rw [List.eq_of_mem_replicate member]
      rfl
  colon := ⟨[' '], rfl, by simp [AllBlank, isBlank]⟩

theorem skipBlanks_append (blank : AllBlank blanks) (cs : List Char) :
    skipBlanks (blanks ++ cs) = skipBlanks cs :=
  List.dropWhile_append_of_pos blank

theorem skipBlanks_cons {c : Char} (notBlank : isBlank c = false) (cs : List Char) :
    skipBlanks (c :: cs) = c :: cs := by
  rw [skipBlanks, List.dropWhile_cons, notBlank, if_neg Bool.false_ne_true]

theorem takeValue?_append (blank : AllBlank blanks) (fuel : Nat) (cs : List Char) :
    takeValue? fuel (blanks ++ cs) = takeValue? fuel cs := by
  cases fuel with
  | zero => rfl
  | succ fuel => rw [takeValue?, takeValue?, skipBlanks_append blank]

theorem takeItems?_append (blank : AllBlank blanks) (fuel : Nat) (cs : List Char) :
    takeItems? fuel (blanks ++ cs) = takeItems? fuel cs := by
  cases fuel with
  | zero => rfl
  | succ fuel => rw [takeItems?, takeItems?, takeValue?_append blank]

theorem takeMembers?_append (blank : AllBlank blanks) (fuel : Nat) (cs : List Char) :
    takeMembers? fuel (blanks ++ cs) = takeMembers? fuel cs := by
  cases fuel with
  | zero => rfl
  | succ fuel => rw [takeMembers?, takeMembers?, takeName?, takeName?, skipBlanks_append blank]

theorem isBlank_iff (c : Char) : isBlank c ↔ c ∈ [' ', '\t', '\n', '\r'] := by
  simp [isBlank, or_assoc]

/-- Blanks and a mark end a number. -/
theorem endsNumber_append (blank : AllBlank blanks) {c : Char} (mark : c ∈ [',', ']', '\x7d'])
    (rest : List Char) : EndsNumber (blanks ++ c :: rest) := by
  have ends : ∀ b ∈ [' ', '\t', '\n', '\r'] ++ [',', ']', '\x7d'],
      ¬ b.isDigit ∧ b ≠ '.' ∧ b ≠ 'e' ∧ b ≠ 'E' := by simp
  cases blanks with
  | nil =>
    rintro b ⟨⟩
    exact ends c (List.mem_append_right _ mark)
  | cons b _ =>
    rintro b ⟨⟩
    exact ends b (List.mem_append_left _ ((isBlank_iff b).mp (blank b List.mem_cons_self)))

theorem endsNumber_comma (rest : List Char) : EndsNumber (',' :: rest) :=
  endsNumber_append (show AllBlank [] from nofun) List.mem_cons_self rest

/-! ## Values -/

/-- What stands between quotes and ends where it is closed. -/
def IsClosed (written : List Char) : Prop :=
  ∀ rest, takeString? (written ++ '"' :: rest) = some (written, rest)

/-- A value whose literals are numerals and whose strings and names end where they are closed. -/
inductive WellFormed : Value → Prop where
  | null : WellFormed .null
  | bool (b : Bool) : WellFormed (.bool b)
  | number {literal : List Char} (numeral : IsNumeral literal) : WellFormed (.number literal)
  | string {written : List Char} (closed : IsClosed written) : WellFormed (.string written)
  | array {list : List Value} (items : ∀ item ∈ list, WellFormed item) : WellFormed (.array list)
  | object {list : List (List Char × Value)} (names : ∀ member ∈ list, IsClosed member.1)
      (values : ∀ member ∈ list, WellFormed member.2) : WellFormed (.object list)

/-- A numeral starts with a sign or with a digit. -/
theorem IsNumeral.exists_cons {literal : List Char} (numeral : IsNumeral literal) :
    ∃ c cs, literal = c :: cs ∧ (c = '-' ∨ c.isDigit) := by
  have taken := numeral [] nofun
  rw [List.append_nil] at taken
  cases literal with
  | nil => exact absurd taken (by decide)
  | cons c cs =>
    refine ⟨c, cs, rfl, ?_⟩
    by_contra neither
    obtain ⟨noSign, noDigit⟩ := not_or.mp neither
    have noZero : c ≠ '0' := by
      rintro rfl
      exact noDigit rfl
    simp [takeNumber?, noSign, takeWhole?, noZero, takeDigits?, List.span_eq_takeWhile_dropWhile,
      noDigit] at taken

/-- What a number starts with starts nothing else. -/
theorem start_of_number {c : Char} (start : c = '-' ∨ c.isDigit) :
    isBlank c = false ∧ c ∉ ['n', 't', 'f', '"', '[', ']', '\x7b'] := by
  have others : ∀ b ∈ [' ', '\t', '\n', '\r'] ++ ['n', 't', 'f', '"', '[', ']', '\x7b'],
      ¬ (b = '-' ∨ b.isDigit) := by simp
  constructor
  · by_contra blank
    have member := (isBlank_iff c).mp (Bool.eq_true_of_not_eq_false blank)
    exact others c (List.mem_append_left _ member) start
  · exact fun member => others c (List.mem_append_right _ member) start

/-- The text of a value starts with something that is no blank and closes no array. -/
theorem WellFormed.exists_cons (wellFormed : WellFormed value) (layout : Layout) (level : Nat) :
    ∃ c cs, write layout level value = c :: cs ∧ isBlank c = false ∧ c ≠ ']' := by
  cases wellFormed with
  | null => exact ⟨'n', _, rfl, rfl, by decide⟩
  | bool b => cases b <;> exact ⟨_, _, rfl, rfl, by decide⟩
  | number numeral =>
    obtain ⟨c, cs, rfl, start⟩ := numeral.exists_cons
    obtain ⟨notBlank, notOther⟩ := start_of_number start
    exact ⟨c, cs, by rw [write], notBlank, by rintro rfl; exact notOther (by decide)⟩
  | string => exact ⟨'"', _, by rw [write]; rfl, rfl, by decide⟩
  | @array list => cases list <;> exact ⟨'[', _, by unfold write; rfl, rfl, by decide⟩
  | @object list => cases list <;> exact ⟨'\x7b', _, by unfold write; rfl, rfl, by decide⟩

/-- A value is read off the front of a text that starts with it. -/
def Reads (layout : Layout) (value : Value) : Prop :=
  ∀ level fuel rest, 2 * (write layout level value).length ≤ fuel → EndsNumber rest →
    takeValue? fuel (write layout level value ++ rest) = some (value, rest)

/-- Whatever is written has at least one character, which allows one call. -/
theorem WellFormed.reads_of_succ (wellFormed : WellFormed value)
    (reads : ∀ level fuel rest, 2 * (write layout level value).length ≤ fuel + 1 → EndsNumber rest →
      takeValue? (fuel + 1) (write layout level value ++ rest) = some (value, rest)) :
    Reads layout value := by
  intro level fuel rest enough ends
  obtain ⟨c, cs, start, -⟩ := wellFormed.exists_cons layout level
  cases fuel with
  | zero => rw [start, List.length_cons] at enough; omega
  | succ fuel => exact reads level fuel rest enough ends

/-! ## Lists -/

/-- The items of an array are taken with its closing bracket. -/
theorem takeItems?_write (blank : layout.Blank) (level : Nat) (blankClosing : AllBlank closing)
    (rest : List Char) :
    ∀ (items : List Value) (item : Value) (fuel : Nat),
      (∀ each ∈ item :: items, Reads layout each) →
      2 * ((write layout level item).length + (writeItems layout level items).length) < fuel →
      takeItems? fuel (write layout level item ++ (writeItems layout level items ++
        (closing ++ ']' :: rest))) = some (item :: items, rest) := by
  intro items
  induction items with
  | nil =>
    intro item fuel reads enough
    obtain ⟨fuel, rfl⟩ := Nat.exists_eq_succ_of_ne_zero (Nat.ne_zero_of_lt enough)
    have ends : EndsNumber (closing ++ ']' :: rest) :=
      endsNumber_append blankClosing (by decide) rest
    rw [writeItems, List.nil_append, takeItems?,
      reads item List.mem_cons_self level fuel _ (by omega) ends]
    simp only [skipBlanks_append blankClosing, skipBlanks_cons (c := ']') rfl]
  | cons next items ih =>
    intro item fuel reads enough
    obtain ⟨fuel, rfl⟩ := Nat.exists_eq_succ_of_ne_zero (Nat.ne_zero_of_lt enough)
    have others := ih next fuel fun each member => reads each (List.mem_cons_of_mem item member)
    simp only [writeItems, List.cons_append, List.append_assoc, List.length_cons,
      List.length_append] at enough ⊢
    rw [takeItems?, reads item List.mem_cons_self level fuel _ (by omega) (endsNumber_comma _)]
    simp only [skipBlanks_cons (c := ',') rfl, takeItems?_append (blank.lineStart level)]
    rw [others (by omega), Option.map_some]

/-- The name of a member is taken with the colon behind it. -/
theorem takeName?_write {name : List Char} (closed : IsClosed name) (rest : List Char) :
    takeName? ('"' :: (name ++ '"' :: ':' :: rest)) = some (name, rest) := by
  simp only [takeName?, skipBlanks_cons (c := '"') rfl, closed (':' :: rest),
    skipBlanks_cons (c := ':') rfl]

/-- A member is taken by taking its name and then its value. -/
theorem take_writeMember (blank : layout.Blank) (level : Nat) {name : List Char}
    (closed : IsClosed name) (reads : Reads layout value) (fuel : Nat)
    (enough : 2 * (writeMember layout level (name, value)).length ≤ fuel)
    (ends : EndsNumber rest) :
    ∃ between, takeName? (writeMember layout level (name, value) ++ rest) = some (name, between) ∧
      takeValue? fuel between = some (value, rest) := by
  obtain ⟨gap, colon, blankGap⟩ := blank.colon
  simp only [writeMember, colon, List.cons_append, List.append_assoc, List.length_cons,
    List.length_append] at enough ⊢
  refine ⟨_, takeName?_write closed _, ?_⟩
  rw [takeValue?_append blankGap]
  exact reads level fuel rest (by omega) ends

/-- The members of an object are taken with its closing brace. -/
theorem takeMembers?_write (blank : layout.Blank) (level : Nat) (blankClosing : AllBlank closing)
    (rest : List Char) :
    ∀ (members : List (List Char × Value)) (member : List Char × Value) (fuel : Nat),
      (∀ each ∈ member :: members, IsClosed each.1 ∧ Reads layout each.2) →
      2 * ((writeMember layout level member).length
        + (writeMembers layout level members).length) < fuel →
      takeMembers? fuel (writeMember layout level member ++ (writeMembers layout level members ++
        (closing ++ '\x7d' :: rest))) = some (member :: members, rest) := by
  intro members
  induction members with
  | nil =>
    rintro ⟨name, value⟩ fuel reads enough
    obtain ⟨fuel, rfl⟩ := Nat.exists_eq_succ_of_ne_zero (Nat.ne_zero_of_lt enough)
    obtain ⟨closed, readsValue⟩ : IsClosed name ∧ Reads layout value :=
      reads (name, value) List.mem_cons_self
    have ends : EndsNumber (closing ++ '\x7d' :: rest) :=
      endsNumber_append blankClosing (by decide) rest
    obtain ⟨between, named, taken⟩ :=
      take_writeMember blank level closed readsValue fuel (by omega) ends
    rw [writeMembers, List.nil_append, takeMembers?, named]
    simp only [taken, skipBlanks_append blankClosing, skipBlanks_cons (c := '\x7d') rfl]
  | cons next members ih =>
    rintro ⟨name, value⟩ fuel reads enough
    obtain ⟨fuel, rfl⟩ := Nat.exists_eq_succ_of_ne_zero (Nat.ne_zero_of_lt enough)
    obtain ⟨closed, readsValue⟩ : IsClosed name ∧ Reads layout value :=
      reads (name, value) List.mem_cons_self
    have others := ih next fuel fun each known => reads each (List.mem_cons_of_mem _ known)
    simp only [writeMembers, List.cons_append, List.append_assoc, List.length_cons,
      List.length_append] at enough ⊢
    obtain ⟨between, named, taken⟩ :=
      take_writeMember blank level closed readsValue fuel (by omega) (endsNumber_comma _)
    rw [takeMembers?, named]
    simp only [taken, skipBlanks_cons (c := ',') rfl, takeMembers?_append (blank.lineStart level)]
    rw [others (by omega), Option.map_some]

/-! ## The round trip -/

theorem reads_number {literal : List Char} (numeral : IsNumeral literal) :
    Reads layout (.number literal) := by
  refine (WellFormed.number numeral).reads_of_succ fun level fuel rest enough ends => ?_
  obtain ⟨c, cs, rfl, start⟩ := numeral.exists_cons
  obtain ⟨notBlank, notOther⟩ := start_of_number start
  have taken := numeral rest ends
  simp only [List.mem_cons, List.not_mem_nil, or_false, not_or] at notOther
  rw [List.cons_append] at taken
  rw [write, takeValue?, List.cons_append, skipBlanks_cons notBlank]
  simp [notOther, taken]

theorem reads_array (blank : layout.Blank) {item : Value} {items : List Value}
    (wellFormed : ∀ each ∈ item :: items, WellFormed each)
    (reads : ∀ each ∈ item :: items, Reads layout each) :
    Reads layout (.array (item :: items)) := by
  refine (WellFormed.array wellFormed).reads_of_succ fun level fuel rest enough ends => ?_
  simp only [write, List.cons_append, List.append_assoc, List.length_cons, List.length_append,
    List.nil_append] at enough ⊢
  have taken := takeItems?_write blank (level + 1) (blank.lineStart level) rest items item fuel
    reads (by omega)
  obtain ⟨c, cs, start, notBlank, notClosing⟩ :=
    (wellFormed item List.mem_cons_self).exists_cons layout (level + 1)
  rw [start, List.cons_append] at taken ⊢
  simp [takeValue?, skipBlanks_cons (c := '[') rfl, skipBlanks_append (blank.lineStart (level + 1)),
    skipBlanks_cons notBlank, notClosing, taken]

theorem reads_object (blank : layout.Blank) {member : List Char × Value}
    {members : List (List Char × Value)}
    (names : ∀ each ∈ member :: members, IsClosed each.1)
    (values : ∀ each ∈ member :: members, WellFormed each.2)
    (reads : ∀ each ∈ member :: members, Reads layout each.2) :
    Reads layout (.object (member :: members)) := by
  refine (WellFormed.object names values).reads_of_succ fun level fuel rest enough ends => ?_
  obtain ⟨name, value⟩ := member
  have taken := takeMembers?_write blank (level + 1) (blank.lineStart level) rest members
    (name, value) fuel fun each known => ⟨names each known, reads each known⟩
  simp only [write, writeMember, List.cons_append, List.append_assoc, List.length_cons,
    List.length_append, List.nil_append] at enough taken ⊢
  simp [takeValue?, skipBlanks_cons (c := '\x7b') rfl,
    skipBlanks_append (blank.lineStart (level + 1)), skipBlanks_cons (c := '"') rfl,
    taken (by omega)]

theorem WellFormed.reads (blank : layout.Blank) (wellFormed : WellFormed value) :
    Reads layout value := by
  induction wellFormed with
  | null =>
    refine WellFormed.null.reads_of_succ fun level fuel rest _ _ => ?_
    rw [write, takeValue?]
    rfl
  | bool b =>
    refine (WellFormed.bool b).reads_of_succ fun level fuel rest _ _ => ?_
    cases b <;> rw [write, takeValue?] <;> rfl
  | number numeral => exact reads_number numeral
  | string closed =>
    refine (WellFormed.string closed).reads_of_succ fun level fuel rest _ _ => ?_
    rw [write, takeValue?]
    simp [skipBlanks_cons (c := '"') rfl, closed rest]
  | @array list items ih =>
    cases list with
    | nil =>
      refine (WellFormed.array items).reads_of_succ fun level fuel rest _ _ => ?_
      rw [write, takeValue?]
      rfl
    | cons item list => exact reads_array blank items ih
  | @object list names values ih =>
    cases list with
    | nil =>
      refine (WellFormed.object names values).reads_of_succ fun level fuel rest _ _ => ?_
      rw [write, takeValue?]
      rfl
    | cons member list => exact reads_object blank names values ih

/-- A well-formed value reads back from its text. -/
theorem readText?_write (blank : layout.Blank) (wellFormed : WellFormed value) :
    readText? (String.ofList (write layout 0 value)) = some value := by
  have taken := wellFormed.reads blank 0 (2 * (write layout 0 value).length + 1) []
    (Nat.le_succ _) nofun
  rw [List.append_nil] at taken
  simp only [readText?, String.toList_ofList, taken]
  rfl

theorem readText?_pretty (wellFormed : WellFormed value) : readText? value.pretty = some value :=
  readText?_write Layout.blank_indented wellFormed

theorem readText?_compact (wellFormed : WellFormed value) : readText? value.compact = some value :=
  readText?_write Layout.blank_compact wellFormed

/-! ## Built values -/

theorem wellFormed_ofText (s : String) : WellFormed (.ofText s) := .string (takeString?_escape s)

theorem wellFormed_ofInt (n : Int) : WellFormed (.ofInt n) := .number (isNumeral_int n)

theorem wellFormed_ofFields {fields : List (String × Value)}
    (values : ∀ field ∈ fields, WellFormed field.2) : WellFormed (.ofFields fields) := by
  refine .object ?_ ?_
  · intro member known
    obtain ⟨field, -, rfl⟩ := List.mem_map.mp known
    exact takeString?_escape field.1
  · intro member known
    obtain ⟨field, given, rfl⟩ := List.mem_map.mp known
    exact values field given

end PartsCatalog.Json
