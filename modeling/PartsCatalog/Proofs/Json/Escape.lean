import PartsCatalog.Json.Escape

/-!
# Escaped strings

What is written between quotes reads back as the text that was written, whatever characters the text
has (`unescape?_escape`), and the quote behind it is the first that could end it
(`takeString?_escape`).  Both go character by character, along the forms in which a character can be
written (`escapeChar_cases`).
-/

namespace PartsCatalog.Json

/-! ## Characters -/

/-- The number of a control character reads back from its two digits. -/
theorem hexUnit?_digitChar {n : Nat} (control : n < 0x20) :
    hexUnit? '0' '0' (Nat.digitChar (n / 16)) (Nat.digitChar (n % 16)) = some n := by
  revert n
  decide

/-- A character is written by a short escape, by its number, or as it stands. -/
theorem escapeChar_cases (c : Char) :
    (∃ short, escapeChar c = ['\\', short] ∧ short ≠ 'u' ∧ shortEscape? short = some c) ∨
      (∃ high low, escapeChar c = ['\\', 'u', '0', '0', high, low] ∧ c.toNat < 0x20 ∧
        hexUnit? '0' '0' high low = some c.toNat) ∨
      escapeChar c = [c] ∧ c ≠ '"' ∧ c ≠ '\\' ∧ ¬ c.toNat < 0x20 := by
  unfold escapeChar
  split
  iterate 7 exact .inl ⟨_, rfl, by decide, rfl⟩
  next quote backslash _ _ _ _ _ =>
    split
    · next control => exact .inr (.inl ⟨_, _, rfl, control, hexUnit?_digitChar control⟩)
    · next printable => exact .inr (.inr ⟨rfl, quote, backslash, printable⟩)

/-! ## Finding the end -/

/-- A written character is taken as a whole. -/
theorem takeString?_escapeChar (c : Char) (cs : List Char) :
    takeString? (escapeChar c ++ cs) =
      (takeString? cs).map fun (written, rest) => (escapeChar c ++ written, rest) := by
  rcases escapeChar_cases c with ⟨short, form, notUnit, known⟩ | ⟨high, low, form, -, unit⟩ |
    ⟨form, notQuote, notBackslash, printable⟩
  · rw [form]
    cases taken : takeString? cs <;> simp [takeString?, notUnit, known, taken]
  · rw [form]
    cases taken : takeString? cs <;> simp [takeString?, unit, taken]
  · rw [form]
    simp [takeString?, notBackslash, printable]

theorem takeString?_escape (s : String) (rest : List Char) :
    takeString? (escape s ++ '"' :: rest) = some (escape s, rest) := by
  unfold escape
  induction s.toList with
  | nil => rfl
  | cons c cs ih =>
    rw [List.flatMap_cons, List.append_assoc, takeString?_escapeChar, ih]
    rfl

/-! ## Reading back -/

/-- A control character is no half of a pair. -/
theorem not_paired {unit : Nat} (control : unit < 0x20) :
    isLeading unit = false ∧ isTrailing unit = false := by
  simp only [isLeading, isTrailing, Bool.and_eq_false_iff, decide_eq_false_iff_not]
  omega

/-- A written character reads back as it was. -/
theorem unescapeChars?_escapeChar (c : Char) (cs : List Char) :
    unescapeChars? (escapeChar c ++ cs) = (unescapeChars? cs).map (c :: ·) := by
  rcases escapeChar_cases c with ⟨short, form, notUnit, known⟩ | ⟨high, low, form, control, unit⟩ |
    ⟨form, -, notBackslash, -⟩
  · rw [form]
    cases read : unescapeChars? cs <;> simp [unescapeChars?, notUnit, known, read]
  · rw [form]
    simp [unescapeChars?, unit, not_paired control]
  · rw [form]
    simp [unescapeChars?, notBackslash]

theorem unescape?_escape (s : String) : unescape? (escape s) = some s := by
  have chars : ∀ cs : List Char, unescapeChars? (cs.flatMap escapeChar) = some cs := by
    intro cs
    induction cs with
    | nil => rfl
    | cons c cs ih => rw [List.flatMap_cons, unescapeChars?_escapeChar, ih, Option.map_some]
  rw [unescape?, escape, chars, Option.map_some, String.ofList_toList]

end PartsCatalog.Json
