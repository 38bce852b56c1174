import Mathlib.Data.List.Basic
import Mathlib.Data.List.TakeWhile
import PartsCatalog.Text.Blank

/-!
# Trimmed texts

A trimmed text neither starts nor ends with a blank.  Trimming gives such a text and keeps one that
is trimmed already.  What it takes away are blanks (`exists_blanks_around`), and blanks around a
text make no difference to it (`trim_blanks_around`).
-/

namespace PartsCatalog.Text

variable {s left right : String} {cs blanks : List Char}

/-- Characters that neither start nor end with a blank. -/
def TrimmedChars (cs : List Char) : Prop :=
  (∀ c ∈ cs.head?, isBlank c = false) ∧ ∀ c ∈ cs.getLast?, isBlank c = false

/-- A text that neither starts nor ends with a blank. -/
def Trimmed (s : String) : Prop := TrimmedChars s.toList

/-- What is left when blanks are dropped does not start with one. -/
theorem not_isBlank_head_dropWhile (cs : List Char) :
    ∀ c ∈ (cs.dropWhile isBlank).head?, isBlank c = false := by
  intro c head
  have stopped := List.head?_dropWhile_not isBlank cs
  rw [Option.mem_def.1 head] at stopped
  exact stopped

theorem trimmedChars_trimChars (cs : List Char) : TrimmedChars (trimChars cs) := by
  constructor
  · intro c head
    -- what is dropped from the end leaves the first character in its place
    obtain ⟨dropped, split⟩ := List.dropWhile_suffix isBlank (l := (cs.dropWhile isBlank).reverse)
    have first : cs.dropWhile isBlank = trimChars cs ++ dropped.reverse := by
      rw [trimChars, ← List.reverse_append, split, List.reverse_reverse]
    apply not_isBlank_head_dropWhile cs c
    rw [first, List.head?_append, Option.mem_def.1 head]
    rfl
  · intro c last
    rw [trimChars, List.getLast?_reverse] at last
    exact not_isBlank_head_dropWhile _ c last

theorem dropWhile_of_not_isBlank_head (head : ∀ c ∈ cs.head?, isBlank c = false) :
    cs.dropWhile isBlank = cs := by
  cases cs with
  | nil => rfl
  | cons c cs => rw [List.dropWhile_cons_of_neg (by simp [head c rfl])]

theorem trimChars_of_trimmedChars (trimmed : TrimmedChars cs) : trimChars cs = cs := by
  have last : ∀ c ∈ cs.reverse.head?, isBlank c = false := by
    intro c head
    exact trimmed.2 c (by rwa [List.head?_reverse] at head)
  rw [trimChars, dropWhile_of_not_isBlank_head trimmed.1, dropWhile_of_not_isBlank_head last,
    List.reverse_reverse]

/-- What starts like one trimmed text and ends like another is trimmed. -/
theorem TrimmedChars.append {ds : List Char} (first : TrimmedChars cs) (second : TrimmedChars ds)
    (starts : cs ≠ []) (ends : ds ≠ []) : TrimmedChars (cs ++ ds) := by
  constructor
  · intro c head
    rw [List.head?_append_of_ne_nil _ starts] at head
    exact first.1 c head
  · intro c last
    rw [List.getLast?_append_of_ne_nil _ ends] at last
    exact second.2 c last

theorem trimmed_trim (s : String) : Trimmed (trim s) := by
  rw [Trimmed, trim, String.toList_ofList]
  exact trimmedChars_trimChars _

theorem trim_of_trimmed (trimmed : Trimmed s) : trim s = s := by
  rw [trim, trimChars_of_trimmedChars trimmed, String.ofList_toList]

@[simp] theorem trim_trim (s : String) : trim (trim s) = trim s := trim_of_trimmed (trimmed_trim s)

theorem isBlankText_iff : isBlankText s ↔ trim s = "" := String.isEmpty_iff

@[simp] theorem isBlankText_trim (s : String) : isBlankText (trim s) = isBlankText s := by
  rw [isBlankText, isBlankText, trim_trim]

/-! ## Blanks around a text -/

/-- Trimming takes away blanks, at the two ends. -/
theorem exists_blanks_around (cs : List Char) :
    ∃ before after, cs = before ++ trimChars cs ++ after ∧ (∀ c ∈ before, isBlank c) ∧
      ∀ c ∈ after, isBlank c := by
  refine ⟨cs.takeWhile isBlank, ((cs.dropWhile isBlank).reverse.takeWhile isBlank).reverse, ?_,
    fun c => List.mem_takeWhile_imp, fun c member => ?_⟩
  · rw [List.append_assoc, trimChars, ← List.reverse_append, List.takeWhile_append_dropWhile,
      List.reverse_reverse, List.takeWhile_append_dropWhile]
  · exact List.mem_takeWhile_imp (List.mem_reverse.1 member)

theorem trimChars_append_left (blank : ∀ c ∈ blanks, isBlank c) :
    trimChars (blanks ++ cs) = trimChars cs := by
  rw [trimChars, List.dropWhile_append_of_pos blank, trimChars]

theorem trimChars_append_right (blank : ∀ c ∈ blanks, isBlank c) :
    trimChars (cs ++ blanks) = trimChars cs := by
  have dropped : ∀ c ∈ blanks.reverse, isBlank c := fun c member =>
    blank c (List.mem_reverse.1 member)
  rw [trimChars, trimChars, List.dropWhile_append]
  cases rest : cs.dropWhile isBlank with
  | nil => rw [List.isEmpty_nil, if_pos rfl, List.dropWhile_eq_nil_iff.2 blank]
  | cons c rest =>
    rw [List.isEmpty_cons, if_neg Bool.false_ne_true, List.reverse_append,
      List.dropWhile_append_of_pos dropped]

theorem isBlank_of_isBlankText (blank : isBlankText s) : ∀ c ∈ s.toList, isBlank c := by
  obtain ⟨before, after, split, blankBefore, blankAfter⟩ := exists_blanks_around s.toList
  have nothing : trimChars s.toList = [] := by
    rw [isBlankText, String.isEmpty_iff, trim] at blank
    exact String.ofList_eq_empty_iff.1 blank
  rw [split, nothing, List.append_nil, List.forall_mem_append]
  exact ⟨blankBefore, blankAfter⟩

theorem not_mem_of_isBlankText {c : Char} (plain : isBlank c = false) (blank : isBlankText s) :
    c ∉ s.toList := by
  intro member
  exact Bool.false_ne_true (plain.symm.trans (isBlank_of_isBlankText blank c member))

/-- Blanks around a text make no difference to what is left of it. -/
theorem trim_blanks_around (blankLeft : isBlankText left) (blankRight : isBlankText right) :
    trim (left ++ s ++ right) = trim s := by
  rw [trim, String.toList_append, String.toList_append,
    trimChars_append_right (isBlank_of_isBlankText blankRight),
    trimChars_append_left (isBlank_of_isBlankText blankLeft), trim]

end PartsCatalog.Text
