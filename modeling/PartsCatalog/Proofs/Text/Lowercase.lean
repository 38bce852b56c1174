import Mathlib.Data.List.TakeWhile
import PartsCatalog.Text.Find

/-!
# Parts of lowered texts

Lowering a text goes character by character, and only a capital sigma looks at what stands around
it.  So a part of a text is lowered like the same characters elsewhere as long as its capital sigmas
are (`exists_lowercaseFrom_append`), which they are wherever a letter stands on either side of them
within the part (`sigmasAlike_of_inside`).  Words that a text holds in such a place are found in it
by their lower-case form (`holdsWords_of_holdsVerbatim`).
-/

namespace PartsCatalog.Text

variable {cs before after before' after' : List Char} {s words : String}

/-! ## Capital sigmas -/

/-- Every capital sigma of `cs` is lowered in the same way in two surroundings; what stands before
`cs` is given nearest first. -/
def SigmasAlike (cs before after before' after' : List Char) : Prop :=
  ∀ left right, cs = left ++ 'Σ' :: right →
    lowercaseSigma (left.reverse ++ before) (right ++ after) =
      lowercaseSigma (left.reverse ++ before') (right ++ after')

theorem SigmasAlike.tail {c : Char} (alike : SigmasAlike (c :: cs) before after before' after') :
    SigmasAlike cs (c :: before) after (c :: before') after' := by
  intro left right split
  simpa using alike (c :: left) right (by rw [split, List.cons_append])

/-- A capital sigma does not look past a character that it does not read over. -/
theorem startsCased_append (stops : ∃ c ∈ cs, isCaseIgnorable c = false) :
    startsCased (cs ++ after) = startsCased cs := by
  have rest : (cs.dropWhile isCaseIgnorable).isEmpty = false := by
    rw [Bool.eq_false_iff, Ne, List.isEmpty_iff, List.dropWhile_eq_nil_iff]
    obtain ⟨c, member, stop⟩ := stops
    exact fun all => Bool.false_ne_true (stop.symm.trans (all c member))
  unfold startsCased
  rw [List.dropWhile_append, rest, if_neg Bool.false_ne_true]
  cases left : cs.dropWhile isCaseIgnorable with
  | nil => rw [left] at rest; cases rest
  | cons c cs => rfl

/-- A capital sigma that has such a character on either side is lowered alike everywhere. -/
theorem sigmasAlike_of_inside (inside : ∀ left right, cs = left ++ 'Σ' :: right →
      (∃ c ∈ left, isCaseIgnorable c = false) ∧ ∃ c ∈ right, isCaseIgnorable c = false) :
    SigmasAlike cs before after before' after' := by
  intro left right split
  obtain ⟨⟨c, member, stop⟩, stopsRight⟩ := inside left right split
  have stopsLeft : ∃ c ∈ left.reverse, isCaseIgnorable c = false :=
    ⟨c, List.mem_reverse.2 member, stop⟩
  rw [lowercaseSigma, lowercaseSigma, startsCased_append stopsLeft, startsCased_append stopsRight,
    startsCased_append stopsLeft, startsCased_append stopsRight]

/-! ## Lowering a part -/

/-- Characters are lowered alike in two surroundings if their capital sigmas are. -/
theorem exists_lowercaseFrom_append (alike : SigmasAlike cs before after before' after') :
    ∃ lowered,
      lowercaseFrom before (cs ++ after) = lowered ++ lowercaseFrom (cs.reverse ++ before) after ∧
      lowercaseFrom before' (cs ++ after') =
        lowered ++ lowercaseFrom (cs.reverse ++ before') after' := by
  induction cs generalizing before before' with
  | nil => exact ⟨[], rfl, rfl⟩
  | cons c cs ih =>
    obtain ⟨lowered, here, there⟩ := ih alike.tail
    have first : ∃ front, lowercaseFrom before (c :: (cs ++ after)) =
          front ++ lowercaseFrom (c :: before) (cs ++ after) ∧
        lowercaseFrom before' (c :: (cs ++ after')) =
          front ++ lowercaseFrom (c :: before') (cs ++ after') := by
      refine ⟨_, rfl, ?_⟩
      by_cases sigma : c = 'Σ'
      · have same := alike [] cs (by rw [sigma, List.nil_append])
        rw [List.reverse_nil, List.nil_append, List.nil_append] at same
        rw [lowercaseFrom, if_pos sigma, if_pos sigma, same]
      · rw [lowercaseFrom, if_neg sigma, if_neg sigma]
    obtain ⟨front, here', there'⟩ := first
    refine ⟨front ++ lowered, ?_, ?_⟩
    · rw [List.cons_append, here', here]
      simp
    · rw [List.cons_append, there', there]
      simp

/-- Characters that are lowered as if they stood alone are found in the lowered text. -/
theorem infix_lowercaseFrom (alike : SigmasAlike cs before.reverse after [] []) :
    lowercaseFrom [] cs <:+: lowercaseFrom [] (before ++ cs ++ after) := by
  have unmoved : SigmasAlike before [] (cs ++ after) [] (cs ++ after) := fun _ _ _ => rfl
  obtain ⟨front, -, inFront⟩ := exists_lowercaseFrom_append unmoved
  obtain ⟨lowered, inText, alone⟩ := exists_lowercaseFrom_append alike
  rw [List.append_nil] at alone inFront
  rw [List.append_nil, lowercaseFrom, List.append_nil] at alone
  rw [List.append_assoc, inFront, inText, alone, ← List.append_assoc]
  exact ⟨front, _, rfl⟩

/-! ## Finding -/

theorem occursIn_iff {needle cs : List Char} : occursIn needle cs ↔ needle <:+: cs := by
  induction cs with
  | nil => rw [occursIn, List.isEmpty_iff, List.infix_nil]
  | cons c cs ih =>
    rw [occursIn, Bool.or_eq_true, List.isPrefixOf_iff_prefix, ih, List.infix_cons_iff]

theorem holdsWords_iff {needle : String} :
    holdsWords needle s ↔ needle.toList <:+: (lowercase s).toList := occursIn_iff

theorem queryWords?_of_blank (blank : isBlankText s) : queryWords? s = none := if_pos blank

theorem queryWords?_of_not_blank (nonblank : ¬ isBlankText s) :
    queryWords? s = some (lowercase (trim s)) := if_neg nonblank

/-- The lower-case form of a text contains that of some words.  Both are lowered as a whole, so a
capital sigma counts as the letter that it becomes where it stands, and a text need not contain in
this way what it contains word for word. -/
def ContainsLowered (words s : String) : Prop :=
  (lowercase words).toList <:+: (lowercase s).toList

instance (words s : String) : Decidable (ContainsLowered words s) :=
  inferInstanceAs (Decidable (_ <:+: _))

theorem holdsWords_lowercase_iff : holdsWords (lowercase words) s ↔ ContainsLowered words s :=
  holdsWords_iff

/-- What holds of the words that a query asks for, if there is a query and it asks for any. -/
theorem all_queryWords?_iff {query : Option String} {holds : String → Bool} :
    (query.bind queryWords?).all holds ↔
      ∀ raw ∈ query, ¬ isBlankText raw → holds (lowercase (trim raw)) := by
  cases query with
  | none => simp
  | some raw =>
    by_cases blank : isBlankText raw
    · simp [queryWords?_of_blank blank, blank]
    · simp [queryWords?_of_not_blank blank, blank]

theorem isNone_queryWords?_iff {query : Option String} :
    (query.bind queryWords?).isNone ↔ ∀ raw ∈ query, isBlankText raw := by
  cases query with
  | none => simp
  | some raw =>
    by_cases blank : isBlankText raw
    · simp [queryWords?_of_blank blank, blank]
    · simp [queryWords?_of_not_blank blank, blank]

/-- A text holds some words as they are, in a place where each capital sigma of them has the
lower-case form that it has in the words alone. -/
def HoldsVerbatim (words s : String) : Prop :=
  ∃ before after, s.toList = before ++ words.toList ++ after ∧
    SigmasAlike words.toList before.reverse after [] []

theorem ContainsLowered.of_holdsVerbatim (held : HoldsVerbatim words s) :
    ContainsLowered words s := by
  obtain ⟨before, after, split, alike⟩ := held
  rw [ContainsLowered, lowercase, lowercase, String.toList_ofList, String.toList_ofList, split]
  exact infix_lowercaseFrom alike

/-- Words that a text holds in such a place are found in it by their lower-case form. -/
theorem holdsWords_of_holdsVerbatim (held : HoldsVerbatim words s) :
    holdsWords (lowercase words) s :=
  holdsWords_lowercase_iff.2 (.of_holdsVerbatim held)

/-- Words are held wherever they occur if every capital sigma of them stands between characters that
it does not read over. -/
theorem holdsVerbatim_of_inside (occurs : words.toList <:+: s.toList)
    (inside : ∀ left right, words.toList = left ++ 'Σ' :: right →
      (∃ c ∈ left, isCaseIgnorable c = false) ∧ ∃ c ∈ right, isCaseIgnorable c = false) :
    HoldsVerbatim words s := by
  obtain ⟨before, after, split⟩ := occurs
  exact ⟨before, after, split.symm, sigmasAlike_of_inside inside⟩

end PartsCatalog.Text
