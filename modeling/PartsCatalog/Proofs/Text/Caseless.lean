import Mathlib.Data.List.Basic
import Mathlib.Data.String.Basic
import PartsCatalog.Proofs.Text.Lowercase

/-!
# Containing words with no regard to case

What it means that a text contains some words with no regard to case is told letter by letter
(`ContainsCaseless`): every character counts as the letters of its lower case, and a sigma in each
of its three forms counts as one letter.  A text so contains whatever it contains word for word.

Lowering a whole text gives the same letters, but distinguishes two forms of sigma
(`map_smallSigma_lowercaseFrom`).  So the lower-case form of a text contains that of some words
exactly if the text contains the words in a place where their sigmas take the same forms as in the
words alone (`containsLowered_iff`).
-/

namespace PartsCatalog.Text

variable {c : Char} {cs before left right front : List Char} {words s : String}

/-! ## Letters -/

/-- A sigma: the capital, the small one and the one at the end of a word. -/
def IsSigma (c : Char) : Prop := c = 'Σ' ∨ c = 'σ' ∨ c = 'ς'

instance (c : Char) : Decidable (IsSigma c) := inferInstanceAs (Decidable (_ ∨ _))

/-- The letters that a character counts as, with no regard to case. -/
def lettersOf (c : Char) : List Char :=
  if IsSigma c then ['σ'] else if c = 'İ' then ['i', '\u0307'] else [lowercaseChar c]

/-- The letters of a text, with no regard to case. -/
def letters (cs : List Char) : List Char := cs.flatMap lettersOf

/-- A text contains some words with no regard to case. -/
def ContainsCaseless (words s : String) : Prop := letters words.toList <:+: letters s.toList

instance (words s : String) : Decidable (ContainsCaseless words s) :=
  inferInstanceAs (Decidable (_ <:+: _))

theorem letters_cons : letters (c :: cs) = lettersOf c ++ letters cs := rfl

theorem letters_append : letters (left ++ right) = letters left ++ letters right :=
  List.flatMap_append

theorem lettersOf_sigma (sigma : IsSigma c) : lettersOf c = ['σ'] := if_pos sigma

/-- A text contains, with no regard to case, what it contains word for word. -/
theorem ContainsCaseless.of_occurs (occurs : words.toList <:+: s.toList) :
    ContainsCaseless words s := by
  obtain ⟨front, rest, split⟩ := occurs
  rw [ContainsCaseless, ← split, letters_append, letters_append]
  exact List.infix_append ..

/-- Among ASCII characters, words are contained where they occur with all letters made small. -/
theorem containsCaseless_iff_of_ascii (ascii : ∀ c ∈ words.toList ++ s.toList, c.toNat < 128) :
    ContainsCaseless words s ↔
      words.toList.map Char.toLower <:+: s.toList.map Char.toLower := by
  have table : ∀ n < 128, lettersOf (Char.ofNat n) = [(Char.ofNat n).toLower] := by decide +kernel
  have lowered (cs : List Char) (ascii : ∀ c ∈ cs, c.toNat < 128) :
      letters cs = cs.map Char.toLower := by
    rw [List.map_eq_flatMap]
    refine List.flatMap_congr fun c member => ?_
    have own := table c.toNat (ascii c member)
    rwa [Char.ofNat_toNat] at own
  rw [ContainsCaseless, lowered _ fun c member => ascii c (List.mem_append_left _ member),
    lowered _ fun c member => ascii c (List.mem_append_right _ member)]

/-! ## Forms of sigma -/

/-- A character, or the small sigma in place of the final one. -/
def smallSigma (c : Char) : Char := if c = 'ς' then 'σ' else c

theorem smallSigma_eq_iff : smallSigma c = 'σ' ↔ c ∈ ['σ', 'ς'] := by
  rw [List.mem_pair, smallSigma]
  split
  · simp [*]
  · simp [*]

theorem smallSigma_of_not_mem (other : c ∉ ['σ', 'ς']) : smallSigma c = c :=
  if_neg fun final => other (by simp [final])

/-- Only sigmas become other characters. -/
theorem eq_of_smallSigma_eq {d : Char} (same : smallSigma c = smallSigma d)
    (other : c ∉ ['σ', 'ς']) : c = d := by
  have other' : d ∉ ['σ', 'ς'] := by rwa [← smallSigma_eq_iff, ← same, smallSigma_eq_iff]
  rwa [smallSigma_of_not_mem other, smallSigma_of_not_mem other'] at same

/-- Characters that differ at most in the forms of their sigmas are equal if those forms are. -/
theorem eq_of_map_smallSigma {xs ys : List Char} (same : xs.map smallSigma = ys.map smallSigma)
    (sigmas : ∀ left x right left' y right', xs = left ++ x :: right → x ∈ ['σ', 'ς'] →
      ys = left' ++ y :: right' → y ∈ ['σ', 'ς'] →
      left.map smallSigma = left'.map smallSigma → x = y) : xs = ys := by
  have sizes : xs.length = ys.length := by simpa using congrArg List.length same
  refine List.ext_getElem sizes fun i here there => ?_
  have alike : smallSigma xs[i] = smallSigma ys[i] := by
    simpa [here, there] using congrArg (·[i]?) same
  by_cases sigma : xs[i] ∈ ['σ', 'ς']
  · refine sigmas (xs.take i) xs[i] (xs.drop (i + 1)) (ys.take i) ys[i] (ys.drop (i + 1))
      (by simp) sigma (by simp) ?_ ?_
    · rwa [← smallSigma_eq_iff, ← alike, smallSigma_eq_iff]
    · rw [List.map_take, List.map_take, same]
  · exact eq_of_smallSigma_eq alike sigma

/-- The lower-case form of a sigma, with what stands before it given nearest first. -/
def sigmaForm (before : List Char) (c : Char) (after : List Char) : Char :=
  if c = 'Σ' then lowercaseSigma before after else c

theorem smallSigma_sigmaForm (sigma : IsSigma c) (before after : List Char) :
    smallSigma (sigmaForm before c after) = 'σ' := by
  rcases sigma with rfl | rfl | rfl
  · rw [sigmaForm, if_pos rfl, lowercaseSigma]
    split <;> decide
  · rfl
  · rfl

theorem all_covers_sigma : lowercaseRuns.all fun run => ['σ', 'ς'].all fun small =>
    !run.covers (small.toNat - run.offset).toNat ||
      (small.toNat - run.offset).toNat == 'Σ'.toNat := by
  decide +kernel

/-- A run of capitals that leads to a sigma starts from the capital one. -/
theorem eq_sigma_of_covers {run : CaseRun} (member : run ∈ lowercaseRuns) {small : Char}
    (sigma : small ∈ ['σ', 'ς']) (covers : run.covers (small.toNat - run.offset).toNat) :
    (small.toNat - run.offset).toNat = 'Σ'.toNat := by
  have checked := List.all_eq_true.1 (List.all_eq_true.1 all_covers_sigma run member) small sigma
  rw [covers, Bool.not_true, Bool.false_or] at checked
  exact eq_of_beq checked

theorem toNat_ofNat (n : Nat) : (Char.ofNat n).toNat = n ∨ (Char.ofNat n).toNat = 0 := by
  by_cases valid : n.isValidChar
  · exact .inl (congrArg Char.toNat (dif_pos valid))
  · exact .inr (congrArg Char.toNat (dif_neg valid))

/-- Only sigmas are lowered to a sigma. -/
theorem isSigma_of_lowercaseChar (lowered : lowercaseChar c ∈ ['σ', 'ς']) : IsSigma c := by
  unfold lowercaseChar at lowered
  cases found : lowercaseRuns.find? (·.covers c.toNat) with
  | none =>
    rw [found] at lowered
    exact .inr (List.mem_pair.1 lowered)
  | some run =>
    rw [found] at lowered
    obtain ⟨small, isSmall⟩ : ∃ small, Char.ofNat (c.toNat + run.offset).toNat = small := ⟨_, rfl⟩
    replace lowered : small ∈ ['σ', 'ς'] := isSmall ▸ lowered
    have place : small.toNat = (c.toNat + run.offset).toNat := by
      rw [← isSmall]
      refine (toNat_ofNat _).resolve_right fun zero => ?_
      rw [isSmall] at zero
      rcases List.mem_pair.1 lowered with rfl | rfl <;> cases zero
    have origin : (small.toNat - run.offset).toNat = c.toNat := by
      have : 0 < small.toNat := by rcases List.mem_pair.1 lowered with rfl | rfl <;> decide
      omega
    have covers := List.find?_some found
    rw [← origin] at covers
    have capital := eq_sigma_of_covers (List.mem_of_find?_eq_some found) lowered covers
    exact .inl (Char.toNat_inj.1 (origin ▸ capital))

theorem not_mem_lettersOf {x : Char} (other : ¬ IsSigma c) (letter : x ∈ lettersOf c) :
    x ∉ ['σ', 'ς'] := by
  rw [lettersOf, if_neg other] at letter
  split at letter
  · rcases List.mem_pair.1 letter with rfl | rfl <;> decide
  · rw [List.mem_singleton.1 letter]
    exact fun sigma => other (isSigma_of_lowercaseChar sigma)

/-! ## Lowering letter by letter -/

theorem lowercaseFrom_cons_sigma (sigma : IsSigma c) (rest : List Char) :
    lowercaseFrom before (c :: rest) =
      sigmaForm before c rest :: lowercaseFrom (c :: before) rest := by
  have small : lowercaseChar 'σ' = 'σ' := by decide +kernel
  have final : lowercaseChar 'ς' = 'ς' := by decide +kernel
  rcases sigma with rfl | rfl | rfl
  · rfl
  · exact congrArg (· :: _) small
  · exact congrArg (· :: _) final

theorem lowercaseFrom_cons_other (other : ¬ IsSigma c) (rest : List Char) :
    lowercaseFrom before (c :: rest) = lettersOf c ++ lowercaseFrom (c :: before) rest := by
  have notCapital : c ≠ 'Σ' := fun capital => other (.inl capital)
  rw [lowercaseFrom, if_neg notCapital, lettersOf, if_neg other]

theorem map_smallSigma_lettersOf (other : ¬ IsSigma c) :
    (lettersOf c).map smallSigma = lettersOf c := by
  refine (List.map_congr_left fun x letter => ?_).trans (List.map_id _)
  exact smallSigma_of_not_mem (not_mem_lettersOf other letter)

/-- What stands at the start of a text is lowered to its letters, with some of the sigmas in their
final form. -/
theorem exists_lowercaseFrom_letters (before cs rest : List Char) :
    ∃ lowered, lowercaseFrom before (cs ++ rest) =
        lowered ++ lowercaseFrom (cs.reverse ++ before) rest ∧
      lowered.map smallSigma = letters cs := by
  induction cs generalizing before with
  | nil => exact ⟨[], rfl, rfl⟩
  | cons c cs ih =>
    obtain ⟨lowered, split, same⟩ := ih (c :: before)
    rw [List.cons_append, List.reverse_cons, List.append_assoc, List.singleton_append, letters_cons]
    by_cases sigma : IsSigma c
    · refine ⟨sigmaForm before c (cs ++ rest) :: lowered, ?_, ?_⟩
      · rw [lowercaseFrom_cons_sigma sigma, split, List.cons_append]
      · rw [List.map_cons, smallSigma_sigmaForm sigma, same, lettersOf_sigma sigma,
          List.singleton_append]
    · refine ⟨lettersOf c ++ lowered, ?_, ?_⟩
      · rw [lowercaseFrom_cons_other sigma, split, List.append_assoc]
      · rw [List.map_append, map_smallSigma_lettersOf sigma, same]

theorem map_smallSigma_lowercaseFrom (before cs : List Char) :
    (lowercaseFrom before cs).map smallSigma = letters cs := by
  obtain ⟨lowered, split, same⟩ := exists_lowercaseFrom_letters before cs []
  rw [lowercaseFrom, List.append_nil, List.append_nil] at split
  rw [split, same]

/-- A sigma in the lowered text is the form of a sigma, in front of which the same letters stand. -/
theorem exists_sigma_of_lowercaseFrom {lowered rest : List Char} {x : Char}
    (split : lowercaseFrom before cs = lowered ++ x :: rest) (sigma : x ∈ ['σ', 'ς']) :
    ∃ left c right, cs = left ++ c :: right ∧ IsSigma c ∧
      x = sigmaForm (left.reverse ++ before) c right ∧ letters left = lowered.map smallSigma := by
  induction cs generalizing before lowered with
  | nil => cases lowered <;> cases split
  | cons c cs ih =>
    by_cases isSigma : IsSigma c
    · rw [lowercaseFrom_cons_sigma isSigma] at split
      cases lowered with
      | nil =>
        obtain ⟨rfl, -⟩ := List.cons.inj split
        exact ⟨[], c, cs, rfl, isSigma, rfl, rfl⟩
      | cons y lowered =>
        obtain ⟨rfl, after⟩ := List.cons.inj split
        obtain ⟨left, d, right, rfl, found, form, same⟩ := ih after
        refine ⟨c :: left, d, right, rfl, found, ?_, ?_⟩
        · rw [form, List.reverse_cons, List.append_assoc, List.singleton_append]
        · rw [letters_cons, lettersOf_sigma isSigma, same, List.map_cons,
            smallSigma_sigmaForm isSigma, List.singleton_append]
    · rw [lowercaseFrom_cons_other isSigma] at split
      -- The sigma is none of the letters of `c`, so it stands behind them.
      obtain ⟨behind, rfl, after⟩ : ∃ behind, lowered = lettersOf c ++ behind ∧
          lowercaseFrom (c :: before) cs = behind ++ x :: rest := by
        rcases List.append_eq_append_iff.1 split with ⟨behind, rfl, same⟩ | ⟨inside, own, same⟩
        · exact ⟨behind, rfl, same⟩
        · cases inside with
          | nil => exact ⟨[], by simpa using own.symm, same.symm⟩
          | cons y inside =>
            obtain ⟨rfl, -⟩ := List.cons.inj same
            exact absurd sigma (not_mem_lettersOf isSigma (by simp [own]))
      obtain ⟨left, d, right, rfl, found, form, same⟩ := ih after
      refine ⟨c :: left, d, right, rfl, found, ?_, ?_⟩
      · rw [form, List.reverse_cons, List.append_assoc, List.singleton_append]
      · rw [letters_cons, same, List.map_append, map_smallSigma_lettersOf isSigma]

/-! ## Where sigmas agree -/

/-- Some words stand in a text behind the letters `front`, and each sigma of theirs takes the same
form as the one that stands behind as many letters of the text. -/
structure StandsAt (front words cs : List Char) : Prop where
  occurs : front ++ letters words <+: letters cs
  sigmas : ∀ left c right before d after, words = left ++ c :: right → IsSigma c →
    cs = before ++ d :: after → IsSigma d → letters before = front ++ letters left →
    sigmaForm before.reverse d after = sigmaForm left.reverse c right

/-- A text contains some words, with no regard to case, in a place where their sigmas agree. -/
def ContainsAlike (words s : String) : Prop := ∃ front, StandsAt front words.toList s.toList

theorem ContainsAlike.containsCaseless (alike : ContainsAlike words s) :
    ContainsCaseless words s := by
  obtain ⟨front, stands⟩ := alike
  obtain ⟨rest, split⟩ := stands.occurs
  exact ⟨front, rest, split⟩

/-- Without a sigma there is nothing to agree on. -/
theorem ContainsCaseless.containsAlike (contains : ContainsCaseless words s)
    (noSigma : ∀ c ∈ words.toList, ¬ IsSigma c) : ContainsAlike words s := by
  obtain ⟨front, rest, split⟩ := contains
  refine ⟨front, ⟨rest, split⟩, fun left c right _ _ _ here sigma => ?_⟩
  exact absurd sigma (noSigma c (by simp [here]))

theorem standsAt_of_lowered {words cs lowered rest : List Char}
    (found : lowered ++ lowercaseFrom [] words ++ rest = lowercaseFrom [] cs) :
    StandsAt (lowered.map smallSigma) words cs where
  occurs := by
    refine ⟨rest.map smallSigma, ?_⟩
    rw [← map_smallSigma_lowercaseFrom [] words, ← map_smallSigma_lowercaseFrom [] cs, ← found,
      List.map_append, List.map_append]
  sigmas left c right before d after here sigma there sigma' same := by
    obtain ⟨alone, inWords, lettersAlone⟩ := exists_lowercaseFrom_letters [] left (c :: right)
    obtain ⟨ahead, inText, lettersAhead⟩ := exists_lowercaseFrom_letters [] before (d :: after)
    rw [List.append_nil, lowercaseFrom_cons_sigma sigma, ← here] at inWords
    rw [List.append_nil, lowercaseFrom_cons_sigma sigma', ← there, ← found, inWords] at inText
    have length : (lowered ++ alone).length = ahead.length := by
      have sizes := congrArg List.length same
      rw [← lettersAlone, ← lettersAhead] at sizes
      simpa using sizes.symm
    have tails := (List.append_inj (by simpa using inText) length).2
    exact (List.cons.inj tails).1.symm

theorem infix_of_standsAt {words cs : List Char} (stands : StandsAt front words cs) :
    lowercaseFrom [] words <:+: lowercaseFrom [] cs := by
  obtain ⟨rest, split⟩ := stands.occurs
  rw [← map_smallSigma_lowercaseFrom [] cs, eq_comm, List.map_eq_append_iff] at split
  obtain ⟨upTo, behind, inText, atPlace, -⟩ := split
  obtain ⟨ahead, found, rfl, inFront, same⟩ := List.map_eq_append_iff.1 atPlace
  rw [← map_smallSigma_lowercaseFrom [] words] at same
  suffices equal : found = lowercaseFrom [] words from ⟨ahead, behind, by rw [inText, equal]⟩
  refine eq_of_map_smallSigma same fun upTo x rest alone y rest' here sigma there sigma' alike => ?_
  have text : lowercaseFrom [] cs = (ahead ++ upTo) ++ x :: (rest ++ behind) := by
    rw [inText, here]
    simp
  obtain ⟨before, d, after, inCs, isSigma', form', front'⟩ :=
    exists_sigma_of_lowercaseFrom text sigma
  obtain ⟨left, c, right, inWords, isSigma, form, own⟩ := exists_sigma_of_lowercaseFrom there sigma'
  rw [List.append_nil] at form form'
  rw [form, form']
  refine stands.sigmas left c right before d after inWords isSigma inCs isSigma' ?_
  rw [front', own, List.map_append, inFront, alike]

/-- **What lower-case forms tell.**  The lower-case form of a text contains that of some words
exactly if the text contains the words, with no regard to case, in a place where their sigmas agree
with those of the words alone. -/
theorem containsLowered_iff : ContainsLowered words s ↔ ContainsAlike words s := by
  rw [ContainsLowered, lowercase, lowercase, String.toList_ofList, String.toList_ofList]
  constructor
  · rintro ⟨lowered, rest, found⟩
    exact ⟨_, standsAt_of_lowered found⟩
  · rintro ⟨front, stands⟩
    exact infix_of_standsAt stands

instance (words s : String) : Decidable (ContainsAlike words s) :=
  decidable_of_iff (ContainsLowered words s) containsLowered_iff

/-- Words that a text holds in a place where their capital sigmas are lowered as in the words alone
stand in such a place. -/
theorem ContainsAlike.of_holdsVerbatim (held : HoldsVerbatim words s) : ContainsAlike words s :=
  containsLowered_iff.1 (.of_holdsVerbatim held)

end PartsCatalog.Text
