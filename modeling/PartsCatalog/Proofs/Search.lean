import Mathlib.Data.List.Infix
import PartsCatalog.Proofs.Filter
import PartsCatalog.Proofs.Text.Lowercase
import PartsCatalog.Search

/-!
# What a search finds

A search shows the first entries that the filter of its query keeps
(`search_is_the_start_of_filtering`), except that a blank query filters nothing and finds nothing
(`blank_search_leaves_products_out`).

What a query says word for word is found (`search_misses_no_verbatim_words`), unless it begins or
ends in a capital sigma that is lowered to another letter in the text
(`sigma_at_the_end_is_missed`).
-/

namespace PartsCatalog

/-- The lower-case name or description of a product holds the words that are looked for. -/
def Product.Mentions (p : Product) (words : String) : Prop :=
  words.toList <:+: (Text.lowercase p.name).toList ∨
    words.toList <:+: (Text.lowercase p.description).toList

instance (p : Product) (words : String) : Decidable (p.Mentions words) :=
  inferInstanceAs (Decidable (_ ∨ _))

theorem Product.holdsWords_iff {p : Product} {words : String} :
    p.holdsWords words ↔ p.Mentions words := by
  rw [holdsWords, Bool.or_eq_true, Text.holdsWords_iff, Text.holdsWords_iff, Mentions]

namespace Search

section Selections

variable {α : Type} {holdsWords : α → String → Bool} {query : String} {limit : Nat}

theorem select_of_blank (blank : Text.isBlankText query) (entries : List α) :
    select holdsWords query limit entries = [] := by
  rw [select, Text.queryWords?_of_blank blank]

theorem select_of_not_blank (nonblank : ¬ Text.isBlankText query) (entries : List α) :
    select holdsWords query limit entries =
      (entries.filter (holdsWords · (Text.lowercase (Text.trim query)))).take limit := by
  rw [select, Text.queryWords?_of_not_blank nonblank]

/-- A higher limit adds entries behind those of a lower one. -/
theorem select_extends {more : Nat} (higher : limit ≤ more) (entries : List α) :
    select holdsWords query limit entries <+: select holdsWords query more entries := by
  rw [select, select]
  cases Text.queryWords? query with
  | none => exact List.prefix_refl []
  | some words => exact List.take_prefix_take_left higher

theorem length_select_le (entries : List α) :
    (select holdsWords query limit entries).length ≤ limit := by
  rw [select]
  cases Text.queryWords? query with
  | none => exact Nat.zero_le limit
  | some words => exact List.length_take_le limit _

/-- An entry with the words of the query is shown if there is room for all. -/
theorem mem_select {entry : α} {entries : List α} (nonblank : ¬ Text.isBlankText query)
    (held : holdsWords entry (Text.lowercase (Text.trim query))) (member : entry ∈ entries)
    (room : entries.length ≤ limit) : entry ∈ select holdsWords query limit entries := by
  rw [select_of_not_blank nonblank,
    List.take_of_length_le (Nat.le_trans (List.length_filter_le _ _) room)]
  exact List.mem_filter.2 ⟨member, held⟩

end Selections

variable {query : String} {limit : Nat}

theorem select_ofQuery (nonblank : ¬ Text.isBlankText query) (ms : List Material) :
    (MaterialFilter.ofQuery query).select ms =
      ms.filter (·.holdsWords (Text.lowercase (Text.trim query))) := by
  rw [MaterialFilter.select_eq]
  refine List.filter_congr fun m _ => ?_
  rw [MaterialFilter.accepts_ofQuery, Text.queryWords?_of_not_blank nonblank, Option.all_some]

/-- What a filter keeps for the words of a name, a search without a limit finds. -/
theorem select_ofName_sublist (nonblank : ¬ Text.isBlankText query) {ps : List Product}
    (room : ps.length ≤ limit) :
    ((ProductFilter.ofName query).select ps).Sublist (products query limit ps) := by
  rw [products, select_of_not_blank nonblank,
    List.take_of_length_le (Nat.le_trans (List.length_filter_le _ _) room), ProductFilter.select_eq]
  refine List.monotone_filter_right ps fun p kept => ?_
  rw [ProductFilter.accepts_ofName, Text.queryWords?_of_not_blank nonblank] at kept
  exact Bool.or_eq_true_iff.2 (.inl kept)

/-- **A search shows the start of what the filter of its query keeps.**  With a query that is not
blank it finds the first materials of those with the query as their only criterion, and the first
products whose lower-case name or description holds the trimmed, lower-case query; so without a
limit it finds all products that are filtered by their name, in their order.  A blank query finds
nothing.  A higher limit only adds to what is found, and there is never more of a kind than the
limit. -/
theorem search_is_the_start_of_filtering (query : String) (limit : Nat) (ms : List Material)
    (ps : List Product) :
    (¬ Text.isBlankText query →
      materials query limit ms = ((MaterialFilter.ofQuery query).select ms).take limit ∧
      products query limit ps =
        (ps.filter fun p => p.Mentions (Text.lowercase (Text.trim query))).take limit ∧
      (ps.length ≤ limit →
        ((ProductFilter.ofName query).select ps).Sublist (products query limit ps))) ∧
    (Text.isBlankText query → materials query limit ms = [] ∧ products query limit ps = []) ∧
    (∀ more, limit ≤ more →
      materials query limit ms <+: materials query more ms ∧
      products query limit ps <+: products query more ps) ∧
    (run query limit ms ps).materials.length ≤ limit ∧
    (run query limit ms ps).products.length ≤ limit := by
  refine ⟨fun nonblank => ⟨?_, ?_, fun room => select_ofName_sublist nonblank room⟩,
    fun blank => ⟨?_, ?_⟩, fun more higher => ⟨select_extends higher ms, select_extends higher ps⟩,
    ?_, ?_⟩
  · rw [materials, select_of_not_blank nonblank, select_ofQuery nonblank]
  · rw [products, select_of_not_blank nonblank]
    refine congrArg (List.take limit) (List.filter_congr fun p _ => ?_)
    rw [Bool.eq_iff_iff, decide_eq_true_iff, Product.holdsWords_iff]
  · rw [materials, select_of_blank blank]
  · rw [products, select_of_blank blank]
  · dsimp only [run, materials]
    exact length_select_le ms
  · dsimp only [run, products]
    exact length_select_le ps

/-- The first of two lamps. -/
theorem first_lamp_is_shown :
    ¬ Text.isBlankText " LAMP" ∧
      products " LAMP" 1 [.new 12 "Lamp", .new 13 "Small lamp"] =
        ([.new 12 "Lamp", .new 13 "Small lamp"].filter fun p : Product =>
          p.Mentions (Text.lowercase (Text.trim " LAMP"))).take 1 := by
  have nonblank : ¬ Text.isBlankText " LAMP" := by decide +kernel
  obtain ⟨shown, -⟩ := search_is_the_start_of_filtering " LAMP" 1 []
    [.new 12 "Lamp", .new 13 "Small lamp"]
  exact ⟨nonblank, (shown nonblank).2.1⟩

/-- A blank query keeps a product in a list and does not find it in a search. -/
theorem blank_search_leaves_products_out :
    ¬ ((ProductFilter.ofName "  ").select [.new 12 "Lamp"]).Sublist
      (products "  " 10 [.new 12 "Lamp"]) := by
  have blank : Text.isBlankText "  " := by decide +kernel
  rw [products, select_of_blank blank, ProductFilter.select_eq]
  simp [ProductFilter.accepts_ofName, Text.queryWords?_of_blank blank]

/-! ## Verbatim words -/

/-- **A search misses no words that an entry holds as they are**, in a place where their capital
sigmas have the same lower-case form as in the words alone: a material is accepted by the filter of
the query and found by a search with room for all, and so is a product found.  That is any place if
every capital sigma of the query has a character on either side, within the query, at which the
reading of a word's case stops. -/
theorem search_misses_no_verbatim_words (query : String) (nonblank : ¬ Text.isBlankText query) :
    (∀ m : Material, ∀ text ∈ m.names ++ [m.primaryName, m.description],
      Text.HoldsVerbatim (Text.trim query) text →
        (MaterialFilter.ofQuery query).accepts m ∧
        ∀ ms limit, m ∈ ms → ms.length ≤ limit → m ∈ materials query limit ms) ∧
    (∀ p : Product, ∀ text ∈ [p.name, p.description],
      Text.HoldsVerbatim (Text.trim query) text →
        ∀ ps limit, p ∈ ps → ps.length ≤ limit → p ∈ products query limit ps) ∧
    ∀ text : String, (Text.trim query).toList <:+: text.toList →
      (∀ left right, (Text.trim query).toList = left ++ 'Σ' :: right →
        (∃ c ∈ left, Text.isCaseIgnorable c = false) ∧
          ∃ c ∈ right, Text.isCaseIgnorable c = false) →
      Text.HoldsVerbatim (Text.trim query) text := by
  refine ⟨fun m text member held => ?_, fun p text member held => ?_, fun text occurs inside =>
    Text.holdsVerbatim_of_inside occurs inside⟩
  · have holds : m.holdsWords (Text.lowercase (Text.trim query)) :=
      List.any_eq_true.2 ⟨text, member, Text.holdsWords_of_holdsVerbatim held⟩
    refine ⟨?_, fun ms limit member room => mem_select nonblank holds member room⟩
    rw [MaterialFilter.accepts_ofQuery, Text.queryWords?_of_not_blank nonblank]
    exact holds
  · have holds : p.holdsWords (Text.lowercase (Text.trim query)) := by
      have found := Text.holdsWords_of_holdsVerbatim held
      rw [Product.holdsWords, Bool.or_eq_true]
      rcases List.mem_pair.1 member with rfl | rfl
      · exact .inl found
      · exact .inr found
    exact fun ps limit member room => mem_select nonblank holds member room

/-- A material with nothing but a name. -/
def named (name : String) : Material :=
  { Material.new 1 { id := 1, name := "kg" } with names := [name] }

/-- A capital sigma between two letters of the query. -/
theorem gold_is_found :
    ¬ Text.isBlankText " ΥΣΟ" ∧ Text.HoldsVerbatim (Text.trim " ΥΣΟ") "ΧΡΥΣΟΣ" ∧
      named "ΧΡΥΣΟΣ" ∈ materials " ΥΣΟ" 1 [named "ΧΡΥΣΟΣ"] := by
  have nonblank : ¬ Text.isBlankText " ΥΣΟ" := by decide +kernel
  have words : (Text.trim " ΥΣΟ").toList = ['Υ', 'Σ', 'Ο'] := by decide +kernel
  obtain ⟨inMaterials, -, anywhere⟩ := search_misses_no_verbatim_words " ΥΣΟ" nonblank
  have held : Text.HoldsVerbatim (Text.trim " ΥΣΟ") "ΧΡΥΣΟΣ" := by
    refine anywhere _ (by decide +kernel) fun left right split => ?_
    obtain ⟨rfl, rfl⟩ : left = ['Υ'] ∧ right = ['Ο'] := by
      rw [words] at split
      match left with
      | [] | [_, _] | _ :: _ :: _ :: _ => simp at split
      | [_] => simpa [eq_comm] using split
    exact ⟨⟨'Υ', by decide, by decide +kernel⟩, 'Ο', by decide, by decide +kernel⟩
  have found := (inMaterials (named "ΧΡΥΣΟΣ") "ΧΡΥΣΟΣ" (by decide) held).2
  exact ⟨nonblank, held, found _ 1 List.mem_cons_self (Nat.le_refl 1)⟩

/-- A capital sigma at the end of the query is lowered as the end of a word, and inside a word of
the text it is not. -/
theorem sigma_at_the_end_is_missed :
    ¬ Text.isBlankText "ΑΣ" ∧ (Text.trim "ΑΣ").toList <:+: "ΑΣΑ".toList ∧
      ¬ (MaterialFilter.ofQuery "ΑΣ").accepts (named "ΑΣΑ") ∧
      materials "ΑΣ" 10 [named "ΑΣΑ"] = [] ∧ products "ΑΣ" 10 [.new 1 "ΑΣΑ"] = [] := by
  refine ⟨by decide +kernel, by decide +kernel, by decide +kernel, ?_, ?_⟩
  · exact List.isEmpty_iff.1 (by decide +kernel)
  · exact List.isEmpty_iff.1 (by decide +kernel)

end Search

end PartsCatalog
