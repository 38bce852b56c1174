import PartsCatalog.Filter
import PartsCatalog.Proofs.Text.Caseless

/-!
# Laws of filters

A filter without criteria accepts everything, so what passes a filter is what it accepts, whether or
not it is asked about every entry.  A filter with nothing but a query accepts what holds its words
(`accepts_ofQuery`).

What a filter accepts is what meets the criteria that are set (`Meets`), each by itself, and has the
words of its query in a place where their sigmas agree (`SigmasAgree`), which any place is if there
are none.  So the criteria may as well be applied one after another, in any order
(`filters_keep_what_meets_their_criteria`).  What has the words in other places alone is left out
(`contained_words_are_missed`).
-/

namespace PartsCatalog

/-! ## One selection after another -/

section Selections

variable {φ α : Type} {accepts : φ → α → Bool} {select : φ → List α → List α} {f : φ}
  {criteria order : List φ}

theorem foldl_filter (accepts : φ → α → Bool) (filters : List φ) (entries : List α) :
    filters.foldl (fun kept f => kept.filter (accepts f)) entries =
      entries.filter fun entry => filters.all (accepts · entry) := by
  induction filters generalizing entries with
  | nil => exact (List.filter_eq_self.2 fun _ _ => rfl).symm
  | cons f filters ih =>
    rw [List.foldl_cons, ih, List.filter_filter]
    exact List.filter_congr fun entry _ => by rw [List.all_cons, Bool.and_comm]

/-- The criteria of a filter select in any order what the filter selects. -/
theorem foldl_select (keeps : ∀ f entries, select f entries = entries.filter (accepts f))
    (together : ∀ entry, criteria.all (accepts · entry) = accepts f entry)
    (anyOrder : order.Perm criteria) (entries : List α) :
    order.foldl (fun kept criterion => select criterion kept) entries = select f entries := by
  simp only [keeps, foldl_filter]
  refine List.filter_congr fun entry _ => ?_
  rw [anyOrder.all_eq, together]

theorem select_select (keeps : ∀ f entries, select f entries = entries.filter (accepts f))
    (entries : List α) : select f (select f entries) = select f entries := by
  rw [keeps, keeps, List.filter_filter]
  exact List.filter_congr fun entry _ => Bool.and_self _

end Selections

/-! ## Ranges -/

namespace Bounds

/-- Neither end of a range is set. -/
def IsOpen (r : Bounds) : Prop := r.least? = none ∧ r.most? = none

/-- A number lies in a range, to which its ends belong. -/
def Encloses (r : Bounds) (x : Binary64) : Prop :=
  (∀ least ∈ r.least?, least.atMost x) ∧ ∀ most ∈ r.most?, x.atMost most

variable {r : Bounds} {x : Binary64}

theorem boundsAnything_iff : r.boundsAnything ↔ ¬ r.IsOpen := by
  rw [boundsAnything, IsOpen, Bool.or_eq_true, Option.isSome_iff_ne_none,
    Option.isSome_iff_ne_none, Decidable.not_and_iff_or_not]

theorem contains_iff : r.contains x ↔ r.Encloses x := by
  rw [contains, Bool.and_eq_true, Option.all_eq_true, Option.all_eq_true, Encloses]
  rfl

end Bounds

/-! ## Queries -/

/-- The words of a query, unless it is blank, are contained in one of some texts. -/
def QueryFound (contains : String → String → Prop) (query : Option String) (texts : List String) :
    Prop :=
  ∀ raw ∈ query, ¬ Text.isBlankText raw → ∃ text ∈ texts, contains (Text.trim raw) text

/-- A query has no sigma. -/
def NoSigma (query : Option String) : Prop :=
  ∀ raw ∈ query, ∀ c ∈ (Text.trim raw).toList, ¬ Text.IsSigma c

namespace QueryFound

variable {contains contains' : String → String → Prop} {query : Option String}
  {texts : List String}

instance [∀ words s, Decidable (contains words s)] : Decidable (QueryFound contains query texts) :=
  inferInstanceAs (Decidable (∀ raw ∈ query, _ → _))

theorem imp (found : QueryFound contains query texts)
    (stronger : ∀ raw ∈ query, ∀ text, contains (Text.trim raw) text →
      contains' (Text.trim raw) text) : QueryFound contains' query texts := by
  intro raw asked nonblank
  obtain ⟨text, member, contained⟩ := found raw asked nonblank
  exact ⟨text, member, stronger raw asked text contained⟩

theorem caseless (found : QueryFound Text.ContainsAlike query texts) :
    QueryFound Text.ContainsCaseless query texts :=
  found.imp fun _ _ _ contained => contained.containsCaseless

/-- The sigmas of a query without any agree everywhere. -/
theorem alike (found : QueryFound Text.ContainsCaseless query texts) (noSigma : NoSigma query) :
    QueryFound Text.ContainsAlike query texts :=
  found.imp fun raw asked _ contained => contained.containsAlike (noSigma raw asked)

theorem alike_of_verbatim (found : QueryFound Text.HoldsVerbatim query texts) :
    QueryFound Text.ContainsAlike query texts :=
  found.imp fun _ _ _ held => .of_holdsVerbatim held

/-- Texts are looked through for the lower-case form of the trimmed query. -/
theorem alike_iff {holds : String → Bool}
    (looks : ∀ needle, holds needle ↔ ∃ text ∈ texts, Text.holdsWords needle text) :
    (query.bind Text.queryWords?).all holds ↔ QueryFound Text.ContainsAlike query texts := by
  rw [Text.all_queryWords?_iff, QueryFound]
  simp only [looks, Text.holdsWords_lowercase_iff, Text.containsLowered_iff]

end QueryFound

/-! ## Materials -/

namespace MaterialFilter

variable {f : MaterialFilter} {m : Material}

theorem accepts_of_isEmpty (empty : f.isEmpty) (m : Material) : f.accepts m := by
  simp only [isEmpty, Bool.and_eq_true, Option.isNone_iff_eq_none] at empty
  obtain ⟨⟨⟨⟨words, anyName⟩, products⟩, units⟩, bounds⟩ := empty
  rw [accepts, meetsQuery, meetsPrimary, meetsProducts, meetsUnits, meetsRange, words, anyName,
    products, units, bounds]
  rfl

theorem select_eq (f : MaterialFilter) (ms : List Material) :
    f.select ms = ms.filter f.accepts := by
  rw [select]
  split
  · rename_i empty
    exact (List.filter_eq_self.2 fun m _ => accepts_of_isEmpty empty m).symm
  · rfl

/-- The filter with nothing but a query. -/
def ofQuery (query : String) : MaterialFilter := { none with query := query }

theorem accepts_ofQuery (query : String) (m : Material) :
    (ofQuery query).accepts m = (Text.queryWords? query).all m.holdsWords := by
  simp only [accepts, meetsQuery, words?, meetsPrimary, meetsProducts, meetsUnits, meetsRange,
    bounds?, ofQuery, none, List.isEmpty_nil, Option.bind_some, Option.filter_none, Option.all_none,
    Bool.not_false, Bool.true_or, Bool.and_true]

/-- No criterion for materials is set: a blank query and a range without ends are none. -/
structure AsksNothing (f : MaterialFilter) : Prop where
  query : ∀ query ∈ f.query, Text.isBlankText query
  primary : f.primaryOnly = false
  products : f.productIds = []
  units : f.unitIds = []
  range : ∀ range ∈ f.range, range.IsOpen

/-- A material meets every criterion that is set. -/
structure Meets (f : MaterialFilter) (m : Material) : Prop where
  query : QueryFound Text.ContainsCaseless f.query (m.names ++ [m.primaryName, m.description])
  primary : f.primaryOnly → m.primaryName ≠ ""
  products : f.productIds ≠ [] → ∃ p ∈ m.products, p.id ∈ f.productIds
  units : f.unitIds ≠ [] → m.unit.id ∈ f.unitIds
  range : ∀ range ∈ f.range, ¬ range.IsOpen →
    ∃ x, m.quantity = some (.numeric x) ∧ range.Encloses x

/-- The words of the query stand in a place where their sigmas agree. -/
def SigmasAgree (f : MaterialFilter) (m : Material) : Prop :=
  QueryFound Text.ContainsAlike f.query (m.names ++ [m.primaryName, m.description])

/-- The filters of which each has one of the criteria. -/
def criteria (f : MaterialFilter) : List MaterialFilter :=
  [{ none with query := f.query }, { none with primaryOnly := f.primaryOnly },
    { none with productIds := f.productIds }, { none with unitIds := f.unitIds },
    { none with range := f.range }]

theorem isEmpty_iff : f.isEmpty ↔ f.AsksNothing := by
  have noBounds : f.bounds?.isNone ↔ ∀ range ∈ f.range, range.IsOpen := by
    rw [bounds?, Option.isNone_iff_eq_none, Option.filter_eq_none_iff]
    simp only [Bounds.boundsAnything_iff, Classical.not_not, Option.mem_def]
  simp only [isEmpty, Bool.and_eq_true, words?, Text.isNone_queryWords?_iff, noBounds,
    List.isEmpty_iff, Bool.not_eq_true']
  constructor
  · rintro ⟨⟨⟨⟨query, primary⟩, products⟩, units⟩, range⟩
    exact { query, primary, products, units, range }
  · rintro ⟨query, primary, products, units, range⟩
    exact ⟨⟨⟨⟨query, primary⟩, products⟩, units⟩, range⟩

theorem meetsQuery_iff : f.meetsQuery m ↔ f.SigmasAgree m :=
  QueryFound.alike_iff fun _ => List.any_eq_true

theorem meetsPrimary_iff : f.meetsPrimary m ↔ (f.primaryOnly → m.primaryName ≠ "") := by
  rw [meetsPrimary, Material.hasPrimaryName]
  cases f.primaryOnly <;> simp

theorem meetsProducts_iff :
    f.meetsProducts m ↔ (f.productIds ≠ [] → ∃ p ∈ m.products, p.id ∈ f.productIds) := by
  simp only [meetsProducts, Bool.or_eq_true, List.isEmpty_iff, Material.goesIntoAny,
    List.any_eq_true, List.contains_iff_mem, or_iff_not_imp_left]

theorem meetsUnits_iff : f.meetsUnits m ↔ (f.unitIds ≠ [] → m.unit.id ∈ f.unitIds) := by
  simp only [meetsUnits, Bool.or_eq_true, List.isEmpty_iff, List.contains_iff_mem,
    or_iff_not_imp_left]

theorem meetsRange_iff : f.meetsRange m ↔ ∀ range ∈ f.range, ¬ range.IsOpen →
    ∃ x, m.quantity = some (.numeric x) ∧ range.Encloses x := by
  have isBounds (range : Bounds) : range ∈ f.bounds? ↔ range ∈ f.range ∧ ¬ range.IsOpen := by
    rw [bounds?, Option.mem_def, Option.filter_eq_some_iff, Bounds.boundsAnything_iff]
    rfl
  have within (range : Bounds) : m.amount?.any range.contains ↔
      ∃ x, m.quantity = some (.numeric x) ∧ range.Encloses x := by
    rw [Option.any_eq_true]
    refine exists_congr fun x => and_congr ?_ Bounds.contains_iff
    rw [Material.amount?]
    match m.quantity with
    | .none | some (.numeric _) | some (.text _) => simp [Quantity.value?]
  rw [meetsRange, Option.all_eq_true]
  refine forall_congr' fun range => ?_
  rw [← Option.mem_def, isBounds, within, and_imp]

theorem meets_iff : f.Meets m ↔
    QueryFound Text.ContainsCaseless f.query (m.names ++ [m.primaryName, m.description]) ∧
      f.meetsPrimary m ∧ f.meetsProducts m ∧ f.meetsUnits m ∧ f.meetsRange m := by
  rw [meetsPrimary_iff, meetsProducts_iff, meetsUnits_iff, meetsRange_iff]
  constructor
  · rintro ⟨query, primary, products, units, range⟩
    exact ⟨query, primary, products, units, range⟩
  · rintro ⟨query, primary, products, units, range⟩
    exact { query, primary, products, units, range }

instance (f : MaterialFilter) (m : Material) : Decidable (f.Meets m) :=
  decidable_of_iff _ meets_iff.symm

instance (f : MaterialFilter) (m : Material) : Decidable (f.SigmasAgree m) :=
  inferInstanceAs (Decidable (QueryFound ..))

theorem accepts_iff : f.accepts m ↔ f.Meets m ∧ f.SigmasAgree m := by
  simp only [accepts, Bool.and_eq_true, meetsQuery_iff, meets_iff, and_assoc]
  constructor
  · rintro ⟨agree, primary, products, units, range⟩
    exact ⟨agree.caseless, primary, products, units, range, agree⟩
  · rintro ⟨-, primary, products, units, range, agree⟩
    exact ⟨agree, primary, products, units, range⟩

theorem select_eq_meets (f : MaterialFilter) (ms : List Material) :
    f.select ms = ms.filter fun m => f.Meets m ∧ f.SigmasAgree m := by
  rw [select_eq]
  exact List.filter_congr fun m _ => Bool.eq_iff_iff.2 (by simp [accepts_iff])

theorem select_eq_of_noSigma (noSigma : NoSigma f.query) (ms : List Material) :
    f.select ms = ms.filter fun m => f.Meets m := by
  rw [select_eq_meets]
  refine List.filter_congr fun m _ => decide_eq_decide.2 ⟨And.left, fun meets => ⟨meets, ?_⟩⟩
  exact meets.query.alike noSigma

theorem all_criteria (f : MaterialFilter) (m : Material) :
    f.criteria.all (·.accepts m) = f.accepts m := by
  simp [criteria, accepts, meetsQuery, meetsPrimary, meetsProducts, meetsUnits, meetsRange, words?,
    bounds?, none, Bool.and_assoc]

end MaterialFilter

/-! ## Products -/

namespace ProductFilter

variable {f : ProductFilter} {p : Product}

theorem accepts_of_isEmpty (empty : f.isEmpty) (p : Product) : f.accepts p := by
  simp only [isEmpty, Bool.and_eq_true, Option.isNone_iff_eq_none] at empty
  obtain ⟨words, materials⟩ := empty
  rw [accepts, meetsName, meetsMaterials, words, materials]
  rfl

theorem select_eq (f : ProductFilter) (ps : List Product) :
    f.select ps = ps.filter f.accepts := by
  rw [select]
  split
  · rename_i empty
    exact (List.filter_eq_self.2 fun p _ => accepts_of_isEmpty empty p).symm
  · rfl

/-- The filter with nothing but words of the name. -/
def ofName (query : String) : ProductFilter := { none with nameContains := query }

theorem accepts_ofName (query : String) (p : Product) :
    (ofName query).accepts p = (Text.queryWords? query).all (Text.holdsWords · p.name) := by
  simp only [accepts, meetsName, words?, meetsMaterials, ofName, none, List.isEmpty_nil,
    Option.bind_some, Bool.true_or, Bool.and_true]

/-- No criterion for products is set. -/
structure AsksNothing (f : ProductFilter) : Prop where
  name : ∀ query ∈ f.nameContains, Text.isBlankText query
  materials : f.materialIds = []

/-- A product meets every criterion that is set. -/
structure Meets (f : ProductFilter) (p : Product) : Prop where
  name : QueryFound Text.ContainsCaseless f.nameContains [p.name]
  materials : f.materialIds ≠ [] → ∃ m ∈ p.materials, m.id ∈ f.materialIds

/-- The words for the name stand in it in a place where their sigmas agree. -/
def SigmasAgree (f : ProductFilter) (p : Product) : Prop :=
  QueryFound Text.ContainsAlike f.nameContains [p.name]

/-- The filters of which each has one of the criteria. -/
def criteria (f : ProductFilter) : List ProductFilter :=
  [{ none with nameContains := f.nameContains }, { none with materialIds := f.materialIds }]

theorem isEmpty_iff : f.isEmpty ↔ f.AsksNothing := by
  rw [isEmpty, Bool.and_eq_true, words?, Text.isNone_queryWords?_iff, List.isEmpty_iff]
  exact ⟨fun ⟨name, materials⟩ => { name, materials }, fun empty => ⟨empty.name, empty.materials⟩⟩

theorem meetsName_iff : f.meetsName p ↔ f.SigmasAgree p :=
  QueryFound.alike_iff fun _ => by simp

theorem meetsMaterials_iff :
    f.meetsMaterials p ↔ (f.materialIds ≠ [] → ∃ m ∈ p.materials, m.id ∈ f.materialIds) := by
  simp only [meetsMaterials, Bool.or_eq_true, List.isEmpty_iff, Product.takesAny,
    List.any_eq_true, List.contains_iff_mem, or_iff_not_imp_left]

theorem meets_iff : f.Meets p ↔
    QueryFound Text.ContainsCaseless f.nameContains [p.name] ∧ f.meetsMaterials p := by
  rw [meetsMaterials_iff]
  exact ⟨fun meets => ⟨meets.name, meets.materials⟩, fun ⟨name, materials⟩ => { name, materials }⟩

instance (f : ProductFilter) (p : Product) : Decidable (f.Meets p) :=
  decidable_of_iff _ meets_iff.symm

instance (f : ProductFilter) (p : Product) : Decidable (f.SigmasAgree p) :=
  inferInstanceAs (Decidable (QueryFound ..))

theorem accepts_iff : f.accepts p ↔ f.Meets p ∧ f.SigmasAgree p := by
  rw [accepts, Bool.and_eq_true, meetsName_iff, meets_iff]
  constructor
  · rintro ⟨agree, materials⟩
    exact ⟨⟨agree.caseless, materials⟩, agree⟩
  · rintro ⟨⟨-, materials⟩, agree⟩
    exact ⟨agree, materials⟩

theorem select_eq_meets (f : ProductFilter) (ps : List Product) :
    f.select ps = ps.filter fun p => f.Meets p ∧ f.SigmasAgree p := by
  rw [select_eq]
  exact List.filter_congr fun p _ => Bool.eq_iff_iff.2 (by simp [accepts_iff])

theorem select_eq_of_noSigma (noSigma : NoSigma f.nameContains) (ps : List Product) :
    f.select ps = ps.filter fun p => f.Meets p := by
  rw [select_eq_meets]
  refine List.filter_congr fun p _ => decide_eq_decide.2 ⟨And.left, fun meets => ⟨meets, ?_⟩⟩
  exact meets.name.alike noSigma

theorem all_criteria (f : ProductFilter) (p : Product) :
    f.criteria.all (·.accepts p) = f.accepts p := by
  simp [criteria, accepts, meetsName, meetsMaterials, words?, none]

end ProductFilter

/-! ## What filters keep -/

/-- **Filters keep what meets their criteria**, in the order in which it stands: of the materials
and of the products those that meet every criterion that is set and in which the words of the query
stand in a place where their sigmas agree.  They do for a query without a sigma, and where a text
holds the query word for word and its capital sigmas are lowered as in the query alone.

A filter takes the short way exactly if no criterion is set, and that way leads to the same list.
The filters of the single criteria, one after another in any order, keep the same as all criteria at
once, and a filter keeps all that it has kept.

Words are contained, with no regard to case, wherever they occur as they are, and among ASCII
characters exactly where they occur with all letters made small. -/
theorem filters_keep_what_meets_their_criteria (f : MaterialFilter) (ms : List Material)
    (g : ProductFilter) (ps : List Product) :
    (f.select ms = ms.filter (fun m => f.Meets m ∧ f.SigmasAgree m) ∧
      (NoSigma f.query → f.select ms = ms.filter (fun m => f.Meets m)) ∧
      (∀ m : Material,
        QueryFound Text.HoldsVerbatim f.query (m.names ++ [m.primaryName, m.description]) →
        f.SigmasAgree m) ∧
      (f.isEmpty ↔ f.AsksNothing) ∧ f.select ms = ms.filter f.accepts ∧
      (∀ order : List MaterialFilter, order.Perm f.criteria →
        order.foldl (fun kept criterion => criterion.select kept) ms = f.select ms) ∧
      f.select (f.select ms) = f.select ms) ∧
    (g.select ps = ps.filter (fun p => g.Meets p ∧ g.SigmasAgree p) ∧
      (NoSigma g.nameContains → g.select ps = ps.filter (fun p => g.Meets p)) ∧
      (∀ p : Product, QueryFound Text.HoldsVerbatim g.nameContains [p.name] → g.SigmasAgree p) ∧
      (g.isEmpty ↔ g.AsksNothing) ∧ g.select ps = ps.filter g.accepts ∧
      (∀ order : List ProductFilter, order.Perm g.criteria →
        order.foldl (fun kept criterion => criterion.select kept) ps = g.select ps) ∧
      g.select (g.select ps) = g.select ps) ∧
    ∀ words s : String,
      (words.toList <:+: s.toList → Text.ContainsCaseless words s) ∧
      ((∀ c ∈ words.toList ++ s.toList, c.toNat < 128) →
        (Text.ContainsCaseless words s ↔
          words.toList.map Char.toLower <:+: s.toList.map Char.toLower)) := by
  refine ⟨⟨f.select_eq_meets ms, fun noSigma => f.select_eq_of_noSigma noSigma ms,
      fun _ => .alike_of_verbatim, MaterialFilter.isEmpty_iff, f.select_eq ms,
      fun order anyOrder => ?_, ?_⟩,
    ⟨g.select_eq_meets ps, fun noSigma => g.select_eq_of_noSigma noSigma ps,
      fun _ => .alike_of_verbatim, ProductFilter.isEmpty_iff, g.select_eq ps,
      fun order anyOrder => ?_, ?_⟩,
    fun words s => ⟨.of_occurs, Text.containsCaseless_iff_of_ascii⟩⟩
  · exact foldl_select MaterialFilter.select_eq f.all_criteria anyOrder ms
  · exact select_select MaterialFilter.select_eq ms
  · exact foldl_select ProductFilter.select_eq g.all_criteria anyOrder ps
  · exact select_select ProductFilter.select_eq ps

/-- The sigma that ends the query is one inside a word of the name, so the material and the product
meet the criteria and are left out. -/
theorem contained_words_are_missed :
    let f := MaterialFilter.ofQuery "ΑΣ"
    let m : Material := { Material.new 1 { id := 1, name := "kg" } with names := ["ΑΣΑ"] }
    let g := ProductFilter.ofName "ΑΣ"
    let p := Product.new 2 "ΑΣΑ"
    f.Meets m ∧ f.select [m] = [] ∧ g.Meets p ∧ g.select [p] = [] := by
  refine ⟨by decide +kernel, ?_, by decide +kernel, ?_⟩
  · exact List.isEmpty_iff.1 (by decide +kernel)
  · exact List.isEmpty_iff.1 (by decide +kernel)

end PartsCatalog
