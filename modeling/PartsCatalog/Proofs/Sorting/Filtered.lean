import PartsCatalog.Proofs.Filter
import PartsCatalog.Proofs.Sorting.Arrangement

/-!
# Sorting what a filter keeps

Leaving entries out of a stable arrangement leaves the stable arrangement of the others, so it does
not matter whether a list is filtered before or after it is sorted
(`filtering_commutes_with_sorting`).  Nor does it matter in which order the list is given, as long
as entries with equal keys are given in the same order.
-/

namespace PartsCatalog

namespace Sorting

variable {α : Type} {c : Sorting} {key : α → Sorting.Key} {xs ys : List α}

theorem arranges_sortOn (compares : ∀ x ∈ xs, (key x).Compares) :
    Arranges (c.compareBy key) xs (c.sortOn key xs) :=
  (arranges_iff compares).2 rfl

theorem filter_sortOn (compares : ∀ x ∈ xs, (key x).Compares) (keep : α → Bool) :
    (c.sortOn key xs).filter keep = c.sortOn key (xs.filter keep) := by
  have kept : ∀ x ∈ xs.filter keep, (key x).Compares :=
    fun x member => compares x (List.mem_of_mem_filter member)
  exact (arranges_iff kept).1 ((arranges_sortOn compares).filter keep)

theorem sortOn_of_rearranges (compares : ∀ x ∈ xs, (key x).Compares)
    (rearranges : Rearranges (c.compareBy key) xs ys) : c.sortOn key ys = c.sortOn key xs := by
  have compares' : ∀ y ∈ ys, (key y).Compares :=
    fun y member => compares y (rearranges.perm.mem_iff.1 member)
  exact (arranges_iff compares).1 ((arranges_sortOn compares').of_rearranges rearranges)

theorem sortOn_sortOn (compares : ∀ x ∈ xs, (key x).Compares) :
    c.sortOn key (c.sortOn key xs) = c.sortOn key xs :=
  sortOn_of_rearranges compares (arranges_sortOn compares).toRearranges

end Sorting

/-- **Filtering commutes with sorting**, for materials and for products without `nan` and for every
filter and every sorting.  Sorting a sorted list changes nothing, and a list is sorted like every
list that has the same entries and those with equal keys in the same order. -/
theorem filtering_commutes_with_sorting (c : Sorting) (ms : List Material) (ps : List Product)
    (numbers : ∀ m ∈ ms, m.quantity ≠ some (.numeric .nan))
    (numbers' : ∀ p ∈ ps, p.quantity ≠ some (.numeric .nan)) :
    ((∀ f : MaterialFilter, f.select (c.materials ms) = c.materials (f.select ms)) ∧
      c.materials (c.materials ms) = c.materials ms ∧
      ∀ others, Rearranges (c.compareBy (Material.sortKey c.field)) ms others →
        c.materials others = c.materials ms) ∧
    (∀ f : ProductFilter, f.select (c.products ps) = c.products (f.select ps)) ∧
      c.products (c.products ps) = c.products ps ∧
      ∀ others, Rearranges (c.compareBy (Product.sortKey c.field)) ps others →
        c.products others = c.products ps := by
  have compares : ∀ m ∈ ms, (m.sortKey c.field).Compares :=
    fun m member => m.compares_sortKey (numbers m member) c.field
  have compares' : ∀ p ∈ ps, (p.sortKey c.field).Compares :=
    fun p member => p.compares_sortKey (numbers' p member) c.field
  refine ⟨⟨fun f => ?_, Sorting.sortOn_sortOn compares, fun others rearranges => ?_⟩, fun f => ?_,
    Sorting.sortOn_sortOn compares', fun others rearranges => ?_⟩
  · rw [f.select_eq, f.select_eq]
    exact Sorting.filter_sortOn compares f.accepts
  · exact Sorting.sortOn_of_rearranges compares rearranges
  · rw [f.select_eq, f.select_eq]
    exact Sorting.filter_sortOn compares' f.accepts
  · exact Sorting.sortOn_of_rearranges compares' rearranges

/-- Entries at the front of a list may change places if nothing compares as equal to both. -/
theorem Rearranges.swap {α : Type} {cmp : α → α → Ordering} {a b : α} {xs : List α}
    (untied : ∀ x ∈ a :: b :: xs, ¬ (cmp x a = .eq ∧ cmp x b = .eq)) :
    Rearranges cmp (a :: b :: xs) (b :: a :: xs) where
  perm := .swap a b xs
  ties x member := by
    by_cases tied : cmp x a = .eq
    · have other : cmp x b ≠ .eq := fun tied' => untied x member ⟨tied, tied'⟩
      simp [tied, other]
    · simp [List.filter_cons, tied]

/-- Of a shelf on which the first two entries have changed places, those of at least five. -/
theorem shelf_is_filtered_and_sorted :
    let c : Sorting := { field := .quantity, direction := .descending }
    let f : MaterialFilter :=
      { MaterialFilter.none with range := some { least? := some (.ofNat 5), most? := none } }
    let swapped := .entered 2 "10" :: .entered 1 "As needed" :: shelf.drop 2
    (∀ m ∈ shelf, m.quantity ≠ some (.numeric .nan)) ∧
      Rearranges (c.compareBy (Material.sortKey c.field)) shelf swapped ∧
      f.select (c.materials swapped) = c.materials (f.select shelf) ∧
      (c.materials (f.select shelf)).map Material.id = [2, 6] := by
  intro c f swapped
  have apart : ∀ m ∈ shelf,
      ¬ (c.compareBy (Material.sortKey c.field) m (.entered 1 "As needed") = .eq ∧
        c.compareBy (Material.sortKey c.field) m (.entered 2 "10") = .eq) := by
    decide +kernel
  have rearranges : Rearranges (c.compareBy (Material.sortKey c.field)) shelf swapped :=
    .swap apart
  obtain ⟨⟨commutes, -, sameOrder⟩, -⟩ :=
    filtering_commutes_with_sorting c shelf [] numbers_of_shelf nofun
  refine ⟨numbers_of_shelf, rearranges, ?_, by decide +kernel⟩
  rw [sameOrder swapped rearranges, commutes f]

end PartsCatalog
