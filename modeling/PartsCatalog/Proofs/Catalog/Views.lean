import PartsCatalog.Proofs.Catalog.Answers
import PartsCatalog.Proofs.Filter
import PartsCatalog.Proofs.Inventory.Reachable
import PartsCatalog.Proofs.Sorting.Ranks

/-!
# Filtered and sorted lists

A view shows what a filter accepts of a list, each entry once, in the order of a sorting: by names
and units with no regard to case, by quantities as they rank, or by identifiers, upwards or
downwards.  Entries that rank alike stand by ascending identifier, in both directions
(`views_are_sorted_selections`).

All entries can be ranked because no quantity in a list is `nan`: a list of materials shows
quantities that were entered, and a list of products shows none.
-/

namespace PartsCatalog

namespace Sorting

/-- What is selected from an ascending list and sorted stands as it ranks, and by identifier where
it ranks alike. -/
theorem sorted_selection {α : Type} {key : α → Sorting.Key} (ranks : α → α → Prop)
    (id : α → EntityId) {xs : List α} (compares : ∀ x ∈ xs, (key x).Compares)
    (agree : ∀ {x y}, (key x).Compares → (key y).Compares →
      ((key x).compare (key y) ≠ .gt ↔ ranks x y))
    (ascending : (xs.map id).Pairwise (· < ·)) (c : Sorting) (accepts : α → Bool) :
    let ys := c.sortOn key (xs.filter accepts)
    ys.Perm (xs.filter accepts) ∧ (ys.map id).Nodup ∧
      ys.Pairwise (c.direction.Precedes ranks id) := by
  intro ys
  have selected : ((xs.filter accepts).map id).Pairwise (· < ·) :=
    ascending.sublist (List.filter_sublist.map id)
  have kept : ∀ x ∈ xs.filter accepts, (key x).Compares :=
    fun x member => compares x (List.mem_of_mem_filter member)
  have perm : ys.Perm (xs.filter accepts) := sortOn_perm
  refine ⟨perm, ?_, ?_⟩
  · rw [(perm.map id).nodup_iff]
    exact selected.imp Int.ne_of_lt
  · refine (pairwise_sortOn kept (List.pairwise_map.1 selected)).imp_of_mem ?_
    intro a b left right ordered
    have left : (key a).Compares := kept a (perm.mem_iff.1 left)
    have right : (key b).Compares := kept b (perm.mem_iff.1 right)
    exact precedes_of_ordered left right (agree left right) (agree right left) ordered

end Sorting

namespace Inventory

variable {inv : Inventory}

/-- The quantity beside a listed material was entered for its first link. -/
theorem Valid.number_materialListed (valid : inv.Valid) (id : EntityId) (record : StoredMaterial) :
    (inv.materialListed id record).quantity ≠ some (.numeric .nan) := by
  intro shown
  obtain ⟨link, first, quantity⟩ := Option.bind_eq_some_iff.1 shown
  have kept : link ∈ inv.links := (List.mem_filter.1 (List.mem_of_mem_head? first)).1
  rw [(valid.entered link kept).1] at quantity
  exact Bool.false_ne_true (Quantity.isFinite_of_ofInput? quantity)

/-- **A view is a sorted selection of the list**, whatever changes came before.  It has each entry
of the list that the filter accepts once and no other.  Upwards they stand as they rank under the
field of the sorting, downwards the other way round, and entries that rank alike stand by ascending
identifier in both directions. -/
theorem views_are_sorted_selections (changes : List Change) :
    let inv := empty.run changes
    (∃ all, inv.listMaterials = .ok all ∧ ∀ (filter : MaterialFilter) (sort : Sorting),
      ∃ ms, inv.viewMaterials filter sort = .ok ms ∧
        ms.Perm (all.filter filter.accepts) ∧ (ms.map Material.id).Nodup ∧
        ms.Pairwise (sort.direction.Precedes (Material.Ranks sort.field) Material.id)) ∧
    ∃ all, inv.listProducts = .ok all ∧ ∀ (filter : ProductFilter) (sort : Sorting),
      ∃ ps, inv.viewProducts filter sort = .ok ps ∧
        ps.Perm (all.filter filter.accepts) ∧ (ps.map Product.id).Nodup ∧
        ps.Pairwise (sort.direction.Precedes (Product.Ranks sort.field) Product.id) := by
  intro inv
  have valid : inv.Valid := valid_empty.run changes
  constructor
  · refine ⟨_, valid.listMaterials_eq_ok, fun filter sort => ⟨_, ?_, Sorting.sorted_selection
      (Material.Ranks sort.field) Material.id ?_ Material.compare_sortKey_iff ?_ sort
      filter.accepts⟩⟩
    · rw [viewMaterials, valid.listMaterials_eq_ok, ok_bind, filter.select_eq]
      rfl
    · refine List.forall_mem_map.2 fun entry _ => ?_
      exact Material.compares_sortKey (valid.number_materialListed entry.1 entry.2) sort.field
    · rw [List.map_map]
      exact inv.materials.ids_ascending
  · refine ⟨_, valid.listProducts_eq_ok, fun filter sort => ⟨_, ?_, Sorting.sorted_selection
      (Product.Ranks sort.field) Product.id ?_ Product.compare_sortKey_iff ?_ sort
      filter.accepts⟩⟩
    · rw [viewProducts, valid.listProducts_eq_ok, ok_bind, filter.select_eq]
      rfl
    · refine List.forall_mem_map.2 fun entry _ => ?_
      exact Product.compares_sortKey (Option.some_ne_none _).symm sort.field
    · rw [List.map_map]
      exact inv.products.ids_ascending

end Inventory

end PartsCatalog
