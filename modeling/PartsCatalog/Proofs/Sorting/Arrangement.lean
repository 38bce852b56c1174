import PartsCatalog.Proofs.Sorting.Ranks

/-!
# Stable arrangements

A stable arrangement of a list has the same entries in ascending order, and those that compare as
equal in the order in which they stood (`Arranges`).  There is one stable arrangement under a
comparison that is a total preorder (`Arranges.unique`), so whatever sorts a list stably gives the
list that sorting by insertion gives (`arranges_sortBy`).

The comparison of entries is such a preorder unless a quantity is `nan`, and a list is sorted
downwards as its reverse is sorted upwards and reversed (`lists_have_one_stable_arrangement`).
-/

namespace PartsCatalog

section Arrangements

variable {α : Type} {cmp cmp' : α → α → Ordering} {xs ys zs : List α}

/-- A list has the entries of another, and those that compare as equal in the same order. -/
structure Rearranges (cmp : α → α → Ordering) (xs ys : List α) : Prop where
  perm : ys.Perm xs
  ties : ∀ x ∈ xs, ys.filter (cmp x · == .eq) = xs.filter (cmp x · == .eq)

/-- A list is a stable arrangement of another in ascending order. -/
structure Arranges (cmp : α → α → Ordering) (xs ys : List α) : Prop extends
    Rearranges cmp xs ys where
  ordered : ys.Pairwise fun a b => cmp a b ≠ .gt

namespace Rearranges

theorem symm (rearranges : Rearranges cmp xs ys) : Rearranges cmp ys xs where
  perm := rearranges.perm.symm
  ties x member := (rearranges.ties x (rearranges.perm.mem_iff.1 member)).symm

theorem trans (first : Rearranges cmp xs ys) (second : Rearranges cmp ys zs) :
    Rearranges cmp xs zs where
  perm := second.perm.trans first.perm
  ties x member :=
    (second.ties x (first.perm.mem_iff.2 member)).trans (first.ties x member)

theorem filter (rearranges : Rearranges cmp xs ys) (keep : α → Bool) :
    Rearranges cmp (xs.filter keep) (ys.filter keep) where
  perm := rearranges.perm.filter keep
  ties x member := by
    rw [List.filter_comm, rearranges.ties x (List.mem_of_mem_filter member), List.filter_comm]

theorem congr (rearranges : Rearranges cmp xs ys) (agree : ∀ a ∈ xs, ∀ b ∈ xs, cmp a b = cmp' a b) :
    Rearranges cmp' xs ys where
  perm := rearranges.perm
  ties x member := by
    have here : xs.filter (cmp' x · == .eq) = xs.filter (cmp x · == .eq) :=
      List.filter_congr fun y there => by rw [agree x member y there]
    have there : ys.filter (cmp' x · == .eq) = ys.filter (cmp x · == .eq) :=
      List.filter_congr fun y there => by rw [agree x member y (rearranges.perm.mem_iff.1 there)]
    rw [here, there, rearranges.ties x member]

end Rearranges

namespace Arranges

theorem of_rearranges (arranges : Arranges cmp ys zs) (rearranges : Rearranges cmp xs ys) :
    Arranges cmp xs zs where
  toRearranges := rearranges.trans arranges.toRearranges
  ordered := arranges.ordered

theorem filter (arranges : Arranges cmp xs ys) (keep : α → Bool) :
    Arranges cmp (xs.filter keep) (ys.filter keep) where
  toRearranges := arranges.toRearranges.filter keep
  ordered := arranges.ordered.filter keep

theorem congr (arranges : Arranges cmp xs ys) (agree : ∀ a ∈ xs, ∀ b ∈ xs, cmp a b = cmp' a b) :
    Arranges cmp' xs ys where
  toRearranges := arranges.toRearranges.congr agree
  ordered := arranges.ordered.imp_of_mem fun here there le => by
    rwa [← agree _ (arranges.perm.mem_iff.1 here) _ (arranges.perm.mem_iff.1 there)]

/-- Upwards from the end is downwards from the start. -/
theorem reverse [Std.OrientedCmp cmp] (arranges : Arranges cmp xs.reverse ys) :
    Arranges (fun a b => cmp b a) xs ys.reverse where
  perm := (ys.reverse_perm.trans arranges.perm).trans xs.reverse_perm
  ties x member := by
    have tied : (fun y => cmp y x == .eq) = fun y => cmp x y == .eq := by
      funext y
      rw [Bool.eq_iff_iff, beq_iff_eq, beq_iff_eq, Std.OrientedCmp.eq_comm]
    rw [tied, List.filter_reverse, arranges.ties x (List.mem_reverse.2 member),
      List.filter_reverse, List.reverse_reverse]
  ordered := List.pairwise_reverse.2 arranges.ordered

variable [Std.TransCmp cmp]

/-- The first entries of two arrangements are the same: they compare as equal, and both are the
first of those that do. -/
theorem head_eq {y z : α} (left : Arranges cmp xs (y :: ys)) (right : Arranges cmp xs (z :: zs)) :
    y = z := by
  have same : (y :: ys).Perm (z :: zs) := left.perm.trans right.perm.symm
  have below : cmp y z ≠ .gt := by
    rcases List.mem_cons.1 (same.mem_iff.2 List.mem_cons_self) with rfl | later
    · simp [Std.ReflCmp.compare_self]
    · exact List.rel_of_pairwise_cons left.ordered later
  have above : cmp z y ≠ .gt := by
    rcases List.mem_cons.1 (same.mem_iff.1 List.mem_cons_self) with rfl | later
    · simp [Std.ReflCmp.compare_self]
    · exact List.rel_of_pairwise_cons right.ordered later
  have tied : cmp y z = .eq := by
    have swapped : cmp z y = (cmp y z).swap := Std.OrientedCmp.eq_swap
    rw [swapped] at above
    cases isEq : cmp y z <;> simp_all
  have inside : y ∈ xs := left.perm.mem_iff.1 List.mem_cons_self
  have ties := (left.ties y inside).trans (right.ties y inside).symm
  rw [List.filter_cons_of_pos (by simp [Std.ReflCmp.compare_self]),
    List.filter_cons_of_pos (by simp [tied])] at ties
  exact (List.cons.inj ties).1

theorem eq_of_ordered (ordered : ys.Pairwise fun a b => cmp a b ≠ .gt)
    (arranges : Arranges cmp ys zs) : ys = zs := by
  induction ys generalizing zs with
  | nil => exact (List.nil_perm.1 arranges.perm.symm).symm
  | cons y ys ih =>
    have unmoved : Arranges cmp (y :: ys) (y :: ys) := ⟨⟨.refl _, fun _ _ => rfl⟩, ordered⟩
    cases zs with
    | nil => cases List.nil_perm.1 arranges.perm
    | cons z zs =>
      obtain rfl := unmoved.head_eq arranges
      have tail : Arranges cmp ys zs :=
        { perm := arranges.perm.cons_inv
          ties := fun x member => by
            have ties := arranges.ties x (List.mem_cons_of_mem y member)
            rw [List.filter_cons, List.filter_cons] at ties
            split at ties
            · exact (List.cons.inj ties).2
            · exact ties
          ordered := arranges.ordered.tail }
      rw [ih ordered.tail tail]

/-- There is only one stable arrangement of a list. -/
theorem unique (left : Arranges cmp xs ys) (right : Arranges cmp xs zs) : ys = zs :=
  eq_of_ordered left.ordered (right.of_rearranges left.toRearranges.symm)

end Arranges

/-! ## Sorting by insertion -/

variable [Std.TransCmp cmp]

/-- An entry passes only entries that do not compare as equal to it. -/
theorem filter_insertSorted (k x : α) (xs : List α) :
    (insertSorted (fun a b => cmp a b != .gt) x xs).filter (cmp k · == .eq) =
      (x :: xs).filter (cmp k · == .eq) := by
  induction xs with
  | nil => rfl
  | cons y ys ih =>
    rw [insertSorted]
    split
    · rfl
    · rename_i after
      have above : cmp x y = .gt := by simpa using after
      rw [List.filter_cons, ih, List.filter_cons, List.filter_cons, List.filter_cons]
      by_cases tied : cmp k x = .eq
      · have untied : cmp k y ≠ .eq := by
          rw [Std.TransCmp.congr_left tied, above]
          decide
        simp [tied, untied]
      · simp [tied]

theorem filter_sortBy (k : α) (xs : List α) :
    (sortBy (fun a b => cmp a b != .gt) xs).filter (cmp k · == .eq) =
      xs.filter (cmp k · == .eq) := by
  induction xs with
  | nil => rfl
  | cons x xs ih => rw [sortBy, filter_insertSorted, List.filter_cons, ih, List.filter_cons]

theorem arranges_sortBy (cmp : α → α → Ordering) [Std.TransCmp cmp] (xs : List α) :
    Arranges cmp xs (sortBy (fun a b => cmp a b != .gt) xs) where
  perm := sortBy_perm _ xs
  ties x _ := filter_sortBy x xs
  ordered := by
    have anywhere : xs.Pairwise fun _ _ => True := List.pairwise_of_forall fun _ _ => trivial
    have sorted : (sortBy (fun a b => cmp (id a) (id b) != .gt) xs).Pairwise
        (Ordered cmp id fun _ _ => True) := pairwise_sortBy anywhere
    exact sorted.imp And.left

/-- Sorting downwards is sorting the reversed list upwards and reversing it back. -/
theorem sortBy_downwards (cmp : α → α → Ordering) [Std.TransCmp cmp] (xs : List α) :
    sortBy (fun a b => cmp b a != .gt) xs =
      (sortBy (fun a b => cmp a b != .gt) xs.reverse).reverse := by
  have : Std.TransCmp fun a b => cmp b a := Std.TransCmp.opposite
  exact (arranges_sortBy (fun a b => cmp b a) xs).unique (arranges_sortBy cmp xs.reverse).reverse

end Arrangements

namespace Sorting

/-! ## Sorting entries -/

variable {α : Type} {c : Sorting} {key : α → Sorting.Key} {xs ys : List α}

/-- How a sorting compares two entries. -/
def compareBy (c : Sorting) (key : α → Sorting.Key) (a b : α) : Ordering :=
  c.compareKeys (key a) (key b)

instance (c : Sorting) (place : α → Nat × Int × String) :
    Std.TransCmp fun a b => c.comparePlaces (place a) (place b) where
  eq_swap {a b} := @Std.OrientedCmp.eq_swap _ c.comparePlaces _ (place a) (place b)
  isLE_trans {_ _ _} := @Std.TransCmp.isLE_trans _ c.comparePlaces _ _ _ _

/-- Entries whose keys compare are in a total preorder. -/
theorem transCmp_compareBy (c : Sorting) {p : α → Prop} (compares : ∀ x, p x → (key x).Compares) :
    Std.TransCmp fun a b : { x // p x } => c.compareBy key a.1 b.1 := by
  have places : (fun a b : { x // p x } => c.compareBy key a.1 b.1) =
      fun a b => c.comparePlaces (key a.1).place (key b.1).place := by
    funext a b
    exact compareKeys_eq (compares a.1 a.2) (compares b.1 b.2)
  rw [places]
  infer_instance

/-- A sorted list is the stable arrangement, and the only one. -/
theorem arranges_iff (compares : ∀ x ∈ xs, (key x).Compares) :
    Arranges (c.compareBy key) xs ys ↔ ys = c.sortOn key xs := by
  have agree : ∀ a ∈ xs, ∀ b ∈ xs,
      c.compareBy key a b = c.comparePlaces (key a).place (key b).place :=
    fun a left b right => compareKeys_eq (compares a left) (compares b right)
  have sorted := arranges_sortBy (fun a b => c.comparePlaces (key a).place (key b).place) xs
  rw [sortOn_eq compares]
  constructor
  · intro arranges
    exact (arranges.congr agree).unique sorted
  · rintro rfl
    exact sorted.congr fun a left b right => (agree a left b right).symm

theorem sortOn_downwards (field : Sorting.Field) (compares : ∀ x ∈ xs, (key x).Compares) :
    (Sorting.mk field .descending).sortOn key xs =
      ((Sorting.mk field .ascending).sortOn key xs.reverse).reverse := by
  rw [sortOn_eq compares, sortOn_eq fun x member => compares x (List.mem_reverse.1 member)]
  exact sortBy_downwards (fun a b =>
    (Sorting.mk field .ascending).comparePlaces (key a).place (key b).place) xs

variable {quantity : α → Option Quantity}

theorem compares_of_numbers (numbers : ∀ x ∈ xs, quantity x ≠ some (.numeric .nan)) :
    ∀ x ∈ xs, ((Key.ofQuantity ∘ quantity) x).Compares :=
  fun x member => Key.compares_ofQuantity_iff.2 (numbers x member)

/-- Sorted by quantity upwards, entries stand as their quantities rank. -/
theorem pairwise_ranks_upwards (field : Sorting.Field)
    (numbers : ∀ x ∈ xs, quantity x ≠ some (.numeric .nan)) :
    ((Sorting.mk field .ascending).sortOn (Key.ofQuantity ∘ quantity) xs).Pairwise
      fun a b => Quantity.Ranks (quantity a) (quantity b) := by
  have compares := compares_of_numbers numbers
  refine ((arranges_iff compares).2 rfl).ordered.imp_of_mem fun {a b} left right ordered => ?_
  exact (Key.compare_ofQuantity_iff (compares a (sortOn_perm.mem_iff.1 left))
    (compares b (sortOn_perm.mem_iff.1 right))).1 ordered

/-- Sorted by quantity downwards, entries stand the other way round. -/
theorem pairwise_ranks_downwards (field : Sorting.Field)
    (numbers : ∀ x ∈ xs, quantity x ≠ some (.numeric .nan)) :
    ((Sorting.mk field .descending).sortOn (Key.ofQuantity ∘ quantity) xs).Pairwise
      fun a b => Quantity.Ranks (quantity b) (quantity a) := by
  rw [sortOn_downwards field (compares_of_numbers numbers), List.pairwise_reverse]
  exact pairwise_ranks_upwards field fun x member => numbers x (List.mem_reverse.1 member)

end Sorting

/-! ## Sorting lists -/

/-- **A sorted list is the one stable arrangement of the list.**  Materials without `nan` are in a
total preorder under every sorting, and sorting a list of them gives the only list that has the same
materials in ascending order and those with equal keys as they stood, whatever the direction is.
Sorted by quantity they stand as their quantities rank, numbers before everything else, or downwards
the other way round; and sorting downwards is sorting the reversed list upwards and reversing it
back.  The same holds of products. -/
theorem lists_have_one_stable_arrangement (c : Sorting) (ms : List Material) (ps : List Product)
    (numbers : ∀ m ∈ ms, m.quantity ≠ some (.numeric .nan))
    (numbers' : ∀ p ∈ ps, p.quantity ≠ some (.numeric .nan)) :
    ((Std.TransCmp fun a b : { m : Material // m.quantity ≠ some (.numeric .nan) } =>
        c.compareBy (Material.sortKey c.field) a.1 b.1) ∧
      (∀ arranged, Arranges (c.compareBy (Material.sortKey c.field)) ms arranged ↔
        arranged = c.materials ms) ∧
      ((Sorting.mk .quantity .ascending).materials ms).Pairwise
        (fun a b => Quantity.Ranks a.quantity b.quantity) ∧
      ((Sorting.mk .quantity .descending).materials ms).Pairwise
        (fun a b => Quantity.Ranks b.quantity a.quantity) ∧
      ∀ field, (Sorting.mk field .descending).materials ms =
        ((Sorting.mk field .ascending).materials ms.reverse).reverse) ∧
    (Std.TransCmp fun a b : { p : Product // p.quantity ≠ some (.numeric .nan) } =>
        c.compareBy (Product.sortKey c.field) a.1 b.1) ∧
      (∀ arranged, Arranges (c.compareBy (Product.sortKey c.field)) ps arranged ↔
        arranged = c.products ps) ∧
      ((Sorting.mk .quantity .ascending).products ps).Pairwise
        (fun a b => Quantity.Ranks a.quantity b.quantity) ∧
      ((Sorting.mk .quantity .descending).products ps).Pairwise
        (fun a b => Quantity.Ranks b.quantity a.quantity) ∧
      ∀ field, (Sorting.mk field .descending).products ps =
        ((Sorting.mk field .ascending).products ps.reverse).reverse := by
  have compares (field : Sorting.Field) : ∀ m ∈ ms, (m.sortKey field).Compares :=
    fun m member => m.compares_sortKey (numbers m member) field
  have compares' (field : Sorting.Field) : ∀ p ∈ ps, (p.sortKey field).Compares :=
    fun p member => p.compares_sortKey (numbers' p member) field
  refine ⟨⟨?_, fun arranged => ?_, ?_, ?_, fun field => ?_⟩, ?_, fun arranged => ?_, ?_, ?_,
    fun field => ?_⟩
  · exact c.transCmp_compareBy fun m number => m.compares_sortKey number c.field
  · exact Sorting.arranges_iff (compares c.field)
  · exact Sorting.pairwise_ranks_upwards .quantity numbers
  · exact Sorting.pairwise_ranks_downwards .quantity numbers
  · exact Sorting.sortOn_downwards field (compares field)
  · exact c.transCmp_compareBy fun p number => p.compares_sortKey number c.field
  · exact Sorting.arranges_iff (compares' c.field)
  · exact Sorting.pairwise_ranks_upwards .quantity numbers'
  · exact Sorting.pairwise_ranks_downwards .quantity numbers'
  · exact Sorting.sortOn_downwards field (compares' field)

/-- A material with the quantity that was entered for it. -/
def Material.entered (id : EntityId) (raw : String) : Material :=
  (Material.new id { id := 0, name := "kg" }).enterQuantity raw

theorem Material.quantity_entered (id : EntityId) (raw : String) :
    (entered id raw).quantity = Quantity.ofInput? raw := by
  rw [entered, enterQuantity]

/-- Materials with numbers, with remarks and without a quantity. -/
def shelf : List Material :=
  [(1, "As needed"), (2, "10"), (3, ""), (4, "2,5"), (5, "bulk"), (6, "10,0")].map fun entry =>
    .entered entry.1 entry.2

theorem numbers_of_shelf : ∀ m ∈ shelf, m.quantity ≠ some (.numeric .nan) := by
  refine List.forall_mem_map.2 fun entry _ isNan => ?_
  rw [Material.quantity_entered] at isNan
  exact Bool.false_ne_true (Quantity.isFinite_of_ofInput? isNan)

/-- Downwards, remarks come first, and the two tens stay as they stood. -/
theorem shelf_is_arranged :
    (∀ m ∈ shelf, m.quantity ≠ some (.numeric .nan)) ∧
      ∃ arranged, Arranges ((Sorting.mk .quantity .descending).compareBy
          (Material.sortKey .quantity)) shelf arranged ∧
        arranged.map Material.id = [5, 1, 3, 2, 6, 4] := by
  have sorted := (lists_have_one_stable_arrangement (.mk .quantity .descending) shelf []
    numbers_of_shelf nofun).1.2.1
  exact ⟨numbers_of_shelf, _, (sorted _).2 rfl, by decide +kernel⟩

end PartsCatalog
