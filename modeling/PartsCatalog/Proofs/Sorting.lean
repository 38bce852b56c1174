import Mathlib.Data.List.Sort
import PartsCatalog.Proofs.Binary64.Order
import PartsCatalog.Sorting

/-!
# Laws of sorting

Sorting keeps all entries, puts them in the order of their keys, and leaves those with equal keys as
they stood, in both directions (`sortOn_perm`, `pairwise_sortOn`).

For this the comparison of keys has to be an order, which it is for all keys but `nan`: they compare
as their places do, which are compared part by part (`Key.compare_eq`).
-/

namespace PartsCatalog

/-! ## Sorting by insertion -/

section Insertion

variable {α κ : Type} {mayPrecede : α → α → Bool} {x : α} {xs : List α}

theorem insertSorted_eq_orderedInsert :
    insertSorted mayPrecede x xs = xs.orderedInsert (fun a b => mayPrecede a b) x := by
  induction xs with
  | nil => rfl
  | cons y ys ih => rw [insertSorted, List.orderedInsert_cons, ih]

theorem sortBy_eq_insertionSort :
    sortBy mayPrecede xs = xs.insertionSort fun a b => mayPrecede a b := by
  induction xs with
  | nil => rfl
  | cons x xs ih => rw [sortBy, List.insertionSort_cons, ih, insertSorted_eq_orderedInsert]

theorem sortBy_perm (mayPrecede : α → α → Bool) (xs : List α) :
    (sortBy mayPrecede xs).Perm xs := by
  rw [sortBy_eq_insertionSort]
  exact List.perm_insertionSort _ xs

variable {cmp : κ → κ → Ordering} [Std.TransCmp cmp] {key : α → κ} {earlier : α → α → Prop}

/-- One entry may stand before another: by their keys, and by where they stood if the keys are
equal. -/
def Ordered (cmp : κ → κ → Ordering) (key : α → κ) (earlier : α → α → Prop) (a b : α) : Prop :=
  cmp (key a) (key b) ≠ .gt ∧ (cmp (key a) (key b) = .eq → earlier a b)

theorem pairwise_insertSorted (sorted : xs.Pairwise (Ordered cmp key earlier))
    (first : ∀ y ∈ xs, earlier x y) :
    (insertSorted (fun a b => cmp (key a) (key b) != .gt) x xs).Pairwise
      (Ordered cmp key earlier) := by
  induction xs with
  | nil => exact List.pairwise_singleton ..
  | cons y ys ih =>
    obtain ⟨head, tail⟩ := List.pairwise_cons.1 sorted
    obtain ⟨firstHere, firstThere⟩ := List.forall_mem_cons.1 first
    rw [insertSorted]
    split
    · rename_i before
      rw [bne_iff_ne] at before
      refine List.pairwise_cons.2 ⟨fun z member => ⟨?_, fun _ => first z member⟩, sorted⟩
      rcases List.mem_cons.1 member with rfl | later
      · exact before
      · exact Ordering.isLE_iff_ne_gt.1 (Std.TransCmp.isLE_trans
          (Ordering.isLE_iff_ne_gt.2 before) (Ordering.isLE_iff_ne_gt.2 (head z later).1))
    · rename_i after
      have above : cmp (key x) (key y) = .gt := by simpa using after
      have below : cmp (key y) (key x) = .lt := Std.OrientedCmp.lt_of_gt above
      refine List.pairwise_cons.2 ⟨fun z member => ?_, ih tail firstThere⟩
      rw [insertSorted_eq_orderedInsert, List.mem_orderedInsert] at member
      rcases member with rfl | later
      · rw [Ordered, below]
        exact ⟨nofun, nofun⟩
      · exact head z later

/-- Sorting is stable. -/
theorem pairwise_sortBy (given : xs.Pairwise earlier) :
    (sortBy (fun a b => cmp (key a) (key b) != .gt) xs).Pairwise (Ordered cmp key earlier) := by
  induction xs with
  | nil => exact .nil
  | cons x xs ih =>
    obtain ⟨head, tail⟩ := List.pairwise_cons.1 given
    refine pairwise_insertSorted (ih tail) fun y member => head y ?_
    exact (sortBy_perm _ xs).mem_iff.1 member

end Insertion

namespace Sorting

/-! ## The order of keys -/

namespace Key

/-- Whether a key compares with itself, as all do but `nan`. -/
def Compares : Sorting.Key → Prop
  | number x => x ≠ .nan
  | _ => True

/-- The place of a key: what it is, its number and its words. -/
def place : Sorting.Key → Nat × Int × String
  | id value => (0, value, "")
  | number x => (1, x.order?.getD 0, "")
  | words lower => (2, 0, lower)

/-- How two places compare: by their first parts that differ. -/
def comparePlaces : Nat × Int × String → Nat × Int × String → Ordering :=
  compareLex (compareOn Prod.fst)
    (compareLex (compareOn (Prod.fst ∘ Prod.snd)) (compareOn (Prod.snd ∘ Prod.snd)))

instance : Std.TransCmp comparePlaces :=
  inferInstanceAs (Std.TransCmp (compareLex (compareOn Prod.fst)
    (compareLex (compareOn (Prod.fst ∘ Prod.snd)) (compareOn (Prod.snd ∘ Prod.snd)))))

theorem comparePlaces_number (kind : Nat) (a b : Int) :
    comparePlaces (kind, a, "") (kind, b, "") = Ord.compare a b := by
  simp [comparePlaces, compareLex, compareOn]

theorem compare_eq {a b : Sorting.Key} (left : a.Compares) (right : b.Compares) :
    a.compare b = comparePlaces a.place b.place := by
  cases a <;> cases b <;> try rfl
  case id.id a b => exact (comparePlaces_number 0 a b).symm
  case number.number x y =>
    rw [place, place, comparePlaces_number, compare, Binary64.compare?]
    cases x with
    | nan => exact absurd rfl left
    | infinite | finite =>
      cases y with
      | nan => exact absurd rfl right
      | infinite | finite => rfl

end Key

/-! ## Both directions -/

/-- How two places compare in the direction of a list. -/
def comparePlaces (c : Sorting) (a b : Nat × Int × String) : Ordering :=
  match c.direction with
  | .ascending => Key.comparePlaces a b
  | .descending => Key.comparePlaces b a

instance (c : Sorting) : Std.TransCmp c.comparePlaces := by
  unfold comparePlaces
  cases c.direction with
  | ascending => exact inferInstanceAs (Std.TransCmp Key.comparePlaces)
  | descending => exact (Std.TransCmp.opposite : Std.TransCmp fun a b => Key.comparePlaces b a)

theorem compareKeys_eq {c : Sorting} {a b : Sorting.Key} (left : a.Compares) (right : b.Compares) :
    c.compareKeys a b = c.comparePlaces a.place b.place := by
  unfold compareKeys comparePlaces
  rw [Key.compare_eq left right]
  cases c.direction with
  | ascending => rfl
  | descending => exact Std.OrientedCmp.eq_swap.symm

variable {α : Type} {c : Sorting} {key : α → Sorting.Key} {xs : List α}

theorem map_snd_beside : (xs.map fun x => (key x, x)).map Prod.snd = xs := by
  rw [List.map_map]
  exact List.map_id xs

theorem sortOn_perm : (c.sortOn key xs).Perm xs := by
  have sorted := (sortBy_perm (fun x y => c.compareKeys x.1 y.1 != .gt)
    (xs.map fun x => (key x, x))).map Prod.snd
  rwa [map_snd_beside] at sorted

/-- The keys beside the entries are those of the entries. -/
theorem sortOn_eq (compares : ∀ x ∈ xs, (key x).Compares) :
    c.sortOn key xs =
      sortBy (fun x y => c.comparePlaces (key x).place (key y).place != .gt) xs := by
  let mayPrecede (x y : α) : Bool := c.comparePlaces (key x).place (key y).place != .gt
  have beside : ∀ a ∈ xs.map fun x => (key x, x), ∀ b ∈ xs.map fun x => (key x, x),
      (c.compareKeys a.1 b.1 != .gt) = true ↔ mayPrecede a.2 b.2 = true := by
    intro a left b right
    obtain ⟨x, here, rfl⟩ := List.mem_map.1 left
    obtain ⟨y, there, rfl⟩ := List.mem_map.1 right
    rw [compareKeys_eq (compares x here) (compares y there)]
  rw [sortOn, sortBy_eq_insertionSort, sortBy_eq_insertionSort,
    List.map_insertionSort _ (fun x y => mayPrecede x y = true) Prod.snd _ beside, map_snd_beside]

theorem pairwise_sortOn {earlier : α → α → Prop} (compares : ∀ x ∈ xs, (key x).Compares)
    (given : xs.Pairwise earlier) :
    (c.sortOn key xs).Pairwise (Ordered c.compareKeys key earlier) := by
  have sorted : (c.sortOn key xs).Pairwise
      (Ordered c.comparePlaces (fun x => (key x).place) earlier) := by
    rw [sortOn_eq compares]
    exact pairwise_sortBy given
  refine sorted.imp_of_mem fun {a b} left right ordered => ?_
  have inside (x : α) (member : x ∈ c.sortOn key xs) : (key x).Compares :=
    compares x (sortOn_perm.mem_iff.1 member)
  rw [Ordered, compareKeys_eq (inside a left) (inside b right)]
  exact ordered

end Sorting

end PartsCatalog
