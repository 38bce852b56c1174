import Mathlib.Data.List.Nodup
import PartsCatalog.Proofs.Keyed
import PartsCatalog.Table

/-!
# Laws of tables

What a table holds after an entry is set or removed, seen through its entries, its lookups and its
identifiers.  Lookups and identifiers are both read off the entries (`get?_eq_some_iff`,
`mem_ids_iff`), and tables that hold the same identifiers list them in the same order
(`eq_of_ascending`).
-/

namespace PartsCatalog.Table

variable {α : Type} {t : Table α} {id k : EntityId} {value v : α}

/-! ## Identifiers -/

theorem ids_ascending (t : Table α) : t.ids.Pairwise (· < ·) := List.pairwise_map.2 t.ascending

theorem ids_nodup (t : Table α) : t.ids.Nodup := t.ids_ascending.imp Int.ne_of_lt

/-- Ascending lists with the same elements are the same list. -/
theorem eq_of_ascending {xs ys : List EntityId} (left : xs.Pairwise (· < ·))
    (right : ys.Pairwise (· < ·)) (same : ∀ id, id ∈ xs ↔ id ∈ ys) : xs = ys :=
  List.Perm.eq_of_pairwise (fun _ _ _ _ below above => absurd above (Int.lt_asymm below)) left right
    ((List.perm_ext_iff_of_nodup (left.imp Int.ne_of_lt) (right.imp Int.ne_of_lt)).2 same)

/-! ## Lookups -/

theorem get?_eq_some_iff : t.get? id = some v ↔ (id, v) ∈ t.entries := by
  constructor
  · intro found
    obtain ⟨⟨_, _⟩, atId, rfl⟩ := Option.map_eq_some_iff.1 found
    obtain ⟨member, rfl⟩ := (find?_key_eq_some_iff t.ids_nodup).1 atId
    exact member
  · intro member
    exact Option.map_eq_some_iff.2 ⟨_, (find?_key_eq_some_iff t.ids_nodup).2 ⟨member, rfl⟩, rfl⟩

theorem mem_ids_iff : id ∈ t.ids ↔ ∃ v, t.get? id = some v := by
  constructor
  · intro member
    obtain ⟨⟨_, v⟩, held, rfl⟩ := List.mem_map.1 member
    exact ⟨v, get?_eq_some_iff.2 held⟩
  · rintro ⟨v, found⟩
    exact List.mem_map.2 ⟨_, get?_eq_some_iff.1 found, rfl⟩

theorem mem_ids_of_get? (found : t.get? id = some v) : id ∈ t.ids := mem_ids_iff.2 ⟨v, found⟩

theorem get?_eq_none_iff : t.get? id = none ↔ id ∉ t.ids := by
  rw [mem_ids_iff, ← Option.isSome_iff_exists, Option.not_isSome_iff_eq_none]

theorem mem_values_iff : v ∈ t.values ↔ ∃ id, t.get? id = some v := by
  constructor
  · intro member
    obtain ⟨⟨id, _⟩, held, rfl⟩ := List.mem_map.1 member
    exact ⟨id, get?_eq_some_iff.2 held⟩
  · rintro ⟨id, found⟩
    exact List.mem_map.2 ⟨_, get?_eq_some_iff.1 found, rfl⟩

@[simp] theorem ids_empty : (empty : Table α).ids = [] := rfl

/-! ## Setting an entry -/

theorem mem_setEntry_iff {e : EntityId × α} :
    ∀ {entries : List (EntityId × α)}, (entries.Pairwise fun a b => a.1 < b.1) →
      (e ∈ setEntry id value entries ↔ e = (id, value) ∨ e ∈ entries ∧ e.1 ≠ id)
  | [], _ => by simp [setEntry]
  | entry :: entries, ascending => by
    obtain ⟨head, tail⟩ := List.pairwise_cons.1 ascending
    unfold setEntry
    split
    · rename_i below
      -- every entry stands above `id`, so none of them is replaced
      have other : ∀ x ∈ entry :: entries, x.1 ≠ id := by
        intro x member
        rcases List.mem_cons.1 member with rfl | member
        · exact Int.ne_of_gt below
        · exact Int.ne_of_gt (Int.lt_trans below (head x member))
      rw [List.mem_cons]
      exact or_congr_right ⟨fun member => ⟨member, other e member⟩, And.left⟩
    · split
      · rename_i same
        have other : ∀ x ∈ entries, x.1 ≠ id := fun x member =>
          Int.ne_of_gt (same ▸ head x member)
        rw [List.mem_cons, List.mem_cons]
        refine or_congr_right ⟨fun member => ⟨.inr member, other e member⟩, ?_⟩
        rintro ⟨rfl | member, differs⟩
        · exact absurd same.symm differs
        · exact member
      · rename_i notSame
        rw [List.mem_cons, mem_setEntry_iff tail, List.mem_cons]
        have differs : entry.1 ≠ id := fun same => notSame same.symm
        constructor
        · rintro (rfl | rfl | ⟨member, other⟩)
          · exact .inr ⟨.inl rfl, differs⟩
          · exact .inl rfl
          · exact .inr ⟨.inr member, other⟩
        · rintro (rfl | ⟨rfl | member, other⟩)
          · exact .inr (.inl rfl)
          · exact .inl rfl
          · exact .inr (.inr ⟨member, other⟩)

/-- A table holds what was set and what it held under other identifiers. -/
theorem mem_insert {e : EntityId × α} :
    e ∈ (t.insert id value).entries ↔ e = (id, value) ∨ e ∈ t.entries ∧ e.1 ≠ id :=
  mem_setEntry_iff t.ascending

theorem get?_insert_eq_some_iff :
    (t.insert id value).get? k = some v ↔ k = id ∧ v = value ∨ t.get? k = some v ∧ k ≠ id := by
  rw [get?_eq_some_iff, mem_insert, get?_eq_some_iff, Prod.mk.injEq]

/-- What holds of the entry set and of those before holds of all. -/
theorem forall_get?_insert {P : EntityId → α → Prop} (set : P id value)
    (before : ∀ k v, t.get? k = some v → P k v) :
    ∀ k v, (t.insert id value).get? k = some v → P k v := by
  intro k v found
  rcases get?_insert_eq_some_iff.1 found with ⟨rfl, rfl⟩ | ⟨found, -⟩
  · exact set
  · exact before k v found

@[simp] theorem get?_insert_self : (t.insert id value).get? id = some value :=
  get?_insert_eq_some_iff.2 (.inl ⟨rfl, rfl⟩)

theorem get?_insert_of_ne (other : k ≠ id) : (t.insert id value).get? k = t.get? k := by
  apply Option.ext
  intro v
  rw [get?_insert_eq_some_iff]
  simp [other]

theorem mem_ids_insert : k ∈ (t.insert id value).ids ↔ k = id ∨ k ∈ t.ids := by
  simp only [mem_ids_iff, get?_insert_eq_some_iff]
  by_cases same : k = id <;> simp [same]

theorem ids_insert_of_mem (present : id ∈ t.ids) : (t.insert id value).ids = t.ids := by
  apply eq_of_ascending (ids_ascending _) (ids_ascending _)
  intro k
  rw [mem_ids_insert, or_iff_right_iff_imp]
  rintro rfl
  exact present

theorem ids_insert_perm (absent : id ∉ t.ids) : (t.insert id value).ids.Perm (id :: t.ids) := by
  refine (List.perm_ext_iff_of_nodup (ids_nodup _) ?_).2 fun k => ?_
  · exact List.nodup_cons.2 ⟨absent, ids_nodup _⟩
  · rw [mem_ids_insert, List.mem_cons]

/-- Setting what is there already changes nothing. -/
theorem setEntry_of_mem :
    ∀ {entries : List (EntityId × α)}, (entries.Pairwise fun a b => a.1 < b.1) →
      (id, value) ∈ entries → setEntry id value entries = entries
  | entry :: entries, ascending, member => by
    obtain ⟨head, tail⟩ := List.pairwise_cons.1 ascending
    unfold setEntry
    rcases List.mem_cons.1 member with rfl | later
    · rw [if_neg (Int.lt_irrefl _), if_pos rfl]
    · have above : entry.1 < id := head _ later
      rw [if_neg (Int.lt_asymm above), if_neg (Int.ne_of_gt above), setEntry_of_mem tail later]

/-- What stands above all entries is set at the end. -/
theorem setEntry_of_above {entries : List (EntityId × α)} (above : ∀ e ∈ entries, e.1 < id) :
    setEntry id value entries = entries ++ [(id, value)] := by
  induction entries with
  | nil => rfl
  | cons entry entries ih =>
    obtain ⟨first, others⟩ := List.forall_mem_cons.1 above
    rw [setEntry, if_neg (Int.lt_asymm first), if_neg (Int.ne_of_gt first), ih others,
      List.cons_append]

theorem insert_of_get? (found : t.get? id = some value) : t.insert id value = t := by
  obtain ⟨entries, ascending⟩ := t
  have same : setEntry id value entries = entries :=
    setEntry_of_mem ascending (get?_eq_some_iff.1 found)
  simp only [insert, same]

theorem entries_insert_of_above (above : ∀ k ∈ t.ids, k < id) :
    (t.insert id value).entries = t.entries ++ [(id, value)] :=
  setEntry_of_above fun e member => above e.1 (List.mem_map_of_mem member)

/-! ## Tables of pairs -/

variable {pairs before after : List (EntityId × α)}

/-- What holds of all pairs holds of all entries. -/
theorem forall_get?_ofPairs {P : EntityId → α → Prop} (each : ∀ pair ∈ pairs, P pair.1 pair.2) :
    ∀ k v, (ofPairs pairs).get? k = some v → P k v := by
  have steps : ∀ t : Table α, (∀ k v, t.get? k = some v → P k v) → ∀ k v,
      (pairs.foldl (fun t pair => t.insert pair.1 pair.2) t).get? k = some v → P k v := by
    induction pairs with
    | nil => exact fun t held => held
    | cons pair pairs ih =>
      obtain ⟨first, others⟩ := List.forall_mem_cons.1 each
      exact fun t held => ih others _ (forall_get?_insert first held)
  exact steps empty fun k v found => by cases found

theorem ids_foldl_insert :
    k ∈ (pairs.foldl (fun t pair => t.insert pair.1 pair.2) t).ids ↔
      k ∈ t.ids ∨ k ∈ pairs.map Prod.fst := by
  induction pairs generalizing t with
  | nil => simp
  | cons pair pairs ih =>
    rw [List.foldl_cons, ih, mem_ids_insert, List.map_cons, List.mem_cons, or_assoc, or_left_comm]

theorem mem_ids_ofPairs : k ∈ (ofPairs pairs).ids ↔ k ∈ pairs.map Prod.fst := by
  rw [ofPairs, ids_foldl_insert, ids_empty]
  simp

theorem get?_foldl_insert_of_not_mem (absent : k ∉ pairs.map Prod.fst) :
    (pairs.foldl (fun t pair => t.insert pair.1 pair.2) t).get? k = t.get? k := by
  induction pairs generalizing t with
  | nil => rfl
  | cons pair pairs ih =>
    rw [List.map_cons, List.mem_cons, not_or] at absent
    rw [List.foldl_cons, ih absent.2, get?_insert_of_ne absent.1]

/-- The last pair of an identifier counts. -/
theorem get?_ofPairs_of_last (last : id ∉ after.map Prod.fst) :
    (ofPairs (before ++ (id, value) :: after)).get? id = some value := by
  rw [ofPairs, List.foldl_append, List.foldl_cons, get?_foldl_insert_of_not_mem last,
    get?_insert_self]

/-! ## Removing an entry -/

theorem get?_erase_eq_some_iff : (t.erase id).get? k = some v ↔ t.get? k = some v ∧ k ≠ id := by
  rw [get?_eq_some_iff, get?_eq_some_iff]
  simp [erase, List.mem_filter]

theorem forall_get?_erase {P : EntityId → α → Prop} (before : ∀ k v, t.get? k = some v → P k v) :
    ∀ k v, (t.erase id).get? k = some v → P k v := fun k v found =>
  before k v (get?_erase_eq_some_iff.1 found).1

@[simp] theorem get?_erase_self : (t.erase id).get? id = none := by
  apply Option.eq_none_iff_forall_not_mem.2
  intro v found
  exact (get?_erase_eq_some_iff.1 found).2 rfl

theorem get?_erase_of_ne (other : k ≠ id) : (t.erase id).get? k = t.get? k := by
  apply Option.ext
  intro v
  rw [get?_erase_eq_some_iff]
  simp [other]

theorem ids_erase : (t.erase id).ids = t.ids.filter (· != id) := by
  simp only [ids, erase, List.filter_map, Function.comp_def]

theorem mem_ids_erase : k ∈ (t.erase id).ids ↔ k ∈ t.ids ∧ k ≠ id := by
  rw [ids_erase, List.mem_filter, bne_iff_ne]

theorem ids_erase_perm (present : id ∈ t.ids) : t.ids.Perm (id :: (t.erase id).ids) := by
  have distinct : (id :: (t.erase id).ids).Nodup :=
    List.nodup_cons.2 ⟨fun kept => (mem_ids_erase.1 kept).2 rfl, ids_nodup _⟩
  refine (List.perm_ext_iff_of_nodup t.ids_nodup distinct).2 fun k => ?_
  rw [List.mem_cons, mem_ids_erase]
  by_cases same : k = id <;> simp [same, present]

end PartsCatalog.Table
