import Mathlib.Data.List.Nodup
import PartsCatalog.FirstOccurrence

/-!
# Lists with keys

A list whose elements are told apart by a key: what finding and setting an element says about
the elements and does to their keys.  `updateOrAppend` passes over all other keys
(`updateOrAppend_append_of_not_mem`) and then changes the element at its key or appends one; all
other facts about it follow from where the key is found (`exists_split_of_find?`).  Selecting some
of the elements and showing each of them in another form go well with setting and removing
(`filter_updateOrAppend`, `map_updateOrAppend`, `map_removeFirst`).
-/

namespace PartsCatalog

variable {α κ : Type} {key : α → κ} {k : κ} {xs : List α} {x y : α}

/-! ## Finding -/

/-- With distinct keys, nothing before an element has its key. -/
theorem key_not_mem_of_nodup {before after : List α}
    (distinct : ((before ++ x :: after).map key).Nodup) : key x ∉ before.map key := by
  rw [List.map_append, List.map_cons] at distinct
  intro member
  exact (List.nodup_append.1 distinct).2.2 _ member _ List.mem_cons_self rfl

variable [BEq κ] [LawfulBEq κ]

/-- With distinct keys, the element found is the one of that key. -/
theorem find?_key_eq_some_iff (distinct : (xs.map key).Nodup) :
    xs.find? (key · == k) = some x ↔ x ∈ xs ∧ key x = k := by
  constructor
  · intro found
    exact ⟨List.mem_of_find?_eq_some found, by simpa using List.find?_some found⟩
  · rintro ⟨member, rfl⟩
    induction xs with
    | nil => cases member
    | cons head tail ih =>
      obtain ⟨fresh, distinct⟩ := List.nodup_cons.1 distinct
      rcases List.mem_cons.1 member with rfl | member
      · simp
      · have other : key head ≠ key x := fun same => fresh (same ▸ List.mem_map_of_mem member)
        rw [List.find?_cons_of_neg (by simpa using other)]
        exact ih distinct member

/-- An element is found exactly when its key is among the keys. -/
theorem find?_key_eq_none_iff : xs.find? (key · == k) = none ↔ k ∉ xs.map key := by
  simp [List.find?_eq_none]

theorem isSome_find?_key_iff : (xs.find? (key · == k)).isSome ↔ k ∈ xs.map key := by
  rw [Option.isSome_iff_ne_none, ne_eq, find?_key_eq_none_iff, not_not]

/-- With distinct keys, the elements of a key are the one that is found. -/
theorem filter_key_eq_toList (distinct : (xs.map key).Nodup) :
    xs.filter (key · == k) = (xs.find? (key · == k)).toList := by
  induction xs with
  | nil => rfl
  | cons x xs ih =>
    obtain ⟨fresh, distinct⟩ := List.nodup_cons.1 distinct
    by_cases atKey : key x = k
    · have others : xs.filter (key · == k) = [] := by
        rw [ih distinct, find?_key_eq_none_iff.2 (atKey ▸ fresh), Option.toList_none]
      rw [List.filter_cons_of_pos (by simpa using atKey), others,
        List.find?_cons_of_pos (by simpa using atKey), Option.toList_some]
    · rw [List.filter_cons_of_neg (by simpa using atKey), ih distinct,
        List.find?_cons_of_neg (by simpa using atKey)]

/-- Where a key is found, nothing before has it. -/
theorem exists_split_of_find? (found : xs.find? (key · == k) = some x) :
    ∃ before after, xs = before ++ x :: after ∧ k ∉ before.map key ∧ key x = k := by
  obtain ⟨atKey, before, after, split, other⟩ := List.find?_eq_some_iff_append.1 found
  refine ⟨before, after, split, ?_, by simpa using atKey⟩
  intro member
  obtain ⟨y, inside, same⟩ := List.mem_map.1 member
  simpa [same] using other y inside

/-! ## Setting -/

section Setting

variable {change : α → α} {fresh : α}

theorem updateOrAppend_cons_of_eq (atKey : key x = k) :
    updateOrAppend key k change fresh (x :: xs) = change x :: xs := by
  rw [updateOrAppend, if_pos (by simpa using atKey)]

theorem updateOrAppend_cons_of_ne (other : key x ≠ k) :
    updateOrAppend key k change fresh (x :: xs) = x :: updateOrAppend key k change fresh xs := by
  rw [updateOrAppend, if_neg (by simpa using other)]

/-- What has other keys is passed over. -/
theorem updateOrAppend_append_of_not_mem {before : List α} (absent : k ∉ before.map key) :
    updateOrAppend key k change fresh (before ++ xs) =
      before ++ updateOrAppend key k change fresh xs := by
  induction before with
  | nil => rfl
  | cons head tail ih =>
    obtain ⟨other, absent⟩ := List.ne_and_not_mem_of_not_mem_cons absent
    rw [List.cons_append, updateOrAppend_cons_of_ne (Ne.symm other), ih absent, List.cons_append]

theorem updateOrAppend_of_not_mem (absent : k ∉ xs.map key) :
    updateOrAppend key k change fresh xs = xs ++ [fresh] := by
  have atEnd : updateOrAppend key k change fresh (xs ++ []) = xs ++ [fresh] :=
    updateOrAppend_append_of_not_mem absent
  rwa [List.append_nil] at atEnd

/-- A change at a key leaves the keys as they are. -/
theorem map_key_updateOrAppend_of_mem (present : k ∈ xs.map key)
    (keeps : ∀ x, key x = k → key (change x) = k) :
    (updateOrAppend key k change fresh xs).map key = xs.map key := by
  cases found : xs.find? (key · == k) with
  | none => exact absurd present (find?_key_eq_none_iff.1 found)
  | some x =>
    obtain ⟨before, after, rfl, absent, atKey⟩ := exists_split_of_find? found
    rw [updateOrAppend_append_of_not_mem absent, updateOrAppend_cons_of_eq atKey, List.map_append,
      List.map_append, List.map_cons, List.map_cons, keeps x atKey, atKey]

theorem mem_updateOrAppend (member : y ∈ updateOrAppend key k change fresh xs) :
    y ∈ xs ∨ y = fresh ∨ ∃ x ∈ xs, key x = k ∧ y = change x := by
  cases found : xs.find? (key · == k) with
  | none =>
    rw [updateOrAppend_of_not_mem (find?_key_eq_none_iff.1 found)] at member
    rcases List.mem_append.1 member with member | member
    · exact .inl member
    · exact .inr (.inl (List.mem_singleton.1 member))
  | some x =>
    obtain ⟨before, after, rfl, absent, atKey⟩ := exists_split_of_find? found
    rw [updateOrAppend_append_of_not_mem absent, updateOrAppend_cons_of_eq atKey] at member
    rcases List.mem_append.1 member with member | member
    · exact .inl (List.mem_append_left _ member)
    · rcases List.mem_cons.1 member with rfl | member
      · exact .inr (.inr ⟨x, List.mem_append_right _ List.mem_cons_self, atKey, rfl⟩)
      · exact .inl (List.mem_append_right _ (List.mem_cons_of_mem _ member))

/-- Setting the element that is found changes nothing. -/
theorem updateOrAppend_of_find? (found : xs.find? (key · == k) = some x) :
    updateOrAppend key k (fun _ => x) fresh xs = xs := by
  obtain ⟨before, after, rfl, absent, atKey⟩ := exists_split_of_find? found
  rw [updateOrAppend_append_of_not_mem absent, updateOrAppend_cons_of_eq atKey]

/-- An element whose key is there changes nothing if it is only added. -/
theorem updateOrAppend_self_of_mem (present : k ∈ xs.map key) :
    updateOrAppend key k (fun x => x) fresh xs = xs := by
  cases found : xs.find? (key · == k) with
  | none => exact absurd present (find?_key_eq_none_iff.1 found)
  | some x =>
    obtain ⟨before, after, rfl, absent, atKey⟩ := exists_split_of_find? found
    rw [updateOrAppend_append_of_not_mem absent, updateOrAppend_cons_of_eq atKey]

/-- Setting an element under its key keeps the keys distinct. -/
theorem nodup_map_key_updateOrAppend (distinct : (xs.map key).Nodup) (atKey : key fresh = k)
    (keeps : ∀ x, key x = k → key (change x) = k) :
    ((updateOrAppend key k change fresh xs).map key).Nodup := by
  by_cases present : k ∈ xs.map key
  · rwa [map_key_updateOrAppend_of_mem present keeps]
  · rw [updateOrAppend_of_not_mem present, List.map_append, List.map_singleton, atKey]
    exact List.Nodup.append distinct (List.nodup_singleton k)
      (List.disjoint_singleton.2 present)

/-- Under its own key the element that was set is found, and all others as before. -/
theorem find?_updateOrAppend_const {k' : κ} (atKey : key fresh = k) :
    (updateOrAppend key k (fun _ => fresh) fresh xs).find? (key · == k') =
      if k' == k then some fresh else xs.find? (key · == k') := by
  have isFresh : (key fresh == k') = (k' == k) := by rw [atKey, BEq.comm]
  induction xs with
  | nil =>
    rw [updateOrAppend, List.find?_cons, isFresh]
    cases k' == k <;> rfl
  | cons x xs ih =>
    by_cases here : key x = k
    · have isSame : (key x == k') = (k' == k) := by rw [here, BEq.comm]
      rw [updateOrAppend_cons_of_eq here, List.find?_cons, List.find?_cons, isFresh, isSame]
      cases k' == k <;> rfl
    · rw [updateOrAppend_cons_of_ne here, List.find?_cons, ih, List.find?_cons]
      cases atOther : key x == k' with
      | false => rfl
      | true =>
        have differ : (k' == k) = false := by
          rw [← eq_of_beq atOther]
          exact beq_eq_false_iff_ne.2 here
        rw [differ]
        rfl

/-- An element that is kept is set among those that are kept. -/
theorem filter_updateOrAppend {keep : α → Bool} (kept : keep fresh)
    (whole : ∀ x, key x = k → keep x ∧ keep (change x)) :
    (updateOrAppend key k change fresh xs).filter keep =
      updateOrAppend key k change fresh (xs.filter keep) := by
  induction xs with
  | nil => simp [updateOrAppend, kept]
  | cons x xs ih =>
    by_cases atKey : key x = k
    · rw [updateOrAppend_cons_of_eq atKey, List.filter_cons_of_pos (whole x atKey).2,
        List.filter_cons_of_pos (whole x atKey).1, updateOrAppend_cons_of_eq atKey]
    · rw [updateOrAppend_cons_of_ne atKey, List.filter_cons, ih, List.filter_cons]
      split
      · rw [updateOrAppend_cons_of_ne atKey]
      · rfl

/-- An element that is not kept is set beside those that are kept. -/
theorem filter_updateOrAppend_of_not {keep : α → Bool} (dropped : keep fresh = false)
    (whole : ∀ x, key x = k → keep x = false ∧ keep (change x) = false) :
    (updateOrAppend key k change fresh xs).filter keep = xs.filter keep := by
  induction xs with
  | nil => simp [updateOrAppend, dropped]
  | cons x xs ih =>
    by_cases atKey : key x = k
    · rw [updateOrAppend_cons_of_eq atKey, List.filter_cons_of_neg (by simp [whole x atKey]),
        List.filter_cons_of_neg (by simp [whole x atKey])]
    · rw [updateOrAppend_cons_of_ne atKey, List.filter_cons, ih, List.filter_cons]

variable {β κ' : Type} [BEq κ'] [LawfulBEq κ'] {key' : β → κ'} {k' : κ'} {show' : α → β}

/-- Elements are set in the same place in whatever form they are shown, as long as the form tells
which of them has the key. -/
theorem map_updateOrAppend {change' : β → β} (sameKey : ∀ x ∈ xs, key' (show' x) = k' ↔ key x = k)
    (sameChange : ∀ x ∈ xs, key x = k → show' (change x) = change' (show' x)) :
    (updateOrAppend key k change fresh xs).map show' =
      updateOrAppend key' k' change' (show' fresh) (xs.map show') := by
  induction xs with
  | nil => rfl
  | cons x xs ih =>
    by_cases atKey : key x = k
    · rw [updateOrAppend_cons_of_eq atKey, List.map_cons, List.map_cons,
        updateOrAppend_cons_of_eq ((sameKey x List.mem_cons_self).2 atKey),
        sameChange x List.mem_cons_self atKey]
    · have other : key' (show' x) ≠ k' := fun same => atKey ((sameKey x List.mem_cons_self).1 same)
      rw [updateOrAppend_cons_of_ne atKey, List.map_cons, List.map_cons,
        updateOrAppend_cons_of_ne other, ih
          (fun y member => sameKey y (List.mem_cons_of_mem x member))
          (fun y member => sameChange y (List.mem_cons_of_mem x member))]

end Setting

/-! ## Removing -/

section Removing

variable {β : Type} {key' : β → κ} {show' : α → β}

/-- With distinct keys, removing the first element of a key leaves those of other keys. -/
theorem removeFirst_eq_filter (distinct : (xs.map key).Nodup) :
    removeFirst key k xs = xs.filter (key · != k) := by
  induction xs with
  | nil => rfl
  | cons x xs ih =>
    obtain ⟨fresh, distinct⟩ := List.nodup_cons.1 distinct
    by_cases atKey : key x = k
    · subst atKey
      have others : ∀ y ∈ xs, (key y != key x) = true := by
        intro y member
        exact bne_iff_ne.2 fun same => fresh (same ▸ List.mem_map_of_mem member)
      rw [removeFirst, if_pos (by simp), List.filter_cons_of_neg (by simp),
        List.filter_eq_self.2 others]
    · rw [removeFirst, if_neg (by simpa using atKey), ih distinct,
        List.filter_cons_of_pos (by simpa using atKey)]

/-- Removing the first element of a key takes this key out of the keys. -/
theorem map_key_perm_removeFirst (present : k ∈ xs.map key) :
    (xs.map key).Perm (k :: (removeFirst key k xs).map key) := by
  induction xs with
  | nil => cases present
  | cons x xs ih =>
    by_cases atKey : key x = k
    · rw [removeFirst, if_pos (by simpa using atKey), List.map_cons, atKey]
    · have later : k ∈ xs.map key := (List.mem_cons.1 present).resolve_left (Ne.symm atKey)
      rw [removeFirst, if_neg (by simpa using atKey), List.map_cons, List.map_cons]
      exact ((ih later).cons _).trans (.swap ..)

omit [LawfulBEq κ] in
theorem map_removeFirst (sameKey : ∀ x, key' (show' x) = key x) :
    (removeFirst key k xs).map show' = removeFirst key' k (xs.map show') := by
  induction xs with
  | nil => rfl
  | cons x xs ih =>
    rw [removeFirst, List.map_cons, removeFirst, sameKey]
    split
    · rfl
    · rw [List.map_cons, ih]

/-! ### All elements of a key -/

variable {k' : κ}

theorem find?_filter_key_ne (other : k' ≠ k) :
    (xs.filter (key · != k)).find? (key · == k') = xs.find? (key · == k') := by
  rw [List.find?_filter]
  congr 1
  funext x
  by_cases here : key x = k' <;> simp [here, other]

theorem find?_filter_key_self : (xs.filter (key · != k)).find? (key · == k) = none :=
  List.find?_eq_none.2 (by simp)

theorem filter_filter_key_ne (other : k' ≠ k) :
    (xs.filter (key · != k)).filter (key · == k') = xs.filter (key · == k') := by
  rw [List.filter_filter]
  congr 1
  funext x
  by_cases here : key x = k' <;> simp [here, other]

end Removing

end PartsCatalog
