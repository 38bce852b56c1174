import Mathlib.Data.List.Induction
import PartsCatalog.Editing
import PartsCatalog.Proofs.Keyed
import PartsCatalog.Proofs.Since

/-!
# Edits of products

What a product is made of is told from its edits alone (`materials_follow_edits`).  A material is
held from the edit that first sets it until it is removed, and meanwhile is what was last set; the
materials stand in the order in which they entered.  One edit is a step from the edits before it to
those with it (`Follows.edit`), and a product without materials follows no edits.
-/

namespace PartsCatalog

namespace Product

/-! ## Telling from edits -/

namespace Edit

/-- The identifier of the material that an edit sets or removes. -/
def subject? : Edit → Option EntityId
  | .setMaterial m => some m.id
  | .removeMaterial id => some id
  | .setDescription _ => none
  | .setQuantity _ => none

/-- An edit sets the material of an identifier. -/
def Sets (id : EntityId) (e : Edit) : Prop := ∃ m, e = .setMaterial m ∧ m.id = id

end Edit

/-- The material of an identifier was set, and has not been removed since. -/
def Held (id : EntityId) (edits : List Edit) : Prop :=
  Since (Edit.Sets id) (· ≠ .removeMaterial id) edits

/-- A material is the last that was set for an identifier, and no edit has removed it since. -/
def LastSet (id : EntityId) (m : Material) (edits : List Edit) : Prop :=
  m.id = id ∧ Since (· = .setMaterial m) (·.subject? ≠ some id) edits

/-- The edit at a place sets a material that is not held before, and nothing after it removes the
material again. -/
structure EntersAt (edits : List Edit) (place : Nat) (id : EntityId) : Prop where
  sets : ∃ e, edits[place]? = some e ∧ e.Sets id
  fresh : ¬ Held id (edits.take place)
  stays : ∀ e ∈ edits.drop (place + 1), e ≠ .removeMaterial id

/-- Both materials are held, and one entered before the other. -/
def EntersBefore (edits : List Edit) (id id' : EntityId) : Prop :=
  ∃ place place', place < place' ∧ EntersAt edits place id ∧ EntersAt edits place' id'

variable {edits : List Edit} {e : Edit} {m : Material} {id id' : EntityId} {place : Nat}

theorem Edit.sets_iff : (Edit.setMaterial m).Sets id ↔ m.id = id := by
  constructor
  · intro sets
    obtain ⟨_, ⟨⟩, atKey⟩ := sets
    exact atKey
  · exact fun atKey => ⟨m, rfl, atKey⟩

theorem held_concat :
    Held id (edits ++ [e]) ↔ e.Sets id ∨ Held id edits ∧ e ≠ .removeMaterial id := since_concat

theorem lastSet_concat_of_eq (own : e.subject? = some id) :
    LastSet id m (edits ++ [e]) ↔ e = .setMaterial m := by
  rw [LastSet, since_concat]
  constructor
  · intro ⟨_, last⟩
    exact last.resolve_right fun ⟨_, other⟩ => other own
  · rintro rfl
    exact ⟨Option.some.inj own, .inl rfl⟩

theorem lastSet_concat_of_ne (other : e.subject? ≠ some id) :
    LastSet id m (edits ++ [e]) ↔ LastSet id m edits := by
  rw [LastSet, since_concat]
  constructor
  · intro ⟨atKey, last⟩
    rcases last with rfl | ⟨before, _⟩
    · exact absurd (congrArg some atKey) other
    · exact ⟨atKey, before⟩
  · intro ⟨atKey, before⟩
    exact ⟨atKey, .inr ⟨before, other⟩⟩

namespace EntersAt

theorem lt (enters : EntersAt edits place id) : place < edits.length := by
  obtain ⟨e, here, -⟩ := enters.sets
  exact (List.getElem?_eq_some_iff.1 here).1

/-- What has entered is still there after an edit that does not remove it. -/
theorem concat (enters : EntersAt edits place id) (stays : e ≠ .removeMaterial id) :
    EntersAt (edits ++ [e]) place id := by
  have inside := enters.lt
  refine ⟨?_, ?_, fun later member => ?_⟩
  · rw [List.getElem?_append_left inside]
    exact enters.sets
  · rw [List.take_append_of_le_length (Nat.le_of_lt inside)]
    exact enters.fresh
  · rw [List.drop_append_of_le_length inside] at member
    rcases List.mem_append.1 member with before | last
    · exact enters.stays later before
    · rwa [List.mem_singleton.1 last]

theorem not_lt {place' : Nat} (enters : EntersAt edits place id)
    (enters' : EntersAt edits place' id) : ¬ place < place' := by
  intro before
  obtain ⟨e, here, sets⟩ := enters.sets
  have log : (edits.take place')[place]? = some e := by rwa [List.getElem?_take_of_lt before]
  obtain ⟨inside, rfl⟩ := List.getElem?_eq_some_iff.1 log
  apply enters'.fresh
  -- nothing has removed it from the earlier place to the later one
  refine ⟨(edits.take place').take place, _, (edits.take place').drop (place + 1), ?_, sets,
    fun later member => ?_⟩
  · rw [List.getElem_cons_drop, List.take_append_drop]
  · rw [List.drop_take] at member
    exact enters.stays later (List.mem_of_mem_take member)

/-- There is one place at which an identifier enters, if there is any. -/
theorem unique {place' : Nat} (enters : EntersAt edits place id)
    (enters' : EntersAt edits place' id) : place = place' :=
  Nat.le_antisymm (Nat.not_lt.1 (enters'.not_lt enters)) (Nat.not_lt.1 (enters.not_lt enters'))

theorem last (sets : e.Sets id) (fresh : ¬ Held id edits) :
    EntersAt (edits ++ [e]) edits.length id :=
  ⟨⟨e, by simp, sets⟩, by rwa [List.take_left], by simp⟩

end EntersAt

/-- What is held has entered with some edit. -/
theorem exists_entersAt (held : Held id edits) : ∃ place, EntersAt edits place id := by
  induction edits using List.reverseRecOn with
  | nil => exact absurd held not_since_nil
  | append_singleton edits e ih =>
    by_cases before : Held id edits
    · obtain ⟨place, enters⟩ := ih before
      refine ⟨place, enters.concat ?_⟩
      rcases held_concat.1 held with ⟨m, rfl, -⟩ | ⟨-, stays⟩
      · exact nofun
      · exact stays
    · have sets : e.Sets id := (held_concat.1 held).resolve_right fun ⟨held, _⟩ => before held
      exact ⟨edits.length, .last sets before⟩

namespace EntersBefore

theorem concat (enter : EntersBefore edits id id') (stays : e ≠ .removeMaterial id)
    (stays' : e ≠ .removeMaterial id') : EntersBefore (edits ++ [e]) id id' := by
  obtain ⟨place, place', before, enters, enters'⟩ := enter
  exact ⟨place, place', before, enters.concat stays, enters'.concat stays'⟩

/-- What enters last enters after everything that is held. -/
theorem last (held : Held id edits) (stays : e ≠ .removeMaterial id) (sets : e.Sets id')
    (fresh : ¬ Held id' edits) : EntersBefore (edits ++ [e]) id id' := by
  obtain ⟨place, enters⟩ := exists_entersAt held
  exact ⟨place, edits.length, enters.lt, enters.concat stays, .last sets fresh⟩

end EntersBefore

/-! ## One edit -/

variable {p : Product}

theorem isSome_material?_iff : (p.material? id).isSome ↔ id ∈ p.materials.map Material.id :=
  isSome_find?_key_iff

/-- The materials of a product are those that edits of a product without materials lead to. -/
structure Follows (p : Product) (edits : List Edit) : Prop where
  distinct : (p.materials.map Material.id).Nodup
  held : ∀ id, id ∈ p.materials.map Material.id ↔ Held id edits
  found : ∀ id m, p.material? id = some m ↔ LastSet id m edits
  ordered : (p.materials.map Material.id).Pairwise (EntersBefore edits)

namespace Follows

theorem nil (empty : p.materials = []) : p.Follows [] := by
  have nothing : ∀ {starts stays : Edit → Prop}, Since starts stays [] ↔ False :=
    iff_false_intro not_since_nil
  refine ⟨?_, fun id => ?_, fun id m => ?_, ?_⟩
  · simp [empty]
  · simp [empty, Held, nothing]
  · simp [material?, empty, LastSet, nothing]
  · simp [empty]

theorem setMaterial (follows : p.Follows edits) (m : Material) :
    (p.setMaterial m).Follows (edits ++ [.setMaterial m]) := by
  have stays : ∀ id, Edit.setMaterial m ≠ .removeMaterial id := fun _ => nofun
  have found : ∀ id, (p.setMaterial m).material? id =
      if id == m.id then some m else p.material? id := fun _ => find?_updateOrAppend_const rfl
  refine ⟨nodup_map_key_updateOrAppend follows.distinct rfl fun _ _ => rfl, fun id => ?_,
    fun id m' => ?_, ?_⟩
  · rw [← isSome_material?_iff, found, held_concat, Edit.sets_iff, ← follows.held,
      ← isSome_material?_iff]
    by_cases same : id = m.id
    · simp [same]
    · simp [same, Ne.symm same]
  · rw [found]
    by_cases same : id = m.id
    · have own : (Edit.setMaterial m).subject? = some id := congrArg some same.symm
      rw [if_pos (beq_iff_eq.2 same), lastSet_concat_of_eq own]
      simp
    · have other : (Edit.setMaterial m).subject? ≠ some id := by
        simpa [Edit.subject?] using Ne.symm same
      rw [if_neg (mt beq_iff_eq.1 same), lastSet_concat_of_ne other, follows.found]
  · have kept : (p.materials.map Material.id).Pairwise
        (EntersBefore (edits ++ [.setMaterial m])) :=
      follows.ordered.imp fun enter => enter.concat (stays _) (stays _)
    -- a material that is held keeps its place, and any other enters last
    by_cases present : m.id ∈ p.materials.map Material.id
    · have ids : (p.setMaterial m).materials.map Material.id = p.materials.map Material.id :=
        map_key_updateOrAppend_of_mem present fun _ _ => rfl
      rwa [ids]
    · have added : (p.setMaterial m).materials = p.materials ++ [m] :=
        updateOrAppend_of_not_mem present
      rw [added, List.map_append, List.pairwise_append]
      refine ⟨kept, List.pairwise_singleton _ _, fun id member id' last => ?_⟩
      cases List.mem_singleton.1 last
      exact .last ((follows.held id).1 member) (stays id) ⟨m, rfl, rfl⟩
        (mt (follows.held m.id).2 present)

theorem removeMaterial (follows : p.Follows edits) (id : EntityId) :
    (p.removeMaterial id).Follows (edits ++ [.removeMaterial id]) := by
  have left : (p.removeMaterial id).materials = p.materials.filter (·.id != id) :=
    removeFirst_eq_filter follows.distinct
  have ids : (p.removeMaterial id).materials.map Material.id =
      (p.materials.map Material.id).filter (· != id) := by
    rw [left, List.filter_map]
    rfl
  have others : ∀ {other : EntityId}, other ≠ id →
      Edit.removeMaterial id ≠ .removeMaterial other := by
    intro other differs same
    cases same
    exact differs rfl
  refine ⟨?_, fun id' => ?_, fun id' m => ?_, ?_⟩
  · rw [ids]
    exact follows.distinct.filter _
  · have sets : ¬ (Edit.removeMaterial id).Sets id' := nofun
    rw [ids, List.mem_filter, follows.held, held_concat, or_iff_right sets]
    apply and_congr_right'
    constructor
    · exact fun differs => others (bne_iff_ne.1 differs)
    · exact fun stays => bne_iff_ne.2 fun same => stays (congrArg _ same.symm)
  · rw [material?, left]
    by_cases same : id' = id
    · subst same
      rw [find?_filter_key_self, lastSet_concat_of_eq rfl]
      exact ⟨nofun, nofun⟩
    · have other : (Edit.removeMaterial id).subject? ≠ some id' := by
        simpa [Edit.subject?] using Ne.symm same
      rw [find?_filter_key_ne same, lastSet_concat_of_ne other, ← follows.found, material?]
  · rw [ids]
    refine (follows.ordered.filter _).imp_of_mem fun member member' enter => ?_
    exact enter.concat (others (bne_iff_ne.1 (List.mem_filter.1 member).2))
      (others (bne_iff_ne.1 (List.mem_filter.1 member').2))

/-- An edit that concerns no material leaves the materials. -/
theorem of_materials (follows : p.Follows edits) {q : Product} (same : q.materials = p.materials)
    (none : e.subject? = none) : q.Follows (edits ++ [e]) := by
  have sets : ∀ id, ¬ e.Sets id := by
    intro id ⟨m, isSet, _⟩
    rw [isSet] at none
    cases none
  have stays : ∀ id, e ≠ .removeMaterial id := by
    intro id isRemoval
    rw [isRemoval] at none
    cases none
  have other : ∀ id, e.subject? ≠ some id := by
    intro id isSubject
    rw [none] at isSubject
    cases isSubject
  refine ⟨?_, fun id => ?_, fun id m => ?_, ?_⟩
  · rw [same]
    exact follows.distinct
  · rw [same, follows.held, held_concat, or_iff_right (sets id), and_iff_left (stays id)]
  · rw [material?, same, lastSet_concat_of_ne (other id), ← follows.found, material?]
  · rw [same]
    exact follows.ordered.imp fun enter => enter.concat (stays _) (stays _)

/-- One edit is a step from the edits before it to those with it. -/
theorem edit (follows : p.Follows edits) (e : Edit) : (p.edit e).1.Follows (edits ++ [e]) := by
  cases e with
  | setMaterial m => exact follows.setMaterial m
  | removeMaterial id => exact follows.removeMaterial id
  | setDescription | setQuantity => exact follows.of_materials rfl rfl

theorem editAll (empty : p.materials = []) (edits : List Edit) :
    (p.editAll edits).Follows edits := by
  induction edits using List.reverseRecOn with
  | nil => exact .nil empty
  | append_singleton edits e ih =>
    have last : p.editAll (edits ++ [e]) = ((p.editAll edits).edit e).1 := List.foldl_concat ..
    rw [last]
    exact ih.edit e

end Follows

/-- An edit leaves the materials that it does not concern, and the order among them. -/
theorem filter_materials_edit (distinct : (p.materials.map Material.id).Nodup) (e : Edit) :
    (p.edit e).1.materials.filter (e.subject? ≠ some ·.id) =
      p.materials.filter (e.subject? ≠ some ·.id) := by
  cases e with
  | setMaterial m =>
    apply filter_updateOrAppend_of_not
    · simp [Edit.subject?]
    · intro m' atKey
      simp [Edit.subject?, atKey]
  | removeMaterial id =>
    have left : (p.removeMaterial id).materials = p.materials.filter (·.id != id) :=
      removeFirst_eq_filter distinct
    rw [edit, left, List.filter_filter]
    apply List.filter_congr
    intro m _
    by_cases same : m.id = id
    · simp [Edit.subject?, same]
    · simp [Edit.subject?, same, Ne.symm same]
  | setDescription | setQuantity => rfl

/-! ## All edits -/

/-- **Materials follow the edits** of a product that starts without any.  Their identifiers are
different; the material of an identifier is what was last set for it, unless that was removed since.
Each entered with one edit, the first to set it since it was last removed, and the order is that in
which they entered.  Setting a material answers whether its identifier was held, removing one
answers the material that was there, and the materials that an edit does not concern stay as they
are. -/
theorem materials_follow_edits (p : Product) (edits : List Edit) (empty : p.materials = []) :
    let q := p.editAll edits
    (q.materials.map Material.id).Nodup ∧
    (∀ id m, q.material? id = some m ↔ LastSet id m edits) ∧
    (∀ id, q.material? id = none ↔ ¬ Held id edits) ∧
    (∀ id, Held id edits → ∃! place, EntersAt edits place id) ∧
    (q.materials.map Material.id).Pairwise (EntersBefore edits) ∧
    (∀ m, ∃ wasThere : Bool, (q.edit (.setMaterial m)).2 = .replaced wasThere ∧
      (wasThere ↔ Held m.id edits)) ∧
    (∀ id, (q.edit (.removeMaterial id)).2 = .removed (q.material? id)) ∧
    ∀ e, (q.edit e).1.materials.filter (e.subject? ≠ some ·.id) =
      q.materials.filter (e.subject? ≠ some ·.id) := by
  intro q
  have follows : q.Follows edits := .editAll empty edits
  have held : ∀ id, (q.material? id).isSome ↔ Held id edits := fun id =>
    isSome_material?_iff.trans (follows.held id)
  refine ⟨follows.distinct, follows.found, fun id => ?_, fun id isHeld => ?_, follows.ordered,
    fun m => ⟨_, rfl, held m.id⟩, fun id => rfl, filter_materials_edit follows.distinct⟩
  · rw [← held, Option.not_isSome_iff_eq_none]
  · obtain ⟨place, enters⟩ := exists_entersAt isHeld
    exact ⟨place, enters, fun place' enters' => enters'.unique enters⟩

/-- A desk of steel and wood whose steel is taken out and put back. -/
def deskEdits : List Edit :=
  let steel := Material.new 1 { id := 3, name := "kg" }
  let wood := Material.new 2 { id := 3, name := "kg" }
  [.setMaterial steel, .setMaterial wood, .removeMaterial 1, .setMaterial steel,
    .setMaterial (wood.withDescription "oak")]

theorem desk_has_its_steel_behind_the_wood :
    let desk := new 4 "Desk"
    let q := desk.editAll deskEdits
    desk.materials = [] ∧ q.materials.map Material.id = [2, 1] ∧ EntersBefore deskEdits 2 1 ∧
      ∃ wood, q.material? 2 = some wood ∧ wood.description = "oak" ∧ LastSet 2 wood deskEdits := by
  intro desk q
  obtain ⟨-, found, -, -, ordered, -⟩ := materials_follow_edits desk deskEdits rfl
  have ids : q.materials.map Material.id = [2, 1] := rfl
  rw [ids] at ordered
  have before : EntersBefore deskEdits 2 1 :=
    (List.pairwise_cons.1 ordered).1 1 (List.mem_singleton.2 rfl)
  exact ⟨rfl, ids, before, _, rfl, rfl, (found 2 _).1 rfl⟩

end Product

end PartsCatalog
