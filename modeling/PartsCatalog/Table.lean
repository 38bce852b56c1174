import PartsCatalog.EntityId

/-!
# Tables

Entries by identifier, in ascending order of it.  The order is part of the type, so two tables with
the same entries are the same table, and listing a table lists its identifiers in order.
-/

namespace PartsCatalog

/-- Entries in strictly ascending order of their identifiers. -/
structure Table (α : Type) where
  entries : List (EntityId × α)
  ascending : entries.Pairwise fun a b => a.1 < b.1

namespace Table

variable {α : Type}

/-- The table without entries. -/
def empty : Table α := { entries := [], ascending := .nil }

instance : Inhabited (Table α) := ⟨empty⟩

/-- Whether there are no entries. -/
def isEmpty (t : Table α) : Bool := t.entries.isEmpty

/-- The identifiers, in ascending order. -/
def ids (t : Table α) : List EntityId := t.entries.map (·.1)

/-- The values, by ascending identifier. -/
def values (t : Table α) : List α := t.entries.map (·.2)

/-- The value of an identifier. -/
def get? (t : Table α) (id : EntityId) : Option α :=
  (t.entries.find? (·.1 == id)).map (·.2)

/-! ## Setting an entry -/

/-- Sets the value of an identifier in an ascending list of entries. -/
def setEntry (id : EntityId) (value : α) : List (EntityId × α) → List (EntityId × α)
  | [] => [(id, value)]
  | entry :: entries =>
    if id < entry.1 then (id, value) :: entry :: entries
    else if id = entry.1 then (id, value) :: entries
    else entry :: setEntry id value entries

/-- What is in a list after an entry was set is that entry or was there before. -/
theorem eq_or_mem_of_mem_setEntry {id : EntityId} {value : α} {e : EntityId × α} :
    ∀ {entries : List (EntityId × α)}, e ∈ setEntry id value entries →
      e = (id, value) ∨ e ∈ entries
  | [], h => .inl (List.mem_singleton.1 h)
  | entry :: entries, h => by
    unfold setEntry at h
    split at h
    · exact List.mem_cons.1 h
    · split at h
      · exact (List.mem_cons.1 h).imp_right (List.mem_cons_of_mem _)
      · rcases List.mem_cons.1 h with h | h
        · exact .inr (h ▸ List.mem_cons_self)
        · exact (eq_or_mem_of_mem_setEntry h).imp_right (List.mem_cons_of_mem _)

/-- Setting an entry keeps a list of entries ascending. -/
theorem pairwise_setEntry {id : EntityId} {value : α} :
    ∀ {entries : List (EntityId × α)}, (entries.Pairwise fun a b => a.1 < b.1) →
      (setEntry id value entries).Pairwise fun a b => a.1 < b.1
  | [], _ => by simp [setEntry]
  | entry :: entries, h => by
    obtain ⟨head, tail⟩ := List.pairwise_cons.1 h
    unfold setEntry
    split
    · rename_i below
      refine List.pairwise_cons.2 ⟨fun e he => ?_, h⟩
      rcases List.mem_cons.1 he with rfl | he
      · exact below
      · exact Int.lt_trans below (head e he)
    · split
      · rename_i same
        exact List.pairwise_cons.2 ⟨fun e he => same ▸ head e he, tail⟩
      · rename_i notBelow notSame
        refine List.pairwise_cons.2 ⟨fun e he => ?_, pairwise_setEntry tail⟩
        rcases eq_or_mem_of_mem_setEntry he with rfl | he
        · exact Int.lt_iff_le_and_ne.2 ⟨Int.not_lt.1 notBelow, fun same => notSame same.symm⟩
        · exact head e he

/-- The table with the value of one identifier set. -/
def insert (t : Table α) (id : EntityId) (value : α) : Table α :=
  { entries := setEntry id value t.entries, ascending := pairwise_setEntry t.ascending }

/-- The table of some entries, of which the last one of an identifier counts. -/
def ofPairs (pairs : List (EntityId × α)) : Table α :=
  pairs.foldl (fun t pair => t.insert pair.1 pair.2) empty

/-! ## Removing an entry -/

/-- The table without an identifier. -/
def erase (t : Table α) (id : EntityId) : Table α :=
  { entries := t.entries.filter (·.1 != id), ascending := t.ascending.filter _ }

end Table

end PartsCatalog
