import PartsCatalog.Inventory.Basic

/-!
# Actions

An action reads and writes an inventory step by step and may end in a fault.  A fault ends it where
it arises and takes nothing back: what was written before stays written.
-/

namespace PartsCatalog

/-- A computation on an inventory. -/
abbrev Action (α : Type) := EStateM Fault Inventory α

namespace Action

variable {α : Type}

/-- Looks something up; the fault of a lookup is the fault of the action. -/
def consult (look : Inventory → Except Fault α) : Action α := do
  match look (← get) with
  | .ok answer => return answer
  | .error fault => throw fault

/-- Gives out the next identifier. -/
def takeId : Action EntityId := do
  modify Inventory.advance
  return (← get).lastId

end Action

end PartsCatalog
