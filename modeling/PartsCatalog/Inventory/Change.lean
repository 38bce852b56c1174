import PartsCatalog.Inventory.Files
import PartsCatalog.Inventory.Materials
import PartsCatalog.Inventory.Products
import PartsCatalog.Inventory.Units

/-!
# Changes

Everything that can be done to an inventory is a `Change`, which is carried out by one action.  A
change succeeds with an `Outcome`, or fails; either way the inventory is what its action left.
-/

namespace PartsCatalog

/-- One change to an inventory. -/
inductive Change where
  | addUnit (name : String)
  | renameUnit (id : EntityId) (name : String)
  | removeUnit (id : EntityId)
  | addMaterial (material : Material)
  | renameMaterial (id : EntityId) (primaryName : String) (names : List String)
  | changeUnit (id unitId : EntityId)
  | describeMaterial (id : EntityId) (description : String)
  | removeMaterial (id : EntityId)
  | addProduct (product : Product)
  | reviseProduct (id : EntityId) (name description : String)
  | setPart (productId materialId : EntityId) (quantity : String)
  | removePart (productId materialId : EntityId)
  | removeProduct (id : EntityId)
  | addFile (owner : Owner) (name path mediaType : String) (bytes : Nat)
  | choosePicture (owner : Owner) (fileId : EntityId)
  | removeFile (owner : Owner) (fileId : EntityId)

/-- What a successful change answers. -/
inductive Outcome where
  | done
  /-- Something was added under this identifier. -/
  | added (id : EntityId)
  /-- Whether there was anything to take out. -/
  | takenOut (wasThere : Bool)
  | removedFile (file : File)
deriving DecidableEq

/-- The action of a change. -/
def Change.perform : Change → Action Outcome
  | .addUnit name => .added <$> Inventory.addUnit name
  | .renameUnit id name => done <| Inventory.renameUnit id name
  | .removeUnit id => done <| Inventory.removeUnit id
  | .addMaterial material => .added <$> Inventory.addMaterial material
  | .renameMaterial id primaryName names => done <| Inventory.renameMaterial id primaryName names
  | .changeUnit id unitId => done <| Inventory.changeUnit id unitId
  | .describeMaterial id description => done <| Inventory.describeMaterial id description
  | .removeMaterial id => done <| Inventory.removeMaterial id
  | .addProduct product => .added <$> Inventory.addProduct product
  | .reviseProduct id name description => done <| Inventory.reviseProduct id name description
  | .setPart productId materialId quantity =>
    done <| Inventory.setPart productId materialId quantity
  | .removePart productId materialId => .takenOut <$> Inventory.removePart productId materialId
  | .removeProduct id => done <| Inventory.removeProduct id
  | .addFile owner name path mediaType bytes =>
    .added <$> Inventory.addFile owner name path mediaType bytes
  | .choosePicture owner fileId => done <| Inventory.choosePicture owner fileId
  | .removeFile owner fileId => .removedFile <$> Inventory.removeFile owner fileId
where
  done (action : Action Unit) : Action Outcome := (fun _ => .done) <$> action

namespace Inventory

/-- The inventory after a change, whether it succeeds or not, and what it answers. -/
def step (inv : Inventory) (change : Change) : Inventory × Except Fault Outcome :=
  match change.perform.run inv with
  | .ok outcome inv => (inv, .ok outcome)
  | .error fault inv => (inv, .error fault)

/-- The inventory after changes one after another. -/
def run (inv : Inventory) (changes : List Change) : Inventory :=
  changes.foldl (fun inv change => (inv.step change).1) inv

end Inventory

end PartsCatalog
