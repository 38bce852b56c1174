import PartsCatalog.Attachment
import PartsCatalog.Material

/-!
# Edits

The steps by which a material, a product or the files of an owner come about.  An edit reads and
writes its subject step by step, and answers or ends in a fault.  A fault ends it where it arises
and takes nothing back: what was written before stays written.  A sequence of edits
(`Material.editAll`, …) goes on with whatever the edit before has left.
-/

namespace PartsCatalog

/-! ## Carrying out an edit -/

/-- An edit of a subject that is carried out. -/
abbrev Editing (σ α : Type) := EStateM Fault σ α

namespace Editing

variable {σ α : Type}

/-- A check in the course of an edit; its fault is the fault of the edit. -/
def require (check : Except Fault Unit) : Editing σ Unit :=
  match check with
  | .ok () => pure ()
  | .error fault => throw fault

/-- What an edit makes of its subject, and what it answers, if it succeeds. -/
def result (act : Editing σ α) (subject : σ) : Except Fault (σ × α) :=
  match act.run subject with
  | .ok answer after => .ok (after, answer)
  | .error fault _ => .error fault

/-- What an edit leaves of its subject, whether it succeeds or not. -/
def left (act : Editing σ α) (subject : σ) : σ :=
  match act.run subject with
  | .ok _ after => after
  | .error _ after => after

end Editing

/-! ## Materials -/

namespace Material

/-- One step of editing a material. -/
inductive Edit where
  | addName (name : String)
  | addProduct (product : Product)
  | setNames (primaryName : String) (names : List String)
  | setDescription (description : String)
  | setQuantity (quantity : Option Quantity)
  | enterQuantity (raw : String)
  | markPrimary (name : String)

/-- What an edit of a material answers. -/
inductive Answer where
  | done
  /-- Whether something was added that was not there. -/
  | added (isNew : Bool)
deriving DecidableEq

/-- Carries out an edit of a material. -/
def Edit.perform : Edit → Editing Material Answer
  | .addName name => do
    let isNew := (← get).lacksName name
    modify (·.addName name)
    return .added isNew
  | .addProduct product => do
    let isNew := (← get).lacksProduct product
    modify (·.addProduct product)
    return .added isNew
  | .setNames primaryName names => do
    let all := collectNames primaryName names
    Editing.require (FieldCheck.names all)
    modify fun m => { m with names := all }
    modify fun m => { m with primaryName }
    return .done
  | .setDescription description => done (·.withDescription description)
  | .setQuantity quantity => done (·.withQuantity quantity)
  | .enterQuantity raw => done (·.enterQuantity raw)
  | .markPrimary name => done (·.markPrimary name)
where
  done (change : Material → Material) : Editing Material Answer := do
    modify change
    return .done

/-- The material after an edit, and the answer. -/
def edit (m : Material) (e : Edit) : Except Fault (Material × Answer) := e.perform.result m

/-- The material after an edit, whether it succeeds or not. -/
def edited (m : Material) (e : Edit) : Material := e.perform.left m

/-- The material after a sequence of edits. -/
def editAll (m : Material) (edits : List Edit) : Material := edits.foldl edited m

end Material

/-! ## Products -/

namespace Product

/-- One step of editing a product. -/
inductive Edit where
  | setMaterial (material : Material)
  | removeMaterial (id : EntityId)
  | setDescription (description : String)
  | setQuantity (quantity : Option Quantity)

/-- What an edit of a product answers. -/
inductive Answer where
  | done
  /-- Whether a material of that identifier was there. -/
  | replaced (wasThere : Bool)
  /-- The material that was there. -/
  | removed (material : Option Material)

/-- The product after an edit, and the answer. -/
def edit (p : Product) : Edit → Product × Answer
  | .setMaterial m => (p.setMaterial m, .replaced (p.material? m.id).isSome)
  | .removeMaterial id => (p.removeMaterial id, .removed (p.material? id))
  | .setDescription description => (p.withDescription description, .done)
  | .setQuantity quantity => (p.withQuantity quantity, .done)

/-- The product after a sequence of edits. -/
def editAll (p : Product) (edits : List Edit) : Product := edits.foldl (fun p e => (p.edit e).1) p

end Product

/-! ## Files -/

namespace Attachments

/-- One step of editing the files of an owner. -/
inductive Edit where
  | attach (file : File)
  | detach (id : EntityId)
  | choosePicture (id : EntityId)
  | clearPicture
deriving DecidableEq

/-- What an edit of files answers. -/
inductive Answer where
  | done
  /-- Whether the file was new. -/
  | attached (isNew : Bool)
  /-- The file that was there. -/
  | detached (file : Option File)
deriving DecidableEq

/-- Carries out an edit of files. -/
def Edit.perform : Edit → Editing Attachments Answer
  | .attach file => do
    let isNew := ((← get).file? file.id).isNone
    modify (·.attach file)
    return .attached isNew
  | .detach id => do
    let file := (← get).file? id
    modify (·.detach id)
    return .detached file
  | .choosePicture id => do
    if ((← get).file? id).isNone then throw (.fileMissing id)
    modify fun a => { a with files := a.files.map fun f => f.marked (f.id == id) }
    return .done
  | .clearPicture => do
    modify (·.clearPicture)
    return .done

/-- The files after an edit, and the answer. -/
def edit (a : Attachments) (e : Edit) : Except Fault (Attachments × Answer) := e.perform.result a

/-- The files after an edit, whether it succeeds or not. -/
def edited (a : Attachments) (e : Edit) : Attachments := e.perform.left a

/-- The files after a sequence of edits. -/
def editAll (a : Attachments) (edits : List Edit) : Attachments := edits.foldl edited a

end Attachments

end PartsCatalog
