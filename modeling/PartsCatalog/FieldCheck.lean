import PartsCatalog.Fault
import PartsCatalog.Text.Blank

/-!
# Checking fields

The rules that the text fields of the catalog keep.  Lengths count characters.
-/

namespace PartsCatalog.FieldCheck

/-- A name has 2 to 200 characters. -/
def nameLength (name : String) : Except Fault Unit :=
  if Limits.nameLeast ≤ name.length ∧ name.length ≤ Limits.nameMost then .ok ()
  else .error (.nameLength name)

/-- There is at least one name, and every name has a proper length. -/
def names (names : List String) : Except Fault Unit :=
  if names.isEmpty then .error .nameMissing else names.forM nameLength

/-- A required field is not blank. -/
def required (field value : String) : Except Fault Unit :=
  if Text.isBlankText value then .error (.fieldBlank field) else .ok ()

/-- A description has at most 500 characters. -/
def description (description : String) : Except Fault Unit :=
  if Limits.descriptionMost < description.length then .error .descriptionTooLong else .ok ()

end PartsCatalog.FieldCheck
