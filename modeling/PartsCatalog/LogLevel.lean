import PartsCatalog.Text.Blank

/-!
# Log levels

How much the program reports while it runs.
-/

namespace PartsCatalog

/-- A log level. -/
inductive LogLevel where
  | debug
  | info
  | warn
  | error
deriving DecidableEq

namespace LogLevel

/-- The name of a level. -/
def name : LogLevel → String
  | debug => "DEBUG"
  | info => "INFO"
  | warn => "WARN"
  | error => "ERROR"

/-- The level that a text names, blanks around it and the case of its ASCII letters aside. -/
def ofText? (s : String) : Option LogLevel :=
  match (Text.trim s).map Char.toUpper with
  | "DEBUG" => some debug
  | "INFO" => some info
  | "WARN" => some warn
  | "WARNING" => some warn
  | "ERROR" => some error
  | _ => none

/-- The level that a text names; a text that names none means `info`. -/
def ofText (s : String) : LogLevel := (ofText? s).getD info

end LogLevel

end PartsCatalog
