import PartsCatalog.Fault
import PartsCatalog.LogLevel
import PartsCatalog.Text.Lowercase
import PartsCatalog.Text.PathName

/-!
# Settings

What the program is told about its surroundings.  A field that is left open gets a usual value
(`fillGaps`), and only then are the settings checked.
-/

namespace PartsCatalog

/-- The settings of the program. -/
structure Settings where
  /-- Everything that is stored lies below this directory. -/
  baseDirectory : String
  /-- The hash of the password for the user interface; empty if everyone may use it. -/
  password : String
  /-- The port to listen on; zero leaves the choice to the system. -/
  serverPort : Nat
  uploadsDirectory : String
  databaseName : String
  logLevelName : String
  sessionHours : Nat
deriving DecidableEq

namespace Settings

/-! ## Usual values -/

/-- Settings that leave everything open. -/
def blank : Settings :=
  { baseDirectory := "", password := "", serverPort := 0, uploadsDirectory := ""
    databaseName := "", logLevelName := "", sessionHours := Limits.sessionHoursDefault }

/-- A text, or the usual one where it is empty. -/
def orUsual (value usual : String) : String := if value.isEmpty then usual else value

/-- The settings with the usual values in place of those left open. -/
def fillGaps (s : Settings) : Settings :=
  { s with
    baseDirectory := orUsual s.baseDirectory "data"
    databaseName := orUsual s.databaseName "database.db"
    uploadsDirectory := orUsual s.uploadsDirectory "uploads"
    logLevelName := orUsual s.logLevelName "INFO"
    sessionHours := if s.sessionHours = 0 then Limits.sessionHoursDefault else s.sessionHours }

/-- Whether a value is left open for which there is a usual one. -/
def hasGaps (s : Settings) : Bool :=
  s.baseDirectory.isEmpty || s.databaseName.isEmpty || s.uploadsDirectory.isEmpty
    || s.logLevelName.isEmpty || s.sessionHours = 0

/-- The usual settings. -/
def usual : Settings := blank.fillGaps

instance : Inhabited Settings := ⟨usual⟩

/-! ## Checks -/

/-- Whether a server may listen on a port. -/
def acceptsPort (port : Nat) : Bool :=
  port = 0 || Limits.portLeast ≤ port && port ≤ Limits.portMost

/-- The port, the log level and the length of sessions are proper. -/
def check (s : Settings) : Except Fault Unit := do
  if !acceptsPort s.serverPort then throw (.portRefused s.serverPort)
  if (LogLevel.ofText? s.logLevelName).isNone then throw (.logLevelUnknown s.logLevelName)
  if Limits.sessionHoursMost < s.sessionHours then throw (.sessionHoursRefused s.sessionHours)

/-! ## Fields by name -/

/-- A field that can be set back to its usual value. -/
inductive Field where
  | baseDirectory
  | password
  | logLevel
  | serverPort
  | uploadsDirectory
  | databaseName
  | sessionHours
deriving DecidableEq

/-- The field that a text names, blanks around it and case aside. -/
def Field.ofText? (s : String) : Option Field :=
  match Text.lowercase (Text.trim s) with
  | "base_directory" => some baseDirectory
  | "web_ui_password" => some password
  | "log_level" => some logLevel
  | "server_port" => some serverPort
  | "uploads_directory" => some uploadsDirectory
  | "database_name" => some databaseName
  | "ttl_hours" => some sessionHours
  | _ => none

/-- The settings with one field at its usual value. -/
def reset (s : Settings) : Field → Settings
  | .baseDirectory => { s with baseDirectory := usual.baseDirectory }
  | .password => { s with password := usual.password }
  | .logLevel => { s with logLevelName := usual.logLevelName }
  | .serverPort => { s with serverPort := usual.serverPort }
  | .uploadsDirectory => { s with uploadsDirectory := usual.uploadsDirectory }
  | .databaseName => { s with databaseName := usual.databaseName }
  | .sessionHours => { s with sessionHours := usual.sessionHours }

/-- The settings with the named field at its usual value; a text that names none changes nothing. -/
def resetNamed (s : Settings) (name : String) : Settings :=
  match Field.ofText? name with
  | some field => s.reset field
  | none => s

/-! ## Reading off -/

/-- The log level; an unknown name means `info`. -/
def logLevel (s : Settings) : LogLevel := .ofText s.logLevelName

/-- The hash of the password, if there is one. -/
def passwordHash? (s : Settings) : Option String :=
  if s.password.isEmpty then none else some s.password

/-- The directory of uploaded files. -/
def uploadsFolder (s : Settings) : String := Text.joinPath s.baseDirectory s.uploadsDirectory

/-- The file of the database. -/
def databaseFile (s : Settings) : String := Text.joinPath s.baseDirectory s.databaseName

end Settings

end PartsCatalog
