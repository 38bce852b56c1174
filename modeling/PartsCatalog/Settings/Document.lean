import PartsCatalog.Json.Decoder
import PartsCatalog.Json.Reader
import PartsCatalog.Json.Writer
import PartsCatalog.Settings.Basic

/-!
# The settings document

Settings are kept as a JSON document with one section for each part of the program.  Reading one
fills what it leaves out and refuses what is not proper, so what was read is complete and can be
used.
-/

namespace PartsCatalog.Settings

open Json Json.Decoder

/-! ## Writing -/

/-- The settings in JSON. -/
def toJson (s : Settings) : Value :=
  .ofFields
    [("base_directory", .ofText s.baseDirectory),
      ("web_ui_password", .ofText s.password),
      ("server", .ofFields
        [("server_port", .ofInt s.serverPort), ("uploads_directory", .ofText s.uploadsDirectory)]),
      ("database", .ofFields [("database_name", .ofText s.databaseName)]),
      ("log", .ofFields [("log_level", .ofText s.logLevelName)]),
      ("session", .ofFields [("ttl_hours", .ofInt s.sessionHours)])]

/-- The document of the settings. -/
def document (s : Settings) : String := s.toJson.pretty

/-! ## Reading -/

/-- The section about the server: its port and the directory of uploads. -/
def serverSection : Decoder (Nat × String)
  | levels + 1, value => do
    let [port, uploads] ← fields? ["server_port", "uploads_directory"] value | none
    return (← port.orElse 0 (natural 16 levels), ← uploads.orElse "" (text levels))
  | _, _ => none

/-- A section with a single field. -/
def soleField {α : Type} (name : String) (default : α) (decoder : Decoder α) : Decoder α
  | levels + 1, value => do
    let [field] ← fields? [name] value | none
    field.orElse default (decoder levels)
  | _, _ => none

/-- The settings as a document gives them, gaps included. -/
def decoder : Decoder Settings
  | levels + 1, value => do
    let [baseDirectory, password, server, database, log, session] ←
      fields? ["base_directory", "web_ui_password", "server", "database", "log", "session"] value
      | none
    let baseDirectory ← baseDirectory.orElse "" (text levels)
    let password ← password.orElse "" (text levels)
    let (serverPort, uploadsDirectory) ← server.orElse (0, "") (serverSection levels)
    let databaseName ← database.orElse "" (soleField "database_name" "" text levels)
    let logLevelName ← log.orElse "" (soleField "log_level" "" text levels)
    let sessionHours ← session.orElse Limits.sessionHoursDefault
      (soleField "ttl_hours" Limits.sessionHoursDefault (natural 32) levels)
    return { baseDirectory, password, serverPort, uploadsDirectory, databaseName, logLevelName
             sessionHours }
  | _, _ => none

/-- The settings that a document gives, complete and checked. -/
def ofDocument (raw : String) : Except Fault Settings :=
  match (readText? raw).bind decoder.run with
  | none => .error .settingsUnreadable
  | some settings => do
    settings.fillGaps.check
    return settings.fillGaps

end PartsCatalog.Settings
