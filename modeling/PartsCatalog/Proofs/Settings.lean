import PartsCatalog.Proofs.Attempt
import PartsCatalog.Proofs.Json.Decoder
import PartsCatalog.Proofs.Json.RoundTrip
import PartsCatalog.Settings.Document

/-!
# Loading and saving settings

Settings that were loaded are complete and proper, and saving them keeps them: their document gives
the same settings back (`ofDocument_stable`).  Completing leaves nothing open
(`hasGaps_fillGaps`) and does nothing to settings without gaps (`fillGaps_of_complete`); the checks
bound the numbers, so these fit where they are read back (`check_eq_ok`).
-/

namespace PartsCatalog.Settings

open Json Json.Decoder

/-! ## Usual values -/

/-- A text is filled unless the usual one is empty itself. -/
theorem orUsual_isEmpty {value usual : String} (proper : usual.isEmpty = false) :
    (orUsual value usual).isEmpty = false := by
  unfold orUsual
  split
  · exact proper
  · next filled => exact Bool.eq_false_of_not_eq_true filled

theorem orUsual_of_filled {value : String} (filled : value.isEmpty = false) (usual : String) :
    orUsual value usual = value := by
  rw [orUsual, filled, if_neg Bool.false_ne_true]

theorem hasGaps_eq_false (s : Settings) :
    s.hasGaps = false ↔ s.baseDirectory.isEmpty = false ∧ s.databaseName.isEmpty = false ∧
      s.uploadsDirectory.isEmpty = false ∧ s.logLevelName.isEmpty = false ∧ s.sessionHours ≠ 0 := by
  simp only [hasGaps, Bool.or_eq_false_iff, decide_eq_false_iff_not, and_assoc, ne_eq]

/-- Completed settings leave nothing open. -/
theorem hasGaps_fillGaps (s : Settings) : s.fillGaps.hasGaps = false := by
  have hours : s.fillGaps.sessionHours ≠ 0 := by
    unfold fillGaps
    dsimp only
    split
    · decide
    · assumption
  exact (hasGaps_eq_false _).mpr ⟨orUsual_isEmpty rfl, orUsual_isEmpty rfl, orUsual_isEmpty rfl,
    orUsual_isEmpty rfl, hours⟩

/-- Settings that leave nothing open stay as they are. -/
theorem fillGaps_of_complete {s : Settings} (complete : s.hasGaps = false) : s.fillGaps = s := by
  obtain ⟨base, database, uploads, level, hours⟩ := (hasGaps_eq_false s).mp complete
  rw [fillGaps, orUsual_of_filled base, orUsual_of_filled database, orUsual_of_filled uploads,
    orUsual_of_filled level, if_neg hours]

/-! ## Checks -/

/-- Proper settings, check by check. -/
theorem check_eq_ok (s : Settings) :
    s.check = .ok () ↔ acceptsPort s.serverPort = true ∧
      (LogLevel.ofText? s.logLevelName).isNone = false ∧
      s.sessionHours ≤ Limits.sessionHoursMost := by
  unfold check
  cases acceptsPort s.serverPort <;> cases (LogLevel.ofText? s.logLevelName).isNone <;>
    by_cases hours : Limits.sessionHoursMost < s.sessionHours <;>
    simp [hours, bind, Except.bind, pure, Except.pure, throw, throwThe, MonadExceptOf.throw]
  all_goals omega

/-- An accepted port is a number of sixteen bits. -/
theorem lt_of_acceptsPort {port : Nat} (accepted : acceptsPort port = true) :
    port < Nat.pow 2 16 := by
  have most : Limits.portMost < Nat.pow 2 16 := by decide
  simp only [acceptsPort, Bool.or_eq_true, Bool.and_eq_true, decide_eq_true_eq] at accepted
  omega

/-! ## The document -/

theorem wellFormed_toJson (s : Settings) : WellFormed s.toJson := by
  have texts := wellFormed_ofText
  have numbers := wellFormed_ofInt
  unfold toJson
  refine wellFormed_ofFields ?_
  simp only [List.forall_mem_cons, List.not_mem_nil, false_imp_iff, implies_true, and_true]
  refine ⟨texts _, texts _, wellFormed_ofFields ?_, wellFormed_ofFields ?_, wellFormed_ofFields ?_,
    wellFormed_ofFields ?_⟩ <;> simp [texts, numbers]

theorem serverSection_ofFields {levels port : Nat} (uploads : String)
    (bounded : port < Nat.pow 2 16) :
    serverSection (levels + 1) (.ofFields
      [("server_port", .ofInt port), ("uploads_directory", .ofText uploads)]) =
        some (port, uploads) := by
  have fields := fields?_ofFields
    [("server_port", .ofInt port), ("uploads_directory", .ofText uploads)] (by simp)
  simp only [List.map_cons, List.map_nil] at fields
  simp [serverSection, fields, Field.orElse, natural_ofNat _ bounded, text_ofText]

theorem soleField_ofFields {α : Type} (levels : Nat) (name : String) (default : α)
    (decoder : Decoder α) (value : Value) :
    soleField name default decoder (levels + 1) (.ofFields [(name, value)]) =
      decoder levels value := by
  have fields := fields?_ofFields [(name, value)] (List.nodup_singleton _)
  simp only [List.map_cons, List.map_nil] at fields
  simp [soleField, fields, Field.orElse]

/-- What is written of settings whose numbers fit gives these settings. -/
theorem decoder_toJson (levels : Nat) {s : Settings} (port : s.serverPort < Nat.pow 2 16)
    (hours : s.sessionHours < Nat.pow 2 32) : decoder (levels + 2) s.toJson = some s := by
  have fields := fields?_ofFields
    [("base_directory", .ofText s.baseDirectory), ("web_ui_password", .ofText s.password),
      ("server", .ofFields
        [("server_port", .ofInt s.serverPort), ("uploads_directory", .ofText s.uploadsDirectory)]),
      ("database", .ofFields [("database_name", .ofText s.databaseName)]),
      ("log", .ofFields [("log_level", .ofText s.logLevelName)]),
      ("session", .ofFields [("ttl_hours", .ofInt s.sessionHours)])] (by simp)
  simp only [List.map_cons, List.map_nil] at fields
  simp [decoder, toJson, fields, Field.orElse, text_ofText, serverSection_ofFields _ port,
    soleField_ofFields, natural_ofNat _ hours]

/-- **Loaded settings are complete, proper and kept by saving.**  They pass the checks, nothing in
them is left open, completing them again changes nothing, and the document that they are saved as
loads as the same settings. -/
theorem ofDocument_stable {raw : String} {s : Settings} (loaded : ofDocument raw = .ok s) :
    s.check = .ok () ∧ s.hasGaps = false ∧ s.fillGaps = s ∧ ofDocument s.document = .ok s := by
  unfold ofDocument at loaded
  split at loaded
  · cases loaded
  · next given _ =>
    obtain ⟨⟨⟩, proper, same⟩ := bind_eq_ok.mp loaded
    obtain rfl := pure_eq_ok.mp same
    have complete := hasGaps_fillGaps given
    have kept := fillGaps_of_complete complete
    obtain ⟨port, -, hours⟩ := (check_eq_ok _).mp proper
    have read : (readText? given.fillGaps.document).bind decoder.run = some given.fillGaps := by
      rw [document, readText?_pretty (wellFormed_toJson _), Option.bind_some]
      -- the sections nest two levels deep, which leaves 125 of the levels that are read
      exact decoder_toJson 125 (lt_of_acceptsPort port)
        (Nat.lt_of_le_of_lt hours (by decide))
    refine ⟨proper, complete, kept, ?_⟩
    rw [ofDocument, read]
    simp only [kept, proper, ok_bind]
    rfl

/-- A document that writes one field with escapes, another as zero, and leaves the others out. -/
def partialDocument : String :=
  "\x7b\"web_ui_password\": \"\\u00e9\\n\\ud83d\\ude00\\\\\", " ++
    "\"session\": \x7b\"ttl_hours\": 0\x7d\x7d"

/-- The settings that it gives. -/
def partialSettings : Settings := { usual with password := "é\n😀\\" }

theorem partialDocument_stable :
    ofDocument partialDocument = .ok partialSettings ∧ partialSettings.check = .ok () ∧
      partialSettings.hasGaps = false ∧ partialSettings.fillGaps = partialSettings ∧
      ofDocument partialSettings.document = .ok partialSettings := by
  have loaded : ofDocument partialDocument = .ok partialSettings :=
    eq_ok_of_toOption (by decide +kernel)
  exact ⟨loaded, ofDocument_stable loaded⟩

end PartsCatalog.Settings
