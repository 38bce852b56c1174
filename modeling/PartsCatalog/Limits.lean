/-!
# Limits

The bounds that the catalog and its settings keep, in one place for the checks and the messages.
-/

namespace PartsCatalog.Limits

/-- The fewest characters of a material's name. -/
def nameLeast : Nat := 2

/-- The most characters of a material's name. -/
def nameMost : Nat := 200

/-- The most characters of a description. -/
def descriptionMost : Nat := 500

/-- The most bytes of an uploaded file: 100 MiB. -/
def uploadMost : Nat := 100 * 1024 * 1024

/-- The lowest port that a server may listen on, zero apart. -/
def portLeast : Nat := 1024

/-- The highest port that a server may listen on. -/
def portMost : Nat := 49151

/-- The hours that a session lasts unless the settings say otherwise. -/
def sessionHoursDefault : Nat := 24

/-- The most hours that a session may last: one year. -/
def sessionHoursMost : Nat := 24 * 365

/-- How many results of each kind a search shows unless it is told otherwise. -/
def searchDefault : Nat := 10

end PartsCatalog.Limits
