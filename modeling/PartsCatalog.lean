import PartsCatalog.Access.Event
import PartsCatalog.Access.Gate
import PartsCatalog.Catalog
import PartsCatalog.Editing
import PartsCatalog.Inventory.Change
import PartsCatalog.Json.Criteria
import PartsCatalog.Json.Entities
import PartsCatalog.Json.Reader
import PartsCatalog.Json.Rows
import PartsCatalog.Proofs.Access.Admission
import PartsCatalog.Proofs.Access.Gate
import PartsCatalog.Proofs.Access.History
import PartsCatalog.Proofs.Access.Sessions
import PartsCatalog.Proofs.Access.Sweeping
import PartsCatalog.Proofs.Attachment
import PartsCatalog.Proofs.Attempt
import PartsCatalog.Proofs.Binary64.Arithmetic
import PartsCatalog.Proofs.Binary64.Nearest
import PartsCatalog.Proofs.Binary64.Order
import PartsCatalog.Proofs.Binary64.Text
import PartsCatalog.Proofs.Catalog.Answers
import PartsCatalog.Proofs.Catalog.Files
import PartsCatalog.Proofs.Catalog.Lists
import PartsCatalog.Proofs.Catalog.Names
import PartsCatalog.Proofs.Catalog.Parts
import PartsCatalog.Proofs.Catalog.Quantities
import PartsCatalog.Proofs.Catalog.Reads
import PartsCatalog.Proofs.Catalog.Relation
import PartsCatalog.Proofs.Catalog.Removal
import PartsCatalog.Proofs.Catalog.Reports
import PartsCatalog.Proofs.Catalog.Resaving
import PartsCatalog.Proofs.Catalog.Retirement
import PartsCatalog.Proofs.Catalog.Views
import PartsCatalog.Proofs.Decimal.Arithmetic
import PartsCatalog.Proofs.Decimal.Convert
import PartsCatalog.Proofs.Editing.Files
import PartsCatalog.Proofs.Editing.Materials
import PartsCatalog.Proofs.Editing.Outcome
import PartsCatalog.Proofs.Editing.Products
import PartsCatalog.Proofs.EntityId
import PartsCatalog.Proofs.FieldCheck
import PartsCatalog.Proofs.Filter
import PartsCatalog.Proofs.FirstOccurrence
import PartsCatalog.Proofs.Grouping
import PartsCatalog.Proofs.Grouping.Identifiers
import PartsCatalog.Proofs.Grouping.Materials
import PartsCatalog.Proofs.Grouping.Parts
import PartsCatalog.Proofs.Grouping.Products
import PartsCatalog.Proofs.Grouping.Quantities
import PartsCatalog.Proofs.IdList
import PartsCatalog.Proofs.Inventory.Action
import PartsCatalog.Proofs.Inventory.Atomicity
import PartsCatalog.Proofs.Inventory.Effect
import PartsCatalog.Proofs.Inventory.History
import PartsCatalog.Proofs.Inventory.Identifiers
import PartsCatalog.Proofs.Inventory.Naming
import PartsCatalog.Proofs.Inventory.Preservation
import PartsCatalog.Proofs.Inventory.Reachable
import PartsCatalog.Proofs.Inventory.Refusal
import PartsCatalog.Proofs.Inventory.Rows
import PartsCatalog.Proofs.Inventory.Texts
import PartsCatalog.Proofs.Inventory.Valid
import PartsCatalog.Proofs.Json.Decoder
import PartsCatalog.Proofs.Json.Escape
import PartsCatalog.Proofs.Json.Numeral
import PartsCatalog.Proofs.Json.RoundTrip
import PartsCatalog.Proofs.Keyed
import PartsCatalog.Proofs.Material
import PartsCatalog.Proofs.Names
import PartsCatalog.Proofs.Password.Verification
import PartsCatalog.Proofs.Quantity
import PartsCatalog.Proofs.Requirement.Capacity
import PartsCatalog.Proofs.Requirement.Exact
import PartsCatalog.Proofs.Requirement.Partition
import PartsCatalog.Proofs.Requirement.Pieces
import PartsCatalog.Proofs.Requirement.Report
import PartsCatalog.Proofs.Requirement.Rounded
import PartsCatalog.Proofs.Requirement.Stock
import PartsCatalog.Proofs.Rounding
import PartsCatalog.Proofs.Search
import PartsCatalog.Proofs.Settings
import PartsCatalog.Proofs.Sorting
import PartsCatalog.Proofs.Sorting.Arrangement
import PartsCatalog.Proofs.Sorting.Filtered
import PartsCatalog.Proofs.Sorting.Ranks
import PartsCatalog.Proofs.Spelling
import PartsCatalog.Proofs.StorageName
import PartsCatalog.Proofs.Table
import PartsCatalog.Proofs.Text.Caseless
import PartsCatalog.Proofs.Text.Lowercase
import PartsCatalog.Proofs.Text.Numeral
import PartsCatalog.Proofs.Text.PathName
import PartsCatalog.Proofs.Uploads
import PartsCatalog.Settings.Document
import PartsCatalog.StorageName
import PartsCatalog.Text.Base64
