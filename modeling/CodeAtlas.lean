import CodeAtlas.Main
import CodeAtlas.Proofs.Catalog
import CodeAtlas.Proofs.KeyAssignment
import CodeAtlas.Proofs.Insertion
import CodeAtlas.Proofs.KeyLaw
import CodeAtlas.Proofs.Logged
import CodeAtlas.Proofs.Merging
import CodeAtlas.Proofs.Building
import CodeAtlas.Proofs.Accounting
import CodeAtlas.Proofs.IdlePool
import CodeAtlas.Proofs.Loading
import CodeAtlas.Proofs.Scheduling
import CodeAtlas.Proofs.KeyLocality
import CodeAtlas.Proofs.History
import CodeAtlas.Proofs.ExtensionIndex
import CodeAtlas.Proofs.StableSort
import CodeAtlas.Proofs.Sight
import CodeAtlas.Proofs.Walking
import CodeAtlas.Proofs.Heeding
import CodeAtlas.Proofs.Enumeration
import CodeAtlas.Proofs.Removal
import CodeAtlas.Proofs.Naming
import CodeAtlas.Proofs.Listed
import CodeAtlas.Proofs.Trimming
import CodeAtlas.Proofs.Containment
import CodeAtlas.Proofs.Json.Text
import CodeAtlas.Proofs.Json.Taking
import CodeAtlas.Proofs.Json.Strings
import CodeAtlas.Proofs.Json.Numbers
import CodeAtlas.Proofs.Json.Values
import CodeAtlas.Proofs.Json.Kinds
import CodeAtlas.Proofs.Json.Passing
import CodeAtlas.Proofs.Json.Spelling
import CodeAtlas.Proofs.Document.Presenting
import CodeAtlas.Proofs.Document.Fields
import CodeAtlas.Proofs.Document.Records
import CodeAtlas.Proofs.Document.Graphs
import CodeAtlas.Proofs.Utf8
import CodeAtlas.Proofs.Writing
import CodeAtlas.Proofs.Document.RoundTrip
import CodeAtlas.Proofs.Document.Respelling
import CodeAtlas.Proofs.Relative
import CodeAtlas.Proofs.FileMap
import CodeAtlas.Proofs.SourcePaths
import CodeAtlas.Proofs.Document.Settling
import CodeAtlas.Proofs.Document.Enrichment
import CodeAtlas.Proofs.Location
import CodeAtlas.Proofs.Settings
import CodeAtlas.Proofs.Filtering
import CodeAtlas.Proofs.Growth
import CodeAtlas.Proofs.Framing
import CodeAtlas.Proofs.Revisiting
import CodeAtlas.Proofs.Acting
import CodeAtlas.Proofs.Repeating
import CodeAtlas.Proofs.Preorder
import CodeAtlas.Proofs.Extracting
import CodeAtlas.Proofs.Occurrences
import CodeAtlas.Proofs.Restriction
import CodeAtlas.Proofs.Validation
import CodeAtlas.Proofs.Calls
import CodeAtlas.Proofs.Discovery
import CodeAtlas.Proofs.Slices
import CodeAtlas.Proofs.Verbatim
import CodeAtlas.Proofs.Parts
import CodeAtlas.Proofs.Support
import CodeAtlas.Proofs.RootSpelling
import CodeAtlas.Proofs.Pending
import CodeAtlas.Proofs.KeySearch
import CodeAtlas.Proofs.ParseLimit
import CodeAtlas.Proofs.Unsaid
import CodeAtlas.Proofs.Untouched
import CodeAtlas.Proofs.Initialising
