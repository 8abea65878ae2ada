import Cellwise.Catalog.Badge
import Cellwise.Catalog.Glitch
import Cellwise.Catalog.Profile
import Cellwise.Main
import Cellwise.Store.Call
import Cellwise.Proofs.Row.Merge
import Cellwise.Proofs.Store.Acceptance
import Cellwise.Proofs.Store.Locality
import Cellwise.Proofs.Store.Soundness
import Cellwise.Proofs.Store.Clients
import Cellwise.Proofs.Catalog.JsonFields
import Cellwise.Proofs.Store.History
import Cellwise.Proofs.Catalog.EmployeeRow
import Cellwise.Proofs.Catalog.Staff
import Cellwise.Proofs.Convert.Registration
import Cellwise.Proofs.Entity.Atomicity
import Cellwise.Proofs.Entity.Saving
import Cellwise.Proofs.Entity.Paths
import Cellwise.Proofs.Entity.Provenance
import Cellwise.Proofs.Entity.RoundTrip
import Cellwise.Proofs.Entity.DefaultForm
import Cellwise.Proofs.Catalog.PersonPaths
import Cellwise.Proofs.Catalog.Settling
import Cellwise.Proofs.Catalog.BareStrings
import Cellwise.Proofs.CommandLine.Output
import Cellwise.Proofs.CommandLine.Silence
import Cellwise.Proofs.CommandLine.Transcoding
import Cellwise.Proofs.Store.Projection
import Cellwise.Proofs.CommandLine.Demonstration
import Cellwise.Proofs.Store.Refusal
import Cellwise.Proofs.Entity.LastWrite
import Cellwise.Proofs.Catalog.EmployeeParts
import Cellwise.Proofs.Entity.Collections
import Cellwise.Proofs.Entity.Preparing
import Cellwise.Proofs.Store.Naming
import Cellwise.Proofs.Row.Rendering
import Cellwise.Proofs.Store.LayoutText
import Cellwise.Proofs.Convert.ShortName
import Cellwise.Proofs.Convert.Tearing
