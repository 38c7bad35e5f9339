import Bootstrap.Main
import Bootstrap.Shell.Words
import Bootstrap.Proofs.Bundle.Placement
import Bootstrap.Proofs.Effect
import Bootstrap.Proofs.Disk.Walk
import Bootstrap.Proofs.Disk.Change
import Bootstrap.Proofs.Disk.Files
import Bootstrap.Proofs.Disk.Confinement
import Bootstrap.Proofs.Bundle.Containment
import Bootstrap.Proofs.Disk.Growth
import Bootstrap.Proofs.Host.Additions
import Bootstrap.Proofs.Invocation.Preparation
import Bootstrap.Proofs.Invocation.Trace
import Bootstrap.Proofs.Disk.Removal
import Bootstrap.Proofs.Workspace
import Bootstrap.Proofs.Invocation.Lifecycle
import Bootstrap.Proofs.Disk.Presence
import Bootstrap.Proofs.Json.RoundTrip
import Bootstrap.Proofs.Host.Repetition
import Bootstrap.Proofs.Text.Items
import Bootstrap.Proofs.Inventory.Resolution
import Bootstrap.Proofs.Text.Encoding
import Bootstrap.Proofs.Bundle.Extraction
import Bootstrap.Proofs.Disk.Fence
import Bootstrap.Proofs.Bundle.AdHoc
import Bootstrap.Proofs.Tar.RoundTrip
import Bootstrap.Proofs.Bundle.Playbooks
import Bootstrap.Shell.Command
import Bootstrap.Proofs.Invocation.Recovery
import Bootstrap.Proofs.Bundle.Provenance
import Bootstrap.Proofs.Disk.Descent
import Bootstrap.Proofs.Bundle.Materialization
import Bootstrap.Proofs.Disk.Restriction
import Bootstrap.Proofs.Bundle.Restriction
import Bootstrap.Proofs.Inventory.Selection
import Bootstrap.Proofs.Tar.Truncation
import Bootstrap.Proofs.Bundle.Truncation
import Bootstrap.Proofs.Disk.Failures
import Bootstrap.Proofs.Bundle.Agreement
import Bootstrap.Proofs.Runner.ConfigPaths
import Bootstrap.Proofs.Path.Components
import Bootstrap.Proofs.Disk.Listing
import Bootstrap.Proofs.Disk.Absence
import Bootstrap.Proofs.Cache.Expansion
import Bootstrap.Proofs.Cache.Clearing
import Bootstrap.Proofs.Host.Groundwork
import Bootstrap.Proofs.Host.Ledger
import Bootstrap.Proofs.Instant.Calendar
import Bootstrap.Proofs.Instant.Text
import Bootstrap.Proofs.Host.Identity
import Bootstrap.Proofs.Disk.Writing
import Bootstrap.Proofs.Path.Spelling
import Bootstrap.Proofs.Bundle.Policy
