import MeshControl.Access.MeshAccess
import MeshControl.Access.ServiceAccess
import MeshControl.CommandLine.Arguments
import MeshControl.CommandLine.Run
import MeshControl.Destination
import MeshControl.Digest.Sha256
import MeshControl.Injection.Config
import MeshControl.Injection.Detector
import MeshControl.Injection.Selector
import MeshControl.Input
import MeshControl.Json
import MeshControl.Json.Parse
import MeshControl.Json.Read
import MeshControl.Live
import MeshControl.Main
import MeshControl.Mesh
import MeshControl.Naming
import MeshControl.Output.Object
import MeshControl.Output.ObjectMap
import MeshControl.Output.Snapshot
import MeshControl.Patch
import MeshControl.Proofs.Access.Callers
import MeshControl.Proofs.Access.Findings
import MeshControl.Proofs.Access.Gateways
import MeshControl.Proofs.Access.MeshPolicies
import MeshControl.Proofs.Access.Names
import MeshControl.Proofs.Access.Owners
import MeshControl.Proofs.Access.Resolution
import MeshControl.Proofs.Access.ServicePolicies
import MeshControl.Proofs.CommandLine.Arguments
import MeshControl.Proofs.CommandLine.Passes
import MeshControl.Proofs.CommandLine.Printing
import MeshControl.Proofs.Injection.Anomalies
import MeshControl.Proofs.Injection.Attribution
import MeshControl.Proofs.Injection.ConfigMaps
import MeshControl.Proofs.Injection.Consultations
import MeshControl.Proofs.Injection.Decision
import MeshControl.Proofs.Injection.IgnoredNamespaces
import MeshControl.Proofs.Injection.Locality
import MeshControl.Proofs.Injection.Membership
import MeshControl.Proofs.Injection.Memory
import MeshControl.Proofs.Injection.OptOut
import MeshControl.Proofs.Injection.Selectors
import MeshControl.Proofs.Injection.WorkloadOrder
import MeshControl.Proofs.Json.FieldOrder
import MeshControl.Proofs.Json.RoundTrip
import MeshControl.Proofs.Keys
import MeshControl.Proofs.Lists
import MeshControl.Proofs.Live.Configuration
import MeshControl.Proofs.Live.Overlay
import MeshControl.Proofs.MeshOrder
import MeshControl.Proofs.Naming
import MeshControl.Proofs.Naming.Forms
import MeshControl.Proofs.ObjectMap
import MeshControl.Proofs.Output.Canonical
import MeshControl.Proofs.Output.Union
import MeshControl.Proofs.OutputSnapshot
import MeshControl.Proofs.Parents
import MeshControl.Proofs.Patch
import MeshControl.Proofs.Provenance
import MeshControl.Proofs.Publishing.Ancestry
import MeshControl.Proofs.Publishing.DenyAll
import MeshControl.Proofs.Publishing.Emissions
import MeshControl.Proofs.Publishing.History
import MeshControl.Proofs.Publishing.Isolation
import MeshControl.Proofs.Publishing.MeshOrder
import MeshControl.Proofs.Publishing.Patching
import MeshControl.Proofs.Publishing.References
import MeshControl.Proofs.Publishing.Repetition
import MeshControl.Proofs.Publishing.Reports
import MeshControl.Proofs.Publishing.Rollback
import MeshControl.Proofs.Publishing.Selection
import MeshControl.Proofs.Reading
import MeshControl.Proofs.Reading.Inputs
import MeshControl.Proofs.Reading.Objects
import MeshControl.Proofs.Reading.Records
import MeshControl.Proofs.SortedMap
import MeshControl.Proofs.Text.Bytes
import MeshControl.Proofs.Watching
import MeshControl.Provenance
import MeshControl.Publisher
import MeshControl.Reading
import MeshControl.Reading.Held
import MeshControl.Record
import MeshControl.Reference
import MeshControl.Report
import MeshControl.SortedMap
import MeshControl.Text.Blank
import MeshControl.Text.Hidden
import MeshControl.Text.Quoted
import MeshControl.Workload
import MeshControl.Yaml.Core
import MeshControl.Yaml.Cursor
import MeshControl.Yaml.Node
import MeshControl.Yaml.Scalar
import MeshControl.Yaml.Token
import MeshControl.Yaml.Value
