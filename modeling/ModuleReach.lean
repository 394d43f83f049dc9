import ModuleReach.Main
import ModuleReach.Store.Memory
import ModuleReach.Proofs.Path.Canonical
import ModuleReach.Proofs.Resolution.Closed
import ModuleReach.Proofs.Pack.Verdict
import ModuleReach.Proofs.Pack.Sweep
import ModuleReach.Proofs.Traversal.SinglePass
import ModuleReach.Proofs.Pack.Closure
import ModuleReach.Proofs.Store.Filled
import ModuleReach.Proofs.Resolution.Places
import ModuleReach.Proofs.Resolution.Precedence
import ModuleReach.Proofs.Source.Blocks
import ModuleReach.Proofs.Source.Forms
import ModuleReach.Proofs.Source.Statements
import ModuleReach.Proofs.Source.Rendered
import ModuleReach.Proofs.Source.Named
import ModuleReach.Proofs.Resolution.Lookup
import ModuleReach.Proofs.Resolution.Outlook
import ModuleReach.Proofs.Pack.Misses
import ModuleReach.Proofs.Traversal.Outcome
import ModuleReach.Proofs.Traversal.Dangling
import ModuleReach.Proofs.Traversal.Deferral
import ModuleReach.Proofs.Traversal.Union
import ModuleReach.Proofs.Store.Written
import ModuleReach.Proofs.Traversal.Attempts
import ModuleReach.Proofs.Pack.Failure
import ModuleReach.Proofs.Traversal.Failure
import ModuleReach.Proofs.Resolution.Exports
import ModuleReach.Proofs.Path.Within
import ModuleReach.Proofs.Resolution.Confinement
import ModuleReach.Proofs.Resolution.Equivalence
import ModuleReach.Proofs.Config.Failure
import ModuleReach.Proofs.Traversal.Interleaving
import ModuleReach.Proofs.Traversal.Pruning
import ModuleReach.Proofs.Source.Stripped
import ModuleReach.Proofs.Store.Confined
import ModuleReach.Proofs.CommandLine.Output
import ModuleReach.Proofs.Source.Origin
import ModuleReach.Proofs.Resolution.Addon
import ModuleReach.Proofs.Resolution.Prebuilds
import ModuleReach.Proofs.Resolution.Exact
import ModuleReach.Proofs.Manifest.Patterns
import ModuleReach.Proofs.Resolution.Malformed
import ModuleReach.Proofs.Resolution.Spelling
import ModuleReach.Proofs.Pack.Course
import ModuleReach.Proofs.Traversal.Merging
import ModuleReach.Proofs.CommandLine.Listing
import ModuleReach.Proofs.Source.Decoding
import ModuleReach.Proofs.Config.Loading
import ModuleReach.Proofs.Manifest.Leaves
import ModuleReach.Proofs.Path.Rewriting
import ModuleReach.Proofs.Manifest.Scope
