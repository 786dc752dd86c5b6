import MeshControl.Access.ServiceAccess
import MeshControl.Patch

/-!
# Publishing passes

A pass turns an input snapshot into objects for the workload clusters and objects for the management
plane. A mesh against which the pass reports an error does not publish what was made for it but what
it published last without an error, or nothing if it never did. The publisher is all that passes
remember: the last valid outputs of each mesh, and the number of passes.
-/

namespace MeshControl

open Access (MeshCompiler MeshResult)

/-- Objects for the workload clusters and for the management plane. -/
structure Outputs where
  remote : OutputSnapshot
  home : OutputSnapshot
  deriving DecidableEq, Inhabited

namespace Outputs

/-- Outputs with given names and without objects. -/
def named (remote home : String) : Outputs := ⟨{ name := remote }, { name := home }⟩

/-- Adds the objects of other outputs, which win over those with the same identity. -/
def merge (outputs other : Outputs) : Outputs :=
  ⟨outputs.remote.merge other.remote, outputs.home.merge other.home⟩

/-- The fresh outputs of a mesh, which hold what was made for it. -/
def ofMesh (key : String) (result : MeshResult) : Outputs where
  remote := ({ name := "mesh-outputs-" ++ key } : OutputSnapshot).addAll result.remote
  home := ({ name := "mesh-local-outputs-" ++ key } : OutputSnapshot).addAll result.home

end Outputs

/-- What a pass says about the meshes of its input, by their keys and in their order. -/
structure PassSummary where
  pass : Nat
  valid : List String := []
  /-- The meshes with an error, whether or not something was restored. -/
  invalid : List String := []
  /-- The meshes with an error whose last valid outputs were published. -/
  rolledBack : List String := []
  deriving DecidableEq, Repr, Inhabited

def PassSummary.toJson (summary : PassSummary) : Json :=
  .object [("pass", .natural summary.pass), ("validMeshes", .texts summary.valid),
    ("invalidMeshes", .texts summary.invalid), ("rolledBackMeshes", .texts summary.rolledBack)]

/-- What passes remember. -/
structure Publisher where
  /-- The last valid outputs of each mesh, by its key. -/
  lastValid : TextMap Outputs := ∅
  /-- The number of passes so far. -/
  passes : Nat := 0
  deriving DecidableEq, Inhabited

/-- What stays the same over the passes of a publisher. -/
structure PassSettings where
  /-- Namespaces whose workloads are never injected. -/
  ignored : List String := Injection.builtinIgnored
  compile : MeshCompiler := Access.compileMesh
  /-- The change of the objects for workload clusters at the end of a pass. -/
  patch : Input → OutputSnapshot → Patched := fun _ outputs => { outputs }

/-- The middle of a pass. -/
structure PassState where
  lastValid : TextMap Outputs
  outputs : Outputs
  reporter : Reporter
  summary : PassSummary
  deriving DecidableEq, Inhabited

/-- The end of a pass. -/
structure PassResult where
  publisher : Publisher
  outputs : Outputs
  reporter : Reporter
  summary : PassSummary
  /-- The failure of the patch, which does not fail the pass. -/
  patchFailure : Option PatchError := none
  deriving DecidableEq, Inhabited

namespace Publisher

/-- Attributes the workloads of an input to its meshes. -/
def membershipOf (ignored : List String) (input : Input) : Injection.Membership :=
  let detector := Injection.Detector.new ignored input.namespaces (.ofList input.configMaps)
  (detector.attributeAll input.workloads input.meshes).1

/-- Publishes what is made for a destination. -/
def publishDestination (input : Input) (membership : Injection.Membership)
    (state : OutputSnapshot × Reporter) (destination : Destination) : OutputSnapshot × Reporter :=
  let result := Access.compileDestination input membership destination
  (state.1.addAll (result.policies.map .authorizationPolicy), state.2.reportAll result.reports)

/-- Publishes what is made for a mesh, or restores its last valid outputs if a report concerns it. -/
def publishMesh (compile : MeshCompiler) (input : Input) (state : PassState) (mesh : Mesh) : PassState :=
  let result := compile input mesh
  let watch := (ReportWatch.new state.reporter mesh).reportAll result.reports
  let state := { state with reporter := watch.inner }
  let summary := state.summary
  if !watch.failed then
    let fresh := Outputs.ofMesh mesh.key result
    { state with
      lastValid := state.lastValid.insert mesh.key fresh
      outputs := state.outputs.merge fresh
      summary := { summary with valid := summary.valid ++ [mesh.key] } }
  else
    let summary := { summary with invalid := summary.invalid ++ [mesh.key] }
    match state.lastValid.get? mesh.key with
    | some previous =>
      { state with
        outputs := state.outputs.merge previous
        summary := { summary with rolledBack := summary.rolledBack ++ [mesh.key] } }
    | none => { state with summary }

/-- One pass over an input: first its destinations, then its meshes, and at last the patch. -/
def pass (settings : PassSettings) (publisher : Publisher) (input : Input) (outputs : Outputs)
    (reporter : Reporter) : PassResult :=
  let membership := membershipOf settings.ignored input
  let (remote, reporter) :=
    input.destinations.foldl (publishDestination input membership) (outputs.remote, reporter)
  let state := input.meshes.foldl (publishMesh settings.compile input)
    { lastValid := publisher.lastValid
      outputs := { outputs with remote }
      reporter
      summary := { pass := publisher.passes } }
  let patched := settings.patch input state.outputs.remote
  { publisher := { lastValid := state.lastValid, passes := publisher.passes + 1 }
    outputs := { state.outputs with remote := patched.outputs }
    reporter := state.reporter
    summary := state.summary
    patchFailure := patched.failure }

end Publisher

end MeshControl
