import MeshControl.Input

/-!
# Reports

A pass never fails on what users have configured. It reports what is wrong against the mesh or the
destination concerned, and a reporter decides what becomes of the reports.
-/

namespace MeshControl

/-- What is wrong with the configuration of a mesh or a destination. -/
inductive Finding where
  | destinationNotFound (ref : ObjectRef)
  | meshNotFound (ref : ObjectRef)
  /-- The service account lives on a cluster without an Istio mesh. -/
  | noMeshForCluster (serviceAccount : ClusterRef)
  | invalid (reason : String)
  deriving DecidableEq, Repr, Inhabited

namespace Finding

/-- Whether the finding is a reference to a missing object. -/
def isReference : Finding → Bool
  | .invalid _ => false
  | _ => true

/-- The wording of the finding. -/
def message : Finding → String
  | .destinationNotFound ref => "destination " ++ ref.display ++ " not found"
  | .meshNotFound ref => "mesh " ++ ref.display ++ " not found"
  | .noMeshForCluster account =>
    "no istio mesh installed on cluster " ++ account.cluster ++ " for " ++ account.name
  | .invalid reason => "invalid: " ++ reason

/-- A reference as an object with its kind; a plain reason has no such form. -/
def toJson? : Finding → Option Json
  | .destinationNotFound ref => some (tagged "destinationNotFound" ref.toJson)
  | .meshNotFound ref => some (tagged "meshNotFound" ref.toJson)
  | .noMeshForCluster account => some (tagged "noMeshForCluster" account.toJson)
  | .invalid _ => none
where
  /-- Adds the kind to the fields of an object. -/
  tagged (kind : String) : Json → Json
    | .object fields => .object (("kind", .text kind) :: fields)
    | other => other

end Finding

/-- A finding and the objects it concerns. -/
inductive Report where
  /-- Against a mesh, under the virtual mesh applied to it. -/
  | onMesh (mesh virtualMesh : ObjectRef) (finding : Finding)
  /-- Against a destination, under an access policy applied to it. -/
  | onDestination (destination accessPolicy : ObjectRef) (finding : Finding)
  deriving DecidableEq, Repr, Inhabited

namespace Report

/-- A report against a mesh. -/
def forMesh (mesh : Mesh) (virtualMesh : ObjectRef) (finding : Finding) : Report :=
  .onMesh mesh.ref virtualMesh finding

/-- A report against a destination. -/
def forDestination (destination : Destination) (accessPolicy : ObjectRef) (finding : Finding) : Report :=
  .onDestination destination.ref accessPolicy finding

/-- What was found. -/
def finding : Report → Finding
  | .onMesh _ _ finding | .onDestination _ _ finding => finding

/-- The wording of the report. -/
def message : Report → String
  | .onMesh mesh virtualMesh finding =>
    "virtualmesh " ++ virtualMesh.display ++ " on mesh " ++ mesh.display ++ ": " ++ finding.message
  | .onDestination destination accessPolicy finding =>
    "accesspolicy " ++ accessPolicy.display ++ " on destination " ++ destination.display ++ ": " ++ finding.message

/-- The report as an object, if its finding has such a form. -/
def toJson? (report : Report) : Option Json :=
  report.finding.toJson?.map fun finding =>
    match report with
    | .onMesh mesh virtualMesh _ =>
      .object [("target", .text "virtualMeshToMesh"), ("mesh", mesh.toJson),
        ("virtual_mesh", virtualMesh.toJson), ("error", finding)]
    | .onDestination destination accessPolicy _ =>
      .object [("target", .text "accessPolicyToDestination"), ("destination", destination.toJson),
        ("access_policy", accessPolicy.toJson), ("error", finding)]

/-- Whether the report is about a virtual mesh on the mesh with the given key. -/
def concernsMesh (key : String) : Report → Bool
  | .onMesh mesh _ _ => mesh.key = key
  | .onDestination .. => false

end Report

/-- What becomes of reports. -/
inductive Reporter where
  /-- Keeps the reports in the order of their arrival. -/
  | collecting (reports : List Report)
  /-- Keeps none. -/
  | silent
  deriving DecidableEq, Repr, Inhabited

namespace Reporter

/-- A reporter that keeps reports and has none yet. -/
def fresh : Reporter := .collecting []

/-- Hands one report to the reporter. -/
def report : Reporter → Report → Reporter
  | .collecting reports, report => .collecting (reports ++ [report])
  | .silent, _ => .silent

/-- Hands several reports to the reporter, in order. -/
def reportAll (reporter : Reporter) (reports : List Report) : Reporter := reports.foldl report reporter

/-- The reports kept so far. -/
def reports : Reporter → List Report
  | .collecting reports => reports
  | .silent => []

/-- The reports kept so far, and the reporter without them. -/
def take : Reporter → List Report × Reporter
  | .collecting reports => (reports, .collecting [])
  | .silent => ([], .silent)

end Reporter

/-- Passes reports on unchanged and remembers whether one concerned the mesh at hand. -/
structure ReportWatch where
  inner : Reporter
  /-- The key of the mesh at hand. -/
  meshKey : String
  failed : Bool := false
  deriving DecidableEq, Repr, Inhabited

namespace ReportWatch

/-- Watches the reports to a reporter while a mesh is at hand. -/
def new (inner : Reporter) (mesh : Mesh) : ReportWatch := { inner, meshKey := mesh.key }

/-- Passes one report on. -/
def report (watch : ReportWatch) (report : Report) : ReportWatch :=
  { watch with
    inner := watch.inner.report report
    failed := watch.failed || report.concernsMesh watch.meshKey }

/-- Passes several reports on, in order. -/
def reportAll (watch : ReportWatch) (reports : List Report) : ReportWatch := reports.foldl report watch

end ReportWatch

end MeshControl
