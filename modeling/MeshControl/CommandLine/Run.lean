import MeshControl.CommandLine.Arguments
import MeshControl.Live
import MeshControl.Publisher

/-!
# Running the command line

A run is a function of the arguments and of the world: files, environment variables, the API of the current
cluster and what the YAML library says about texts that it cannot read. It ends with an exit code and with what
is printed.
-/

namespace MeshControl.CommandLine

open Injection (Detector Membership)

/-- All that a run sees besides its arguments. -/
structure World where
  files : Files
  environment : String → Option String
  client : Except String Live.Api
  /-- The message of the YAML library on a text that holds no configuration of an injector. -/
  configComplaint : String → String

/-- What a run prints. -/
inductive Printed where
  | text (content : String)
  | json (value : Json)
  deriving Inhabited

/-- The end of a run. -/
structure Outcome where
  code : Nat
  printed : Printed
  deriving Inhabited

/-- The variable that adds to the ignored namespaces. -/
def ignoredVariable : String := "ORBIT_EXTRA_IGNORED_NAMESPACES"

/-- The variable that names a patch file. -/
def patchFileVariable : String := "ORBIT_PATCH_FILE"

/-- A text with spaces behind it, as many as it lacks of a width in characters. -/
def padded (width : Nat) (text : String) : String := text.pushn ' ' (width - text.length)

/-- A text and a line feed. -/
def line (text : String) : String := text ++ "\n"

/-- The extension of the last component of a path, in which a leading dot starts none. -/
def extension? (path : String) : Option String :=
  let components := (path.toList.splitOnP (· = '/')).filter fun component => !component.isEmpty && component ≠ ['.']
  match components.getLast? with
  | none => none
  | some component =>
    let reversed := component.reverse
    let after := reversed.takeWhile (· ≠ '.')
    if after.length + 1 < reversed.length then some (String.ofList after.reverse) else none

/-- Reads a snapshot: JSON if the path ends so, and YAML otherwise. A nameless one is named for its path. -/
def loadInput? (files : Files) (path : String) : Option Input := do
  let source ← (files.read path).toOption
  let input ← if extension? path = some "json" then
      (Json.parse? source).bind fun value => (Json.decode Input.read value).toOption
    else Yaml.read? Input.read source
  return if input.name.isEmpty then { input with name := path } else input

/-- Reads a snapshot, and overlays live records if a cluster is given for them. -/
def loadOverlaid? (world : World) (liveCluster : Option String) (path : String) : Option Input := do
  let input ← loadInput? world.files path
  return match liveCluster with
    | none => input
    | some cluster => Live.overlay world.client cluster input

/-- One pass of a run. -/
structure PassRecord where
  snapshot : String
  summary : PassSummary
  reports : List Report
  deriving DecidableEq, Inhabited

/-- Runs a pass over each input. Every pass starts with outputs of its own. All passes share a reporter, from
which the reports of each are taken at its end. -/
def runPasses (settings : PassSettings) (publisher : Publisher) (reporter : Reporter) :
    List Input → Outputs → List PassRecord × Outputs
  | [], last => ([], last)
  | input :: inputs, _ =>
    let result := publisher.pass settings input (.named "remote" "local") reporter
    let (reports, reporter) := result.reporter.take
    let (records, last) := runPasses settings result.publisher reporter inputs result.outputs
    (⟨input.name, result.summary, reports⟩ :: records, last)

/-- The lines about a pass. -/
def passText (record : PassRecord) : String :=
  let summary := record.summary
  line ("pass " ++ toString summary.pass ++ " [" ++ record.snapshot ++ "]: valid=" ++
      toString summary.valid.length ++ " invalid=" ++ toString summary.invalid.length ++
      " rolled_back=" ++ toString summary.rolledBack.length) ++
    String.join (record.reports.map fun report => line ("  ! " ++ report.message))

/-- The lines about the objects of a snapshot: a table with a title and a header. -/
def objectsText (title : String) (snapshot : OutputSnapshot) : String :=
  let row (kind cluster ns name : String) : String :=
    line ("  " ++ padded 20 kind ++ " " ++ padded 10 cluster ++ " " ++ padded 16 ns ++ " " ++ name)
  line (title ++ " (" ++ toString snapshot.size ++ ")") ++
    row "KIND" "CLUSTER" "NAMESPACE" "NAME" ++
    snapshot.foldObjects (fun rows object =>
      let metadata := object.metadata
      rows ++ row object.type.kind (if metadata.cluster.isEmpty then "-" else metadata.cluster) metadata.ns
        metadata.name) ""

/-- The object about a pass, if every report has a form of its own. -/
def passJson? (record : PassRecord) : Option Json := do
  let reports ← record.reports.mapM Report.toJson?
  return .object [("snapshot", .text record.snapshot), ("summary", record.summary.toJson),
    ("reports", .list reports)]

/-- A run that fails without printing anything. -/
def failed (code : Nat) : Outcome := ⟨code, .text ""⟩

/-- Prints passes and the outputs of the last one. Passes with a report that has no form cannot be printed as
an object. -/
def printPasses (format : Format) (records : List PassRecord) (outputs : Outputs) : Outcome :=
  match format with
  | .human => ⟨0, .text (String.join (records.map passText) ++ objectsText "remote" outputs.remote ++
      objectsText "local" outputs.home)⟩
  | .json =>
    match records.mapM passJson? with
    | none => failed 1
    | some passes => ⟨0, .json (.object [("passes", .list passes), ("remote", outputs.remote.toJson),
        ("local", outputs.home.toJson)])⟩

/-- Runs passes over files on one publisher, and prints the passes and the outputs of the last one. -/
def translate (world : World) (format : Format) (paths : List String) (patchFile liveCluster : Option String) :
    Outcome :=
  match paths.mapM (loadOverlaid? world liveCluster) with
  | none => failed 1
  | some inputs =>
    let patcher : Patcher := match patchFile with
      | none => .noop
      | some path => .file path
    let settings : PassSettings :=
      { ignored := Injection.ignoredNamespaces (world.environment ignoredVariable)
        patch := fun input outputs => patcher.apply world.files input outputs }
    let (records, outputs) := runPasses settings {} .fresh inputs (.named "remote" "local")
    printPasses format records outputs

/-- The lines about the attribution of workloads, and about what went wrong. -/
def attributionText (input : Input) (membership : Membership) (anomalies : List String) : String :=
  line (padded 48 "WORKLOAD" ++ " MESH") ++
    String.join (input.workloads.map fun workload =>
      line (padded 48 workload.key ++ " " ++ (membership.meshFor? workload).getD "-")) ++
    String.join (anomalies.map fun anomaly => line ("! " ++ anomaly))

/-- The object about the attribution of workloads, sorted by their keys. -/
def attributionJson (membership : Membership) (anomalies : List String) : Json :=
  .object [("attributed", .list (membership.byWorkload.entries.map fun entry =>
      .object [("workload", .text entry.1), ("mesh", .text entry.2)])),
    ("anomalies", .texts anomalies)]

/-- Attributes the workloads of a file, and prints to which meshes. -/
def detect (world : World) (format : Format) (path : String) (liveCluster : Option String) : Outcome :=
  match loadOverlaid? world liveCluster path with
  | none => failed 1
  | some input =>
    let ignored := Injection.ignoredNamespaces (world.environment ignoredVariable)
    let detector := Detector.new ignored input.namespaces (.ofList input.configMaps)
    let (membership, detector) := detector.attributeAll input.workloads input.meshes
    let anomalies := detector.anomalies.map (·.message world.configComplaint)
    match format with
    | .human => ⟨0, .text (attributionText input membership anomalies)⟩
    | .json => ⟨0, .json (attributionJson membership anomalies)⟩

/-- What the version is. -/
def versionText : String := line "orbitctl 0.0.0"

/-- The lines about the option that both commands share. -/
def outputHelp (width : Nat) : String :=
  line ("  " ++ padded width "-o, --output <OUTPUT>" ++
    "  Output format [default: human] [possible values: human, json]")

/-- The lines of help about a part of the command line. -/
def helpText (world : World) : Topic → String
  | .general =>
    "Orbit mesh configuration translator\n\nUsage: orbitctl [OPTIONS] <COMMAND>\n\nCommands:\n" ++
    "  translate  Run one translation pass per snapshot file, in order, on a single translator\n" ++
    "  detect     Print which mesh each workload is attributed to\n" ++
    "  help       Print this message or the help of the given subcommand(s)\n\nOptions:\n" ++
    outputHelp 21 ++ "  -h, --help             Print help\n  -V, --version          Print version\n"
  | .translate =>
    "Run one translation pass per snapshot file, in order, on a single translator\n\n" ++
    "Usage: orbitctl translate [OPTIONS] --file <FILES>...\n\nOptions:\n" ++
    "  -f, --file <FILES>...              Input snapshot (YAML, or JSON when the file ends in .json)\n" ++
    outputHelp 33 ++
    "      --patch-file <PATCH_FILE>      YAML list of output objects upserted after every pass [env: " ++
    patchFileVariable ++ "=" ++ (world.environment patchFileVariable).getD "" ++ "]\n" ++
    "      --live-cluster <LIVE_CLUSTER>  Replace namespaces and injector config maps of this cluster with " ++
    "live ones from the current kube context\n  -h, --help                         Print help\n"
  | .detect =>
    "Print which mesh each workload is attributed to\n\n" ++
    "Usage: orbitctl detect [OPTIONS] --file <FILE>\n\nOptions:\n" ++
    "  -f, --file <FILE>                  \n" ++ outputHelp 33 ++
    "      --live-cluster <LIVE_CLUSTER>  \n  -h, --help                         Print help\n"
  | .help =>
    "Print this message or the help of the given subcommand(s)\n\n" ++
    "Usage: orbitctl help [COMMAND]...\n\nArguments:\n" ++
    "  [COMMAND]...  Print help for the subcommand(s)\n"

/-- Runs the command line. Wrong arguments end with code two, unreadable files with code one. -/
def run (world : World) (arguments : List String) : Outcome :=
  match parse (world.environment patchFileVariable) arguments with
  | .error .usage => failed 2
  | .error .version => ⟨0, .text versionText⟩
  | .error (.help topic) => ⟨0, .text (helpText world topic)⟩
  | .ok ⟨format, .translate files patchFile liveCluster⟩ => translate world format files patchFile liveCluster
  | .ok ⟨format, .detect file liveCluster⟩ => detect world format file liveCluster

end MeshControl.CommandLine
