import Mathlib.Data.List.Induction
import MeshControl.Proofs.OutputSnapshot
import MeshControl.Proofs.Watching
import MeshControl.Publisher

/-!
# Passes and the history of translations

The publisher remembers outputs by mesh key. Here the same is said without a memory: the history is the
list of all translations so far, one for each mesh of each pass, and a mesh with an error publishes what
the last valid translation in the history of a mesh with its key has made.
-/

namespace MeshControl

open Access (MeshCompiler)

/-- What the caller of a pass gives to it. -/
structure PassRequest where
  input : Input
  /-- The outputs to which the pass adds. -/
  outputs : Outputs
  reporter : Reporter
  deriving DecidableEq, Inhabited

/-- One mesh of one pass, with the input that the pass saw. -/
structure Translation where
  input : Input
  mesh : Mesh
  deriving DecidableEq, Inhabited

namespace Translation

/-- Whether no report of the translation is about a virtual mesh on a mesh with the same key. -/
def isValid (compile : MeshCompiler) (translation : Translation) : Bool :=
  !(compile translation.input translation.mesh).reports.any (·.concernsMesh translation.mesh.key)

/-- The outputs that the translation makes. -/
def fresh (compile : MeshCompiler) (translation : Translation) : Outputs :=
  .ofMesh translation.mesh.key (compile translation.input translation.mesh)

/-- The most recent valid translation of a mesh with a key. -/
def lastValid? (compile : MeshCompiler) (history : List Translation) (key : String) : Option Translation :=
  history.reverse.find? fun translation => translation.mesh.key = key && translation.isValid compile

/-- The translation whose outputs are published for a mesh: its own one if it is valid, and otherwise the
most recent earlier one that was. -/
def source? (compile : MeshCompiler) (history : List Translation) (translation : Translation) :
    Option Translation :=
  if translation.isValid compile then some translation
  else lastValid? compile history translation.mesh.key

end Translation

/-- A translation together with the one whose outputs are published for it, if there is one. -/
structure Publication where
  translation : Translation
  source? : Option Translation
  deriving DecidableEq, Inhabited

namespace Publication

/-- The outputs that are published, which hold nothing if there is no valid translation. -/
def outputs (compile : MeshCompiler) (publication : Publication) : Outputs :=
  (publication.source?.map (·.fresh compile)).getD (.named "" "")

/-- The publications for successive translations after a history. -/
def after (compile : MeshCompiler) : List Translation → List Translation → List Publication
  | _, [] => []
  | history, translation :: rest =>
    ⟨translation, translation.source? compile history⟩ :: after compile (history ++ [translation]) rest

/-- The summary of a pass with the given number that has made some publications. -/
def summary (compile : MeshCompiler) (pass : Nat) (publications : List Publication) : PassSummary :=
  let key (publication : Publication) : String := publication.translation.mesh.key
  let failed := publications.filter fun publication => !publication.translation.isValid compile
  { pass
    valid := (publications.filter (·.translation.isValid compile)).map key
    invalid := failed.map key
    rolledBack := (failed.filter (·.source?.isSome)).map key }

theorem after_append (compile : MeshCompiler) (history first second : List Translation) :
    after compile history (first ++ second) =
      after compile history first ++ after compile (history ++ first) second := by
  induction first generalizing history with
  | nil => simp [after]
  | cons translation rest inductionHypothesis =>
    simp [after, inductionHypothesis]

/-- A pass without an invalid translation publishes what it has made itself. -/
theorem after_of_valid {compile : MeshCompiler} {translations : List Translation}
    (valid : ∀ translation ∈ translations, translation.isValid compile = true)
    (history : List Translation) :
    after compile history translations =
      translations.map fun translation => ⟨translation, some translation⟩ := by
  induction translations generalizing history with
  | nil => rfl
  | cons translation rest inductionHypothesis =>
    rw [List.forall_mem_cons] at valid
    rw [after, inductionHypothesis valid.2, List.map_cons, Translation.source?, if_pos valid.1]

end Publication

/-- The translations of a pass over an input, in the order of its meshes. -/
def Input.translations (input : Input) : List Translation := input.meshes.map (Translation.mk input)

/-- Every publication of a pass draws on the history and on the meshes in front of its own place. -/
theorem Publication.after_translations_zipIdx (compile : MeshCompiler) (history : List Translation)
    (input : Input) :
    after compile history input.translations = input.meshes.zipIdx.map fun entry =>
      ⟨⟨input, entry.1⟩, Translation.source? compile
        (history ++ (input.meshes.take entry.2).map (Translation.mk input)) ⟨input, entry.1⟩⟩ := by
  unfold Input.translations
  induction input.meshes using List.reverseRecOn with
  | nil => rfl
  | append_singleton meshes mesh inductionHypothesis =>
    rw [List.map_append, after_append, inductionHypothesis, List.zipIdx_append, List.map_append]
    congr 1
    · refine List.map_congr_left fun entry member => ?_
      obtain ⟨_, below, _⟩ := List.mem_zipIdx member
      rw [List.take_append_of_le_length (by omega)]
    · simp [after]

/-- All translations of some passes, in order. -/
def Translation.history (requests : List PassRequest) : List Translation :=
  requests.flatMap (·.input.translations)

theorem Translation.history_append_singleton (earlier : List PassRequest) (request : PassRequest) :
    history (earlier ++ [request]) = history earlier ++ request.input.translations := by
  rw [history, List.flatMap_append, List.flatMap_singleton]
  rfl

namespace Publisher

/-- The policies that a pass makes for destinations, in order. -/
def destinationObjects (ignored : List String) (input : Input) : List OutputObject :=
  input.destinations.flatMap fun destination =>
    (Access.compileDestination input (membershipOf ignored input) destination).policies.map
      .authorizationPolicy

/-- The reports of a pass on destinations, in order. -/
def destinationReports (ignored : List String) (input : Input) : List Report :=
  input.destinations.flatMap fun destination =>
    (Access.compileDestination input (membershipOf ignored input) destination).reports

/-- The reports of a pass on meshes, in order. -/
def meshReports (compile : MeshCompiler) (input : Input) : List Report :=
  input.meshes.flatMap fun mesh => (compile input mesh).reports

/-- One requested pass. -/
def serve (settings : PassSettings) (publisher : Publisher) (request : PassRequest) : PassResult :=
  publisher.pass settings request.input request.outputs request.reporter

/-- A new publisher after some requested passes. -/
def after (settings : PassSettings) (requests : List PassRequest) : Publisher :=
  requests.foldl (fun publisher request => (publisher.serve settings request).publisher) {}

end Publisher

end MeshControl
