import MeshControl.Patch
import MeshControl.Proofs.OutputSnapshot

/-!
# Trees of patchers

A chain runs all its members, each on what those before it have left, and lists the failures of its members
(`Patcher.apply_chain`). So a tree does what its leaves do one after the other, and fails exactly if one of them
does (`Patcher.run_leaves`). A tree of files adds what its readable files list, whatever it starts with
(`Patcher.FromFiles.outputs_apply`): of the objects with one identity the last one stays, and a second run adds
the same objects once more.
-/

namespace MeshControl

/-- What a file lists, or why it lists nothing. A blank file lists no objects. -/
def Files.listed (files : Files) (path : String) : Except PatchError (List OutputObject) :=
  match files.read path with
  | .error reason => .error (.unreadable path reason)
  | .ok source =>
    if Text.isBlankText source then .ok []
    else
      match Manifest.parse? source with
      | none => .error (.malformed path (files.complaint source))
      | some objects => .ok objects

namespace Patcher

/-- Trees of patchers that do nothing or add what a file lists. -/
inductive FromFiles : Patcher → Prop
  | noop : FromFiles .noop
  | file (path : String) : FromFiles (.file path)
  | chain {members : List Patcher} (each : ∀ member ∈ members, FromFiles member) : FromFiles (.chain members)

mutual

/-- The patchers of a tree that are no chains, in the order in which they run. -/
def leaves : Patcher → List Patcher
  | .chain members => leavesOf members
  | .noop => [.noop]
  | .file path => [.file path]
  | .custom name apply => [.custom name apply]

/-- The leaves of some trees. -/
def leavesOf : List Patcher → List Patcher
  | [] => []
  | member :: members => member.leaves ++ leavesOf members

end

/-- What a chain inherits from its members holds of every tree. -/
theorem tree_induction {motive : Patcher → Prop} (noop : motive .noop) (file : ∀ path, motive (.file path))
    (chain : ∀ members, (∀ member ∈ members, motive member) → motive (.chain members))
    (custom : ∀ name apply, motive (.custom name apply)) : ∀ patcher, motive patcher
  | .noop => noop
  | .file path => file path
  | .chain members => chain members fun member _ => tree_induction noop file chain custom member
  | .custom name apply => custom name apply

variable (files : Files) (input : Input) (outputs : OutputSnapshot)

/-- The outputs that patchers leave that run one after the other. -/
def leftBy (patchers : List Patcher) : OutputSnapshot :=
  patchers.foldl (fun outputs patcher => (patcher.apply files input outputs).outputs) outputs

/-- What patchers do that run one after the other, each on what those before it have left. -/
def attempts (patchers : List Patcher) : List (Patcher × Patched) :=
  patchers.zipIdx.map fun entry =>
    (entry.1, entry.1.apply files input (leftBy files input outputs (patchers.take entry.2)))

/-- The wordings of the failures of patchers that run one after the other. -/
def failures (patchers : List Patcher) : List String :=
  (attempts files input outputs patchers).filterMap fun attempt =>
    attempt.2.failure.map fun error => attempt.1.name ++ ": " ++ error.message

/-- A file adds all objects that it lists, or fails and adds none. -/
theorem apply_file (path : String) :
    apply files input outputs (.file path) =
      match files.listed path with
      | .ok objects => { outputs := outputs.addAll objects }
      | .error failure => { outputs, failure := some failure } := by
  rw [apply, applyFile, Files.listed]
  cases files.read path with
  | error reason => rfl
  | ok source =>
    dsimp only
    split
    · rfl
    · cases Manifest.parse? source <;> rfl

section Sequences

variable (first : Patcher) (earlier later : List Patcher)

theorem leftBy_append :
    leftBy files input outputs (earlier ++ later) =
      leftBy files input (leftBy files input outputs earlier) later :=
  List.foldl_append

theorem attempts_cons :
    attempts files input outputs (first :: later) =
      (first, first.apply files input outputs) ::
        attempts files input (first.apply files input outputs).outputs later := by
  rw [attempts, List.zipIdx_cons', List.map_cons, List.map_map]
  rfl

theorem failures_cons :
    failures files input outputs (first :: later) =
      ((first.apply files input outputs).failure.map fun error => first.name ++ ": " ++ error.message).toList ++
        failures files input (first.apply files input outputs).outputs later := by
  rw [failures, attempts_cons, List.filterMap_cons]
  cases (first.apply files input outputs).failure <;> rfl

theorem failures_append :
    failures files input outputs (earlier ++ later) =
      failures files input outputs earlier ++
        failures files input (leftBy files input outputs earlier) later := by
  induction earlier generalizing outputs with
  | nil => rfl
  | cons first earlier inductionHypothesis =>
    rw [List.cons_append, failures_cons, inductionHypothesis, failures_cons, List.append_assoc]
    rfl

variable {first later}

theorem failures_cons_eq_nil_iff :
    failures files input outputs (first :: later) = [] ↔
      (first.apply files input outputs).failure = none ∧
        failures files input (first.apply files input outputs).outputs later = [] := by
  rw [failures_cons, List.append_eq_nil_iff, Option.toList_eq_nil_iff, Option.map_eq_none_iff]

theorem failures_eq_nil_iff :
    failures files input outputs later = [] ↔
      ∀ attempt ∈ attempts files input outputs later, attempt.2.failure = none := by
  simp only [failures, List.filterMap_eq_nil_iff, Option.map_eq_none_iff]

end Sequences

theorem applyMembers_eq (members : List Patcher) :
    applyMembers files input outputs members =
      (leftBy files input outputs members, failures files input outputs members) := by
  induction members generalizing outputs with
  | nil => rw [applyMembers]; rfl
  | cons member members inductionHypothesis =>
    rw [applyMembers, inductionHypothesis, failures_cons]
    cases (member.apply files input outputs).failure <;> rfl

/-- A chain runs all its members and lists the failures of those that have failed. -/
theorem apply_chain (members : List Patcher) :
    apply files input outputs (.chain members) =
      { outputs := leftBy files input outputs members
        failure :=
          if (failures files input outputs members).isEmpty then none
          else some (.failed (failures files input outputs members)) } := by
  rw [apply, applyMembers_eq]

theorem failure_chain_eq_none_iff (members : List Patcher) :
    (apply files input outputs (.chain members)).failure = none ↔ failures files input outputs members = [] := by
  rw [apply_chain]
  simp

/-- The leaves of a tree, run one after the other, leave what the tree leaves, and one of them fails exactly if the
tree does. -/
theorem run_leaves (tree : Patcher) (outputs : OutputSnapshot) :
    leftBy files input outputs tree.leaves = (tree.apply files input outputs).outputs ∧
      (failures files input outputs tree.leaves = [] ↔ (tree.apply files input outputs).failure = none) := by
  induction tree using tree_induction generalizing outputs with
  | noop | file | custom =>
    rw [leaves, failures_cons_eq_nil_iff]
    exact ⟨rfl, and_iff_left rfl⟩
  | chain members each =>
    rw [leaves, failure_chain_eq_none_iff, apply_chain]
    induction members generalizing outputs with
    | nil => exact ⟨rfl, Iff.rfl⟩
    | cons member members inductionHypothesis =>
      rw [List.forall_mem_cons] at each
      obtain ⟨memberLeaves, memberFails⟩ := each.1 outputs
      have others := inductionHypothesis each.2 (member.apply files input outputs).outputs
      rw [leavesOf, leftBy_append, failures_append, List.append_eq_nil_iff, failures_cons_eq_nil_iff,
        memberLeaves, memberFails]
      exact ⟨others.1, and_congr_right fun _ => others.2⟩

theorem leavesOf_eq (members : List Patcher) : leavesOf members = members.flatMap leaves := by
  induction members with
  | nil => rfl
  | cons member members inductionHypothesis => rw [leavesOf, inductionHypothesis, List.flatMap_cons]

/-- The objects that a patcher adds if it is a file and readable. -/
def added : Patcher → List OutputObject
  | .file path => (files.listed path).toOption.getD []
  | .noop | .chain _ | .custom .. => []

/-- The objects that the readable files of a tree list, in the order in which the files are read. -/
def listing (tree : Patcher) : List OutputObject := tree.leaves.flatMap (added files)

/-- Where no member depends on what it starts with, the failures of all of them do not. -/
theorem failures_congr {other : Input} {members : List Patcher}
    (alike : ∀ member ∈ members, ∀ outputs start,
      (member.apply files input outputs).failure = (member.apply files other start).failure)
    (start : OutputSnapshot) : failures files input outputs members = failures files other start members := by
  induction members generalizing outputs start with
  | nil => rfl
  | cons first later inductionHypothesis =>
    rw [List.forall_mem_cons] at alike
    rw [failures_cons, failures_cons, alike.1 outputs start, inductionHypothesis _ alike.2]

namespace FromFiles

variable {tree : Patcher} (fromFiles : FromFiles tree)
include fromFiles

/-- What a leaf of a tree of files adds does not depend on what it starts with. -/
theorem outputs_leaf {leaf : Patcher} (member : leaf ∈ tree.leaves) (outputs : OutputSnapshot) :
    (leaf.apply files input outputs).outputs = outputs.addAll (added files leaf) := by
  induction fromFiles with
  | noop =>
    rw [leaves, List.mem_singleton] at member
    rw [member, apply]
    rfl
  | file path =>
    rw [leaves, List.mem_singleton] at member
    rw [member, apply_file, added]
    cases files.listed path <;> rfl
  | chain _ inductionHypothesis =>
    rw [leaves, leavesOf_eq, List.mem_flatMap] at member
    obtain ⟨child, inside, ofChild⟩ := member
    exact inductionHypothesis child inside ofChild

/-- A tree of files adds its listing to whatever it starts with. -/
theorem outputs_apply : (tree.apply files input outputs).outputs = outputs.addAll (listing files tree) := by
  have each : ∀ leaf ∈ tree.leaves, ∀ outputs,
      (leaf.apply files input outputs).outputs = outputs.addAll (added files leaf) :=
    fun _ member => fromFiles.outputs_leaf files input member
  rw [← (run_leaves files input tree outputs).1, listing]
  generalize tree.leaves = leaves at each
  induction leaves generalizing outputs with
  | nil => rfl
  | cons leaf leaves inductionHypothesis =>
    rw [List.forall_mem_cons] at each
    rw [List.flatMap_cons, OutputSnapshot.addAll_append, ← each.1 outputs]
    exact inductionHypothesis _ each.2

/-- Whether and how a tree of files fails depends on its files only. -/
theorem failure_apply (other : Input) (start : OutputSnapshot) :
    (tree.apply files input outputs).failure = (tree.apply files other start).failure := by
  induction fromFiles generalizing outputs start with
  | noop => rw [apply, apply]
  | file path =>
    rw [apply_file, apply_file]
    cases files.listed path <;> rfl
  | chain _ inductionHypothesis =>
    rw [apply_chain, apply_chain, failures_congr files input outputs inductionHypothesis start]

end FromFiles

/-- A file that fails leaves the outputs as they are, and any other one adds all that it lists in order. A chain runs
all its members and fails exactly if one of them does, with one entry for each that fails. A tree leaves what its
leaves leave in one chain, and fails exactly if that chain does. A tree of files changes nothing when it runs once
more, and fails alike. -/
theorem runs_all_and_settles (files : Files) {tree : Patcher} (fromFiles : FromFiles tree) (input later : Input)
    (outputs : OutputSnapshot) :
    let run := apply files input outputs
    (∀ path,
        (∃ objects, files.listed path = .ok objects ∧
          run (.file path) = { outputs := objects.foldl OutputSnapshot.add outputs }) ∨
        ∃ failure, files.listed path = .error failure ∧
          run (.file path) = { outputs, failure := some failure }) ∧
      (∀ members,
        (run (.chain members)).outputs = leftBy files input outputs members ∧
          ((run (.chain members)).failure = none ↔
            ∀ attempt ∈ attempts files input outputs members, attempt.2.failure = none) ∧
          ((run (.chain members)).failure ≠ none →
            (run (.chain members)).failure = some (.failed (failures files input outputs members)))) ∧
      (run (.chain tree.leaves)).outputs = (run tree).outputs ∧
      ((run (.chain tree.leaves)).failure = none ↔ (run tree).failure = none) ∧
      apply files later (run tree).outputs tree = run tree := by
  intro run
  obtain ⟨left, fails⟩ := run_leaves files input tree outputs
  refine ⟨fun path => ?_, fun members => ?_, ?_, ?_, ?_⟩
  · simp only [run, apply_file]
    cases files.listed path with
    | ok objects => exact .inl ⟨objects, rfl, rfl⟩
    | error failure => exact .inr ⟨failure, rfl, rfl⟩
  · have chain : run (.chain members) = _ := apply_chain files input outputs members
    have fails := failure_chain_eq_none_iff files input outputs members
    refine ⟨congrArg Patched.outputs chain, fails.trans (failures_eq_nil_iff files input outputs), ?_⟩
    intro failed
    exact (congrArg Patched.failure chain).trans (if_neg (mt List.isEmpty_iff.1 (fails.not.1 failed)))
  · rw [← left]
    exact congrArg Patched.outputs (apply_chain files input outputs tree.leaves)
  · exact (failure_chain_eq_none_iff files input outputs tree.leaves).trans fails
  · have settled : (apply files later (run tree).outputs tree).outputs = (run tree).outputs := by
      rw [fromFiles.outputs_apply, fromFiles.outputs_apply, OutputSnapshot.addAll_addAll]
    exact congrArg₂ Patched.mk settled (fromFiles.failure_apply files later (run tree).outputs input outputs)

section Overridden

/-- Two files list a secret of the same name, one lists nothing, one is no list and one is missing. -/
private def shelf : Files where
  read
    | "base" => .ok "- kind: Secret\n  metadata: \x7bname: ca, namespace: orbit\x7d\n  type: old\n"
    | "override" => .ok "- kind: Secret\n  metadata: \x7bname: ca, namespace: orbit\x7d\n  type: new\n"
    | "blank" => .ok " \n"
    | "prose" => .ok "no list"
    | _ => .error "No such file or directory (os error 2)"
  complaint source := "invalid type: string \"" ++ source ++ "\", expected a sequence"

private def stack : Patcher :=
  .chain [.file "base", .chain [.file "lost", .noop, .file "blank"], .file "prose", .chain [.file "override"]]

private def certificate (type : String) : OutputObject :=
  .secret { metadata := { name := "ca", ns := "orbit" }, type }

/-- Two members of a chain fail and all run. The second run puts back the first secret and then the second one, so
that nothing changes. -/
theorem runs_all_and_settles_overridden :
    FromFiles stack ∧
      (apply shelf {} { name := "o" } stack).outputs.objects = [certificate "new"] ∧
      (apply shelf {} { name := "o" } stack).failure =
        some (.failed ["chain: 1 patcher(s) failed: file: read lost: No such file or directory (os error 2)",
          "file: parse prose: invalid type: string \"no list\", expected a sequence"]) ∧
      apply shelf { name := "later" } (apply shelf {} { name := "o" } stack).outputs stack =
        apply shelf {} { name := "o" } stack := by
  have inner : FromFiles (.chain [.file "lost", .noop, .file "blank"]) :=
    .chain (by simp [FromFiles.file, FromFiles.noop])
  have last : FromFiles (.chain [.file "override"]) := .chain (by simp [FromFiles.file])
  have fromFiles : FromFiles stack := .chain (by simp [FromFiles.file, inner, last])
  obtain ⟨_, _, _, _, settled⟩ :=
    runs_all_and_settles shelf fromFiles {} { name := "later" } { name := "o" }
  refine ⟨fromFiles, ?_, ?_, settled⟩
  · decide +kernel
  · decide +kernel

end Overridden

end Patcher

end MeshControl
