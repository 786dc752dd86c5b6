import MeshControl.Proofs.Publishing.Reports

/-!
# All reports are about references

A pass makes the same reports whatever its publisher remembers and whatever its patch does, and all of them are
about references to objects that do not exist. Passes that share a reporter therefore never leave it with a report
that has no form of its own (`Publisher.reports_serveAll`).
-/

namespace MeshControl

open Access (compileMesh)

/-- A finding about a reference says which object is missing. -/
theorem Finding.isReference_iff {finding : Finding} :
    finding.isReference = true ↔ (∃ ref, finding = .destinationNotFound ref) ∨
      (∃ ref, finding = .meshNotFound ref) ∨ ∃ account, finding = .noMeshForCluster account := by
  cases finding <;> simp [isReference]

/-- A report has a form of its own if it is about a reference. -/
theorem Report.isSome_toJson?_iff (report : Report) :
    report.toJson?.isSome = true ↔ report.finding.isReference = true := by
  rw [toJson?, Option.isSome_map]
  cases report.finding <;> simp [Finding.toJson?, Finding.isReference]

namespace Publisher

variable (ignored : List String) (patch : Input → OutputSnapshot → Patched)

/-- All that a pass reports is about references. -/
theorem isReference_of_mem_passReports {ignored : List String} {input : Input} {report : Report}
    (member : report ∈ destinationReports ignored input ++ meshReports compileMesh input) :
    report.finding.isReference = true := by
  rcases List.mem_append.1 member with onDestination | onMesh
  · obtain ⟨destination, _, owed⟩ := List.mem_flatMap.1 onDestination
    rw [Access.compileDestination_reports] at owed
    exact Access.isReference_of_mem_owedOnDestination owed
  · obtain ⟨mesh, _, owed⟩ := List.mem_flatMap.1 onMesh
    rw [Access.compileMesh_reports] at owed
    exact Access.isReference_of_mem_owedOnMesh owed

/-- What remains of a publisher and a reporter after passes over some inputs, each of which begins with outputs
of its own. -/
def serveAll (settings : PassSettings) (publisher : Publisher) (reporter : Reporter) :
    List (Input × Outputs) → Publisher × Reporter
  | [] => (publisher, reporter)
  | (input, outputs) :: passes =>
    let result := publisher.pass settings input outputs reporter
    serveAll settings result.publisher result.reporter passes

/-- Passes add reports to those that their reporter has, and all that they add are about references. -/
theorem reports_serveAll (publisher : Publisher) (held : List Report) (passes : List (Input × Outputs)) :
    ∃ made, (serveAll { ignored, patch } publisher (.collecting held) passes).2 =
        .collecting (held ++ made) ∧ ∀ report ∈ made, report.finding.isReference = true := by
  induction passes generalizing publisher held with
  | nil => exact ⟨[], by simp [serveAll], by simp⟩
  | cons pass passes inductionHypothesis =>
    obtain ⟨input, outputs⟩ := pass
    obtain ⟨first, _⟩ := recorded_pass ignored patch publisher input outputs (.collecting held)
    rw [Reporter.reportAll_collecting] at first
    obtain ⟨later, ends, others⟩ := inductionHypothesis
      (publisher.pass { ignored, patch } input outputs (.collecting held)).publisher
      (held ++ (destinationReports ignored input ++ meshReports compileMesh input))
    refine ⟨destinationReports ignored input ++ meshReports compileMesh input ++ later, ?_, ?_⟩
    · rw [serveAll, first, ends, List.append_assoc held]
    · exact List.forall_mem_append.2 ⟨fun report => isReference_of_mem_passReports, others⟩

end Publisher

end MeshControl
