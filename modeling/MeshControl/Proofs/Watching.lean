import MeshControl.Proofs.Keys
import MeshControl.Report

/-!
# Watching reports

A watch hands every report to its reporter unchanged and in order, and it has failed exactly if one of
the reports concerned the mesh at hand. A watch knows meshes by their keys. Where namespaces contain no dots it
confuses no two meshes (`Report.concernsMesh_iff`).
-/

namespace MeshControl

namespace Reporter

@[simp] theorem reportAll_nil (reporter : Reporter) : reporter.reportAll [] = reporter := rfl

theorem reportAll_append (reporter : Reporter) (first second : List Report) :
    reporter.reportAll (first ++ second) = (reporter.reportAll first).reportAll second :=
  List.foldl_append

/-- A reporter that keeps reports has them all, in the order of their arrival. -/
@[simp] theorem reportAll_collecting (held reports : List Report) :
    (collecting held).reportAll reports = .collecting (held ++ reports) := by
  unfold reportAll
  induction reports generalizing held with
  | nil => simp
  | cons first rest inductionHypothesis => simp [report, inductionHypothesis]

/-- A reporter keeps the reports that it has, and the new ones after them if it keeps any. -/
theorem reports_reportAll (reporter : Reporter) (reports : List Report) :
    (reporter.reportAll reports).reports =
      match reporter with
      | .collecting held => held ++ reports
      | .silent => [] := by
  cases reporter with
  | collecting held => rw [reportAll_collecting]; rfl
  | silent =>
    induction reports with
    | nil => rfl
    | cons first rest inductionHypothesis => exact inductionHypothesis

/-- Reports in another order are kept in that order. -/
theorem reports_of_perm (reporter : Reporter) {first second : List Report} (perm : first.Perm second) :
    (reporter.reportAll first).reports.Perm (reporter.reportAll second).reports := by
  rw [reports_reportAll, reports_reportAll]
  cases reporter with
  | collecting held => exact perm.append_left held
  | silent => exact .nil

end Reporter

namespace Report

/-- The report is about a virtual mesh on a mesh with the name and namespace of the given one, whatever was
found there. -/
def IsAgainst (mesh : Mesh) : Report → Prop
  | .onMesh ref _ _ => ref.name = mesh.metadata.name ∧ ref.ns = mesh.metadata.ns
  | .onDestination .. => False

instance (mesh : Mesh) (report : Report) : Decidable (report.IsAgainst mesh) :=
  match report with
  | .onMesh ref _ _ => inferInstanceAs (Decidable (ref.name = mesh.metadata.name ∧ ref.ns = mesh.metadata.ns))
  | .onDestination .. => inferInstanceAs (Decidable False)

/-- The mesh that the report is about, if any, has no dot in its namespace. -/
def Undotted : Report → Prop
  | .onMesh ref _ _ => '.' ∉ ref.ns.toList
  | .onDestination .. => True

instance (report : Report) : Decidable report.Undotted :=
  match report with
  | .onMesh ref _ _ => inferInstanceAs (Decidable ('.' ∉ ref.ns.toList))
  | .onDestination .. => inferInstanceAs (Decidable True)

/-- Without dots in namespaces the key of a mesh stands for its name and namespace. -/
theorem concernsMesh_iff {mesh : Mesh} {report : Report} (undotted : '.' ∉ mesh.metadata.ns.toList)
    (reportUndotted : report.Undotted) : report.concernsMesh mesh.key = true ↔ report.IsAgainst mesh := by
  cases report with
  | onMesh ref virtualMesh finding =>
    rw [concernsMesh, decide_eq_true_eq]
    constructor
    · intro same
      obtain rfl : ref = mesh.ref := ObjectRef.eq_of_key_eq reportUndotted undotted same
      exact ⟨rfl, rfl⟩
    · rintro ⟨sameName, sameNs⟩
      change ref.name ++ "." ++ ref.ns = mesh.metadata.name ++ "." ++ mesh.metadata.ns
      rw [sameName, sameNs]
  | onDestination destination accessPolicy finding => exact iff_of_false Bool.false_ne_true id

end Report

namespace ReportWatch

/-- What a watch has become after some reports. -/
theorem reportAll_eq (watch : ReportWatch) (reports : List Report) :
    watch.reportAll reports =
      { watch with
        inner := watch.inner.reportAll reports
        failed := watch.failed || reports.any (·.concernsMesh watch.meshKey) } := by
  unfold reportAll
  induction reports generalizing watch with
  | nil => simp
  | cons first rest inductionHypothesis =>
    rw [List.foldl_cons, inductionHypothesis]
    simp [report, Reporter.reportAll, Bool.or_assoc]

/-- A watch that starts with a mesh has failed after some reports exactly if one of them has the key of the mesh. -/
theorem failed_reportAll_new (inner : Reporter) (mesh : Mesh) (reports : List Report) :
    ((new inner mesh).reportAll reports).failed = reports.any (·.concernsMesh mesh.key) := by
  rw [reportAll_eq]
  exact Bool.false_or _

/-- A watch leaves its reporter as if there were no watch, with every report in its place, and at any time it has
failed exactly if one of the reports so far was against the mesh at hand. -/
theorem forwards_and_latches (mesh : Mesh) (held sent : List Report)
    (undotted : '.' ∉ mesh.metadata.ns.toList) (sentUndotted : ∀ report ∈ sent, report.Undotted) :
    ((new (.collecting held) mesh).reportAll sent).inner = (Reporter.collecting held).reportAll sent ∧
      (Reporter.collecting held).reportAll sent = .collecting (held ++ sent) ∧
      ∀ first, first <+: sent →
        (((new (.collecting held) mesh).reportAll first).failed = true ↔
          ∃ report ∈ first, report.IsAgainst mesh) := by
  refine ⟨by rw [reportAll_eq]; rfl, Reporter.reportAll_collecting held sent, fun first sentFirst => ?_⟩
  have recognised (report : Report) (member : report ∈ first) :
      report.concernsMesh mesh.key = true ↔ report.IsAgainst mesh :=
    Report.concernsMesh_iff undotted (sentUndotted report (sentFirst.subset member))
  rw [failed_reportAll_new, List.any_eq_true]
  exact exists_congr fun report => and_congr_right (recognised report)

section Interleaved

/-- A mesh with a dot in its name. -/
private def watched : Mesh where
  metadata := { name := "istiod.canary", ns := "orbit" }
  provider := .istio { installation := { ns := "istio-system", cluster := "east" } }

/-- Reports about another mesh, about a destination with the name of the mesh, about the mesh, and about another
destination. -/
private def arriving : List Report :=
  [.onMesh ⟨"istiod", "orbit"⟩ ⟨"vm", "orbit"⟩ (.destinationNotFound ⟨"gateway", "istio-system"⟩),
    .onDestination ⟨"istiod.canary", "orbit"⟩ ⟨"allow-web", "orbit"⟩ (.meshNotFound ⟨"istiod", "west"⟩),
    .onMesh ⟨"istiod.canary", "orbit"⟩ ⟨"vm", "orbit"⟩ (.invalid "no trust domain"),
    .onDestination ⟨"reviews", "bookinfo"⟩ ⟨"allow-web", "orbit"⟩ (.invalid "no port")]

/-- The third report is the first one against the mesh, and the fourth one changes nothing any more. -/
theorem forwards_and_latches_interleaved :
    let held : List Report := [.onMesh ⟨"istiod", "west"⟩ ⟨"vm", "orbit"⟩ (.invalid "no root")]
    let watch := new (.collecting held) watched
    '.' ∉ watched.metadata.ns.toList ∧ (∀ report ∈ arriving, report.Undotted) ∧
      (watch.reportAll arriving).inner = .collecting (held ++ arriving) ∧
      (watch.reportAll (arriving.take 2)).failed = false ∧
      (watch.reportAll (arriving.take 3)).failed = true ∧
      (watch.reportAll arriving).failed = true := by
  intro held watch
  have undotted : '.' ∉ watched.metadata.ns.toList := by decide
  have sentUndotted : ∀ report ∈ arriving, report.Undotted := by decide
  obtain ⟨forwarded, collected, latched⟩ := forwards_and_latches watched held arriving undotted sentUndotted
  refine ⟨undotted, sentUndotted, forwarded.trans collected, ?_, ?_, ?_⟩
  · rw [← Bool.not_eq_true, latched _ (List.take_prefix 2 arriving)]
    decide
  · rw [latched _ (List.take_prefix 3 arriving)]
    decide
  · rw [latched _ (List.prefix_refl arriving)]
    decide

end Interleaved

end ReportWatch

end MeshControl
