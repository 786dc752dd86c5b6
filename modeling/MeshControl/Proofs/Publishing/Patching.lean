import MeshControl.Proofs.Publishing.Rollback

/-!
# A patch stays outside of the publisher

A patch may change the objects for workload clusters in any way at the end of a pass, and may fail halfway.
One pass with a patch is the pass without it, up to these objects (`Publisher.serve_patched`). What a publisher
remembers is therefore the same with and without a patch after any passes (`Publisher.after_patched`), and no
later pass restores what a patch has made.
-/

namespace MeshControl

open Access (MeshCompiler)

namespace Publisher

variable (ignored : List String) (compile : MeshCompiler) (patch : Input → OutputSnapshot → Patched)

/-- A patch changes the objects for workload clusters at the end of a pass and nothing else. -/
theorem serve_patched (publisher : Publisher) (request : PassRequest) :
    let plain := publisher.serve { ignored, compile } request
    let patched := patch request.input plain.outputs.remote
    publisher.serve { ignored, compile, patch } request =
      { plain with
        outputs := { plain.outputs with remote := patched.outputs }
        patchFailure := patched.failure } := by
  intro plain patched
  have unpatched : plain = _ := serve_eq { ignored, compile } publisher request
  rw [serve_eq]
  simp only [patched, unpatched]
  rfl

/-- With and without a patch a publisher remembers the same after any passes. -/
theorem after_patched (requests : List PassRequest) :
    after { ignored, compile, patch } requests = after { ignored, compile } requests := by
  induction requests using List.reverseRecOn with
  | nil => rfl
  | append_singleton earlier request inductionHypothesis =>
      rw [after_append_singleton, after_append_singleton, inductionHypothesis, serve_patched]

/-- Two publishers serve the same passes, one of them with a patch. In every pass both end alike for the
management plane, in their summary and in their reports. The objects for workload clusters are what the patch
makes of those of the other publisher, whether or not it fails. Both remember the same, which under each key
is what the compiler has made in the last valid translation and nothing of a patch. -/
theorem patch_stays_outside (earlier : List PassRequest) (request : PassRequest) :
    let plain := (after { ignored, compile } earlier).serve { ignored, compile } request
    let patched := (after { ignored, compile, patch } earlier).serve { ignored, compile, patch } request
    patched.outputs.home = plain.outputs.home ∧ patched.summary = plain.summary ∧
      patched.reporter = plain.reporter ∧
      ⟨patched.outputs.remote, patched.patchFailure⟩ = patch request.input plain.outputs.remote ∧
      patched.publisher = plain.publisher ∧
      ∀ key, patched.publisher.lastValid.get? key =
        (Translation.lastValid? compile (Translation.history (earlier ++ [request])) key).map
          (·.fresh compile) := by
  intro plain patched
  have beside : patched = { plain with
      outputs := { plain.outputs with remote := (patch request.input plain.outputs.remote).outputs }
      patchFailure := (patch request.input plain.outputs.remote).failure } := by
    have step := serve_patched ignored compile patch (after { ignored, compile } earlier) request
    rwa [← after_patched ignored compile patch earlier] at step
  have remembers : Remembers compile (Translation.history (earlier ++ [request]))
      patched.publisher.lastValid := by
    have memory := remembers_after { ignored, compile, patch } (earlier ++ [request])
    rwa [after_append_singleton] at memory
  rw [beside] at remembers ⊢
  exact ⟨rfl, rfl, rfl, rfl, rfl, remembers⟩

end Publisher

end MeshControl
