import MeshControl.Proofs.Access.MeshPolicies
import MeshControl.Proofs.Access.ServicePolicies
import MeshControl.Proofs.Publishing.Rollback

/-!
# Meshes do not disturb each other

Whatever a publisher does for the meshes with one key is decided by `Translation.verdicts`: for each
earlier translation with the key, whether it was valid and what it made. Two runs with the same verdicts
treat such a mesh alike. What they publish at an identity can differ only through a mesh with another key
that is installed at the same place, because policies for services have other names.
-/

namespace MeshControl

open Access (compileMesh MeshCompiler IsMeshPolicyName)

section Sole

variable {α β : Type} {isSole : α → Bool} {list : List α} {sole : α}

/-- A search that only one member can answer finds what this member gives. -/
theorem findSome?_of_filter_eq_singleton {give : α → Option β} (one : list.filter isSole = [sole])
    (others : ∀ other ∈ list, isSole other = false → give other = none) :
    list.findSome? give = give sole := by
  have searched : list.findSome? give = (list.filter isSole).findSome? give := by
    clear one
    induction list with
    | nil => rfl
    | cons head rest inductionHypothesis =>
        have later := inductionHypothesis fun other member => others other (List.mem_cons_of_mem _ member)
        cases kept : isSole head with
        | true => simp [kept, List.findSome?_cons, later]
        | false => simp [kept, others head List.mem_cons_self kept, later]
  rw [searched, one]
  cases found : give sole <;> simp [found]

/-- If one member has a key, the key is listed for the chosen members exactly if this one is chosen. -/
theorem mem_map_filter_iff_of_filter_eq_singleton {keyOf : α → String} {key : String} {chosen : α → Bool}
    (one : list.filter (fun member => keyOf member = key) = [sole]) :
    key ∈ (list.filter chosen).map keyOf ↔ chosen sole = true := by
  have members : ∀ member, member ∈ list ∧ keyOf member = key ↔ member = sole := by
    intro member
    have listed : member ∈ list.filter (fun member => keyOf member = key) ↔ member ∈ [sole] := by
      rw [one]
    simpa using listed
  constructor
  · intro listed
    obtain ⟨member, kept, named⟩ := List.mem_map.1 listed
    obtain ⟨inside, holds⟩ := List.mem_filter.1 kept
    rwa [← (members member).1 ⟨inside, named⟩]
  · intro holds
    obtain ⟨inside, named⟩ := (members sole).2 rfl
    exact List.mem_map.2 ⟨sole, List.mem_filter.2 ⟨inside, holds⟩, named⟩

end Sole

namespace Translation

/-- Whether a translation is valid, and what it makes. -/
def verdict (compile : MeshCompiler) (translation : Translation) : Bool × Outputs :=
  (translation.isValid compile, translation.fresh compile)

/-- The verdicts on the meshes with a key, in order. -/
def verdicts (compile : MeshCompiler) (key : String) (history : List Translation) : List (Bool × Outputs) :=
  (history.filter (·.mesh.key = key)).map (verdict compile)

theorem verdicts_append (compile : MeshCompiler) (key : String) (earlier later : List Translation) :
    verdicts compile key (earlier ++ later) = verdicts compile key earlier ++ verdicts compile key later := by
  simp only [verdicts, List.filter_append, List.map_append]

/-- What is restored for a key is decided by the verdicts on it. -/
theorem map_fresh_lastValid? (compile : MeshCompiler) (history : List Translation) (key : String) :
    (lastValid? compile history key).map (·.fresh compile) =
      ((verdicts compile key history).reverse.find? (·.1)).map (·.2) := by
  have restricted : lastValid? compile history key =
      (history.filter (·.mesh.key = key)).reverse.find? (·.isValid compile) := by
    simp [lastValid?, ← List.filter_reverse, List.find?_filter]
  rw [restricted, verdicts, ← List.map_reverse, List.find?_map, Option.map_map]
  rfl

/-- What is published for a mesh is what a translation with its key has made, in the history or now. -/
theorem of_source?_eq_some {compile : MeshCompiler} {history : List Translation}
    {translation source : Translation} (found : translation.source? compile history = some source) :
    (source = translation ∨ source ∈ history) ∧ source.mesh.key = translation.mesh.key := by
  unfold source? at found
  split at found
  · cases found
    exact ⟨.inl rfl, rfl⟩
  · obtain ⟨member, named, _⟩ := of_lastValid?_eq_some found
    exact ⟨.inr member, named⟩

end Translation

namespace Publication

variable {compile : MeshCompiler} {history translations : List Translation}

/-- A publication is for one of the translations, from the history or from one of them with its key. -/
theorem of_mem_after {publication : Publication} (member : publication ∈ after compile history translations) :
    publication.translation ∈ translations ∧
      ∀ source, publication.source? = some source →
        source ∈ history ++ translations ∧ source.mesh.key = publication.translation.mesh.key := by
  induction translations generalizing history with
  | nil => cases member
  | cons translation rest inductionHypothesis =>
      rcases List.mem_cons.1 member with rfl | later
      · refine ⟨List.mem_cons_self, fun source found => ?_⟩
        obtain ⟨place, named⟩ := Translation.of_source?_eq_some found
        refine ⟨?_, named⟩
        rcases place with rfl | earlier
        · simp
        · exact List.mem_append_left _ earlier
      · obtain ⟨inside, sources⟩ := inductionHypothesis later
        refine ⟨List.mem_cons_of_mem _ inside, fun source found => ?_⟩
        simpa using sources source found

/-- The one mesh of a pass with a key publishes from the history before the pass, or from itself. -/
theorem filter_after (compile : MeshCompiler) (history : List Translation) {key : String}
    {sole : Translation} (one : translations.filter (·.mesh.key = key) = [sole]) :
    (after compile history translations).filter (·.translation.mesh.key = key) =
      [⟨sole, sole.source? compile history⟩] := by
  induction translations generalizing history with
  | nil => cases one
  | cons translation rest inductionHypothesis =>
      by_cases named : translation.mesh.key = key
      · simp only [List.filter_cons, named, decide_true, if_true, List.cons.injEq] at one
        obtain ⟨rfl, none⟩ := one
        have others : (after compile (history ++ [translation]) rest).filter
            (·.translation.mesh.key = key) = [] := by
          rw [List.filter_eq_nil_iff]
          intro publication member
          exact List.filter_eq_nil_iff.1 none _ (of_mem_after member).1
        simp [after, named, others]
      · have later : rest.filter (·.mesh.key = key) = [sole] := by simpa [named] using one
        have soleKey : sole.mesh.key = key := by
          have member : sole ∈ rest.filter (·.mesh.key = key) := by simp [later]
          simpa using (List.mem_filter.1 member).2
        have unchanged : sole.source? compile (history ++ [translation]) = sole.source? compile history :=
          Translation.source?_append_of_ne (by simpa [soleKey] using named)
        simp [after, named, inductionHypothesis _ later, unchanged]

/-- Two histories with the same verdicts on a key publish the same for meshes with that key that have the
same verdict. -/
theorem outputs_eq_of_verdicts {key : String} {otherHistory : List Translation}
    {translation other : Translation} (named : translation.mesh.key = key) (otherNamed : other.mesh.key = key)
    (now : translation.verdict compile = other.verdict compile)
    (before : Translation.verdicts compile key history = Translation.verdicts compile key otherHistory) :
    let publication : Publication := ⟨translation, translation.source? compile history⟩
    let otherPublication : Publication := ⟨other, other.source? compile otherHistory⟩
    publication.outputs compile = otherPublication.outputs compile ∧
      publication.source?.isSome = otherPublication.source?.isSome := by
  have restored : (Translation.lastValid? compile history key).map (·.fresh compile) =
      (Translation.lastValid? compile otherHistory key).map (·.fresh compile) := by
    rw [Translation.map_fresh_lastValid?, Translation.map_fresh_lastValid?, before]
  have present := congrArg Option.isSome restored
  simp only [Option.isSome_map] at present
  obtain ⟨validity, made⟩ := Prod.mk.injEq .. ▸ now
  cases valid : translation.isValid compile with
  | true => simp [outputs, Translation.source?, valid, validity ▸ valid, made]
  | false =>
      simp [outputs, Translation.source?, valid, validity ▸ valid, named, otherNamed, restored, present]

end Publication

/-- An Istio mesh is installed in the namespace and on the cluster of an identity. -/
def Mesh.InstalledAt (mesh : Mesh) (id : ObjectId) : Prop :=
  ∃ istio, mesh.istio = some istio ∧ istio.installation.cluster = id.cluster ∧ istio.installation.ns = id.ns

namespace Access

/-- What is made for a mesh lies where the mesh is installed. -/
theorem installedAt_of_mem_compileMesh_remote {input : Input} {mesh : Mesh} {object : OutputObject}
    (member : object ∈ (compileMesh input mesh).remote) : mesh.InstalledAt object.id := by
  obtain ⟨istio, applied, enforces, made⟩ := mem_compileMesh_remote member
  rcases made with rfl | ⟨gateway, destination, _, rfl⟩
  · exact ⟨istio, enforces.isIstio, rfl, rfl⟩
  · exact ⟨istio, enforces.isIstio, rfl, rfl⟩

end Access

namespace Publisher

/-- No policy for a destination has a name that is used for meshes. -/
theorem latest?_destinationObjects {id : ObjectId} (named : IsMeshPolicyName id.name) (ignored : List String)
    (input : Input) : OutputObject.latest? id (destinationObjects ignored input) = none := by
  rw [OutputObject.latest?_eq_none_iff]
  intro object member identity
  obtain ⟨destination, _, made⟩ := List.mem_flatMap.1 member
  obtain ⟨policy, compiled, rfl⟩ := List.mem_map.1 made
  obtain ⟨applied, _, rfl⟩ := Access.of_mem_compileDestination_policies compiled
  simp only [← identity, Access.servicePolicy_id] at named
  exact Access.not_isMeshPolicyName_servicePolicyName applied.ref destination.service.ref named

section OneRun

variable {ignored : List String} {earlier : List PassRequest} {request : PassRequest} {key : String}
  {mesh : Mesh}

theorem filter_translations (one : request.input.meshes.filter (·.key = key) = [mesh]) :
    request.input.translations.filter (·.mesh.key = key) = [⟨request.input, mesh⟩] := by
  rw [Input.translations, List.filter_map]
  simpa [Function.comp_def] using one

/-- Where no mesh with another key has been installed, a pass publishes what it publishes for the one
mesh with the key. -/
theorem get?_served_remote_of_sole (one : request.input.meshes.filter (·.key = key) = [mesh])
    (empty : request.outputs.remote.byId = ∅) {id : ObjectId} (named : IsMeshPolicyName id.name)
    (undisturbed : ∀ translation ∈ Translation.history earlier ++ request.input.translations,
      translation.mesh.key ≠ key → ¬ translation.mesh.InstalledAt id) :
    let publication : Publication :=
      ⟨⟨request.input, mesh⟩, Translation.source? compileMesh (Translation.history earlier)
        ⟨request.input, mesh⟩⟩
    ((after { ignored, compile := compileMesh } earlier).serve { ignored, compile := compileMesh }
      request).outputs.remote.get? id = (publication.outputs compileMesh).remote.get? id := by
  intro publication
  have begins : request.outputs.remote.get? id = none := by
    rw [OutputSnapshot.get?, empty]
    rfl
  rw [get?_served_remote, latest?_destinationObjects named, begins, Option.none_or, Option.or_none]
  have only : (Publication.after compileMesh (Translation.history earlier)
      request.input.translations).reverse.filter (·.translation.mesh.key = key) = [publication] := by
    rw [List.filter_reverse, Publication.filter_after _ _ (filter_translations one)]
    rfl
  refine findSome?_of_filter_eq_singleton only fun other member foreign => ?_
  obtain ⟨_, sources⟩ := Publication.of_mem_after (List.mem_reverse.1 member)
  cases held : (other.outputs compileMesh).remote.get? id with
  | none => rfl
  | some object =>
      obtain ⟨source, found, made, identity⟩ := Publication.of_get?_outputs_remote held
      obtain ⟨inside, sourceKey⟩ := sources source found
      have installed := Access.installedAt_of_mem_compileMesh_remote made
      rw [identity] at installed
      refine absurd installed (undisturbed source inside ?_)
      rw [sourceKey]
      simpa using foreign

/-- The summary of a pass about the one mesh with a key. -/
theorem mem_summary_of_sole (ignored : List String) (earlier : List PassRequest)
    (one : request.input.meshes.filter (·.key = key) = [mesh]) :
    let publication : Publication :=
      ⟨⟨request.input, mesh⟩, Translation.source? compileMesh (Translation.history earlier)
        ⟨request.input, mesh⟩⟩
    let valid := publication.translation.isValid compileMesh
    let summary := ((after { ignored, compile := compileMesh } earlier).serve
      { ignored, compile := compileMesh } request).summary
    (key ∈ summary.valid ↔ valid = true) ∧ (key ∈ summary.invalid ↔ valid = false) ∧
      (key ∈ summary.rolledBack ↔ valid = false ∧ publication.source?.isSome = true) := by
  intro publication valid summary
  have only := Publication.filter_after compileMesh (Translation.history earlier) (filter_translations one)
  have listed : summary = _ := summary_served ignored compileMesh earlier request
  rw [listed]
  simp only [Publication.summary, List.filter_filter]
  rw [mem_map_filter_iff_of_filter_eq_singleton only, mem_map_filter_iff_of_filter_eq_singleton only,
    mem_map_filter_iff_of_filter_eq_singleton only]
  simp [valid, publication, and_comm]

end OneRun

end Publisher

/-- The passes at one place of two runs, and the mesh with the key at hand. -/
structure TwinPass where
  mesh : Mesh
  first : PassRequest
  second : PassRequest

namespace TwinPass

/-- Both passes begin without objects, see the mesh as the only one with the key, and resolve its gateways
alike. All else may differ. -/
structure Alike (key : String) (twin : TwinPass) : Prop where
  firstEmpty : twin.first.outputs.remote.byId = ∅
  secondEmpty : twin.second.outputs.remote.byId = ∅
  soleInFirst : twin.first.input.meshes.filter (·.key = key) = [twin.mesh]
  soleInSecond : twin.second.input.meshes.filter (·.key = key) = [twin.mesh]
  gateways : ∀ gateway ∈ twin.mesh.status.ingressGateways,
    twin.first.input.findDestination? gateway = twin.second.input.findDestination? gateway

/-- In some pass of one of the runs an Istio mesh with another key is installed at an identity. -/
def Foreign (key : String) (twins : List TwinPass) (id : ObjectId) : Prop :=
  ∃ twin ∈ twins, ∃ mesh ∈ twin.first.input.meshes ++ twin.second.input.meshes,
    mesh.key ≠ key ∧ mesh.InstalledAt id

variable {key : String} {twin : TwinPass} {twins : List TwinPass}

theorem Foreign.mono {more : List TwinPass} {id : ObjectId} (foreign : Foreign key twins id)
    (inside : twins ⊆ more) : Foreign key more id := by
  obtain ⟨twin, member, mesh, present⟩ := foreign
  exact ⟨twin, inside member, mesh, present⟩

theorem Alike.key_eq (alike : twin.Alike key) : twin.mesh.key = key := by
  have member : twin.mesh ∈ twin.first.input.meshes.filter (·.key = key) := by simp [alike.soleInFirst]
  simpa using (List.mem_filter.1 member).2

/-- The mesh has the same verdict in both passes. -/
theorem Alike.verdict_eq (alike : twin.Alike key) :
    Translation.verdict compileMesh ⟨twin.first.input, twin.mesh⟩ =
      Translation.verdict compileMesh ⟨twin.second.input, twin.mesh⟩ := by
  simp only [Translation.verdict, Translation.isValid, Translation.fresh,
    Access.compileMesh_congr alike.gateways]

/-- After the same number of passes both histories hold the same verdicts on the key. -/
theorem verdicts_history_eq (alike : ∀ twin ∈ twins, twin.Alike key) :
    Translation.verdicts compileMesh key (Translation.history (twins.map (·.first))) =
      Translation.verdicts compileMesh key (Translation.history (twins.map (·.second))) := by
  induction twins with
  | nil => rfl
  | cons twin rest inductionHypothesis =>
      have here := alike twin List.mem_cons_self
      have later := inductionHypothesis fun other member => alike other (List.mem_cons_of_mem _ member)
      simp only [Translation.verdicts, Translation.history, List.map_cons, List.flatMap_cons,
        List.filter_append, List.map_append, Publisher.filter_translations here.soleInFirst,
        Publisher.filter_translations here.soleInSecond] at later ⊢
      simp only [later, List.map_nil, here.verdict_eq]

/-- A translation of one of the runs with another key disturbs no identity that is not foreign. -/
theorem not_installedAt_of_not_foreign {id : ObjectId} (free : ¬ Foreign key twins id)
    (pass : TwinPass → PassRequest) (runs : ∀ twin, pass twin = twin.first ∨ pass twin = twin.second) :
    ∀ translation ∈ Translation.history (twins.map pass), translation.mesh.key ≠ key →
      ¬ translation.mesh.InstalledAt id := by
  intro translation member otherKey installed
  obtain ⟨request, requested, made⟩ := List.mem_flatMap.1 member
  obtain ⟨twin, inside, rfl⟩ := List.mem_map.1 requested
  obtain ⟨mesh, present, rfl⟩ := List.mem_map.1 made
  refine free ⟨twin, inside, mesh, ?_, otherKey, installed⟩
  rcases runs twin with same | same
  · exact List.mem_append_left _ (same ▸ present)
  · exact List.mem_append_right _ (same ▸ present)

end TwinPass

namespace Publisher

open TwinPass (Foreign)

section TwoRuns

variable (firstIgnored secondIgnored : List String) {key : String} {earlier : List TwinPass}
  {twin : TwinPass}

/-- After passes that agree on a key, a pass that agrees on it publishes the same for it in both runs. -/
theorem publications_agree (before : ∀ other ∈ earlier, other.Alike key) (here : twin.Alike key) :
    let publication (passOf : TwinPass → PassRequest) : Publication :=
      ⟨⟨(passOf twin).input, twin.mesh⟩, Translation.source? compileMesh
        (Translation.history (earlier.map passOf)) ⟨(passOf twin).input, twin.mesh⟩⟩
    (publication (·.first)).outputs compileMesh = (publication (·.second)).outputs compileMesh ∧
      (publication (·.first)).source?.isSome = (publication (·.second)).source?.isSome :=
  Publication.outputs_eq_of_verdicts here.key_eq here.key_eq here.verdict_eq
    (TwinPass.verdicts_history_eq before)

/-- Both runs say the same of the mesh in their summaries. -/
theorem summaries_agree (before : ∀ other ∈ earlier, other.Alike key) (here : twin.Alike key) :
    let firstSettings : PassSettings := { ignored := firstIgnored, compile := compileMesh }
    let secondSettings : PassSettings := { ignored := secondIgnored, compile := compileMesh }
    let first := ((after firstSettings (earlier.map (·.first))).serve firstSettings twin.first).summary
    let second := ((after secondSettings (earlier.map (·.second))).serve secondSettings twin.second).summary
    (key ∈ first.valid ↔ key ∈ second.valid) ∧ (key ∈ first.invalid ↔ key ∈ second.invalid) ∧
      (key ∈ first.rolledBack ↔ key ∈ second.rolledBack) := by
  intro firstSettings secondSettings first second
  obtain ⟨firstValid, firstInvalid, firstRolledBack⟩ :=
    mem_summary_of_sole firstIgnored (earlier.map (·.first)) here.soleInFirst
  obtain ⟨secondValid, secondInvalid, secondRolledBack⟩ :=
    mem_summary_of_sole secondIgnored (earlier.map (·.second)) here.soleInSecond
  have validity : Translation.isValid compileMesh ⟨twin.first.input, twin.mesh⟩ =
      Translation.isValid compileMesh ⟨twin.second.input, twin.mesh⟩ := congrArg Prod.fst here.verdict_eq
  have restored := (publications_agree before here).2
  refine ⟨?_, ?_, ?_⟩
  · rw [firstValid, secondValid, validity]
  · rw [firstInvalid, secondInvalid, validity]
  · rw [firstRolledBack, secondRolledBack, validity, restored]

/-- Both runs publish the same policies for meshes wherever no foreign mesh has been installed so far. -/
theorem remotes_agree (before : ∀ other ∈ earlier, other.Alike key) (here : twin.Alike key)
    {id : ObjectId} (free : ¬ Foreign key (earlier ++ [twin]) id) (named : IsMeshPolicyName id.name) :
    let firstSettings : PassSettings := { ignored := firstIgnored, compile := compileMesh }
    let secondSettings : PassSettings := { ignored := secondIgnored, compile := compileMesh }
    ((after firstSettings (earlier.map (·.first))).serve firstSettings twin.first).outputs.remote.get? id =
      ((after secondSettings (earlier.map (·.second))).serve secondSettings
        twin.second).outputs.remote.get? id := by
  have firstUndisturbed := TwinPass.not_installedAt_of_not_foreign free (·.first) fun _ => .inl rfl
  have secondUndisturbed := TwinPass.not_installedAt_of_not_foreign free (·.second) fun _ => .inr rfl
  simp only [List.map_append, Translation.history, List.flatMap_append, List.map_singleton,
    List.flatMap_singleton] at firstUndisturbed secondUndisturbed
  intro firstSettings secondSettings
  rw [get?_served_remote_of_sole here.soleInFirst here.firstEmpty named firstUndisturbed,
    get?_served_remote_of_sole here.soleInSecond here.secondEmpty named secondUndisturbed,
    (publications_agree before here).1]

/-- Two runs that agree, pass by pass, on the one mesh with a key and on the destinations of its gateways
treat this mesh alike: it is valid, invalid or rolled back in both or in neither, and where it is installed
both publish the same policies for meshes, as long as no Istio mesh with another key is installed there in
any pass of either run. The same holds wherever no such mesh is installed. -/
theorem twin_passes_agree (key : String) (twins : List TwinPass)
    (alike : ∀ twin ∈ twins, twin.Alike key)
    (apart : ∀ twin ∈ twins, ∀ id, twin.mesh.InstalledAt id → ¬ Foreign key twins id)
    (earlier later : List TwinPass) (twin : TwinPass) (place : twins = earlier ++ twin :: later) :
    let firstSettings : PassSettings := { ignored := firstIgnored, compile := compileMesh }
    let secondSettings : PassSettings := { ignored := secondIgnored, compile := compileMesh }
    let first := (after firstSettings (earlier.map (·.first))).serve firstSettings twin.first
    let second := (after secondSettings (earlier.map (·.second))).serve secondSettings twin.second
    (key ∈ first.summary.valid ↔ key ∈ second.summary.valid) ∧
      (key ∈ first.summary.invalid ↔ key ∈ second.summary.invalid) ∧
      (key ∈ first.summary.rolledBack ↔ key ∈ second.summary.rolledBack) ∧
      ∀ id, (∃ other ∈ twins, other.mesh.InstalledAt id) ∨ ¬ Foreign key twins id →
        IsMeshPolicyName id.name →
        first.outputs.remote.get? id = second.outputs.remote.get? id := by
  have here : twin.Alike key := alike twin (by simp [place])
  have before : ∀ other ∈ earlier, other.Alike key := fun other member =>
    alike other (by simp [place, member])
  obtain ⟨valid, invalid, rolledBack⟩ := summaries_agree firstIgnored secondIgnored before here
  refine ⟨valid, invalid, rolledBack, fun id installed named => ?_⟩
  have free : ¬ Foreign key twins id := by
    rcases installed with ⟨other, member, installed⟩ | free
    · exact apart other member id installed
    · exact free
  have upToHere : ¬ Foreign key (earlier ++ [twin]) id := by
    intro foreign
    refine free (foreign.mono ?_)
    simp [place]
  exact remotes_agree firstIgnored secondIgnored before here upToHere named

end TwoRuns

section Neighbours

/-- A mesh on a cluster with enforced access and one gateway. -/
private def meshOn (cluster : String) : Mesh where
  metadata := { name := cluster, ns := "orbit" }
  provider := .istio { installation := { ns := "istio-system", cluster } }
  status :=
    { virtualMesh := some { ref := ⟨"vm", "orbit"⟩, spec := { globalAccess := .enabled } }
      ingressGateways := [⟨"gateway-" ++ cluster, "istio-system"⟩] }

/-- The destination of the gateway of a mesh on a cluster. -/
private def gatewayOn (cluster : String) : Destination where
  metadata := { name := "gateway-" ++ cluster, ns := "istio-system" }
  spec := { service := { ref := ⟨"gateway-" ++ cluster, "istio-system", cluster⟩ } }

/-- A pass over the meshes on some clusters and the gateways on some clusters. -/
private def passOver (meshes gateways : List String) : PassRequest :=
  ⟨{ meshes := meshes.map meshOn, destinations := gateways.map gatewayOn }, .named "remote" "local", .fresh⟩

/-- The mesh on the east is valid and then loses its gateway, alone in one run, and beside a mesh on the
west that fails and recovers in the other. -/
private def eastTwins : List TwinPass :=
  [⟨meshOn "east", passOver ["east"] ["east"], passOver ["west", "east"] ["east"]⟩,
    ⟨meshOn "east", passOver ["east"] [], passOver ["east", "west"] ["west"]⟩]

private theorem alike_eastTwins : ∀ twin ∈ eastTwins, twin.Alike "east.orbit" := by
  intro twin member
  simp only [eastTwins, List.mem_cons, List.not_mem_nil, or_false] at member
  rcases member with rfl | rfl
  · exact ⟨rfl, rfl, by decide, by decide, by decide⟩
  · exact ⟨rfl, rfl, by decide, by decide, by decide⟩

private theorem apart_eastTwins :
    ∀ twin ∈ eastTwins, ∀ id, twin.mesh.InstalledAt id → ¬ Foreign "east.orbit" eastTwins id := by
  rintro twin member id ⟨istio, isIstio, onEast, _⟩
    ⟨other, otherMember, mesh, present, foreign, otherIstio, otherIsIstio, onWest, _⟩
  have east : ∀ twin ∈ eastTwins,
      twin.mesh.istio.all fun istio => istio.installation.cluster = "east" := by decide
  have west : ∀ twin ∈ eastTwins, ∀ mesh ∈ twin.first.input.meshes ++ twin.second.input.meshes,
      mesh.key ≠ "east.orbit" → mesh.istio.all fun istio => istio.installation.cluster = "west" := by
    decide
  have isEast := east twin member
  have isWest := west other otherMember mesh present foreign
  rw [isIstio, Option.all_some, onEast] at isEast
  rw [otherIsIstio, Option.all_some, onWest] at isWest
  simp only [decide_eq_true_eq] at isEast isWest
  exact absurd (isEast.symm.trans isWest) (by decide)

/-- The mesh on the east restores the same policies in both runs. -/
theorem twin_passes_agree_on_east :
    (∀ twin ∈ eastTwins, twin.Alike "east.orbit") ∧
      (∀ twin ∈ eastTwins, ∀ id, twin.mesh.InstalledAt id → ¬ Foreign "east.orbit" eastTwins id) ∧
      ((after { compile := compileMesh } [passOver ["east"] ["east"]]).serve { compile := compileMesh }
          (passOver ["east"] [])).outputs.remote.get?
            ⟨.authorizationPolicy, "east", "istio-system", Access.globalName⟩ =
        ((after { compile := compileMesh } [passOver ["west", "east"] ["east"]]).serve
          { compile := compileMesh } (passOver ["east", "west"] ["west"])).outputs.remote.get?
            ⟨.authorizationPolicy, "east", "istio-system", Access.globalName⟩ :=
  have agree := twin_passes_agree Injection.builtinIgnored Injection.builtinIgnored "east.orbit" eastTwins
    alike_eastTwins apart_eastTwins (eastTwins.take 1) [] eastTwins[1] rfl
  have installed : ∃ other ∈ eastTwins, other.mesh.InstalledAt
      ⟨.authorizationPolicy, "east", "istio-system", Access.globalName⟩ :=
    ⟨_, List.mem_cons_self, _, rfl, rfl, rfl⟩
  ⟨alike_eastTwins, apart_eastTwins, agree.2.2.2 _ (.inl installed) (.inl rfl)⟩

end Neighbours

end Publisher

end MeshControl
