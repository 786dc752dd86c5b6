import MeshControl.Reference

/-!
# Workloads

A workload owns pods on a cluster. Of its pod template only the annotations, the names of the
containers and the use of the host's network decide anything. When a template is read, these and a few
other parts are checked for their form (`PodTemplate.read`), and all the rest is ignored.
-/

namespace MeshControl

/-- The part of a pod template that decides about injection. -/
structure PodTemplate where
  /-- The annotations of the pods, if the template has any. -/
  annotations : Option Labels := none
  /-- The names of the containers, in order. -/
  containers : List String := []
  hostNetwork : Bool := false
  deriving DecidableEq, Inhabited

/-- An owner of pods on a workload cluster. -/
structure Workload where
  metadata : Metadata
  podTemplate : PodTemplate := {}
  deriving DecidableEq, Inhabited

namespace PodTemplate

open Reading

variable {ν : Type} [Readable ν]

/-- The name of a container. -/
def readContainer : Reads ν String :=
  namedRecord ((fun name _ => name.getD "") <$> lenient "name" Readable.text <*> lenient "image" Readable.text)

/-- The annotations of a pod. -/
def readAnnotations : Reads ν (Option Labels) :=
  namedRecord ((fun annotations _ _ _ => annotations) <$> lenient "annotations" labelMap <*>
    lenient "labels" labelMap <*> lenient "name" Readable.text <*> lenient "namespace" Readable.text)

/-- The names of the containers and the use of the host's network. -/
def readSpec : Reads ν (List String × Bool) :=
  namedRecord ((fun containers hostNetwork _ _ => (containers.getD [], hostNetwork.getD false)) <$>
    lenient "containers" (listOf readContainer) <*> lenient "hostNetwork" Readable.bool <*>
    lenient "initContainers" (listOf readContainer) <*> lenient "serviceAccountName" Readable.text)

/-- A template may have any of its parts missing. Besides what it decides, only labels, name, namespace, service
account and initial containers of the pods and the images of containers are checked for their form; a template that
is ill-formed elsewhere, such as in its volumes or in the ports of a container, is read as if it were not. -/
def read : Reads ν PodTemplate :=
  namedRecord ((fun annotations spec =>
      let (containers, hostNetwork) := spec.getD ([], false)
      ⟨annotations.join, containers, hostNetwork⟩) <$>
    lenient "metadata" readAnnotations <*> lenient "spec" readSpec)

/-- The decisive part of a template: its annotations or null, container names and host network. -/
def toJson (template : PodTemplate) : Json :=
  .object [("annotations", .orNull .ofLabels template.annotations),
    ("containers", .texts template.containers), ("hostNetwork", .bool template.hostNetwork)]

end PodTemplate

namespace Workload

/-- The identity of the workload in membership, `name.namespace.cluster`. -/
def key (workload : Workload) : String := workload.metadata.clusterRef.key

/-- The cluster on which the workload runs. -/
def cluster (workload : Workload) : String := workload.metadata.cluster

/-- The namespace of the workload. -/
def ns (workload : Workload) : String := workload.metadata.ns

/-- The labels of the workload. -/
def labels (workload : Workload) : Labels := workload.metadata.labels

/-- An annotation of the workload's pods. -/
def podAnnotation (workload : Workload) (key : String) : Option String :=
  workload.podTemplate.annotations.bind (·.get? key)

def toJson (workload : Workload) : Json :=
  .object [("metadata", workload.metadata.toJson), ("podTemplate", workload.podTemplate.toJson)]

open Reading in
def read {ν : Type} [Readable ν] : Reads ν Workload :=
  record (mk <$> required "metadata" Metadata.read <*> withDefault "podTemplate" {} PodTemplate.read)

end Workload

end MeshControl
