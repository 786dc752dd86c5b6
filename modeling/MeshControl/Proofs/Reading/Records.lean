import MeshControl.Proofs.Reading
import MeshControl.Record

/-!
# References and records read back

What is written of references, object metadata and the records of cluster objects is read back, in any
presentation.
-/

namespace MeshControl

open Reading

variable {ν : Type} [Readable ν] (p : Presentation ν)

theorem ObjectRef.read_toJson (ref : ObjectRef) : read (p.of ref.toJson) = pure ref := by
  obtain ⟨name, ns⟩ := ref
  refine p.record (.seq (.map mk
    (.required ?_ (p.text name)))
    (.present "" ?_ (p.text ns))) <;> simp

theorem ClusterRef.read_toJson (ref : ClusterRef) : read (p.of ref.toJson) = pure ref := by
  obtain ⟨name, ns, cluster⟩ := ref
  refine p.record (.seq (.seq (.map mk
    (.required ?_ (p.text name)))
    (.present "" ?_ (p.text ns)))
    (.present "" ?_ (p.text cluster))) <;> simp [jsonFields]

theorem Metadata.read_toJson (metadata : Metadata) : read (p.of metadata.toJson) = pure metadata := by
  obtain ⟨name, ns, cluster, labels, annotations⟩ := metadata
  refine p.record (.seq (.seq (.seq (.seq (.map mk
    (.required ?_ (p.text name)))
    (.present "" ?_ (p.text ns)))
    (.text ?_))
    (.labels ?_))
    (.labels ?_)) <;> simp

theorem NamespaceRecord.read_toJson (record : NamespaceRecord) : read (p.of record.toJson) = pure record := by
  obtain ⟨name, cluster, labels⟩ := record
  refine p.record (.seq (.seq (.map mk
    (.required ?_ (p.text name)))
    (.required ?_ (p.text cluster)))
    (.present ∅ ?_ (p.labelMap labels))) <;> simp

theorem ConfigMapRecord.read_toJson (record : ConfigMapRecord) : read (p.of record.toJson) = pure record := by
  obtain ⟨name, ns, cluster, data⟩ := record
  refine p.record (.seq (.seq (.seq (.map mk
    (.required ?_ (p.text name)))
    (.required ?_ (p.text ns)))
    (.required ?_ (p.text cluster)))
    (.present ∅ ?_ (p.labelMap data))) <;> simp

/-- The fields of a secret, also among those of an object that holds more. -/
theorem Secret.yields_fields (secret : Secret) : p.Yields secret.jsonFields fields secret := by
  obtain ⟨metadata, type, data⟩ := secret
  refine .seq (.seq (.map mk
    (.required ?_ (metadata.read_toJson p)))
    (.text ?_))
    (.labels ?_) <;> simp [jsonFields]

theorem Secret.read_toJson (secret : Secret) : read (p.of secret.toJson) = pure secret :=
  p.record (secret.yields_fields p)

theorem KubernetesCluster.read_toJson (cluster : KubernetesCluster) :
    read (p.of cluster.toJson) = pure cluster := by
  obtain ⟨name, ns, domain⟩ := cluster
  refine p.record (.seq (.seq (.map mk
    (.required ?_ (p.text name)))
    (.present "" ?_ (p.text ns)))
    (.text ?_)) <;> simp

end MeshControl
