import MeshControl.Injection.Detector

/-!
# What keys determine

A key joins names with a separator. Where a part cannot contain the separator, keys with equal texts have
equal parts.
-/

namespace MeshControl

/-- The first occurrence of a separator splits a list in one way. -/
theorem Text.parts_eq_of_append_cons {separator : Char} {left right leftRest rightRest : List Char}
    (leftFree : separator ∉ left) (rightFree : separator ∉ right)
    (same : left ++ separator :: leftRest = right ++ separator :: rightRest) :
    left = right ∧ leftRest = rightRest := by
  induction left generalizing right with
  | nil =>
      cases right with
      | nil => simpa using same
      | cons head tail =>
          simp only [List.nil_append, List.cons_append, List.cons.injEq] at same
          exact absurd (same.1 ▸ List.mem_cons_self) rightFree
  | cons head tail inductionHypothesis =>
      cases right with
      | nil =>
          simp only [List.nil_append, List.cons_append, List.cons.injEq] at same
          exact absurd (same.1 ▸ List.mem_cons_self) leftFree
      | cons other rest =>
          simp only [List.mem_cons, not_or] at leftFree rightFree
          simp only [List.cons_append, List.cons.injEq] at same
          obtain ⟨tails, rests⟩ := inductionHypothesis leftFree.2 rightFree.2 same.2
          exact ⟨by rw [same.1, tails], rests⟩

/-- The last occurrence of a separator splits a list in one way. -/
theorem Text.parts_eq_of_append_cons_last {separator : Char} {left right leftRest rightRest : List Char}
    (leftFree : separator ∉ leftRest) (rightFree : separator ∉ rightRest)
    (same : left ++ separator :: leftRest = right ++ separator :: rightRest) :
    left = right ∧ leftRest = rightRest := by
  have reversed := congrArg List.reverse same
  simp only [List.reverse_append, List.reverse_cons, List.append_assoc, List.singleton_append] at reversed
  obtain ⟨rests, starts⟩ := Text.parts_eq_of_append_cons (mt List.mem_reverse.1 leftFree)
    (mt List.mem_reverse.1 rightFree) reversed
  exact ⟨List.reverse_inj.1 starts, List.reverse_inj.1 rests⟩

/-- A text without a dot can be split off again after it was joined to another one with a dot. -/
theorem Text.eq_of_dotted_eq {start other last otherLast : String} (noDot : '.' ∉ last.toList)
    (otherNoDot : '.' ∉ otherLast.toList) (same : start ++ "." ++ last = other ++ "." ++ otherLast) :
    start = other ∧ last = otherLast := by
  have chars := congrArg String.toList same
  simp only [String.toList_append, List.append_assoc] at chars
  obtain ⟨starts, lasts⟩ := Text.parts_eq_of_append_cons_last noDot otherNoDot chars
  exact ⟨String.toList_inj.1 starts, String.toList_inj.1 lasts⟩

/-- References whose namespaces contain no dot are told apart by their keys, whatever their names. -/
theorem ObjectRef.eq_of_key_eq {ref other : ObjectRef} (noDot : '.' ∉ ref.ns.toList)
    (otherNoDot : '.' ∉ other.ns.toList) (same : ref.key = other.key) : ref = other := by
  obtain ⟨names, namespaces⟩ := Text.eq_of_dotted_eq noDot otherNoDot same
  cases ref
  cases other
  rw [mk.injEq]
  exact ⟨names, namespaces⟩

/-- Clusters whose names contain no dot are told apart by the keys of what lives on them. -/
theorem ClusterRef.cluster_eq_of_key_eq {ref other : ClusterRef} (noDot : '.' ∉ ref.cluster.toList)
    (otherNoDot : '.' ∉ other.cluster.toList) (same : ref.key = other.key) :
    ref.cluster = other.cluster :=
  (Text.eq_of_dotted_eq noDot otherNoDot same).2

/-- References whose namespaces and clusters contain no dot are told apart by their keys. -/
theorem ClusterRef.eq_of_key_eq {ref other : ClusterRef} (noDot : '.' ∉ ref.ns.toList)
    (otherNoDot : '.' ∉ other.ns.toList) (clusterNoDot : '.' ∉ ref.cluster.toList)
    (otherClusterNoDot : '.' ∉ other.cluster.toList) (same : ref.key = other.key) : ref = other := by
  obtain ⟨starts, clusters⟩ := Text.eq_of_dotted_eq clusterNoDot otherClusterNoDot same
  obtain ⟨names, namespaces⟩ := Text.eq_of_dotted_eq noDot otherNoDot starts
  cases ref
  cases other
  rw [mk.injEq]
  exact ⟨names, namespaces, clusters⟩

/-- References whose names and namespaces contain no dot are told apart by their keys. -/
theorem ClusterRef.eq_of_key_eq_of_names {ref other : ClusterRef} (noDot : '.' ∉ ref.name.toList)
    (otherNoDot : '.' ∉ other.name.toList) (nsNoDot : '.' ∉ ref.ns.toList)
    (otherNsNoDot : '.' ∉ other.ns.toList) (same : ref.key = other.key) : ref = other := by
  have chars := congrArg String.toList same
  simp only [key, String.toList_append, List.append_assoc] at chars
  obtain ⟨names, rests⟩ := Text.parts_eq_of_append_cons noDot otherNoDot chars
  obtain ⟨namespaces, clusters⟩ := Text.parts_eq_of_append_cons nsNoDot otherNsNoDot rests
  cases ref
  cases other
  rw [mk.injEq]
  exact ⟨String.toList_inj.1 names, String.toList_inj.1 namespaces, String.toList_inj.1 clusters⟩

/-- A key has the dots of its parts and two more. -/
theorem ClusterRef.count_dot_key (ref : ClusterRef) :
    ref.key.toList.count '.' =
      ref.name.toList.count '.' + ref.ns.toList.count '.' + ref.cluster.toList.count '.' + 2 := by
  have separator : ".".toList.count '.' = 1 := rfl
  simp only [key, String.toList_append, List.count_append, separator]
  omega

/-- References with equal keys are equal, unless one has a dot in its name and the other one in its cluster. -/
theorem ClusterRef.eq_of_key_eq_of_apart {ref other : ClusterRef} (nsNoDot : '.' ∉ ref.ns.toList)
    (otherNsNoDot : '.' ∉ other.ns.toList)
    (apart : '.' ∉ ref.name.toList ∨ '.' ∉ other.cluster.toList)
    (otherApart : '.' ∉ other.name.toList ∨ '.' ∉ ref.cluster.toList) (same : ref.key = other.key) :
    ref = other := by
  have dots := congrArg (fun key => key.toList.count '.') same
  simp only [count_dot_key, List.count_eq_zero.2 nsNoDot, List.count_eq_zero.2 otherNsNoDot] at dots
  -- Where one reference has no dots at all, the dots of its key leave none for the other one.
  rcases apart with name | otherCluster <;> rcases otherApart with otherName | cluster
  · exact eq_of_key_eq_of_names name otherName nsNoDot otherNsNoDot same
  · rw [List.count_eq_zero.2 name, List.count_eq_zero.2 cluster] at dots
    have otherName : '.' ∉ other.name.toList := List.count_eq_zero.1 (by omega)
    exact eq_of_key_eq_of_names name otherName nsNoDot otherNsNoDot same
  · rw [List.count_eq_zero.2 otherName, List.count_eq_zero.2 otherCluster] at dots
    have name : '.' ∉ ref.name.toList := List.count_eq_zero.1 (by omega)
    exact eq_of_key_eq_of_names name otherName nsNoDot otherNsNoDot same
  · exact eq_of_key_eq nsNoDot otherNsNoDot cluster otherCluster same

/-- Namespaces whose names contain no slash are told apart by their keys. -/
theorem Injection.namespaceKey_inj {name other cluster otherCluster : String}
    (noSlash : '/' ∉ name.toList) (otherNoSlash : '/' ∉ other.toList) :
    namespaceKey name cluster = namespaceKey other otherCluster ↔
      name = other ∧ cluster = otherCluster := by
  refine ⟨fun same => ?_, fun ⟨names, clusters⟩ => by rw [names, clusters]⟩
  have chars := congrArg String.toList same
  simp only [namespaceKey, String.toList_append, List.append_assoc] at chars
  obtain ⟨names, clusters⟩ := Text.parts_eq_of_append_cons noSlash otherNoSlash chars
  exact ⟨String.toList_inj.1 names, String.toList_inj.1 clusters⟩

/-- A key has the slashes of its parts and one more. -/
theorem Injection.count_slash_namespaceKey (name cluster : String) :
    (namespaceKey name cluster).toList.count '/' = name.toList.count '/' + cluster.toList.count '/' + 1 := by
  have separator : "/".toList.count '/' = 1 := rfl
  simp only [namespaceKey, String.toList_append, List.count_append, separator]
  omega

/-- Namespaces with equal keys have equal names, unless one has a slash in its name and the other one in the name
of its cluster. -/
theorem Injection.name_eq_of_namespaceKey_eq_of_apart {name other cluster otherCluster : String}
    (apart : '/' ∉ name.toList ∨ '/' ∉ otherCluster.toList)
    (otherApart : '/' ∉ other.toList ∨ '/' ∉ cluster.toList)
    (same : namespaceKey name cluster = namespaceKey other otherCluster) : name = other := by
  have slashes := congrArg (fun key => key.toList.count '/') same
  simp only [count_slash_namespaceKey] at slashes
  -- Where one side has no slashes at all, the slashes of its key leave none for the other one.
  rcases apart with nameFree | otherClusterFree <;> rcases otherApart with otherFree | clusterFree
  · exact ((namespaceKey_inj nameFree otherFree).1 same).1
  · rw [List.count_eq_zero.2 nameFree, List.count_eq_zero.2 clusterFree] at slashes
    have otherFree : '/' ∉ other.toList := List.count_eq_zero.1 (by omega)
    exact ((namespaceKey_inj nameFree otherFree).1 same).1
  · rw [List.count_eq_zero.2 otherFree, List.count_eq_zero.2 otherClusterFree] at slashes
    have nameFree : '/' ∉ name.toList := List.count_eq_zero.1 (by omega)
    exact ((namespaceKey_inj nameFree otherFree).1 same).1
  · have chars := congrArg String.toList same
    simp only [namespaceKey, String.toList_append, List.append_assoc] at chars
    exact String.toList_inj.1 (Text.parts_eq_of_append_cons_last clusterFree otherClusterFree chars).1

end MeshControl
