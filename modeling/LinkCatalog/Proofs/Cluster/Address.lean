import Mathlib.Data.List.DropRight
import LinkCatalog.Cluster.Config

/-!
# Addresses of deployment configs

The address of a deployment config is put together from texts that are not escaped. Slashes at the
end of the address of the cluster do not matter, and the parts behind it can be told apart as long
as namespaces have no slashes. Names may have slashes, and may even contain the texts that are put
between the parts.

## Main definitions

- `IsLongestPrefix` — the longest prefix of a text that has a property
- `ClusterConfig.slashes` — slashes in a row

## Main statements

- `ClusterConfig.isLongestPrefix_withoutTrailingSlashes` — what is left without the slashes
- `ClusterConfig.deploymentConfigUrl_eq_iff` — which addresses are equal
- `ClusterConfig.deploymentConfigUrl_normalized` — addresses are normalized and unambiguous
-/

namespace LinkCatalog

/-- A text is the longest prefix of another one that has a property. -/
structure IsLongestPrefix (P : List Char → Prop) (front text : List Char) : Prop where
  isPrefix : front <+: text
  holds : P front
  longest : ∀ other, other <+: text → P other → other.length ≤ front.length

/-- What stands before the first mark and what follows it can be told apart. -/
theorem eq_of_append_cons_eq {mark : Char} {left other rest otherRest : List Char}
    (hleft : mark ∉ left) (hother : mark ∉ other)
    (h : left ++ mark :: rest = other ++ mark :: otherRest) : left = other ∧ rest = otherRest := by
  have hsplit := congrArg (List.splitOn mark) h
  rw [List.splitOn_append_cons_self_of_not_mem hleft,
    List.splitOn_append_cons_self_of_not_mem hother] at hsplit
  obtain ⟨rfl, -⟩ := List.cons.inj hsplit
  exact ⟨rfl, (List.cons.inj (List.append_cancel_left h)).2⟩

namespace ClusterConfig

-- ════════════════════════════════════════════════════════════════════════
-- Slashes at the end
-- ════════════════════════════════════════════════════════════════════════

/-- Some slashes in a row. -/
def slashes (count : Nat) : String :=
  String.ofList (List.replicate count '/')

theorem withoutTrailingSlashes_append_replicate (cs : List Char) (count : Nat) :
    withoutTrailingSlashes (cs ++ List.replicate count '/') = withoutTrailingSlashes cs := by
  induction count with
  | zero => rw [List.replicate_zero, List.append_nil]
  | succ count ih =>
    rw [List.replicate_succ', ← List.append_assoc]
    exact (List.rdropWhile_concat_pos (· == '/') _ '/' rfl).trans ih

/-- A text falls into what is left without the slashes at its end, and these slashes. -/
theorem exists_trailingSlashes (cs : List Char) :
    ∃ back, (∀ c ∈ back, c = '/') ∧ cs = withoutTrailingSlashes cs ++ back := by
  refine ⟨cs.rtakeWhile (· == '/'), fun c hc => ?_, List.rdropWhile_append_rtakeWhile.symm⟩
  exact eq_of_beq (List.mem_rtakeWhile_imp (p := (· == '/')) hc)

theorem getLast?_withoutTrailingSlashes (cs : List Char) :
    (withoutTrailingSlashes cs).getLast? ≠ some '/' := by
  intro hlast
  obtain ⟨front, hfront⟩ := List.getLast?_eq_some_iff.1 hlast
  have hne : cs.rdropWhile (· == '/') ≠ [] :=
    hfront.trans_ne (List.append_ne_nil_of_right_ne_nil front (List.cons_ne_nil _ _))
  have hslash : (cs.rdropWhile (· == '/')).getLast hne = '/' :=
    List.getLast_of_getLast?_eq_some hlast
  exact List.rdropWhile_last_not _ _ hne (beq_iff_eq.2 hslash)

/-- A text without the slashes at its end is its longest prefix that does not end in a slash. -/
theorem isLongestPrefix_withoutTrailingSlashes (cs : List Char) :
    IsLongestPrefix (fun front => front.getLast? ≠ some '/') (withoutTrailingSlashes cs) cs where
  isPrefix := List.rdropWhile_prefix _ _
  holds := getLast?_withoutTrailingSlashes cs
  longest := by
    intro other hprefix hlast
    by_contra hlonger
    -- A longer prefix goes on into the slashes at the end, and so it ends in one of them.
    obtain ⟨back, hback, hcs⟩ := exists_trailingSlashes cs
    obtain ⟨more, rfl⟩ := List.prefix_of_prefix_length_le (List.rdropWhile_prefix _ cs) hprefix
      (Nat.le_of_not_le hlonger)
    obtain ⟨after, hafter⟩ := hprefix
    have hmore : more ++ after = back :=
      List.append_cancel_left ((List.append_assoc _ _ _).symm.trans (hafter.trans hcs))
    rcases List.eq_nil_or_concat more with rfl | ⟨init, last, rfl⟩
    · exact hlonger (List.append_nil _ ▸ le_rfl)
    · have hslash : last = '/' := hback last (by simp [← hmore])
      exact hlast (by simp [hslash])

-- ════════════════════════════════════════════════════════════════════════
-- Parts of addresses
-- ════════════════════════════════════════════════════════════════════════

theorem baseUrl_eq_of_slashes {config other : ClusterConfig} {count : Nat}
    (h : other.clusterUrl = config.clusterUrl ++ slashes count) : other.baseUrl = config.baseUrl := by
  rw [baseUrl, h, slashes, String.toList_append, String.toList_ofList,
    withoutTrailingSlashes_append_replicate, baseUrl]

/-- Addresses of deployment configs are equal only for the same namespace and the same name, if
    namespaces have no slashes. -/
theorem deploymentConfigUrl_eq_iff {config : ClusterConfig}
    {namespaceName name otherNamespace otherName : String}
    (hnamespace : '/' ∉ namespaceName.toList) (hother : '/' ∉ otherNamespace.toList) :
    config.deploymentConfigUrl namespaceName name =
        config.deploymentConfigUrl otherNamespace otherName ↔
      namespaceName = otherNamespace ∧ name = otherName := by
  refine ⟨fun h => ?_, fun ⟨hnamespaces, hnames⟩ => by rw [hnamespaces, hnames]⟩
  have hmiddle : "/deploymentconfigs/".toList = '/' :: "deploymentconfigs/".toList := by
    decide +kernel
  rw [← String.toList_inj] at h
  simp only [deploymentConfigUrl, String.toList_append, List.append_assoc, hmiddle,
    List.cons_append, List.append_cancel_left_eq] at h
  obtain ⟨hnamespaces, hnames⟩ := eq_of_append_cons_eq hnamespace hother h
  exact ⟨String.toList_inj.1 hnamespaces, String.toList_inj.1 (List.append_cancel_left hnames)⟩

/-- With a slash in a namespace, different deployment configs may have the same address. -/
example :
    ({} : ClusterConfig).deploymentConfigUrl "a/deploymentconfigs/b" "c" =
      ({} : ClusterConfig).deploymentConfigUrl "a" "b/deploymentconfigs/c" := by
  decide +kernel

/-- **Normal and unambiguous addresses.** Slashes at the end of the address of a cluster make no
    difference, since paths are appended to its longest prefix that does not end in a slash; and in
    one cluster, the address of a deployment config tells its namespace and its name, if namespaces
    have no slashes. -/
theorem deploymentConfigUrl_normalized (config : ClusterConfig) :
    (∀ (other : ClusterConfig) (count : Nat),
      other.clusterUrl = config.clusterUrl ++ slashes count → ∀ namespaceName name,
        other.deploymentConfigUrl namespaceName name =
          config.deploymentConfigUrl namespaceName name) ∧
    IsLongestPrefix (fun front => front.getLast? ≠ some '/') config.baseUrl.toList
      config.clusterUrl.toList ∧
    ∀ namespaceName name otherNamespace otherName, '/' ∉ namespaceName.toList →
      '/' ∉ otherNamespace.toList →
      (config.deploymentConfigUrl namespaceName name =
          config.deploymentConfigUrl otherNamespace otherName ↔
        namespaceName = otherNamespace ∧ name = otherName) := by
  refine ⟨fun other count hslashes namespaceName name => ?_, ?_,
    fun _ _ _ _ hnamespace hother => deploymentConfigUrl_eq_iff hnamespace hother⟩
  · rw [deploymentConfigUrl, deploymentConfigUrl, baseUrl_eq_of_slashes hslashes]
  · rw [baseUrl, String.toList_ofList]
    exact isLongestPrefix_withoutTrailingSlashes _

/-- Two slashes are left out, and a name may look like the end of another address. -/
theorem deploymentConfigUrl_normalized_sampleSlashes :
    let config : ClusterConfig := { clusterUrl := "https://api.cluster//" }
    let other : ClusterConfig := { clusterUrl := "https://api.cluster////", timeoutSeconds := 5 }
    other.clusterUrl = config.clusterUrl ++ slashes 2 ∧
      '/' ∉ "team".toList ∧ '/' ∉ "team2".toList ∧
      other.deploymentConfigUrl "team" "web" = config.deploymentConfigUrl "team" "web" ∧
      config.deploymentConfigUrl "team" "x/deploymentconfigs/web" ≠
        config.deploymentConfigUrl "team2" "web" := by
  intro config other
  have hslashes : other.clusterUrl = config.clusterUrl ++ slashes 2 := by decide +kernel
  have hteam : '/' ∉ "team".toList := by decide +kernel
  have hteam2 : '/' ∉ "team2".toList := by decide +kernel
  obtain ⟨hsame, -, hinj⟩ := deploymentConfigUrl_normalized config
  refine ⟨hslashes, hteam, hteam2, hsame other 2 hslashes "team" "web", fun h => ?_⟩
  exact absurd ((hinj _ _ _ _ hteam hteam2).1 h).1 (by decide)

end ClusterConfig

end LinkCatalog
