import LocalLvm.L3Capacity.FreeSpace

/-!
# Choosing the volume group and building the volume's spec

To create a volume, the local-volume driver reads the storage class
parameter `lvmVolumeGroups` (a YAML list of groups with their thin pool),
keeps the cluster's groups that it names (`getStorageClassLVGsAndParameters`),
asks `getNodeWithMaxFreeSpace` for a node, takes a group on that node
(`selectLVG`) and builds the LVMLogicalVolume's spec (`getLLVSpec`). The two
copies of `getLVMVolumeGroupParams` answer the same question from a List of
the groups.

Results:
* `parametersMap_lookup`, `collectLVGs_of_nodes`, `selectLVG_eq_find`: the
  parameter map answers with the last entry for a name, the groups kept are
  the named ones in list order, and `selectLVG` is a `find?` on the node.
* `selectLVG_first_on_node`: after a successful search with positive free
  space, `selectLVG` returns the first group on the chosen node, which is the
  group of maximum free space only when no group before that one shares its
  node (`selectLVG_smaller_group_on_max_node`).
* `getLLVSpec_configured_pool`: the storage class's groups are the listed
  groups with a pool entry, in list order, and a selected group's spec names
  the group and the pool configured last for it, which the group has once the
  Thin search succeeded.
* `getLVMVolumeGroupParams_thin_without_pool`: the thin-pool search of both
  copies of `getLVMVolumeGroupParams` changes nothing, so a Thin volume can be
  given a group that lacks the pool the selector configures for it.
* `getLVMVolumeGroupParams_first_match`: both copies of
  `getLVMVolumeGroupParams` are a search for the first group the selector
  names whose first node is the requested one (`paramsLoop_eq_find`).
* `nodes0_out_of_range`: every function here reads `Status.Nodes[0]` without
  a length check, so a group with no node yet makes each of them panic.
-/
namespace LocalLvm.L3.Placement
open LocalLvm.L1 LocalLvm.L3.FreeSpace

/-- The thin part of an entry of the storage class parameter. -/
structure LVMVolumeGroupThin where
  poolName : String
  deriving DecidableEq, Repr

/-- An entry of the storage class parameter `lvmVolumeGroups`, as
`yaml.Unmarshal` fills the package's `LVMVolumeGroups` list (the type is not
in the sources; the code reads `v.Name` and `v.Thin.PoolName`). -/
structure LVMVolumeGroupParam where
  name : String
  thin : LVMVolumeGroupThin
  deriving DecidableEq, Repr

/-- The map of func.go:267-270, `storageClassLVGParametersMap[v.Name] =
v.Thin.PoolName` for the entries in order. -/
def parametersMap (storageClassLVGParametersList : List LVMVolumeGroupParam) : StringMap :=
  storageClassLVGParametersList.foldl (fun m v => m.insert v.name v.thin.poolName) ∅

/-- The loop of func.go:276-289 with its accumulator `storageClassLVGs`; its
log line reads `lvg.Status.Nodes[0]` of every group the map names. -/
def collectLVGs (m : StringMap) :
    List LVMVolumeGroup → List LVMVolumeGroup → Option (List LVMVolumeGroup)
  | storageClassLVGs, [] => some storageClassLVGs
  | storageClassLVGs, lvg :: lvgs =>
    match m.lookup lvg.name with
    | some _ =>
      match lvg.node0 with
      | none => none
      | some _ => collectLVGs m (storageClassLVGs ++ [lvg]) lvgs
    | none => collectLVGs m storageClassLVGs lvgs

/-- mirrors images/sds-local-volume-csi/src/pkg/utils/func.go:259-292.
`Unmarshal` is `yaml.Unmarshal` into the parameter list; `lvgList` is the
reply of the List that `GetLVGList` (func.go:294-297) makes. -/
def getStorageClassLVGsAndParameters (unmarshal : String → Except Err (List LVMVolumeGroupParam))
    (lvgList : Except Err (List LVMVolumeGroup)) (storageClassLVGParametersString : String) :
    Option (Except Err (List LVMVolumeGroup × StringMap)) :=
  match unmarshal storageClassLVGParametersString with
  | .error err => some (.error err)
  | .ok storageClassLVGParametersList =>
    let storageClassLVGParametersMap := parametersMap storageClassLVGParametersList
    match lvgList with
    | .error err => some (.error err)
    | .ok lvgs =>
      (collectLVGs storageClassLVGParametersMap [] lvgs).map fun storageClassLVGs =>
        .ok (storageClassLVGs, storageClassLVGParametersMap)

/-- mirrors images/sds-local-volume-csi/src/pkg/utils/func.go:299-324;
`QuantityString` is `resource.Quantity.String`, and a key missing from the
map reads as `""`. -/
def getLLVSpec (quantityString : Int → String) (lvName : String) (selectedLVG : LVMVolumeGroup)
    (storageClassLVGParametersMap : StringMap) (lvmType : String) (llvSize : Int) (contiguous : Bool) :
    LVMLogicalVolumeSpec :=
  let lvmLogicalVolumeSpec : LVMLogicalVolumeSpec :=
    { actualLVNameOnTheNode := lvName, type := lvmType, size := quantityString llvSize,
      lvmVolumeGroupName := selectedLVG.name, thin := none, thick := none }
  if lvmType = lvmTypeThin then
    { lvmLogicalVolumeSpec with
      thin := some ⟨(storageClassLVGParametersMap.lookup selectedLVG.name).getD ""⟩ }
  else if lvmType = lvmTypeThick then
    if contiguous then { lvmLogicalVolumeSpec with thick := some ⟨some contiguous⟩ }
    else lvmLogicalVolumeSpec
  else lvmLogicalVolumeSpec

/-- mirrors images/sds-local-volume-csi/src/pkg/utils/func.go:380-391; the key
`internal.LVMVThickContiguousParamKey` is not in the sources. -/
def isContiguous (lvmVThickContiguousParamKey : String) (parameters : StringMap) (lvmType : String) :
    Bool :=
  if lvmType = lvmTypeThin then false
  else
    match parameters.lookup lvmVThickContiguousParamKey with
    | some val => val = "true"
    | none => false

/-- mirrors images/sds-local-volume-csi/src/pkg/utils/func.go:326-333 -/
def selectLVG : List LVMVolumeGroup → String → Option (Except Err LVMVolumeGroup)
  | [], nodeName => some (.error (.text ("[SelectLVG] no LVMVolumeGroup found for node " ++ nodeName)))
  | lvg :: storageClassLVGs, nodeName =>
    match lvg.node0 with
    | none => none
    | some n => if n = nodeName then some (.ok lvg) else selectLVG storageClassLVGs nodeName

/-- The loop of both copies of `getLVMVolumeGroupParams`, over the groups of
either API: the first group that `lvmVG` names (its `Nodes[0]` is read for the
log) and that sits on `nodeName` gives its name and VG name. For a Thin volume
the code first looks for a thin pool of the group that `lvmVG` names (any
value of the map), and returns the same pair whether it finds one or not. -/
def paramsLoop {G : Type} (name : G → String) (node0 : G → Option String) (vgName : G → String)
    (thinPools : G → List String) (lvmVG : StringMap) (nodeName lvmType : String) :
    List G → Option (Except Err (String × String))
  | [] => some (.error (.text "there are no matches"))
  | lvg :: lvgs =>
    match lvmVG.lookup (name lvg) with
    | none => paramsLoop name node0 vgName thinPools lvmVG nodeName lvmType lvgs
    | some _ =>
      match node0 lvg with
      | none => none
      | some n =>
        if n = nodeName then
          if lvmType = llvTypeThin ∧
              (thinPools lvg).any fun thinPool => lvmVG.entries.any fun tp => tp.2 = thinPool then
            some (.ok (name lvg, vgName lvg))
          else some (.ok (name lvg, vgName lvg))
        else paramsLoop name node0 vgName thinPools lvmVG nodeName lvmType lvgs

/-- mirrors images/sds-local-volume-csi/src/pkg/utils/func.go:184-219; this
copy makes one List, whose reply is `lvgList`. -/
def getLVMVolumeGroupParams (lvgList : Except Err (List LVMVolumeGroup)) (lvmVG : StringMap)
    (nodeName lvmType : String) : Option (Except Err (String × String)) :=
  match lvgList with
  | .error err => some (.error (.wrap "error getting LVMVolumeGroup list" err))
  | .ok items =>
    paramsLoop LVMVolumeGroup.name LVMVolumeGroup.node0 (·.spec.actualVGNameOnTheNode)
      (fun lvg => lvg.status.thinPools.map (·.name)) lvmVG nodeName lvmType items

namespace SdsLvmCsi

/-- mirrors images/sds-lvm-csi/pkg/utils/func.go:200-247; the List calls are
answered by `reply`. -/
def getLVMVolumeGroupParams (reply : Nat → Except Err (List LvmVolumeGroup)) (lvmVG : StringMap)
    (nodeName lvmType : String) : Option (Except Err (String × String)) :=
  match (L2.Retry.listLvgs reply).2 with
  | .error err => some (.error err)
  | .ok items =>
    paramsLoop LvmVolumeGroup.name LvmVolumeGroup.node0 LvmVolumeGroup.actualVGNameOnTheNode
      (fun lvg => lvg.thinPools.map (·.name)) lvmVG nodeName lvmType items

end SdsLvmCsi

/-! ## What the functions compute -/

theorem parametersMap_lookup (l : List LVMVolumeGroupParam) (k : String) :
    (parametersMap l).lookup k = (l.reverse.find? (·.name = k)).map (·.thin.poolName) := by
  suffices ∀ m₀ : StringMap, (l.foldl (fun m v => m.insert v.name v.thin.poolName) m₀).lookup k =
      ((l.reverse.find? (·.name = k)).map (·.thin.poolName)).or (m₀.lookup k) by
    simpa [parametersMap, AList.lookup_empty] using this ∅
  induction l with
  | nil => simp
  | cons v l ih =>
    intro m₀
    rw [List.foldl_cons, ih, List.reverse_cons, List.find?_append]
    cases hf : l.reverse.find? (·.name = k) with
    | some w => simp
    | none =>
      by_cases hk : v.name = k
      · subst hk; simp [AList.lookup_insert]
      · simp [hk, AList.lookup_insert_ne (Ne.symm hk)]

theorem parametersMap_lookup_isSome (l : List LVMVolumeGroupParam) (k : String) :
    ((parametersMap l).lookup k).isSome ↔ k ∈ l.map (·.name) := by
  simp [parametersMap_lookup, List.find?_isSome]

theorem collectLVGs_of_nodes (m : StringMap) (acc lvgs : List LVMVolumeGroup)
    (h : ∀ g ∈ lvgs, g.status.nodes ≠ []) :
    collectLVGs m acc lvgs = some (acc ++ lvgs.filter fun g => (m.lookup g.name).isSome) := by
  induction lvgs generalizing acc with
  | nil => simp [collectLVGs]
  | cons g lvgs ih =>
    obtain ⟨n, hn⟩ := Option.ne_none_iff_exists'.1 (mt LVMVolumeGroup.node0_eq_none.1 (h g (.head _)))
    cases hl : m.lookup g.name <;>
      simp [collectLVGs, hl, hn, ih _ fun g hg => h g (.tail _ hg), List.filter_cons]

theorem collectLVGs_eq_none (m : StringMap) (acc lvgs : List LVMVolumeGroup) :
    collectLVGs m acc lvgs = none ↔ ∃ g ∈ lvgs, (m.lookup g.name).isSome ∧ g.status.nodes = [] := by
  induction lvgs generalizing acc with
  | nil => simp [collectLVGs]
  | cons g lvgs ih =>
    cases hl : m.lookup g.name with
    | none => simp [collectLVGs, hl, ih]
    | some p =>
      by_cases hN : g.status.nodes = []
      · simp [collectLVGs, hl, LVMVolumeGroup.node0_eq_none.2 hN, hN]
      · obtain ⟨n, hn⟩ := Option.ne_none_iff_exists'.1 (mt LVMVolumeGroup.node0_eq_none.1 hN)
        simp [collectLVGs, hl, hn, hN, ih]

theorem selectLVG_eq_find (lvgs : List LVMVolumeGroup) (nodeName : String)
    (h : ∀ g ∈ lvgs, g.status.nodes ≠ []) :
    selectLVG lvgs nodeName = some (match lvgs.find? (·.node0 = some nodeName) with
      | some lvg => .ok lvg
      | none => .error (.text ("[SelectLVG] no LVMVolumeGroup found for node " ++ nodeName))) := by
  induction lvgs with
  | nil => rfl
  | cons g lvgs ih =>
    obtain ⟨n, hn⟩ := Option.ne_none_iff_exists'.1 (mt LVMVolumeGroup.node0_eq_none.1 (h g (.head _)))
    by_cases hnn : n = nodeName
    · simp [selectLVG, hn, hnn, List.find?_cons]
    · simp [selectLVG, hn, hnn, List.find?_cons, ih fun g hg => h g (.tail _ hg)]

theorem selectLVG_ok_mem {lvgs : List LVMVolumeGroup} {nodeName : String} {g : LVMVolumeGroup}
    (h : selectLVG lvgs nodeName = some (.ok g)) : g ∈ lvgs ∧ g.node0 = some nodeName := by
  induction lvgs with
  | nil => simp [selectLVG] at h
  | cons g' lvgs ih =>
    simp only [selectLVG] at h
    split at h
    · cases h
    · rename_i n hn
      split_ifs at h with hnn
      · simp only [Option.some.injEq, Except.ok.injEq] at h
        exact ⟨h ▸ .head _, h ▸ hnn ▸ hn⟩
      · exact ⟨.tail _ (ih h).1, (ih h).2⟩

/-! ## The group the provisioner places the volume in -/

/-- After a search that succeeded with positive free space `q` on node `n`,
over groups that all have a node: `q` is the largest free space, reached
first by a group `gmax` on `n`. `selectLVG` on `n` returns `gmax` when no
earlier group is on `n`, and otherwise the first of those earlier groups on
`n`, which has less free space. -/
theorem selectLVG_first_on_node (lvgs : List LVMVolumeGroup) (m : StringMap) (lvmType n : String)
    (q : Int) (hnodes : ∀ g ∈ lvgs, g.status.nodes ≠ [])
    (htype : lvmType = lvmTypeThick ∨ lvmType = lvmTypeThin)
    (h : getNodeWithMaxFreeSpace lvgs m lvmType = some (n, q, none)) (hq : 0 < q) :
    let v := fun g => (specFreeSpace m lvmType g).getD 0
    (∀ g ∈ lvgs, v g ≤ q) ∧
    ∃ pre gmax post, lvgs = pre ++ gmax :: post ∧ v gmax = q ∧ (∀ x ∈ pre, v x < q) ∧
      gmax.node0 = some n ∧
      ((∀ x ∈ pre, x.node0 ≠ some n) → selectLVG lvgs n = some (.ok gmax)) ∧
      ((∃ x ∈ pre, x.node0 = some n) →
        ∃ g ∈ pre, pre.find? (·.node0 = some n) = some g ∧ selectLVG lvgs n = some (.ok g) ∧
          g.node0 = some n ∧ v g < q) := by
  dsimp only
  obtain ⟨-, hfm⟩ := getNodeWithMaxFreeSpace_of_ok hnodes htype h
  simp only [firstMax, Prod.mk.injEq] at hfm
  obtain ⟨hn, hpeak⟩ := hfm
  rw [← hpeak, if_pos hq] at hn
  have hle : ∀ g ∈ lvgs, (specFreeSpace m lvmType g).getD 0 ≤ q :=
    fun g hg => (le_peak_of_mem 0 hg).trans_eq hpeak.symm
  have hq' : 0 < peak (fun g => (specFreeSpace m lvmType g).getD 0) 0 lvgs := hpeak ▸ hq
  obtain ⟨g₀, hg₀, hv₀⟩ := exists_eq_peak hq'
  obtain ⟨gmax, hfind⟩ :
      ∃ gmax, lvgs.find? (fun g => (specFreeSpace m lvmType g).getD 0 = q) = some gmax :=
    Option.ne_none_iff_exists'.1 fun hnone =>
      List.find?_eq_none.1 hnone g₀ hg₀ (by simpa [hpeak] using hv₀)
  obtain ⟨n', hn'⟩ := Option.ne_none_iff_exists'.1
    (mt LVMVolumeGroup.node0_eq_none.1 (hnodes gmax (List.mem_of_find?_eq_some hfind)))
  obtain rfl : n = n' := by simpa [firstNodeAt, hfind, hn'] using hn
  obtain ⟨hvmax, pre, post, rfl, hpre⟩ := List.find?_eq_some.1 hfind
  have hlt : ∀ x ∈ pre, (specFreeSpace m lvmType x).getD 0 < q :=
    fun x hx => lt_of_le_of_ne (hle x (by simp [hx])) (by simpa using hpre x hx)
  have hsel := selectLVG_eq_find _ n hnodes
  simp only [List.find?_append, List.find?_cons, hn', decide_True] at hsel
  refine ⟨hle, pre, gmax, post, rfl, by simpa using hvmax, hlt, hn', fun hnone => ?_,
    fun ⟨x, hx, hxn⟩ => ?_⟩
  · rw [List.find?_eq_none.2 fun x hx => by simpa using hnone x hx] at hsel
    simpa using hsel
  · obtain ⟨g, hg⟩ : ∃ g, pre.find? (·.node0 = some n) = some g :=
      Option.ne_none_iff_exists'.1 fun hnone => List.find?_eq_none.1 hnone x hx (by simpa using hxn)
    rw [hg] at hsel
    exact ⟨g, List.mem_of_find?_eq_some hg, hg, by simpa using hsel, by simpa using List.find?_some hg,
      hlt g (List.mem_of_find?_eq_some hg)⟩

theorem selectLVG_first_on_node_two_groups :
    ∃ g, selectLVG [⟨"vg-small", ⟨"vg0"⟩, ⟨[⟨"node-1"⟩], 1, 0, 0, []⟩⟩,
        ⟨"vg-large", ⟨"vg1"⟩, ⟨[⟨"node-1"⟩], 5, 0, 0, []⟩⟩] "node-1" = some (.ok g) ∧
      g.status.vgFree < 5 := by
  obtain ⟨-, pre, gmax, post, hl, hv, -, -, -, hearly⟩ := selectLVG_first_on_node
    [⟨"vg-small", ⟨"vg0"⟩, ⟨[⟨"node-1"⟩], 1, 0, 0, []⟩⟩, ⟨"vg-large", ⟨"vg1"⟩, ⟨[⟨"node-1"⟩], 5, 0, 0, []⟩⟩]
    ∅ lvmTypeThick "node-1" 5 (by decide) (.inl rfl) (by decide) (by decide)
  match pre, hl with
  | [], hl =>
    simp only [List.nil_append, List.cons.injEq] at hl
    rw [← hl.1] at hv
    simp [specFreeSpace, lvmTypeThick, lvmTypeThin] at hv
  | [x], hl =>
    simp only [List.singleton_append, List.cons.injEq] at hl
    obtain ⟨g, hg, -, hs, -, -⟩ := hearly ⟨x, .head _, by rw [← hl.1]; rfl⟩
    obtain rfl : g = x := List.mem_singleton.1 hg
    exact ⟨g, hs, by simp [← hl.1]⟩
  | _ :: _ :: _, hl => simp at hl

/-- Two Thick groups on one node, with 1 and then 5 free: the search reports
the node with 5, and `selectLVG` returns the group with 1. -/
theorem selectLVG_smaller_group_on_max_node :
    getNodeWithMaxFreeSpace [⟨"vg-small", ⟨"vg0"⟩, ⟨[⟨"node-1"⟩], 1, 0, 0, []⟩⟩,
        ⟨"vg-large", ⟨"vg1"⟩, ⟨[⟨"node-1"⟩], 5, 0, 0, []⟩⟩] ∅ lvmTypeThick =
      some ("node-1", 5, none) ∧
    selectLVG [⟨"vg-small", ⟨"vg0"⟩, ⟨[⟨"node-1"⟩], 1, 0, 0, []⟩⟩,
        ⟨"vg-large", ⟨"vg1"⟩, ⟨[⟨"node-1"⟩], 5, 0, 0, []⟩⟩] "node-1" =
      some (.ok ⟨"vg-small", ⟨"vg0"⟩, ⟨[⟨"node-1"⟩], 1, 0, 0, []⟩⟩) :=
  ⟨by decide, rfl⟩

/-! ## The thin pool of the volume -/

/-- For every parsed parameter list `P` and every List reply `L` whose groups
all have a node: the groups `G` kept are those of `L` that have an entry in
the map `M`, in list order, so the Thin search over them never fails for a
missing entry; a group
that `selectLVG` returns gets a spec naming it and the pool of the last entry
of `P` for its name; and once the Thin search over `G` succeeded, the group
has a thin pool of that name. -/
theorem getLLVSpec_configured_pool (unmarshal : String → Except Err (List LVMVolumeGroupParam))
    (s : String) (P : List LVMVolumeGroupParam) (L : List LVMVolumeGroup) (hP : unmarshal s = .ok P)
    (hnodes : ∀ g ∈ L, g.status.nodes ≠ []) :
    ∃ G M, getStorageClassLVGsAndParameters unmarshal (.ok L) s = some (.ok (G, M)) ∧
      G = L.filter (fun g => (M.lookup g.name).isSome) ∧
      (∀ g ∈ G, g ∈ L ∧ (M.lookup g.name).isSome) ∧
      (∀ n q lvg params,
        getNodeWithMaxFreeSpace G M lvmTypeThin ≠ some (n, q, some (.thinPoolNameNotFound lvg params))) ∧
      ∀ n g, selectLVG G n = some (.ok g) →
        ∃ p, M.lookup g.name = some p ∧
          (P.reverse.find? (·.name = g.name)).map (·.thin.poolName) = some p ∧
          (∀ quantityString lvName llvSize contiguous,
            (getLLVSpec quantityString lvName g M lvmTypeThin llvSize contiguous).lvmVolumeGroupName =
              g.name ∧
            (getLLVSpec quantityString lvName g M lvmTypeThin llvSize contiguous).thin = some ⟨p⟩) ∧
          (∀ n' q, getNodeWithMaxFreeSpace G M lvmTypeThin = some (n', q, none) →
            ∃ tp ∈ g.status.thinPools, tp.name = p) := by
  have hG : ∀ g ∈ L.filter (fun g => ((parametersMap P).lookup g.name).isSome),
      g ∈ L ∧ ((parametersMap P).lookup g.name).isSome := fun g hg => by simpa using hg
  refine ⟨_, parametersMap P, by simp [getStorageClassLVGsAndParameters, hP,
    collectLVGs_of_nodes _ [] L hnodes], rfl, hG, fun n q lvg params he => ?_, fun n g hsel => ?_⟩
  · obtain ⟨g, hg, x, fs, hf⟩ := maxFreeLoop_error_mem he
    rcases switchFreeSpace_thin_error hf with ⟨hl, -⟩ | ⟨p, -, he'⟩
    · simpa [hl] using (hG g hg).2
    · cases he'
  · have hgG := (selectLVG_ok_mem hsel).1
    obtain ⟨p, hp⟩ := Option.isSome_iff_exists.1 (hG g hgG).2
    refine ⟨p, hp, parametersMap_lookup P g.name ▸ hp, fun _ _ _ _ => by simp [getLLVSpec, hp],
      fun n' q hok => ?_⟩
    obtain ⟨hall, -⟩ := getNodeWithMaxFreeSpace_of_ok (fun g hg => hnodes g (hG g hg).1) (.inr rfl) hok
    have hpool := mt specFreeSpace_eq_none.2 (hall g hgG)
    push_neg at hpool
    obtain ⟨p', hp', tp, htp, rfl⟩ := hpool
    rw [hp] at hp'
    cases hp'
    exact ⟨tp, htp, rfl⟩

theorem getLLVSpec_last_configured_pool :
    ∃ G M g, getStorageClassLVGsAndParameters
        (fun _ => .ok [⟨"vg-a", ⟨"pool-old"⟩⟩, ⟨"vg-a", ⟨"pool-new"⟩⟩])
        (.ok [⟨"vg-a", ⟨"vg"⟩, ⟨[⟨"node-1"⟩], 0, 0, 0, [⟨"pool-new", 10⟩]⟩⟩]) "" = some (.ok (G, M)) ∧
      selectLVG G "node-1" = some (.ok g) ∧ g.name = "vg-a" ∧
      (getLLVSpec toString "pvc-1" g M lvmTypeThin 1 false).thin = some ⟨"pool-new"⟩ := by
  obtain ⟨G, M, hGM, -, -, -, hsel⟩ := getLLVSpec_configured_pool
    (fun _ => .ok [⟨"vg-a", ⟨"pool-old"⟩⟩, ⟨"vg-a", ⟨"pool-new"⟩⟩]) ""
    [⟨"vg-a", ⟨"pool-old"⟩⟩, ⟨"vg-a", ⟨"pool-new"⟩⟩]
    [⟨"vg-a", ⟨"vg"⟩, ⟨[⟨"node-1"⟩], 0, 0, 0, [⟨"pool-new", 10⟩]⟩⟩] rfl (by decide)
  cases id hGM
  obtain ⟨p, -, hlast, hspec, -⟩ := hsel "node-1" _ rfl
  obtain rfl : p = "pool-new" := by simpa using hlast.symm
  exact ⟨_, _, _, hGM, rfl, rfl, (hspec toString "pvc-1" 1 false).2⟩

/-! ## The thin-pool search of `getLVMVolumeGroupParams`

For a Thin volume both copies search the thin pools of the group they are
about to return for one whose name is a value of `lvmVG`, any value, not the
one configured for that group (sds-local-volume-csi func.go:203-212,
sds-lvm-csi func.go:230-239), and return the group whether the search finds
one or not. The search changes nothing: the result does not depend on the
volume type (`paramsLoop_lvmType`), and it is the first group that `lvmVG`
names and that sits on the node (`paramsLoop_ok`), whatever its thin pools.
-/

section
variable {G : Type} {name : G → String} {node0 : G → Option String} {vgName : G → String}
  {thinPools : G → List String} {lvmVG : StringMap} {nodeName : String}

theorem paramsLoop_lvmType (lvmType lvmType' : String) (gs : List G) :
    paramsLoop name node0 vgName thinPools lvmVG nodeName lvmType gs =
      paramsLoop name node0 vgName thinPools lvmVG nodeName lvmType' gs := by
  induction gs with
  | nil => rfl
  | cons g gs ih => simp only [paramsLoop, ite_self, ih]

theorem paramsLoop_ok {lvmType lvgName vg : String} {gs : List G}
    (h : paramsLoop name node0 vgName thinPools lvmVG nodeName lvmType gs = some (.ok (lvgName, vg))) :
    ∃ pre g post, gs = pre ++ g :: post ∧
      (∀ x ∈ pre, lvmVG.lookup (name x) = none ∨ ∃ n, node0 x = some n ∧ n ≠ nodeName) ∧
      (lvmVG.lookup (name g)).isSome ∧ node0 g = some nodeName ∧ name g = lvgName ∧ vgName g = vg := by
  induction gs with
  | nil => cases h
  | cons g gs ih =>
    simp only [paramsLoop, ite_self] at h
    split at h
    · rename_i hl
      obtain ⟨pre, g', post, rfl, hpre, hg'⟩ := ih h
      exact ⟨g :: pre, g', post, rfl, List.forall_mem_cons.2 ⟨.inl hl, hpre⟩, hg'⟩
    · rename_i p hl
      split at h
      · cases h
      · rename_i n hn
        split_ifs at h with hnn
        · simp only [Option.some.injEq, Except.ok.injEq, Prod.mk.injEq] at h
          exact ⟨[], g, gs, rfl, by simp, by simp [hl], hnn ▸ hn, h.1, h.2⟩
        · obtain ⟨pre, g', post, rfl, hpre, hg'⟩ := ih h
          exact ⟨g :: pre, g', post, rfl, List.forall_mem_cons.2 ⟨.inr ⟨n, hn, hnn⟩, hpre⟩, hg'⟩


/-- What the loop answers when its search stopped at `g`, or found nothing:
the pair of `g`, or the panic of `Nodes[0]`, or "there are no matches". -/
def paramsAnswer {G : Type} (name : G → String) (node0 : G → Option String) (vgName : G → String) :
    Option G → Option (Except Err (String × String))
  | none => some (.error (.text "there are no matches"))
  | some g => (node0 g).map fun _ => .ok (name g, vgName g)

/-- The loop is a search: it stops at the first group that `lvmVG` names and
whose first node is `nodeName` or missing. -/
theorem paramsLoop_eq_find (lvmType : String) (gs : List G) :
    paramsLoop name node0 vgName thinPools lvmVG nodeName lvmType gs =
      paramsAnswer name node0 vgName
        (gs.find? fun g => (lvmVG.lookup (name g)).isSome && (node0 g).all (decide <| · = nodeName)) := by
  induction gs with
  | nil => rfl
  | cons g gs ih =>
    simp only [paramsLoop, ite_self, List.find?_cons]
    cases hl : lvmVG.lookup (name g) with
    | none => simpa using ih
    | some p =>
      cases hn : node0 g with
      | none => simp [paramsAnswer, hn]
      | some n =>
        by_cases h : n = nodeName
        · simp [paramsAnswer, h, hn]
        · simp [h, ih]
end

/-- Both copies give a Thin volume what they give any other: the first group
that the selector names and that sits on the node. So the group at the head
of the List, named by the selector with pool `p` and sitting on the node, is
returned for a Thin volume although it has no thin pool named `p`. -/
theorem getLVMVolumeGroupParams_thin_without_pool :
    (∀ (lvgList : Except Err (List LVMVolumeGroup)) (lvmVG : StringMap) (nodeName lvmType : String),
      getLVMVolumeGroupParams lvgList lvmVG nodeName llvTypeThin =
        getLVMVolumeGroupParams lvgList lvmVG nodeName lvmType) ∧
    (∀ (reply : Nat → Except Err (List LvmVolumeGroup)) (lvmVG : StringMap) (nodeName lvmType : String),
      SdsLvmCsi.getLVMVolumeGroupParams reply lvmVG nodeName llvTypeThin =
        SdsLvmCsi.getLVMVolumeGroupParams reply lvmVG nodeName lvmType) ∧
    (∀ (lvg : LVMVolumeGroup) (lvgs : List LVMVolumeGroup) (lvmVG : StringMap) (nodeName p : String),
      lvmVG.lookup lvg.name = some p → lvg.node0 = some nodeName →
      (∀ tp ∈ lvg.status.thinPools, tp.name ≠ p) →
      getLVMVolumeGroupParams (.ok (lvg :: lvgs)) lvmVG nodeName llvTypeThin =
        some (.ok (lvg.name, lvg.spec.actualVGNameOnTheNode))) ∧
    (∀ (lvg : LvmVolumeGroup) (lvgs : List LvmVolumeGroup)
        (reply : Nat → Except Err (List LvmVolumeGroup)) (lvmVG : StringMap) (nodeName p : String),
      (L2.Retry.listLvgs reply).2 = .ok (lvg :: lvgs) → lvmVG.lookup lvg.name = some p →
      lvg.node0 = some nodeName → (∀ tp ∈ lvg.thinPools, tp.name ≠ p) →
      SdsLvmCsi.getLVMVolumeGroupParams reply lvmVG nodeName llvTypeThin =
        some (.ok (lvg.name, lvg.actualVGNameOnTheNode))) := by
  refine ⟨fun lvgList lvmVG nodeName lvmType => ?_, fun reply lvmVG nodeName lvmType => ?_,
    fun lvg lvgs lvmVG nodeName p hl hn _ => ?_, fun lvg lvgs reply lvmVG nodeName p hlist hl hn _ => ?_⟩
  · cases lvgList <;> simp only [getLVMVolumeGroupParams, paramsLoop_lvmType llvTypeThin lvmType]
  · cases (L2.Retry.listLvgs reply).2 <;>
      simp only [SdsLvmCsi.getLVMVolumeGroupParams, paramsLoop_lvmType llvTypeThin lvmType]
  · simp only [getLVMVolumeGroupParams, paramsLoop, hl, hn, ite_self, if_true]
  · simp only [SdsLvmCsi.getLVMVolumeGroupParams, hlist, paramsLoop, hl, hn, ite_self, if_true]

/-- The selector configures `pool-1` for `vg-a`, which sits on node-1 and has
only `pool-2`: both copies return `vg-a` for a Thin volume. -/
theorem getLVMVolumeGroupParams_thin_pool_missing :
    getLVMVolumeGroupParams (.ok [⟨"vg-a", ⟨"vg"⟩, ⟨[⟨"node-1"⟩], 0, 0, 0, [⟨"pool-2", 5⟩]⟩⟩])
        ((∅ : StringMap).insert "vg-a" "pool-1") "node-1" llvTypeThin = some (.ok ("vg-a", "vg")) ∧
    SdsLvmCsi.getLVMVolumeGroupParams (fun _ => .ok [⟨"vg-a", "vg", [⟨"node-1"⟩], "10", "0", [⟨"pool-2"⟩]⟩])
        ((∅ : StringMap).insert "vg-a" "pool-1") "node-1" llvTypeThin = some (.ok ("vg-a", "vg")) :=
  ⟨getLVMVolumeGroupParams_thin_without_pool.2.2.1 _ [] _ _ "pool-1" rfl rfl (by decide),
    getLVMVolumeGroupParams_thin_without_pool.2.2.2 _ []
      (fun _ => .ok [⟨"vg-a", "vg", [⟨"node-1"⟩], "10", "0", [⟨"pool-2"⟩]⟩]) _ _ "pool-1" rfl rfl rfl
      (by decide)⟩

/-- Both copies of `getLVMVolumeGroupParams`, for every volume type, once the
List has answered with `lvgs`: they return the name and VG name of the first
group that `lvmVG` names and whose first node is `nodeName`, and "there are no
matches" when there is none; they panic instead when a group that `lvmVG`
names and that has no node comes first. -/
theorem getLVMVolumeGroupParams_first_match :
    (∀ (lvgs : List LVMVolumeGroup) (lvmVG : StringMap) (nodeName lvmType : String),
      getLVMVolumeGroupParams (.ok lvgs) lvmVG nodeName lvmType =
        paramsAnswer LVMVolumeGroup.name LVMVolumeGroup.node0 (·.spec.actualVGNameOnTheNode)
          (lvgs.find? fun g => (lvmVG.lookup g.name).isSome && g.node0.all (decide <| · = nodeName))) ∧
    (∀ (reply : Nat → Except Err (List LvmVolumeGroup)) (lvgs : List LvmVolumeGroup) (lvmVG : StringMap)
        (nodeName lvmType : String), (L2.Retry.listLvgs reply).2 = .ok lvgs →
      SdsLvmCsi.getLVMVolumeGroupParams reply lvmVG nodeName lvmType =
        paramsAnswer LvmVolumeGroup.name LvmVolumeGroup.node0 LvmVolumeGroup.actualVGNameOnTheNode
          (lvgs.find? fun g => (lvmVG.lookup g.name).isSome && g.node0.all (decide <| · = nodeName))) :=
  ⟨fun _ _ _ lvmType => paramsLoop_eq_find lvmType _, fun _ _ _ _ lvmType hlist => by
    simp only [SdsLvmCsi.getLVMVolumeGroupParams, hlist]
    exact paramsLoop_eq_find lvmType _⟩

theorem getLVMVolumeGroupParams_second_group_on_node :
    let lvgs : List LvmVolumeGroup :=
      [⟨"vg-a", "vg1", [⟨"node-2"⟩], "10", "0", []⟩, ⟨"vg-b", "vg2", [⟨"node-1"⟩], "10", "0", []⟩]
    (L2.Retry.listLvgs fun _ => .ok lvgs).2 = .ok lvgs ∧
      SdsLvmCsi.getLVMVolumeGroupParams (fun _ => .ok lvgs)
        (((∅ : StringMap).insert "vg-a" "").insert "vg-b" "") "node-1" lvmTypeThick =
        some (.ok ("vg-b", "vg2")) := by
  intro lvgs
  exact ⟨rfl, (getLVMVolumeGroupParams_first_match.2 (fun _ => .ok lvgs) lvgs _ _ _ rfl).trans rfl⟩

/-! ## Groups with no node yet -/

/-- Every function here reads `lvg.Status.Nodes[0]` unguarded, so a group
whose node list the reconciler has not filled yet makes it panic: `selectLVG`
when the group comes first; `getNodeWithMaxFreeSpace` when it comes first
with positive free space; `getStorageClassLVGsAndParameters` exactly when the
storage class names such a group; and both copies of
`getLVMVolumeGroupParams` when it comes first and `lvmVG` names it. -/
theorem nodes0_out_of_range :
    (∀ (lvg : LVMVolumeGroup) (storageClassLVGs : List LVMVolumeGroup) (nodeName : String),
      lvg.status.nodes = [] → selectLVG (lvg :: storageClassLVGs) nodeName = none) ∧
    (∀ (lvg : LVMVolumeGroup) (lvgs : List LVMVolumeGroup) (m : StringMap),
      lvg.status.nodes = [] → 0 < lvg.status.vgFree →
      getNodeWithMaxFreeSpace (lvg :: lvgs) m lvmTypeThick = none) ∧
    (∀ (unmarshal : String → Except Err (List LVMVolumeGroupParam)) (s : String)
        (P : List LVMVolumeGroupParam) (lvgs : List LVMVolumeGroup), unmarshal s = .ok P →
      (getStorageClassLVGsAndParameters unmarshal (.ok lvgs) s = none ↔
        ∃ lvg ∈ lvgs, lvg.status.nodes = [] ∧ lvg.name ∈ P.map (·.name))) ∧
    (∀ (lvg : LVMVolumeGroup) (lvgs : List LVMVolumeGroup) (lvmVG : StringMap)
        (nodeName lvmType : String),
      lvg.status.nodes = [] → (lvmVG.lookup lvg.name).isSome →
      getLVMVolumeGroupParams (.ok (lvg :: lvgs)) lvmVG nodeName lvmType = none) ∧
    (∀ (lvg : LvmVolumeGroup) (lvgs : List LvmVolumeGroup)
        (reply : Nat → Except Err (List LvmVolumeGroup)) (lvmVG : StringMap) (nodeName lvmType : String),
      (L2.Retry.listLvgs reply).2 = .ok (lvg :: lvgs) → lvg.nodes = [] →
      (lvmVG.lookup lvg.name).isSome →
      SdsLvmCsi.getLVMVolumeGroupParams reply lvmVG nodeName lvmType = none) := by
  refine ⟨fun lvg _ _ hN => ?_, fun lvg _ m hN hfree => ?_, fun _ s P lvgs hP => ?_,
    fun lvg _ lvmVG _ _ hN hl => ?_, fun lvg _ reply lvmVG _ _ hlist hN hl => ?_⟩
  · simp [selectLVG, LVMVolumeGroup.node0_eq_none.2 hN]
  · have hne : lvmTypeThick ≠ lvmTypeThin := by decide
    simp [getNodeWithMaxFreeSpace, maxFreeLoop, switchFreeSpace, hfree,
      LVMVolumeGroup.node0_eq_none.2 hN]
  · simp only [getStorageClassLVGsAndParameters, hP, Option.map_eq_none', collectLVGs_eq_none,
      parametersMap_lookup_isSome, and_comm]
  · obtain ⟨p, hp⟩ := Option.isSome_iff_exists.1 hl
    simp only [getLVMVolumeGroupParams, paramsLoop, hp, LVMVolumeGroup.node0_eq_none.2 hN]
  · obtain ⟨p, hp⟩ := Option.isSome_iff_exists.1 hl
    simp only [SdsLvmCsi.getLVMVolumeGroupParams, hlist, paramsLoop, hp, LvmVolumeGroup.node0_eq_none.2 hN]

theorem nodes0_new_group :
    selectLVG [⟨"vg-new", ⟨"vg"⟩, ⟨[], 5, 0, 0, []⟩⟩] "node-1" = none ∧
    getNodeWithMaxFreeSpace [⟨"vg-new", ⟨"vg"⟩, ⟨[], 5, 0, 0, []⟩⟩] ∅ lvmTypeThick = none ∧
    getStorageClassLVGsAndParameters (fun _ => .ok [⟨"vg-new", ⟨"pool"⟩⟩])
      (.ok [⟨"vg-new", ⟨"vg"⟩, ⟨[], 5, 0, 0, []⟩⟩]) "" = none ∧
    getLVMVolumeGroupParams (.ok [⟨"vg-new", ⟨"vg"⟩, ⟨[], 5, 0, 0, []⟩⟩])
      (parametersMap [⟨"vg-new", ⟨"pool"⟩⟩]) "node-1" lvmTypeThick = none ∧
    SdsLvmCsi.getLVMVolumeGroupParams (fun _ => .ok [⟨"vg-new", "vg", [], "10", "5", []⟩])
      (parametersMap [⟨"vg-new", ⟨"pool"⟩⟩]) "node-1" llvTypeThin = none :=
  ⟨nodes0_out_of_range.1 _ [] _ rfl, nodes0_out_of_range.2.1 _ [] ∅ rfl (by decide),
    (nodes0_out_of_range.2.2.1 (fun _ => .ok [⟨"vg-new", ⟨"pool"⟩⟩]) "" _ _ rfl).2
      ⟨_, .head _, rfl, .head _⟩,
    nodes0_out_of_range.2.2.2.1 _ [] _ _ _ rfl rfl,
    nodes0_out_of_range.2.2.2.2 _ [] (fun _ => .ok [⟨"vg-new", "vg", [], "10", "5", []⟩]) _ _ _ rfl rfl
      rfl⟩

end LocalLvm.L3.Placement
