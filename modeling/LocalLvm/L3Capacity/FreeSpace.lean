import LocalLvm.L2Client.Retry

/-!
# The node with the most free space

Both drivers pick the node for a new volume by one running-maximum loop over
the volume groups:

    var maxFreeSpace int64
    for _, lvg := range lvgs {
        freeSpace = <free space of lvg>       // may fail
        if freeSpace.Value() > maxFreeSpace {
            nodeName = lvg.Status.Nodes[0].Name
            maxFreeSpace = freeSpace.Value()
        }
    }
    return nodeName, *resource.NewQuantity(maxFreeSpace, resource.BinarySI), nil

`maxFreeLoop` is that loop, with the free space of a group as a parameter:
in the local-volume driver (`getNodeWithMaxFreeSpace`) it is `VGFree` for
Thick volumes and the `AvailableSpace` of the storage class's thin pool for
Thin ones; in sds-lvm-csi (`getNodeMaxFreeVGSize`) it is `VGSize -
AllocatedSize`, parsed by `resource.ParseQuantity`.

Results:
* `maxFreeLoop_ok`: when no group's free space fails, the loop returns the
  largest value (at least the initial 0) and the node of the first group in
  list order that has it; the comparison is strict, so ties go to the
  earlier group and no node is chosen when no group has positive space
  (`firstMax` states this without the loop).
* `maxFreeLoop_error`: when some group's free space fails (and no earlier
  `Nodes[0]` panics), the loop returns an error.
* `getNodeWithMaxFreeSpace_first_max`: both drivers' searches, against that
  statement: which lists give an error, and what the others give.
* `getNodeWithMaxFreeSpace_other_type`: for a volume type that is neither
  Thick nor Thin the local-volume search answers no node and zero, without
  an error and without reading any node list.
-/
namespace LocalLvm.L3.FreeSpace
open LocalLvm.L1

/-- The loop's variables: the named results `nodeName` and `freeSpace`, and
`maxFreeSpace`. -/
structure MaxFree where
  nodeName : String
  freeSpace : Int
  maxFreeSpace : Int

/-- The running-maximum loop from state `s`. `free x lvg` is the free space of
`lvg` when the variable `freeSpace` holds `x`; its error carries the
`freeSpace` returned with it. The result is Go's `(nodeName, freeSpace.Value(),
err)`; `none` is the panic of `lvg.Status.Nodes[0]` on an empty node list. -/
def maxFreeLoop {G : Type} (free : Int → G → Except (Int × Err) Int) (node0 : G → Option String) :
    MaxFree → List G → Option (String × Int × Option Err)
  | s, [] => some (s.nodeName, s.maxFreeSpace, none)
  | s, lvg :: lvgs =>
    match free s.freeSpace lvg with
    | .error (freeSpace, err) => some ("", freeSpace, some err)
    | .ok freeSpace =>
      if freeSpace > s.maxFreeSpace then
        match node0 lvg with
        | none => none
        | some nodeName => maxFreeLoop free node0 ⟨nodeName, freeSpace, freeSpace⟩ lvgs
      else maxFreeLoop free node0 { s with freeSpace } lvgs

/-! ## The statement without the loop -/

/-- The largest of `a` and the values of `gs`. -/
def peak {G : Type} (val : G → Int) (a : Int) (gs : List G) : Int :=
  gs.foldl (fun m g => max m (val g)) a

/-- The node of the first group of `gs` whose value is `m`, `""` if none. -/
def firstNodeAt {G : Type} (val : G → Int) (node0 : G → Option String) (m : Int) (gs : List G) :
    String :=
  ((gs.find? fun g => val g = m).bind node0).getD ""

/-- What the spec asks of the search: the largest free space, at least 0, and
the node of the first group that has it, or `""` when it is 0. -/
def firstMax {G : Type} (val : G → Int) (node0 : G → Option String) (gs : List G) : String × Int :=
  let m := peak val 0 gs
  (if 0 < m then firstNodeAt val node0 m gs else "", m)

section
variable {G : Type} {val : G → Int} {node0 : G → Option String}

theorem le_peak (a : Int) (gs : List G) : a ≤ peak val a gs := by
  induction gs generalizing a with
  | nil => exact le_rfl
  | cons g gs ih => exact (le_max_left a (val g)).trans (ih _)

theorem le_peak_of_mem {g : G} {gs : List G} (a : Int) (hg : g ∈ gs) : val g ≤ peak val a gs := by
  induction gs generalizing a with
  | nil => cases hg
  | cons g' gs ih =>
    rcases List.mem_cons.1 hg with rfl | hg
    · exact (le_max_right a (val g)).trans (le_peak _ gs)
    · exact ih _ hg

@[simp] theorem peak_cons (a : Int) (g : G) (gs : List G) :
    peak val a (g :: gs) = peak val (max a (val g)) gs := rfl

theorem exists_eq_peak {a : Int} {gs : List G} (h : a < peak val a gs) :
    ∃ g ∈ gs, val g = peak val a gs := by
  induction gs generalizing a with
  | nil => exact absurd h (lt_irrefl a)
  | cons g gs ih =>
    by_cases hlt : max a (val g) < peak val (max a (val g)) gs
    · obtain ⟨g', hg', he⟩ := ih hlt
      exact ⟨g', .tail _ hg', he⟩
    · have heq : peak val (max a (val g)) gs = max a (val g) :=
        le_antisymm (not_lt.1 hlt) (le_peak _ gs)
      have hag : a < val g := by
        by_contra hc
        have h' := heq ▸ h
        rw [max_eq_left (not_lt.1 hc)] at h'
        exact lt_irrefl a h'
      exact ⟨g, .head _, by rw [peak_cons, heq, max_eq_right hag.le]⟩

theorem firstNodeAt_cons_of_ne {m : Int} {g : G} (gs : List G) (h : val g ≠ m) :
    firstNodeAt val node0 m (g :: gs) = firstNodeAt val node0 m gs := by
  simp [firstNodeAt, List.find?_cons, h]

theorem firstNodeAt_cons_of_eq {m : Int} {g : G} {n : String} (gs : List G) (h : val g = m)
    (hn : node0 g = some n) : firstNodeAt val node0 m (g :: gs) = n := by
  simp [firstNodeAt, List.find?_cons, h, hn]

end

/-! ## The loop -/

section
variable {G : Type} {free : Int → G → Except (Int × Err) Int} {node0 : G → Option String}

/-- When every group's free space is `val g`, whatever the variable held, and
no `Nodes[0]` panics, the loop ends with the peak and, if the peak grew, the
node of the first group that reached it. -/
theorem maxFreeLoop_ok (val : G → Int) (gs : List G) (hv : ∀ g ∈ gs, ∀ x, free x g = .ok (val g))
    (hn : ∀ g ∈ gs, node0 g ≠ none) (s : MaxFree) :
    maxFreeLoop free node0 s gs =
      some (if s.maxFreeSpace < peak val s.maxFreeSpace gs
        then firstNodeAt val node0 (peak val s.maxFreeSpace gs) gs else s.nodeName,
        peak val s.maxFreeSpace gs, none) := by
  induction gs generalizing s with
  | nil => simp [maxFreeLoop, peak]
  | cons g gs ih =>
    have hv' : ∀ g ∈ gs, ∀ x, free x g = .ok (val g) := fun g h => hv g (.tail _ h)
    have hn' : ∀ g ∈ gs, node0 g ≠ none := fun g h => hn g (.tail _ h)
    obtain ⟨n, hng⟩ := Option.ne_none_iff_exists'.1 (hn g (.head _))
    have hle := @le_peak G val (max s.maxFreeSpace (val g)) gs
    simp only [maxFreeLoop, hv g (.head _), peak_cons]
    by_cases hgt : s.maxFreeSpace < val g
    · simp only [if_pos hgt, hng, ih hv' hn', max_eq_right hgt.le]
      rw [max_eq_right hgt.le] at hle
      rcases hle.lt_or_eq with hlt | heq
      · simp [hlt, firstNodeAt_cons_of_ne gs hlt.ne, hgt.trans hlt]
      · simp [← heq, firstNodeAt_cons_of_eq gs rfl hng, hgt]
    · simp only [if_neg hgt, ih hv' hn', max_eq_left (not_lt.1 hgt)]
      split_ifs with hlt
      · rw [firstNodeAt_cons_of_ne gs (by omega)]
      · rfl

theorem maxFreeLoop_error (gs : List G) (hbad : ∃ g ∈ gs, ∀ x, ∃ p, free x g = .error p)
    (hn : ∀ g ∈ gs, node0 g ≠ none) (s : MaxFree) :
    ∃ n q e, maxFreeLoop free node0 s gs = some (n, q, some e) := by
  induction gs generalizing s with
  | nil => obtain ⟨_, ⟨⟩, _⟩ := hbad
  | cons g gs ih =>
    have hn' : ∀ g ∈ gs, node0 g ≠ none := fun g h => hn g (.tail _ h)
    obtain ⟨n, hng⟩ := Option.ne_none_iff_exists'.1 (hn g (.head _))
    cases hf : free s.freeSpace g with
    | error p => exact ⟨"", p.1, p.2, by simp [maxFreeLoop, hf]⟩
    | ok x =>
      have hbad' : ∃ g ∈ gs, ∀ x, ∃ p, free x g = .error p := by
        obtain ⟨g', hg', hb⟩ := hbad
        rcases List.mem_cons.1 hg' with rfl | hg'
        · obtain ⟨p, hp⟩ := hb s.freeSpace
          rw [hf] at hp; cases hp
        · exact ⟨g', hg', hb⟩
      simp only [maxFreeLoop, hf]
      split_ifs
      · rw [hng]
        exact ih hbad' hn' _
      · exact ih hbad' hn' _

theorem maxFreeLoop_error_mem {gs : List G} {s : MaxFree} {n : String} {q : Int} {e : Err}
    (h : maxFreeLoop free node0 s gs = some (n, q, some e)) : ∃ g ∈ gs, ∃ x fs, free x g = .error (fs, e) := by
  induction gs generalizing s with
  | nil => simp [maxFreeLoop] at h
  | cons g gs ih =>
    simp only [maxFreeLoop] at h
    split at h
    · rename_i fs e' hf
      simp only [Option.some.injEq, Prod.mk.injEq] at h
      exact ⟨g, .head _, _, fs, h.2.2 ▸ hf⟩
    · split_ifs at h
      · split at h
        · cases h
        · obtain ⟨g', hg', hf⟩ := ih h
          exact ⟨g', .tail _ hg', hf⟩
      · obtain ⟨g', hg', hf⟩ := ih h
        exact ⟨g', .tail _ hg', hf⟩

theorem maxFreeLoop_keep (hf : ∀ x g, free x g = .ok x) (gs : List G) {s : MaxFree}
    (hs : s.freeSpace ≤ s.maxFreeSpace) :
    maxFreeLoop free node0 s gs = some (s.nodeName, s.maxFreeSpace, none) := by
  induction gs with
  | nil => rfl
  | cons g gs ih => simp only [maxFreeLoop, hf, if_neg (not_lt.2 hs), ih]

end

/-! ## sds-local-volume-csi -/

/-- mirrors images/sds-local-volume-csi/src/pkg/utils/func.go:238-252; a
failed search returns the zero quantity with its error. -/
def getLVMThinPoolFreeSpace (lvg : LVMVolumeGroup) (thinPoolName : String) : Except (Int × Err) Int :=
  match lvg.status.thinPools.find? fun thinPool => thinPool.name = thinPoolName with
  | some storagePoolThinPool => .ok storagePoolThinPool.availableSpace
  | none => .error (0, .thinPoolNotFound thinPoolName lvg)

/-- mirrors images/sds-local-volume-csi/src/pkg/utils/func.go:232-236 -/
def getLVMVolumeGroupFreeSpace (lvg : LVMVolumeGroup) : Int :=
  lvg.status.vgSize - lvg.status.allocatedSize

/-- The `switch lvmType` of func.go:160-172 when `freeSpace` holds `x`: with
no matching case `freeSpace` keeps its value. -/
def switchFreeSpace (storageClassLVGParametersMap : StringMap) (lvmType : String) (x : Int)
    (lvg : LVMVolumeGroup) : Except (Int × Err) Int :=
  if lvmType = lvmTypeThick then .ok lvg.status.vgFree
  else if lvmType = lvmTypeThin then
    match storageClassLVGParametersMap.lookup lvg.name with
    | none => .error (x, .thinPoolNameNotFound lvg.name storageClassLVGParametersMap)
    | some thinPoolName =>
      match getLVMThinPoolFreeSpace lvg thinPoolName with
      | .ok freeSpace => .ok freeSpace
      | .error (freeSpace, err) =>
        .error (freeSpace, .wrap ("get free space for thin pool " ++ thinPoolName ++ " in lvg " ++
          lvg.name) err)
  else .ok x

/-- mirrors images/sds-local-volume-csi/src/pkg/utils/func.go:157-181 -/
def getNodeWithMaxFreeSpace (lvgs : List LVMVolumeGroup) (storageClassLVGParametersMap : StringMap)
    (lvmType : String) : Option (String × Int × Option Err) :=
  maxFreeLoop (switchFreeSpace storageClassLVGParametersMap lvmType) LVMVolumeGroup.node0 ⟨"", 0, 0⟩
    lvgs

/-- For a volume type other than Thick and Thin no case of the `switch` runs,
so `freeSpace` keeps the zero it was declared with: for every list of groups,
even one with a group that has no node, the search returns no node and zero,
with no error. -/
theorem getNodeWithMaxFreeSpace_other_type (lvgs : List LVMVolumeGroup) (m : StringMap) (lvmType : String)
    (hthick : lvmType ≠ lvmTypeThick) (hthin : lvmType ≠ lvmTypeThin) :
    getNodeWithMaxFreeSpace lvgs m lvmType = some ("", 0, none) :=
  maxFreeLoop_keep (fun x g => by simp [switchFreeSpace, hthick, hthin]) lvgs le_rfl

theorem getNodeWithMaxFreeSpace_untyped_nodeless :
    "" ≠ lvmTypeThick ∧ "" ≠ lvmTypeThin ∧
      getNodeWithMaxFreeSpace [⟨"vg-a", ⟨"vg"⟩, ⟨[], 5, 10, 0, []⟩⟩] ∅ "" = some ("", 0, none) :=
  ⟨by decide, by decide, getNodeWithMaxFreeSpace_other_type _ _ _ (by decide) (by decide)⟩

/-- The free space the spec gives a group: `VGFree` for Thick, and for Thin
the `AvailableSpace` of the first thin pool named as the storage class says;
`none` when the storage class names no pool for the group or the group has
no pool of that name. -/
def specFreeSpace (m : StringMap) (lvmType : String) (g : LVMVolumeGroup) : Option Int :=
  if lvmType = lvmTypeThin then
    (m.lookup g.name).bind fun p => (g.status.thinPools.find? (·.name = p)).map (·.availableSpace)
  else some g.status.vgFree

theorem switchFreeSpace_thin_error {m : StringMap} {x fs : Int} {g : LVMVolumeGroup} {e : Err}
    (h : switchFreeSpace m lvmTypeThin x g = .error (fs, e)) :
    (m.lookup g.name = none ∧ e = .thinPoolNameNotFound g.name m) ∨
      ∃ p, m.lookup g.name = some p ∧
        e = .wrap ("get free space for thin pool " ++ p ++ " in lvg " ++ g.name) (.thinPoolNotFound p g) := by
  have hne : lvmTypeThin ≠ lvmTypeThick := by decide
  simp only [switchFreeSpace, if_neg hne, if_true] at h
  cases hl : m.lookup g.name with
  | none =>
    simp only [hl, Except.error.injEq, Prod.mk.injEq] at h
    exact .inl ⟨rfl, h.2.symm⟩
  | some p =>
    refine .inr ⟨p, rfl, ?_⟩
    cases hp : g.status.thinPools.find? (·.name = p) <;>
      simp only [hl, getLVMThinPoolFreeSpace, hp, Except.error.injEq, Prod.mk.injEq] at h
    · exact h.2.symm
    · cases h

theorem specFreeSpace_eq_none {m : StringMap} {g : LVMVolumeGroup} :
    specFreeSpace m lvmTypeThin g = none ↔
      ∀ p, m.lookup g.name = some p → ∀ tp ∈ g.status.thinPools, tp.name ≠ p := by
  cases h : m.lookup g.name <;> simp [specFreeSpace, h]

section
variable {m : StringMap} {lvmType : String}

/-- The code's free space of a group, for a Thick or Thin volume, is the
spec's, and fails exactly where the spec has none. -/
theorem switchFreeSpace_spec (htype : lvmType = lvmTypeThick ∨ lvmType = lvmTypeThin)
    (g : LVMVolumeGroup) (x : Int) :
    (∀ v, specFreeSpace m lvmType g = some v → switchFreeSpace m lvmType x g = .ok v) ∧
    (specFreeSpace m lvmType g = none → ∃ p, switchFreeSpace m lvmType x g = .error p) := by
  rcases htype with rfl | rfl
  · simp [specFreeSpace, switchFreeSpace, lvmTypeThick, lvmTypeThin]
  · simp only [specFreeSpace, switchFreeSpace, if_true, lvmTypeThick, lvmTypeThin]
    cases h : m.lookup g.name with
    | none => simp
    | some p =>
      cases hp : g.status.thinPools.find? (·.name = p) <;>
        simp [getLVMThinPoolFreeSpace, hp]

end

/-- `getNodeWithMaxFreeSpace` for a Thick or Thin volume over groups that all
have a node: it fails exactly on a Thin volume with a group the storage class
gives no existing pool, and otherwise returns `firstMax` of the spec's free
space. -/
theorem getNodeWithMaxFreeSpace_spec (lvgs : List LVMVolumeGroup) (m : StringMap) (lvmType : String)
    (hnodes : ∀ g ∈ lvgs, g.status.nodes ≠ []) (htype : lvmType = lvmTypeThick ∨ lvmType = lvmTypeThin) :
    ((∃ n q e, getNodeWithMaxFreeSpace lvgs m lvmType = some (n, q, some e)) ↔
      lvmType = lvmTypeThin ∧ ∃ g ∈ lvgs,
        ∀ p, m.lookup g.name = some p → ∀ tp ∈ g.status.thinPools, tp.name ≠ p) ∧
    ((∀ g ∈ lvgs, specFreeSpace m lvmType g ≠ none) →
      getNodeWithMaxFreeSpace lvgs m lvmType =
        let r := firstMax (fun g => (specFreeSpace m lvmType g).getD 0) LVMVolumeGroup.node0 lvgs
        some (r.1, r.2, none)) := by
  have hn : ∀ g ∈ lvgs, g.node0 ≠ none := fun g hg => by simpa using hnodes g hg
  have hok : (∀ g ∈ lvgs, specFreeSpace m lvmType g ≠ none) →
      getNodeWithMaxFreeSpace lvgs m lvmType =
        let r := firstMax (fun g => (specFreeSpace m lvmType g).getD 0) LVMVolumeGroup.node0 lvgs
        some (r.1, r.2, none) := by
    intro hall
    refine (maxFreeLoop_ok (fun g => (specFreeSpace m lvmType g).getD 0) lvgs (fun g hg x => ?_) hn _).trans
      (by simp [firstMax])
    obtain ⟨v, hv⟩ := Option.ne_none_iff_exists'.1 (hall g hg)
    simpa [hv] using (switchFreeSpace_spec htype g x).1 v hv
  refine ⟨⟨fun ⟨n, q, e, he⟩ => ?_, fun ⟨hthin, g, hg, hbad⟩ => ?_⟩, hok⟩
  · by_contra hgood
    have hall : ∀ g ∈ lvgs, specFreeSpace m lvmType g ≠ none := by
      intro g hg hnone
      rcases htype with rfl | rfl
      · simp [specFreeSpace, lvmTypeThick, lvmTypeThin] at hnone
      · exact hgood ⟨rfl, g, hg, specFreeSpace_eq_none.1 hnone⟩
    rw [hok hall] at he
    simp at he
  · subst hthin
    exact maxFreeLoop_error lvgs
      ⟨g, hg, (switchFreeSpace_spec htype g · |>.2 (specFreeSpace_eq_none.2 hbad))⟩ hn _

theorem getNodeWithMaxFreeSpace_of_ok {lvgs : List LVMVolumeGroup} {m : StringMap} {lvmType n : String}
    {q : Int} (hnodes : ∀ g ∈ lvgs, g.status.nodes ≠ [])
    (htype : lvmType = lvmTypeThick ∨ lvmType = lvmTypeThin)
    (h : getNodeWithMaxFreeSpace lvgs m lvmType = some (n, q, none)) :
    (∀ g ∈ lvgs, specFreeSpace m lvmType g ≠ none) ∧
      (n, q) = firstMax (fun g => (specFreeSpace m lvmType g).getD 0) LVMVolumeGroup.node0 lvgs := by
  obtain ⟨herr, hok⟩ := getNodeWithMaxFreeSpace_spec lvgs m lvmType hnodes htype
  have hall : ∀ g ∈ lvgs, specFreeSpace m lvmType g ≠ none := by
    intro g hg hnone
    rcases htype with rfl | rfl
    · simp [specFreeSpace, lvmTypeThick, lvmTypeThin] at hnone
    · obtain ⟨_, _, _, he⟩ := herr.2 ⟨rfl, g, hg, specFreeSpace_eq_none.1 hnone⟩
      rw [h] at he; simp at he
  have := hok hall
  rw [h] at this
  exact ⟨hall, by simpa [Prod.ext_iff] using this⟩

/-! ## sds-lvm-csi -/

namespace SdsLvmCsi

section
variable (parseQuantity : String → Except Err Int)

/-- mirrors images/sds-lvm-csi/pkg/utils/func.go:267-281; the second error
names `vgSize` as the source does, with the allocated size's text. -/
def getLVMVolumeGroupFreeSpace (lvg : LvmVolumeGroup) : Except Err Int :=
  match parseQuantity lvg.vgSize with
  | .error err => .error (.wrap ("parse size vgSize (" ++ lvg.vgSize ++ ")") err)
  | .ok vgSize =>
    match parseQuantity lvg.allocatedSize with
    | .error err => .error (.wrap ("parse size vgSize (" ++ lvg.allocatedSize ++ ")") err)
    | .ok allocatedSize => .ok (vgSize - allocatedSize)

/-- The body of the loop of func.go:185-197: `freeSpace, err :=` declares
variables of the loop's own, so the error returns the zero quantity. -/
def lvgFreeSpace (_ : Int) (lvg : LvmVolumeGroup) : Except (Int × Err) Int :=
  match getLVMVolumeGroupFreeSpace parseQuantity lvg with
  | .ok freeSpace => .ok freeSpace
  | .error err => .error (0, .wrap ("get free space for lvg " ++ lvg.name) err)

/-- mirrors images/sds-lvm-csi/pkg/utils/func.go:162-198; the List calls are
answered by `reply`. -/
def getNodeMaxFreeVGSize (reply : Nat → Except Err (List LvmVolumeGroup)) :
    Option (String × Int × Option Err) :=
  match (L2.Retry.listLvgs reply).2 with
  | .error err => some ("", 0, some err)
  | .ok items => maxFreeLoop (lvgFreeSpace parseQuantity) LvmVolumeGroup.node0 ⟨"", 0, 0⟩ items

/-- The spec's free space of an sds-lvm-csi group, `VGSize - AllocatedSize`,
`none` when a size does not parse. -/
def specVGFree (g : LvmVolumeGroup) : Option Int :=
  match parseQuantity g.vgSize, parseQuantity g.allocatedSize with
  | .ok vgSize, .ok allocatedSize => some (vgSize - allocatedSize)
  | _, _ => none

theorem lvgFreeSpace_spec (g : LvmVolumeGroup) (x : Int) :
    (∀ v, specVGFree parseQuantity g = some v → lvgFreeSpace parseQuantity x g = .ok v) ∧
    (specVGFree parseQuantity g = none → ∃ p, lvgFreeSpace parseQuantity x g = .error p) := by
  simp only [specVGFree, lvgFreeSpace, getLVMVolumeGroupFreeSpace]
  cases parseQuantity g.vgSize <;> cases parseQuantity g.allocatedSize <;> simp

theorem specVGFree_eq_none (g : LvmVolumeGroup) :
    specVGFree parseQuantity g = none ↔
      (∃ e, parseQuantity g.vgSize = .error e) ∨ ∃ e, parseQuantity g.allocatedSize = .error e := by
  simp only [specVGFree]
  cases parseQuantity g.vgSize <;> cases parseQuantity g.allocatedSize <;> simp

/-- `getNodeMaxFreeVGSize` once the List has returned groups that all have a
node: it fails exactly when some group's sizes do not parse, and otherwise
returns `firstMax` of `VGSize - AllocatedSize`. -/
theorem getNodeMaxFreeVGSize_spec (reply : Nat → Except Err (List LvmVolumeGroup))
    (lvgs : List LvmVolumeGroup) (hlist : (L2.Retry.listLvgs reply).2 = .ok lvgs)
    (hnodes : ∀ g ∈ lvgs, g.nodes ≠ []) :
    ((∃ n q e, getNodeMaxFreeVGSize parseQuantity reply = some (n, q, some e)) ↔
      ∃ g ∈ lvgs, (∃ e, parseQuantity g.vgSize = .error e) ∨
        ∃ e, parseQuantity g.allocatedSize = .error e) ∧
    ((∀ g ∈ lvgs, specVGFree parseQuantity g ≠ none) →
      getNodeMaxFreeVGSize parseQuantity reply =
        let r := firstMax (fun g => (specVGFree parseQuantity g).getD 0) LvmVolumeGroup.node0 lvgs
        some (r.1, r.2, none)) := by
  have hn : ∀ g ∈ lvgs, g.node0 ≠ none := fun g hg => by simpa using hnodes g hg
  have hok : (∀ g ∈ lvgs, specVGFree parseQuantity g ≠ none) →
      getNodeMaxFreeVGSize parseQuantity reply =
        let r := firstMax (fun g => (specVGFree parseQuantity g).getD 0) LvmVolumeGroup.node0 lvgs
        some (r.1, r.2, none) := by
    intro hall
    simp only [getNodeMaxFreeVGSize, hlist]
    refine (maxFreeLoop_ok (fun g => (specVGFree parseQuantity g).getD 0) lvgs (fun g hg x => ?_) hn
      _).trans (by simp [firstMax])
    obtain ⟨v, hv⟩ := Option.ne_none_iff_exists'.1 (hall g hg)
    simpa [hv] using (lvgFreeSpace_spec parseQuantity g x).1 v hv
  refine ⟨⟨fun ⟨n, q, e, he⟩ => ?_, fun ⟨g, hg, hbad⟩ => ?_⟩, hok⟩
  · by_contra hgood
    rw [hok fun g hg hnone => hgood ⟨g, hg, (specVGFree_eq_none parseQuantity g).1 hnone⟩] at he
    simp at he
  · simp only [getNodeMaxFreeVGSize, hlist]
    exact maxFreeLoop_error lvgs
      ⟨g, hg, (lvgFreeSpace_spec parseQuantity g · |>.2 ((specVGFree_eq_none parseQuantity g).2 hbad))⟩
      hn _

end

end SdsLvmCsi

/-! ## Both drivers -/

/-- Both searches over groups that all have a node. The local-volume search,
for a Thick or Thin volume, fails exactly on a Thin volume with a group that
the storage class gives no pool or whose pools lack the configured one; the
sds-lvm-csi search, once its List succeeded, fails exactly when a group's
sizes do not parse. Otherwise each returns, as a `firstMax`, the largest free
space (at least 0) and the node of the first group in list order that has it,
`""` when no group has positive free space. -/
theorem getNodeWithMaxFreeSpace_first_max :
    (∀ (lvgs : List LVMVolumeGroup) (m : StringMap) (lvmType : String),
      (∀ g ∈ lvgs, g.status.nodes ≠ []) → (lvmType = lvmTypeThick ∨ lvmType = lvmTypeThin) →
      ((∃ n q e, getNodeWithMaxFreeSpace lvgs m lvmType = some (n, q, some e)) ↔
        lvmType = lvmTypeThin ∧ ∃ g ∈ lvgs,
          ∀ p, m.lookup g.name = some p → ∀ tp ∈ g.status.thinPools, tp.name ≠ p) ∧
      ((∀ g ∈ lvgs, specFreeSpace m lvmType g ≠ none) →
        getNodeWithMaxFreeSpace lvgs m lvmType =
          let r := firstMax (fun g => (specFreeSpace m lvmType g).getD 0) LVMVolumeGroup.node0 lvgs
          some (r.1, r.2, none))) ∧
    (∀ (parseQuantity : String → Except Err Int) (reply : Nat → Except Err (List LvmVolumeGroup))
        (lvgs : List LvmVolumeGroup),
      (L2.Retry.listLvgs reply).2 = .ok lvgs → (∀ g ∈ lvgs, g.nodes ≠ []) →
      ((∃ n q e, SdsLvmCsi.getNodeMaxFreeVGSize parseQuantity reply = some (n, q, some e)) ↔
        ∃ g ∈ lvgs, (∃ e, parseQuantity g.vgSize = .error e) ∨
          ∃ e, parseQuantity g.allocatedSize = .error e) ∧
      ((∀ g ∈ lvgs, SdsLvmCsi.specVGFree parseQuantity g ≠ none) →
        SdsLvmCsi.getNodeMaxFreeVGSize parseQuantity reply =
          let r := firstMax (fun g => (SdsLvmCsi.specVGFree parseQuantity g).getD 0)
            LvmVolumeGroup.node0 lvgs
          some (r.1, r.2, none))) :=
  ⟨getNodeWithMaxFreeSpace_spec, SdsLvmCsi.getNodeMaxFreeVGSize_spec⟩

theorem getNodeWithMaxFreeSpace_tie_first :
    getNodeWithMaxFreeSpace
      [⟨"vg-a", ⟨"vg"⟩, ⟨[⟨"node-a"⟩], 5, 0, 0, []⟩⟩, ⟨"vg-b", ⟨"vg"⟩, ⟨[⟨"node-b"⟩], 12, 0, 0, []⟩⟩,
        ⟨"vg-c", ⟨"vg"⟩, ⟨[⟨"node-c"⟩], 12, 0, 0, []⟩⟩] ∅ lvmTypeThick = some ("node-b", 12, none) ∧
    SdsLvmCsi.getNodeMaxFreeVGSize (fun s => if s = "10" then .ok 10 else .ok 4)
      (fun _ => .ok [⟨"vg-a", "vg", [⟨"node-a"⟩], "10", "4", []⟩]) = some ("node-a", 6, none) := by
  refine ⟨?_, ?_⟩
  · rw [(getNodeWithMaxFreeSpace_first_max.1 _ ∅ lvmTypeThick (by decide) (.inl rfl)).2 (by decide)]
    decide
  · have h := getNodeWithMaxFreeSpace_first_max.2 (fun s => if s = "10" then .ok 10 else .ok 4)
      (fun _ => .ok [⟨"vg-a", "vg", [⟨"node-a"⟩], "10", "4", []⟩])
      [⟨"vg-a", "vg", [⟨"node-a"⟩], "10", "4", []⟩] rfl (by decide)
    rw [h.2 (by decide)]
    decide

end LocalLvm.L3.FreeSpace
