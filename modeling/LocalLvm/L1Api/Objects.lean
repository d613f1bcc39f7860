import Mathlib.Data.List.AList

/-!
# The API objects and errors the two `utils` packages read and build

Both CSI drivers talk to the Kubernetes API server through a controller-runtime
client. The objects below keep exactly the fields that the modelled functions
of `images/sds-local-volume-csi/src/pkg/utils/func.go` and
`images/sds-lvm-csi/pkg/utils/func.go` read or write, under their Go names in
lowerCamelCase and nested as in the Go types (`lvg.status.nodes` is
`lvg.Status.Nodes`, `llv.spec.thin` is `llv.Spec.Thin`).

* A `resource.Quantity` is represented by its `Value()`, an `Int`.
* A `map[string]string` is an `AList`: a finite map whose `lookup` is the
  comma-ok read and whose `insert` is `m[k] = v`. The order of its entries is
  the (unspecified) iteration order of `range m`.
* `lvg.Status.Nodes[0]` is `node0`; its `none` is Go's runtime panic
  `index out of range [0] with length 0`.
* A Go `error` is `Err`. `fmt.Errorf("...: %w", ..., err)` is `Err.wrap` with
  the text before `: %w`; a `%+v` argument that cannot be printed here (a map,
  a whole object) is kept as data in its own constructor.
-/
namespace LocalLvm.L1

/-- A Go `map[string]string`. -/
abbrev StringMap := AList (fun _ : String => String)

/-- The `metav1.StatusReason` of an API error, as `kerrors.IsConflict`,
`kerrors.IsAlreadyExists` and `kerrors.IsNotFound` read it. -/
inductive StatusReason where
  | conflict
  | alreadyExists
  | notFound
  | other (reason : String)
  deriving DecidableEq, Repr

/-! ## sds-local-volume-csi objects (`snc`, sds-node-configurator API) -/

structure LVMVolumeGroupNode where
  name : String
  deriving DecidableEq, Repr, Inhabited

structure LVMVolumeGroupThinPoolStatus where
  name : String
  availableSpace : Int
  deriving DecidableEq, Repr, Inhabited

structure LVMVolumeGroupStatus where
  nodes : List LVMVolumeGroupNode
  vgFree : Int
  vgSize : Int
  allocatedSize : Int
  thinPools : List LVMVolumeGroupThinPoolStatus
  deriving DecidableEq, Repr, Inhabited

structure LVMVolumeGroupSpec where
  actualVGNameOnTheNode : String
  deriving DecidableEq, Repr, Inhabited

/-- Mirrors `snc.LVMVolumeGroup`; the derived `default` is Go's zero value. -/
structure LVMVolumeGroup where
  name : String
  spec : LVMVolumeGroupSpec
  status : LVMVolumeGroupStatus
  deriving DecidableEq, Repr, Inhabited

/-- Reads `lvg.Status.Nodes[0].Name`; `none` is the out-of-range panic. -/
def LVMVolumeGroup.node0 (lvg : LVMVolumeGroup) : Option String :=
  lvg.status.nodes.head?.map (·.name)

@[simp] theorem LVMVolumeGroup.node0_eq_none {lvg : LVMVolumeGroup} :
    lvg.node0 = none ↔ lvg.status.nodes = [] := by
  simp [LVMVolumeGroup.node0]

/-! ## sds-lvm-csi objects (`v1alpha1`) -/

structure LvmVolumeGroupThinPool where
  name : String
  deriving DecidableEq, Repr, Inhabited

/-- Mirrors `v1alpha1.LvmVolumeGroup`: the sizes are the status strings that
`resource.ParseQuantity` reads. -/
structure LvmVolumeGroup where
  name : String
  actualVGNameOnTheNode : String
  nodes : List LVMVolumeGroupNode
  vgSize : String
  allocatedSize : String
  thinPools : List LvmVolumeGroupThinPool
  deriving DecidableEq, Repr, Inhabited

/-- Reads `lvg.Status.Nodes[0].Name`; `none` is the out-of-range panic. -/
def LvmVolumeGroup.node0 (lvg : LvmVolumeGroup) : Option String :=
  lvg.nodes.head?.map (·.name)

@[simp] theorem LvmVolumeGroup.node0_eq_none {lvg : LvmVolumeGroup} :
    lvg.node0 = none ↔ lvg.nodes = [] := by
  simp [LvmVolumeGroup.node0]

/-! ## LVMLogicalVolume (the same shape in both drivers) -/

structure LVMLogicalVolumeThinSpec where
  poolName : String
  deriving DecidableEq, Repr, Inhabited

structure LVMLogicalVolumeThickSpec where
  contiguous : Option Bool
  deriving DecidableEq, Repr, Inhabited

structure LVMLogicalVolumeSpec where
  actualLVNameOnTheNode : String
  type : String
  size : String
  lvmVolumeGroupName : String
  thin : Option LVMLogicalVolumeThinSpec
  thick : Option LVMLogicalVolumeThickSpec
  deriving DecidableEq, Repr, Inhabited

structure LVMLogicalVolumeStatus where
  phase : String
  actualSize : Int
  reason : String
  deriving DecidableEq, Repr, Inhabited

/-- The `LVMLogicalVolume` resource. `resourceVersion` is the store's version token (the
etcd revision of the last write); `deletionTimestamp` is a time in seconds. -/
structure LVMLogicalVolume where
  name : String
  resourceVersion : Nat
  finalizers : List String
  deletionTimestamp : Option Nat
  spec : LVMLogicalVolumeSpec
  status : Option LVMLogicalVolumeStatus
  deriving DecidableEq, Repr, Inhabited

/-! ## Errors -/

/-- A Go `error` as the two packages build or pass on. -/
inductive Err where
  /-- An API server error, passed on as the client returned it. -/
  | status (reason : StatusReason)
  /-- The context's error, `ctx.Err()`. -/
  | ctx
  /-- Built by `errors.New(s)`, or `fmt.Errorf` with no `%w`. -/
  | text (s : String)
  /-- Built by `fmt.Errorf("<s>: %w", ..., inner)`. -/
  | wrap (s : String) (inner : Err)
  /-- Built by `fmt.Errorf("<s>: %w", ..., nil)`: the `%w` operand is nil, nothing is
  wrapped. -/
  | wrapNil (s : String)
  /-- At func.go:166, `"thin pool name for lvg %s not found in storage class
  parameters: %+v"`. -/
  | thinPoolNameNotFound (lvg : String) (params : StringMap)
  /-- At func.go:248, `"[GetLVMThinPoolFreeSpace] thin pool %s not found in lvg %+v"`. -/
  | thinPoolNotFound (pool : String) (lvg : LVMVolumeGroup)
  deriving DecidableEq

/-- Built by `fmt.Errorf("<s>: %w", ..., err)` for an `err` that may be nil. -/
def Err.errorf (s : String) : Option Err → Err
  | some e => .wrap s e
  | none => .wrapNil s

/-- Mirrors `kerrors.IsConflict`. -/
def isConflict : Err → Bool
  | .status .conflict => true
  | _ => false

/-- Mirrors `kerrors.IsAlreadyExists`. -/
def isAlreadyExists : Err → Bool
  | .status .alreadyExists => true
  | _ => false

/-! ## Constants -/

/-- The constant `LLVStatusCreated` of both drivers. -/
def llvStatusCreated : String := "Created"

/-- The constant `LLVStatusFailed` of both drivers. -/
def llvStatusFailed : String := "Failed"

theorem llvStatusFailed_ne_created : llvStatusFailed ≠ llvStatusCreated := by decide

/-- The constant `LLVTypeThin` of both drivers. -/
def llvTypeThin : String := "Thin"

/-- Modelled from the spec: `internal.LVMTypeThick` (the `internal` package is
not in the sources); the spec names the two volume types Thin and Thick. -/
def lvmTypeThick : String := "Thick"

/-- Modelled from the spec: `internal.LVMTypeThin`, as `lvmTypeThick`. -/
def lvmTypeThin : String := "Thin"

end LocalLvm.L1
