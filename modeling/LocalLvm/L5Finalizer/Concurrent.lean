import LocalLvm.L5Finalizer.Release

/-!
# No lost update: the finalizer remover against concurrent writers

The remover never takes a lock: it relies on the API server's optimistic
concurrency. An Update is accepted only when its `resourceVersion` is the
stored one, and every accepted write gets a fresh version, larger than every
version handed out before (the etcd revision). Other writers (the external
reconciler, another deprovision, an operator's edit) may write, delete or
re-create any object at any time.

**Model.** `Sys` is the store together with what is left of one
`deleteLVMLogicalVolume` call tree. A step is either a concurrent write or
delete, or the API server answering the call the remover is blocked on,
atomically against the store (`Step`). Between two calls the remover touches
nothing shared, so interleaving at the granularity of calls loses no
behaviour. Gets, Updates and Deletes may also fail on their own, and an
accepted Update may still return an error (the reply was lost).

**Invariant.** `Snap st c`: the copy `c` was read from the store, and if its
version is still the stored one, it is the stored object. `Fresh f C p`:
every Update that `p` sends before its next Get carries `strip f c` for a copy
`c` with `C c`, and after a Get that returned `x` the same holds of `x`.
`fresh_deleteLVMLogicalVolume`: the code satisfies `Fresh` from the start;
`inv_step`: one step of the system preserves `Inv` (the store invariant and
`Fresh` with `C = Snap`); `reach_inv`: so does every run.

**Result.** `accepted_update_strips_stored`: in every reachable state, an
Update of the remover that the store would accept sends exactly the stored
object with the finalizer's first entry deleted and every other field as
stored, and the store then holds that object under a new version.
-/
namespace LocalLvm.L5.Concurrent
open LocalLvm.L1 LocalLvm.L5.Release

/-! ## The store -/

/-- The API server's objects by name, and the last version it handed out. -/
structure Store where
  objects : String → Option LVMLogicalVolume
  rev : Nat

/-- Every object is filed under its name and carries a version handed out already. -/
structure Store.Ok (st : Store) : Prop where
  name : ∀ n o, st.objects n = some o → o.name = n
  version : ∀ n o, st.objects n = some o → o.resourceVersion ≤ st.rev

/-- An accepted write of `o`: filed under its name with the next version. -/
def Store.put (st : Store) (o : LVMLogicalVolume) : Store where
  objects := Function.update st.objects o.name (some { o with resourceVersion := st.rev + 1 })
  rev := st.rev + 1

/-- A delete of the object named `n`. -/
def Store.remove (st : Store) (n : String) : Store :=
  { st with objects := Function.update st.objects n none }

/-- The reply to a Get of `n`. -/
def Store.get (st : Store) (n : String) : Except Err LVMLogicalVolume :=
  match st.objects n with
  | some o => .ok o
  | none => .error (.status .notFound)

/-- The reply to an Update of `u` that the store does not accept. -/
def Store.refusal (st : Store) (u : LVMLogicalVolume) : Err :=
  .status (if (st.objects u.name).isSome then .conflict else .notFound)

@[simp] theorem Store.put_rev (st : Store) (o : LVMLogicalVolume) : (st.put o).rev = st.rev + 1 := rfl

@[simp] theorem Store.put_self (st : Store) (o : LVMLogicalVolume) :
    (st.put o).objects o.name = some { o with resourceVersion := st.rev + 1 } := by
  simp [Store.put]

theorem Store.put_ne (st : Store) {o : LVMLogicalVolume} {n : String} (hn : n ≠ o.name) :
    (st.put o).objects n = st.objects n := by
  simp [Store.put, hn]

@[simp] theorem Store.remove_rev (st : Store) (n : String) : (st.remove n).rev = st.rev := rfl

@[simp] theorem Store.remove_self (st : Store) (n : String) : (st.remove n).objects n = none := by
  simp [Store.remove]

theorem Store.remove_ne (st : Store) {n m : String} (hm : m ≠ n) :
    (st.remove n).objects m = st.objects m := by
  simp [Store.remove, hm]

theorem Store.Ok.put {st : Store} (h : st.Ok) (o : LVMLogicalVolume) : (st.put o).Ok := by
  constructor <;> intro n x hx <;> by_cases hn : n = o.name
  · subst hn; simp at hx; rw [← hx]
  · rw [Store.put_ne st hn] at hx; exact h.name n x hx
  · subst hn; simp at hx; rw [← hx]; simp
  · rw [Store.put_ne st hn] at hx; have := h.version n x hx; simp; omega

theorem Store.Ok.remove {st : Store} (h : st.Ok) (n : String) : (st.remove n).Ok := by
  constructor <;> intro m x hx <;> by_cases hm : m = n
  · subst hm; simp at hx
  · rw [Store.remove_ne st hm] at hx; exact h.name m x hx
  · subst hm; simp at hx
  · rw [Store.remove_ne st hm] at hx; exact h.version m x hx

/-! ## Snapshots -/

/-- The copy `c` was read from the store, and no write has landed on it since
unless the stored version moved on. -/
def Snap (st : Store) (c : LVMLogicalVolume) : Prop :=
  c.resourceVersion ≤ st.rev ∧
    ∀ o, st.objects c.name = some o → o.resourceVersion = c.resourceVersion → o = c

theorem Snap.put {st : Store} {c : LVMLogicalVolume} (h : Snap st c) (o : LVMLogicalVolume) :
    Snap (st.put o) c := by
  refine ⟨by simp; exact Nat.le_succ_of_le h.1, fun x hx hv => ?_⟩
  by_cases hn : c.name = o.name
  · rw [hn, Store.put_self] at hx; cases hx; have := h.1; simp at hv; omega
  · rw [Store.put_ne st hn] at hx; exact h.2 x hx hv

theorem Snap.remove {st : Store} {c : LVMLogicalVolume} (h : Snap st c) (n : String) :
    Snap (st.remove n) c := by
  refine ⟨h.1, fun x hx hv => ?_⟩
  by_cases hn : c.name = n
  · rw [hn, Store.remove_self] at hx; cases hx
  · rw [Store.remove_ne st hn] at hx; exact h.2 x hx hv

/-- What a Get returns is a snapshot. -/
theorem Store.Ok.snap_get {st : Store} (h : st.Ok) {n : String} {x : LVMLogicalVolume}
    (hx : st.get n = .ok x) : Snap st x := by
  cases ho : st.objects n with
  | none => simp [Store.get, ho] at hx
  | some o =>
    simp only [Store.get, ho, Except.ok.injEq] at hx
    subst hx
    refine ⟨h.version n o ho, fun y hy _ => ?_⟩
    rw [h.name n o ho, ho] at hy; exact (Option.some.inj hy).symm

/-! ## Which copies the Updates carry -/

section
variable {α β : Type} (f : String)

/-- Every Update of `p` sent before its next Get carries `strip f c` for a copy
`c` with `C c`; after a Get that returned `x`, the same holds with `C = (· = x)`. -/
def Fresh : (C : LVMLogicalVolume → Prop) → Kube α → Prop
  | _, .pure _ => True
  | C, .get _ k => (∀ x, Fresh (· = x) (k (.ok x))) ∧ ∀ e, Fresh C (k (.error e))
  | C, .update u k => (∃ c, C c ∧ u = strip f c) ∧ ∀ r, Fresh C (k r)
  | C, .delete _ k => ∀ r, Fresh C (k r)
  | C, .ctxDone k => ∀ b, Fresh C (k b)

variable {f}

theorem Fresh.mono {C C' : LVMLogicalVolume → Prop} (hC : ∀ c, C c → C' c) {p : Kube α}
    (h : Fresh f C p) : Fresh f C' p := by
  induction p generalizing C C' with
  | pure => trivial
  | get _ _ ih => exact ⟨h.1, fun e => ih _ hC (h.2 e)⟩
  | update _ _ ih => exact ⟨h.1.imp fun c hc => ⟨hC c hc.1, hc.2⟩, fun r => ih r hC (h.2 r)⟩
  | delete _ _ ih => exact fun r => ih r hC (h r)
  | ctxDone _ ih => exact fun b => ih b hC (h b)

theorem Fresh.bind {C : LVMLogicalVolume → Prop} {p : Kube α} {g : α → Kube β} (h : Fresh f C p)
    (hg : ∀ C' a, Fresh f C' (g a)) : Fresh f C (p.bind g) := by
  induction p generalizing C with
  | pure a => exact hg C a
  | get _ _ ih => exact ⟨fun x => ih _ (h.1 x), fun e => ih _ (h.2 e)⟩
  | update _ _ ih => exact ⟨h.1, fun r => ih r (h.2 r)⟩
  | delete _ _ ih => exact fun r => ih r (h r)
  | ctxDone _ ih => exact fun b => ih b (h b)

end

/-- Every Update of the remover's loop carries the copy it was started on, or
a copy it fetched, minus the finalizer. -/
theorem fresh_removeLoop (f : String) (n : Nat) (c : LVMLogicalVolume) :
    Fresh f (· = c) (removeLoop f n c) := by
  induction n generalizing c with
  | zero => trivial
  | succ n ih =>
    by_cases hc : f ∈ c.finalizers
    · rw [removeLoop, removeAttempt_of_mem hc]
      refine ⟨⟨c, rfl, rfl⟩, ?_⟩
      rintro (e | y)
      · simp only [onUpdate]
        split
        · trivial
        · split
          · intro b
            cases b
            · exact ⟨fun x => ih x, fun _ => trivial⟩
            · trivial
          · cases n with
            | zero => trivial
            | succ n => exact absurd (attempt_lt_last n) ‹_›
      · trivial
    · rw [removeLoop, removeAttempt_of_not_mem hc]; trivial

theorem fresh_deleteLVMLogicalVolume (C : LVMLogicalVolume → Prop) (name : String) :
    Fresh sdsLocalVolumeCSIFinalizer C (deleteLVMLogicalVolume name) := by
  refine ⟨fun x => (fresh_removeLoop _ _ x).bind fun C' res => ?_, fun _ => trivial⟩
  cases res.err with
  | none => exact fun _ => trivial
  | some _ => trivial

/-! ## The system -/

/-- The store, and what is left of one `deleteLVMLogicalVolume`. -/
structure Sys where
  store : Store
  rel : Kube (Option Err)

/-- One step: a concurrent writer, or the API server (or the context)
answering the call the remover is blocked on. -/
inductive Step : Sys → Sys → Prop
  /-- Another writer stores `o`: a create, an update, a re-create. -/
  | write (s : Sys) (o : LVMLogicalVolume) : Step s ⟨s.store.put o, s.rel⟩
  /-- Another writer deletes the object named `n`. -/
  | erase (s : Sys) (n : String) : Step s ⟨s.store.remove n, s.rel⟩
  /-- The remover's Get. -/
  | get {s n k} : s.rel = .get n k → Step s ⟨s.store, k (s.store.get n)⟩
  /-- A Get that fails on its own (a timeout, throttling). -/
  | getFail {s n k} (e : Err) : s.rel = .get n k → Step s ⟨s.store, k (.error e)⟩
  /-- An Update carrying the stored version is accepted. -/
  | update {s u k o} : s.rel = .update u k → s.store.objects u.name = some o →
      o.resourceVersion = u.resourceVersion →
      Step s ⟨s.store.put u, k (.ok { u with resourceVersion := s.store.rev + 1 })⟩
  /-- An accepted Update whose reply is lost. -/
  | updateLost {s u k o} (e : Err) : s.rel = .update u k → s.store.objects u.name = some o →
      o.resourceVersion = u.resourceVersion → Step s ⟨s.store.put u, k (.error e)⟩
  /-- Any other Update is refused: a conflict, or NotFound. -/
  | updateRefused {s u k} : s.rel = .update u k →
      (∀ o, s.store.objects u.name = some o → o.resourceVersion ≠ u.resourceVersion) →
      Step s ⟨s.store, k (.error (s.store.refusal u))⟩
  /-- An Update that fails on its own, unapplied. -/
  | updateFail {s u k} (e : Err) : s.rel = .update u k → Step s ⟨s.store, k (.error e)⟩
  | delete {s u k} : s.rel = .delete u k → Step s ⟨s.store.remove u.name, k none⟩
  | deleteFail {s u k} (e : Err) : s.rel = .delete u k → Step s ⟨s.store, k (some e)⟩
  | ctxDone {s k} (b : Bool) : s.rel = .ctxDone k → Step s ⟨s.store, k b⟩

/-- The states reached from a well-formed store by `deleteLVMLogicalVolume name`
and any interleaving of other writers. -/
inductive Reach (name : String) : Sys → Prop
  | init {st : Store} : st.Ok → Reach name ⟨st, deleteLVMLogicalVolume name⟩
  | step {s s' : Sys} : Reach name s → Step s s' → Reach name s'

/-- The store is well formed, and every pending Update of the remover carries
a snapshot minus the finalizer. -/
structure Inv (s : Sys) : Prop where
  store : s.store.Ok
  fresh : Fresh sdsLocalVolumeCSIFinalizer (Snap s.store) s.rel

theorem inv_step {s s' : Sys} (hs : Inv s) (h : Step s s') : Inv s' := by
  obtain ⟨hst, hf⟩ := hs
  cases h with
  | write o => exact ⟨hst.put o, hf.mono fun c hc => hc.put o⟩
  | erase n => exact ⟨hst.remove n, hf.mono fun c hc => hc.remove n⟩
  | get hr =>
    rw [hr] at hf
    refine ⟨hst, ?_⟩
    cases hx : s.store.get _ with
    | ok x => exact (hf.1 x).mono fun c hc => by subst hc; exact hst.snap_get hx
    | error e => exact hf.2 e
  | getFail e hr => rw [hr] at hf; exact ⟨hst, hf.2 e⟩
  | update hr _ _ => rw [hr] at hf; exact ⟨hst.put _, (hf.2 _).mono fun c hc => hc.put _⟩
  | updateLost e hr _ _ => rw [hr] at hf; exact ⟨hst.put _, (hf.2 _).mono fun c hc => hc.put _⟩
  | updateRefused hr _ => rw [hr] at hf; exact ⟨hst, hf.2 _⟩
  | updateFail e hr => rw [hr] at hf; exact ⟨hst, hf.2 _⟩
  | delete hr => rw [hr] at hf; exact ⟨hst.remove _, (hf _).mono fun c hc => hc.remove _⟩
  | deleteFail e hr => rw [hr] at hf; exact ⟨hst, hf _⟩
  | ctxDone b hr => rw [hr] at hf; exact ⟨hst, hf b⟩

theorem reach_inv {name : String} {s : Sys} (h : Reach name s) : Inv s := by
  induction h with
  | init hst => exact ⟨hst, fresh_deleteLVMLogicalVolume _ name⟩
  | step _ hs ih => exact inv_step ih hs

theorem Inv.update_strips {s : Sys} (hi : Inv s) {u : LVMLogicalVolume}
    {k : Except Err LVMLogicalVolume → Kube (Option Err)} {o : LVMLogicalVolume}
    (hu : s.rel = .update u k) (ho : s.store.objects u.name = some o)
    (hv : o.resourceVersion = u.resourceVersion) : u = strip sdsLocalVolumeCSIFinalizer o := by
  have hf := hi.fresh
  rw [hu] at hf
  obtain ⟨⟨c, ⟨-, hc⟩, rfl⟩, -⟩ := hf
  rw [hc o ho hv]

/-- Over every interleaving with other writers, an Update of the remover that
the store accepts (its version is the stored one) sends the stored object with
the finalizer's first entry deleted and every other field as stored, and the
store then holds exactly that under a new version: the remover never writes
back stale data over another writer's change. -/
theorem accepted_update_strips_stored {name : String} {s : Sys} {u : LVMLogicalVolume}
    {k : Except Err LVMLogicalVolume → Kube (Option Err)} {o : LVMLogicalVolume}
    (h : Reach name s) (hu : s.rel = .update u k) (ho : s.store.objects u.name = some o)
    (hv : o.resourceVersion = u.resourceVersion) :
    u = strip sdsLocalVolumeCSIFinalizer o ∧
      (s.store.put u).objects o.name =
        some { strip sdsLocalVolumeCSIFinalizer o with resourceVersion := s.store.rev + 1 } := by
  obtain rfl := (reach_inv h).update_strips hu ho hv
  exact ⟨rfl, by rw [← strip_name sdsLocalVolumeCSIFinalizer o]; exact Store.put_self _ _⟩

/-- From a store holding the object with the finalizer, the Get of
`deleteLVMLogicalVolume` leads to an Update that the store would accept, and it
carries the stored object minus the finalizer. -/
theorem accepted_update_after_get :
    ∃ s u k o, Reach "pvc-1" s ∧ s.rel = .update u k ∧ s.store.objects u.name = some o ∧
      o.resourceVersion = u.resourceVersion ∧ u = strip sdsLocalVolumeCSIFinalizer o := by
  let llv : LVMLogicalVolume :=
    { name := "pvc-1", resourceVersion := 1, deletionTimestamp := none, spec := default,
      status := none, finalizers := [sdsLocalVolumeCSIFinalizer] }
  let st : Store := ⟨fun n => if n = "pvc-1" then some llv else none, 1⟩
  have hok : st.Ok := by
    constructor <;> intro n o h <;> by_cases hn : n = "pvc-1" <;> simp [st, hn] at h <;> subst h
    · exact hn.symm
    · exact le_refl _
  have hr : Reach "pvc-1" ⟨st, _⟩ := .step (.init hok) (.get rfl)
  exact ⟨_, _, _, llv, hr, rfl, rfl, rfl, (accepted_update_strips_stored hr rfl rfl rfl).1⟩

end LocalLvm.L5.Concurrent
