import LocalLvm.L1Api.Objects

/-!
# Waiting for the reconciler: `waitForStatusUpdate`

After creating an `LVMLogicalVolume`, the controller polls it until the
external reconciler has acted. Each attempt of the `for` loop checks the
context, sleeps, fetches the object and looks at its status. The loop has no
bound of its own; an attempt is modelled by what it observes (`Observation`:
the context, and what the Get returned), and the poller by its run over a
finite list of observations, `none` meaning that it is still waiting after
the last one.

`AreSizesEqualWithinDelta` compares `float64` conversions of the sizes; it is
a parameter here, so every result holds whatever that comparison answers.

The local-volume poller checks `DeletionTimestamp` only inside
`if llv.Status != nil`: an object that is being deleted but has no status yet
does not end the wait (`waitForStatusUpdate_skips_deleted_without_status`).
The sds-lvm-csi poller does not look at `DeletionTimestamp` at all.

Results:
* `waitLoop_sizeEquals`: the carried `sizeEquals` never decides anything; the
  size verdict is always the current observation's.
* `waitForStatusUpdate_first_terminal`: the poller returns exactly at the
  first terminal observation, with that attempt's number, and with a nil
  error exactly when that observation is a Created object within the
  tolerance that is not being deleted.
* `waitForStatusUpdate_pollers_agree`: on observations where no object is
  being deleted, the two drivers' pollers stop at the same attempt with the
  same verdict.
-/
namespace LocalLvm.L4.Wait
open LocalLvm.L1

/-- What one attempt sees: whether `ctx.Done()` is ready at its `select`, and
what `getLVMLogicalVolume` returned. -/
structure Observation where
  done : Bool
  got : Except Err LVMLogicalVolume

/-- The error of func.go:120. -/
def beingDeletedErr (name : String) : Err :=
  .text ("failed to create LVM logical volume on node for LVMLogicalVolume " ++ name ++
    ", reason: LVMLogicalVolume is being deleted")

/-- The error of func.go:124. -/
def failedErr (name reason : String) : Err :=
  .text ("failed to create LVM logical volume on node for LVMLogicalVolume " ++ name ++
    ", reason: " ++ reason)

section
variable (areSizesEqualWithinDelta : Int → Int → Int → Bool)

/-- The `for` loop from `attemptCounter`, with the `sizeEquals` carried over
from the previous attempt; `none`: still waiting after the observations.
mirrors images/sds-local-volume-csi/src/pkg/utils/func.go:96-136 -/
def waitLoop (name : String) (llvSize delta : Int) :
    Nat → Bool → List Observation → Option (Nat × Option Err)
  | _, _, [] => none
  | attemptCounter, sizeEquals, o :: obs =>
    let attemptCounter := attemptCounter + 1
    if o.done then some (attemptCounter, some .ctx) else
    match o.got with
    | .error err => some (attemptCounter, some err)
    | .ok llv =>
      match llv.status with
      | none => waitLoop name llvSize delta attemptCounter sizeEquals obs
      | some st =>
        let sizeEquals := areSizesEqualWithinDelta llvSize st.actualSize delta
        if llv.deletionTimestamp.isSome then some (attemptCounter, some (beingDeletedErr name))
        else if st.phase = llvStatusFailed then
          some (attemptCounter, some (failedErr name st.reason))
        else if st.phase = llvStatusCreated ∧ sizeEquals = true then some (attemptCounter, none)
        else waitLoop name llvSize delta attemptCounter sizeEquals obs

/-- mirrors images/sds-local-volume-csi/src/pkg/utils/func.go:92-137 -/
def waitForStatusUpdate (lvmLogicalVolumeName : String) (llvSize delta : Int)
    (obs : List Observation) : Option (Nat × Option Err) :=
  waitLoop areSizesEqualWithinDelta lvmLogicalVolumeName llvSize delta 0 false obs

/-- An observation at which the poller has to stop: a done context, a failed
Get, or an object with a status that is being deleted, Failed, or Created
within the tolerance. -/
def terminal (llvSize delta : Int) (o : Observation) : Bool :=
  o.done ||
    match o.got with
    | .error _ => true
    | .ok llv =>
      match llv.status with
      | none => false
      | some st =>
        llv.deletionTimestamp.isSome || st.phase == llvStatusFailed ||
          (st.phase == llvStatusCreated && areSizesEqualWithinDelta llvSize st.actualSize delta)

/-- An observation that is a success: a Created object within the tolerance,
not being deleted. -/
def accepted (llvSize delta : Int) (o : Observation) : Bool :=
  !o.done &&
    match o.got with
    | .error _ => false
    | .ok llv =>
      match llv.status with
      | none => false
      | some st =>
        llv.deletionTimestamp.isNone && st.phase == llvStatusCreated &&
          areSizesEqualWithinDelta llvSize st.actualSize delta

end

/-! ## One attempt -/

section
variable {A : Int → Int → Int → Bool} {name : String} {llvSize delta : Int}

/-- The carried `sizeEquals` is overwritten before it is read. -/
theorem waitLoop_sizeEquals (c : Nat) (s s' : Bool) (obs : List Observation) :
    waitLoop A name llvSize delta c s obs = waitLoop A name llvSize delta c s' obs := by
  induction obs generalizing c with
  | nil => rfl
  | cons o obs ih =>
    rcases o with ⟨_ | _, _ | llv⟩
    · rfl
    · cases h : llv.status <;> simp [waitLoop, h, ih]
    · rfl
    · rfl

theorem waitLoop_cons_of_not_terminal {c : Nat} {s : Bool} {o : Observation} {obs : List Observation}
    (h : terminal A llvSize delta o = false) :
    waitLoop A name llvSize delta c s (o :: obs) = waitLoop A name llvSize delta (c + 1) s obs := by
  rcases o with ⟨_ | _, _ | llv⟩ <;> simp [terminal] at h
  cases hs : llv.status with
  | none => simp [waitLoop, hs]
  | some st =>
    simp only [hs, Bool.or_eq_false_iff, beq_eq_false_iff_ne, Bool.and_eq_false_iff] at h
    obtain ⟨⟨hd, hf⟩, hc⟩ := h
    simp only [waitLoop, hs, hd, hf, if_false, Bool.false_eq_true]
    rw [if_neg (by rintro ⟨h1, h2⟩; rcases hc with hc | hc <;> simp_all), waitLoop_sizeEquals]

theorem waitLoop_cons_of_terminal {c : Nat} {s : Bool} {o : Observation} {obs : List Observation}
    (h : terminal A llvSize delta o = true) :
    ∃ err, waitLoop A name llvSize delta c s (o :: obs) = some (c + 1, err) ∧
      (err = none ↔ accepted A llvSize delta o = true) := by
  rcases o with ⟨_ | _, _ | llv⟩
  · simp [waitLoop, accepted]
  · cases hs : llv.status with
    | none => simp [terminal, hs] at h
    | some st =>
      simp only [terminal, hs, Bool.false_or, Bool.or_eq_true, beq_iff_eq, Bool.and_eq_true] at h
      by_cases hd : llv.deletionTimestamp.isSome = true
      · simp only [waitLoop, hs, accepted, hd, if_true]
        exact ⟨_, rfl, by simp; intro h0; simp [h0] at hd⟩
      · by_cases hf : st.phase = llvStatusFailed
        · simp [waitLoop, hs, accepted, hd, hf, llvStatusFailed_ne_created]
        · have hc : st.phase = llvStatusCreated ∧ A llvSize st.actualSize delta = true :=
            h.resolve_left (not_or.2 ⟨hd, hf⟩)
          have hn : llv.deletionTimestamp = none := by simpa using hd
          simp [waitLoop, hs, accepted, hn, hc, llvStatusFailed_ne_created.symm]
  · simp [waitLoop, accepted]
  · simp [waitLoop, accepted]

/-! ## The whole wait -/

theorem waitLoop_first_terminal (c : Nat) (s : Bool) (obs : List Observation) :
    (waitLoop A name llvSize delta c s obs = none ↔ ∀ q ∈ obs, terminal A llvSize delta q = false) ∧
    ∀ k err, waitLoop A name llvSize delta c s obs = some (k, err) →
      ∃ pre o post, obs = pre ++ o :: post ∧ k = c + pre.length + 1 ∧
        (∀ q ∈ pre, terminal A llvSize delta q = false) ∧ terminal A llvSize delta o = true ∧
        (err = none ↔ accepted A llvSize delta o = true) := by
  induction obs generalizing c with
  | nil => simp [waitLoop]
  | cons o obs ih =>
    cases ht : terminal A llvSize delta o with
    | false =>
      rw [waitLoop_cons_of_not_terminal ht]
      refine ⟨by simp [(ih (c + 1)).1, ht], fun k err he => ?_⟩
      obtain ⟨pre, q, post, rfl, rfl, hpre, hq⟩ := (ih (c + 1)).2 k err he
      exact ⟨o :: pre, q, post, rfl, by simp only [List.length_cons]; omega, List.forall_mem_cons.2 ⟨ht, hpre⟩, hq⟩
    | true =>
      obtain ⟨err, he, hacc⟩ := @waitLoop_cons_of_terminal A name llvSize delta c s o obs ht
      rw [he]
      refine ⟨by simp only [reduceCtorEq, false_iff, not_forall]; exact ⟨o, by simp, by simp [ht]⟩, ?_⟩
      rintro k err' ⟨⟩
      exact ⟨[], o, obs, rfl, rfl, by simp, ht, hacc⟩

theorem waitLoop_succ (c : Nat) (s : Bool) (obs : List Observation) :
    waitLoop A name llvSize delta (c + 1) s obs =
      (waitLoop A name llvSize delta c s obs).map fun r => (r.1 + 1, r.2) := by
  induction obs generalizing c s with
  | nil => rfl
  | cons o obs ih =>
    rcases o with ⟨_ | _, _ | llv⟩
    · rfl
    · cases hs : llv.status with
      | none => simp [waitLoop, hs, ih]
      | some st => simp [waitLoop, hs, apply_ite (Option.map _), ih]
    · rfl
    · rfl

end

/-- For every list of observations, `waitForStatusUpdate` returns at the first
terminal observation, with its attempt number, and with a nil error exactly
when that observation is a Created object within the tolerance that is not
being deleted; it keeps waiting while no observation is terminal. -/
theorem waitForStatusUpdate_first_terminal (A : Int → Int → Int → Bool) (name : String)
    (llvSize delta : Int) (obs : List Observation) :
    (waitForStatusUpdate A name llvSize delta obs = none ↔
      ∀ q ∈ obs, terminal A llvSize delta q = false) ∧
    ∀ k err, waitForStatusUpdate A name llvSize delta obs = some (k, err) →
      ∃ pre o post, obs = pre ++ o :: post ∧ k = pre.length + 1 ∧
        (∀ q ∈ pre, terminal A llvSize delta q = false) ∧ terminal A llvSize delta o = true ∧
        (err = none ↔ accepted A llvSize delta o = true) := by
  refine ⟨(waitLoop_first_terminal 0 false obs).1, fun k err he => ?_⟩
  obtain ⟨pre, o, post, h1, h2, h3⟩ := (waitLoop_first_terminal 0 false obs).2 k err he
  exact ⟨pre, o, post, h1, by omega, h3⟩

/-- An object that is being deleted but has no status yet does not end the
wait: the poller sleeps and polls again, and the rest of the observations
decide. -/
theorem waitForStatusUpdate_skips_deleted_without_status (A : Int → Int → Int → Bool)
    (name : String) (llvSize delta : Int) (llv : LVMLogicalVolume) (obs : List Observation)
    (hs : llv.status = none) :
    waitForStatusUpdate A name llvSize delta (⟨false, .ok llv⟩ :: obs) =
      (waitForStatusUpdate A name llvSize delta obs).map fun r => (r.1 + 1, r.2) := by
  simp [waitForStatusUpdate, waitLoop, hs, waitLoop_succ]

theorem waitForStatusUpdate_deleted_without_status_waits :
    let llv : LVMLogicalVolume :=
      { name := "pvc-1", resourceVersion := 2, deletionTimestamp := some 1, spec := default,
        status := none, finalizers := [] }
    llv.deletionTimestamp.isSome ∧
      waitForStatusUpdate (fun a b d => decide (a - b < d ∧ b - a < d)) "pvc-1" 10 1 [⟨false, .ok llv⟩] = none := by
  intro llv
  refine ⟨rfl, ?_⟩
  rw [waitForStatusUpdate_skips_deleted_without_status _ _ _ _ llv [] rfl]
  rfl

/-! ## The sds-lvm-csi poller -/

namespace SdsLvmCsi

section
variable (areSizesEqualWithinDelta : Int → Int → Int → Bool)

/-- The `for` loop of the sds-lvm-csi driver: no `DeletionTimestamp` check; the
observation's Get is its retrying `getLVMLogicalVolume`.
mirrors images/sds-lvm-csi/pkg/utils/func.go:105-134 -/
def waitLoop (name : String) (llvSize delta : Int) :
    Nat → Bool → List Observation → Option (Nat × Option Err)
  | _, _, [] => none
  | attemptCounter, sizeEquals, o :: obs =>
    let attemptCounter := attemptCounter + 1
    if o.done then some (attemptCounter, some .ctx) else
    match o.got with
    | .error err => some (attemptCounter, some err)
    | .ok llv =>
      match llv.status with
      | none => waitLoop name llvSize delta attemptCounter sizeEquals obs
      | some st =>
        let sizeEquals := areSizesEqualWithinDelta llvSize st.actualSize delta
        if st.phase = llvStatusFailed then
          some (attemptCounter, some (.text ("LVM Logical Volume " ++ name ++ " failed, reason: " ++
            st.reason)))
        else if st.phase = llvStatusCreated ∧ sizeEquals = true then some (attemptCounter, none)
        else waitLoop name llvSize delta attemptCounter sizeEquals obs

/-- mirrors images/sds-lvm-csi/pkg/utils/func.go:102-135 -/
def waitForStatusUpdate (name : String) (llvSize delta : Int) (obs : List Observation) :
    Option (Nat × Option Err) :=
  waitLoop areSizesEqualWithinDelta name llvSize delta 0 false obs

end

end SdsLvmCsi

/-! ## The two pollers side by side -/

theorem waitLoop_agree (A : Int → Int → Int → Bool) (name : String) (llvSize delta : Int)
    (obs : List Observation) (h : ∀ o ∈ obs, ∀ llv, o.got = .ok llv → llv.deletionTimestamp = none)
    (c : Nat) (s s' : Bool) :
    (waitLoop A name llvSize delta c s obs).map (fun r => (r.1, r.2.isNone)) =
      (SdsLvmCsi.waitLoop A name llvSize delta c s' obs).map (fun r => (r.1, r.2.isNone)) := by
  induction obs generalizing c s s' with
  | nil => rfl
  | cons o obs ih =>
    have ih' := ih fun q hq => h q (.tail _ hq)
    rcases o with ⟨_ | _, _ | llv⟩
    · rfl
    · cases hs : llv.status with
      | none => simpa [waitLoop, SdsLvmCsi.waitLoop, hs] using ih' (c + 1) s s'
      | some st =>
        have hd := h _ (.head _) llv rfl
        simp only [waitLoop, SdsLvmCsi.waitLoop, hs, hd, Option.isSome_none, Bool.false_eq_true,
          if_false]
        split_ifs
        · rfl
        · rfl
        · exact ih' _ _ _
    · rfl
    · rfl

/-- The two drivers' pollers agree on every sequence of observations in which
no observed object is being deleted: they stop at the same attempt, and both
succeed or both fail; only the text of the Failed error differs. -/
theorem waitForStatusUpdate_pollers_agree (A : Int → Int → Int → Bool) (name : String)
    (llvSize delta : Int) (obs : List Observation)
    (h : ∀ o ∈ obs, ∀ llv, o.got = .ok llv → llv.deletionTimestamp = none) :
    (waitForStatusUpdate A name llvSize delta obs).map (fun r => (r.1, r.2.isNone)) =
      (SdsLvmCsi.waitForStatusUpdate A name llvSize delta obs).map (fun r => (r.1, r.2.isNone)) :=
  waitLoop_agree A name llvSize delta obs h 0 false false

theorem waitForStatusUpdate_pollers_agree_created :
    let llv : LVMLogicalVolume :=
      { name := "pvc-1", resourceVersion := 2, deletionTimestamp := none, spec := default,
        status := none, finalizers := [] }
    let obs : List Observation :=
      [⟨false, .ok llv⟩, ⟨false, .ok { llv with status := some ⟨llvStatusCreated, 10, ""⟩ }⟩]
    let A := fun a b d : Int => decide (a - b < d ∧ b - a < d)
    (waitForStatusUpdate A "pvc-1" 10 1 obs).map (fun r => (r.1, r.2.isNone)) =
      (SdsLvmCsi.waitForStatusUpdate A "pvc-1" 10 1 obs).map (fun r => (r.1, r.2.isNone)) := by
  intro llv obs A
  exact waitForStatusUpdate_pollers_agree A "pvc-1" 10 1 obs fun o ho l hl => by
    simp only [obs, List.mem_cons, List.mem_nil_iff, or_false] at ho
    rcases ho with rfl | rfl <;> cases hl <;> rfl

end LocalLvm.L4.Wait
