import LocalLvm.L1Api.Objects

/-!
# The bounded retries of the sds-lvm-csi client wrappers

Every wrapper of `images/sds-lvm-csi/pkg/utils/func.go` around a store call
runs the same loop:

    for attempt := 0; attempt < KubernetesApiRequestLimit; attempt++ {
        err = kc.Call(...)
        if err == nil { return ... }      // or `break`
        time.Sleep(KubernetesApiRequestTimeout)
    }
    if err != nil { return fmt.Errorf("after %d attempts of ..., last error: %w", ...) }

`retryLoop` is that loop, with the calls answered by `reply` (call `i` gets
`reply i`) and a test for the errors that end it at once
(`createLVMLogicalVolume` stops on AlreadyExists); `retryLoop_spec` says what
it does for every sequence of replies. Each wrapper is `retryLoop` applied to
its own call, stop test and error text.

`deleteLVMLogicalVolume` writes `err := kc.Delete(ctx, llv)` inside the loop:
the `:=` declares a new `err`, and the `err` tested after the loop is the
outer one, never assigned. So when every Delete fails it still returns nil
(`deleteLVMLogicalVolume_all_fail`), where its sibling
`updateLVMLogicalVolume` returns the wrapped last error
(`updateLVMLogicalVolume_all_fail`).

The sleep of one nanosecond (`KubernetesApiRequestTimeout` is an untyped 1)
is not modelled.
-/
namespace LocalLvm.L2.Retry
open LocalLvm.L1

/-- The constant `KubernetesApiRequestLimit` of the sds-lvm-csi driver. -/
def kubernetesApiRequestLimit : Nat := 3

/-- How the loop ended. -/
inductive LoopEnd (β : Type) where
  /-- A call succeeded (`return` or `break`). -/
  | ok (b : β)
  /-- A call failed with an error the wrapper returns at once. -/
  | stop (e : Err)
  /-- The attempts ran out; `err` is the loop variable's last value. -/
  | exhausted (err : Option Err)

/-- The loop from `attempt`, with `left` attempts to go and `err` the loop
variable's value; returns the number of calls made and how the loop ended. -/
def retryLoop {β : Type} (stop : Err → Bool) (reply : Nat → Except Err β) (err : Option Err) :
    (left attempt : Nat) → Nat × LoopEnd β
  | 0, attempt => (attempt, .exhausted err)
  | left + 1, attempt =>
    match reply attempt with
    | .ok b => (attempt + 1, .ok b)
    | .error e =>
      if stop e then (attempt + 1, .stop e) else retryLoop stop reply (some e) left (attempt + 1)

section
variable {β : Type} {stop : Err → Bool} {reply : Nat → Except Err β}

/-- For every sequence of replies: the loop makes at most `left` calls, every
call but the last failed with an error it retries, and it ends on a success,
on a stopping error, or after `left` failed calls with the last error. -/
theorem retryLoop_spec (err : Option Err) (left attempt : Nat) :
    let r := retryLoop stop reply err left attempt
    attempt ≤ r.1 ∧ r.1 ≤ attempt + left ∧
    (∀ i, attempt ≤ i → i + 1 < r.1 → ∃ e, reply i = .error e ∧ stop e = false) ∧
    (∀ b, r.2 = .ok b → attempt < r.1 ∧ reply (r.1 - 1) = .ok b) ∧
    (∀ e, r.2 = .stop e → attempt < r.1 ∧ reply (r.1 - 1) = .error e ∧ stop e = true) ∧
    (∀ err', r.2 = .exhausted err' → r.1 = attempt + left ∧
      (left = 0 ∧ err' = err ∨ 0 < left ∧ ∃ e, reply (r.1 - 1) = .error e ∧ stop e = false ∧ err' = some e)) := by
  induction left generalizing err attempt with
  | zero =>
    simp only [retryLoop]
    refine ⟨le_rfl, by omega, fun _ _ _ => by omega, fun _ => nofun, fun _ => nofun, fun err' he => ?_⟩
    cases he
    exact ⟨by omega, .inl ⟨trivial, rfl⟩⟩
  | succ left ih =>
    cases hr : reply attempt with
    | ok b =>
      simp only [retryLoop, hr]
      refine ⟨by omega, by omega, fun _ _ _ => by omega, fun b' hb => ?_, fun _ => nofun,
        fun _ => nofun⟩
      cases hb
      exact ⟨by omega, hr⟩
    | error e =>
      cases hs : stop e
      · obtain ⟨h1, h2, h3, h4, h5, h6⟩ := ih (some e) (attempt + 1)
        simp only [retryLoop, hr, hs, if_false, Bool.false_eq_true]
        refine ⟨by omega, by omega, fun i hi hlt => ?_, fun b hb => ?_, fun e' he => ?_, fun err' he => ?_⟩
        · rcases Nat.eq_or_lt_of_le hi with rfl | hi
          · exact ⟨e, hr, hs⟩
          · exact h3 i hi hlt
        · exact ⟨by omega, (h4 b hb).2⟩
        · exact ⟨by omega, (h5 e' he).2⟩
        · obtain ⟨hc, ⟨rfl, rfl⟩ | ⟨_, he'⟩⟩ := h6 err' he
          · refine ⟨by omega, .inr ⟨by omega, e, ?_, hs, rfl⟩⟩
            rw [hc]; simpa using hr
          · exact ⟨by omega, .inr ⟨by omega, he'⟩⟩
      · simp only [retryLoop, hr, hs, if_true]
        refine ⟨by omega, by omega, fun _ _ _ => by omega, fun _ => nofun, fun e' he => ?_,
          fun _ => nofun⟩
        cases he
        exact ⟨by omega, hr, hs⟩

theorem retryLoop_all_fail (err : Option Err) (left attempt : Nat)
    (h : ∀ i, attempt ≤ i → i < attempt + left → ∃ e, reply i = .error e ∧ stop e = false) :
    ∃ e', retryLoop stop reply err left attempt = (attempt + left, .exhausted e') := by
  obtain ⟨h1, h2, -, h4, h5, h6⟩ := @retryLoop_spec β stop reply err left attempt
  generalize retryLoop stop reply err left attempt = r at *
  obtain ⟨calls, b | e | e'⟩ := r <;> dsimp only at h1 h2 h4 h5 h6 ⊢
  · obtain ⟨hc, hb⟩ := h4 b rfl
    obtain ⟨e, he, -⟩ := h (calls - 1) (by omega) (by omega)
    rw [he] at hb; cases hb
  · obtain ⟨hc, he, hs⟩ := h5 e rfl
    obtain ⟨e₁, he₁, hs₁⟩ := h (calls - 1) (by omega) (by omega)
    rw [he, Except.error.injEq] at he₁
    subst he₁; rw [hs₁] at hs; cases hs
  · exact ⟨e', by rw [(h6 e' rfl).1]⟩

end

/-! ## The wrappers -/

/-- The text of the error a wrapper returns once its attempts ran out. -/
def attemptsText (what : String) : String :=
  "after " ++ toString kubernetesApiRequestLimit ++ " attempts of " ++ what ++ ", last error"

/-- The check after the loop, `if err != nil { return ..., fmt.Errorf(...) }`,
falling through to `return fallback, nil`. -/
def checkErr {β : Type} (what : String) (fallback : β) : Option Err → Except Err β
  | some e => .error (.wrap (attemptsText what) e)
  | none => .ok fallback

/-- A wrapper: the loop, then `afterLoop` applied to the loop variable `err`
when the attempts ran out. A nil error is `.ok`. -/
def withRetry {β : Type} (stop : Err → Bool) (afterLoop : Option Err → Except Err β)
    (reply : Nat → Except Err β) : Nat × Except Err β :=
  match retryLoop stop reply none kubernetesApiRequestLimit 0 with
  | (calls, .ok b) => (calls, .ok b)
  | (calls, .stop e) => (calls, .error e)
  | (calls, .exhausted err) => (calls, afterLoop err)

/-- mirrors images/sds-lvm-csi/pkg/utils/func.go:43-74 -/
def createLVMLogicalVolume (name : String) (LVMLogicalVolumeSpec : LVMLogicalVolumeSpec)
    (reply : Nat → Except Err LVMLogicalVolume) : Nat × Except Err LVMLogicalVolume :=
  let llv : LVMLogicalVolume :=
    { name := name, resourceVersion := 0, finalizers := [], deletionTimestamp := none,
      spec := LVMLogicalVolumeSpec, status := none }
  withRetry isAlreadyExists (checkErr ("creating LVMLogicalVolume " ++ name) llv) reply

/-- mirrors images/sds-lvm-csi/pkg/utils/func.go:137-153; the error after the
loop is returned without testing `err`. -/
def getLVMLogicalVolume (lvmLogicalVolumeName «namespace» : String)
    (reply : Nat → Except Err LVMLogicalVolume) : Nat × Except Err LVMLogicalVolume :=
  withRetry (fun _ => false)
    (fun err => .error (Err.errorf (attemptsText
      ("getting LVMLogicalVolume " ++ lvmLogicalVolumeName ++ " in namespace " ++ «namespace»)) err))
    reply

/-- mirrors images/sds-lvm-csi/pkg/utils/func.go:249-265 -/
def getLVMVolumeGroup (lvgName «namespace» : String) (reply : Nat → Except Err LvmVolumeGroup) :
    Nat × Except Err LvmVolumeGroup :=
  withRetry (fun _ => false)
    (fun err => .error (Err.errorf (attemptsText
      ("getting LvmVolumeGroup " ++ lvgName ++ " in namespace " ++ «namespace»)) err))
    reply

/-- mirrors images/sds-lvm-csi/pkg/utils/func.go:283-297 -/
def updateLVMLogicalVolume (llv : LVMLogicalVolume) (reply : Nat → Except Err Unit) :
    Nat × Except Err Unit :=
  withRetry (fun _ => false) (checkErr ("updating LVMLogicalVolume " ++ llv.name) ()) reply

/-- The List loop of `getNodeMaxFreeVGSize` (func.go:172-182) and of
`getLVMVolumeGroupParams` (func.go:210-219): `break` on success; the list
starts with no items. -/
def listLvgs (reply : Nat → Except Err (List LvmVolumeGroup)) :
    Nat × Except Err (List LvmVolumeGroup) :=
  withRetry (fun _ => false) (checkErr "getting LvmVolumeGroups" []) reply

/-- mirrors images/sds-lvm-csi/pkg/utils/func.go:76-100. Inside the loop,
`err := kc.Delete(ctx, llv)` declares an `err` of its own; the `err` tested
after the loop is the one declared at the top, never assigned. -/
def deleteLVMLogicalVolume (lvmLogicalVolumeName : String) (reply : Nat → Except Err Unit) :
    Nat × Except Err Unit :=
  let err : Option Err := none
  match retryLoop (fun _ => false) reply none kubernetesApiRequestLimit 0 with
  | (calls, .ok ()) => (calls, .ok ())
  | (calls, _) => (calls, checkErr ("deleting LVMLogicalVolume " ++ lvmLogicalVolumeName) () err)

/-! ## What the wrappers return -/

section
variable {β : Type} {stop : Err → Bool} {afterLoop : Option Err → Except Err β}
  {reply : Nat → Except Err β}

/-- The retry contract, for every sequence of replies, of a wrapper whose
check after the loop wraps a non-nil error: it makes between one and
`kubernetesApiRequestLimit` calls; every call but the last failed with an
error it retries, so it stops early only on a success or a stopping error; it
succeeds exactly when its last call did, with that call's value; and a failed
last call gives that error, unwrapped when it stops the loop and wrapped
otherwise. -/
theorem withRetry_spec (wrap : Err → Err) (hafter : ∀ e, afterLoop (some e) = .error (wrap e)) :
    let r := withRetry stop afterLoop reply
    0 < r.1 ∧ r.1 ≤ kubernetesApiRequestLimit ∧
    (∀ i, i + 1 < r.1 → ∃ e, reply i = .error e ∧ stop e = false) ∧
    (r.1 < kubernetesApiRequestLimit →
      (∃ b, reply (r.1 - 1) = .ok b) ∨ ∃ e, reply (r.1 - 1) = .error e ∧ stop e = true) ∧
    (∀ b, r.2 = .ok b ↔ reply (r.1 - 1) = .ok b) ∧
    (∀ e, reply (r.1 - 1) = .error e → r.2 = .error (if stop e then e else wrap e)) := by
  obtain ⟨-, h2, h3, h4, h5, h6⟩ :=
    @retryLoop_spec β stop reply none kubernetesApiRequestLimit 0
  simp only [withRetry]
  generalize retryLoop stop reply none kubernetesApiRequestLimit 0 = r at *
  obtain ⟨calls, b | e | err⟩ := r <;> dsimp only at h2 h3 h4 h5 h6 ⊢
  · obtain ⟨hc, hb⟩ := h4 b rfl
    refine ⟨hc, by omega, fun i hi => h3 i (by omega) hi, fun _ => .inl ⟨b, hb⟩, fun b' => ?_, ?_⟩
    · simp [hb, eq_comm]
    · simp [hb]
  · obtain ⟨hc, he, hs⟩ := h5 e rfl
    refine ⟨hc, by omega, fun i hi => h3 i (by omega) hi, fun _ => .inr ⟨e, he, hs⟩, by simp [he], ?_⟩
    intro e' he'
    rw [he, Except.error.injEq] at he'
    simp [← he', hs]
  · obtain ⟨hc, ⟨h0, -⟩ | ⟨-, e, he, hs, rfl⟩⟩ := h6 err rfl
    · simp [kubernetesApiRequestLimit] at h0
    refine ⟨by simp [hc, kubernetesApiRequestLimit], by omega, fun i hi => h3 i (by omega) hi,
      by omega, by simp [hafter, he], ?_⟩
    intro e' he'
    rw [he, Except.error.injEq] at he'
    simp [hafter, ← he', hs]

end

/-- When every Delete fails, `deleteLVMLogicalVolume` still makes all its
attempts and then returns nil: the `err` it tests after the loop is not the
one the loop assigned. -/
theorem deleteLVMLogicalVolume_all_fail (lvmLogicalVolumeName : String)
    (reply : Nat → Except Err Unit)
    (h : ∀ i < kubernetesApiRequestLimit, ∃ e, reply i = .error e) :
    deleteLVMLogicalVolume lvmLogicalVolumeName reply = (kubernetesApiRequestLimit, .ok ()) := by
  obtain ⟨e', he'⟩ := @retryLoop_all_fail Unit (fun _ => false) reply none
    kubernetesApiRequestLimit 0 fun i _ hi => by
      obtain ⟨e, he⟩ := h i (by omega)
      exact ⟨e, he, rfl⟩
  simp [deleteLVMLogicalVolume, he', checkErr]

theorem deleteLVMLogicalVolume_unavailable :
    deleteLVMLogicalVolume "pvc-1" (fun _ => .error (.status (.other "ServiceUnavailable")))
      = (kubernetesApiRequestLimit, .ok ()) :=
  deleteLVMLogicalVolume_all_fail "pvc-1" _ fun _ _ => ⟨_, rfl⟩

/-- Its sibling `updateLVMLogicalVolume`, whose loop assigns the outer `err`,
returns the last error wrapped when every Update fails. -/
theorem updateLVMLogicalVolume_all_fail (llv : LVMLogicalVolume) (reply : Nat → Except Err Unit)
    (h : ∀ i < kubernetesApiRequestLimit, ∃ e, reply i = .error e) :
    ∃ e, reply (kubernetesApiRequestLimit - 1) = .error e ∧
      updateLVMLogicalVolume llv reply = (kubernetesApiRequestLimit,
        .error (.wrap (attemptsText ("updating LVMLogicalVolume " ++ llv.name)) e)) := by
  obtain ⟨h1, h2, -, h4, -, h6⟩ := @withRetry_spec Unit (fun _ => false)
    (checkErr ("updating LVMLogicalVolume " ++ llv.name) ()) reply
    (.wrap (attemptsText ("updating LVMLogicalVolume " ++ llv.name))) fun _ => rfl
  simp only [updateLVMLogicalVolume]
  generalize withRetry _ _ reply = r at *
  obtain ⟨calls, res⟩ := r
  dsimp only at h1 h2 h4 h6 ⊢
  obtain ⟨e, he⟩ := h (calls - 1) (by omega)
  have hc : calls = kubernetesApiRequestLimit := by
    by_contra hne
    rcases h4 (by omega) with ⟨b, hb⟩ | ⟨_, _, hs⟩
    · rw [he] at hb; cases hb
    · cases hs
  subst hc
  exact ⟨e, he, by simp [h6 e he]⟩

end LocalLvm.L2.Retry
