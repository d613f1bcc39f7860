import LocalLvm.L1Api.Kube

/-!
# Releasing the driver's finalizer before the delete

`deleteLVMLogicalVolume` of the local-volume driver reads the
`LVMLogicalVolume`, removes the driver's finalizer with
`removeLLVFinalizerIfExist`, and deletes the object. The remover is an
optimistic-concurrency retry loop of at most `kubernetesAPIRequestLimit`
attempts; each attempt works on the copy it holds (the one it was given, or
the latest re-fetch):

* no finalizer on the copy: `(false, nil)`, no call;
* otherwise an `Update` of the copy without its first finalizer entry:
  accepted gives `(true, nil)`; another error than a conflict gives an error;
* a conflict on the last attempt leaves the loop with the "after 3 attempts"
  error; on an earlier one, the context is checked (done: `ctx.Err()`) and the
  object is fetched again (failed: an error), and the next attempt works on the
  fresh copy.

`Attempts` says this attempt by attempt; `runs_removeLoop` shows that the
runs of the Go loop (`removeLoop`) are exactly the runs `Attempts` allows, for
every sequence of replies. The properties below are proved on `Attempts` by
induction over the attempts.

The scan over `llv.Finalizers` stops at the first match (`break`), so an
Update deletes one occurrence of the finalizer (`dropFinalizer_eq`: it is
`List.erase`), and a finalizer listed twice is still on the written object
(`delete_after_double_finalizer`).
-/
namespace LocalLvm.L5.Release
open LocalLvm.L1

/-- The constant `KubernetesAPIRequestLimit` of the local-volume driver. -/
def kubernetesAPIRequestLimit : Nat := 3

/-- The constant `SDSLocalVolumeCSIFinalizer`. -/
def sdsLocalVolumeCSIFinalizer : String := "storage.deckhouse.io/sds-local-volume-csi"

/-- The inner `range` loop: the first entry equal to `finalizer` is deleted
(`slices.Delete(llv.Finalizers, i, i+1)`, then `break`), and `removed` says
whether there was one.
mirrors images/sds-local-volume-csi/src/pkg/utils/func.go:337-344 -/
def dropFinalizer (finalizer : String) : List String → List String × Bool
  | [] => ([], false)
  | val :: rest =>
    if val = finalizer then (rest, true)
    else ((val :: (dropFinalizer finalizer rest).1), (dropFinalizer finalizer rest).2)

@[simp] theorem dropFinalizer_eq (finalizer : String) (fs : List String) :
    dropFinalizer finalizer fs = (fs.erase finalizer, decide (finalizer ∈ fs)) := by
  induction fs with
  | nil => rfl
  | cons val rest ih =>
    by_cases h : val = finalizer
    · subst h; simp [dropFinalizer]
    · simp [dropFinalizer, h, ih, List.erase_cons, Ne.symm h]

/-- What the caller sees afterwards: its `*llv`, and the returned `(bool, error)`. -/
structure Removal where
  llv : LVMLogicalVolume
  removed : Bool
  err : Option Err

/-- The copy `llv` with the first `finalizer` entry deleted: what an Update of
the remover sends. -/
def strip (finalizer : String) (llv : LVMLogicalVolume) : LVMLogicalVolume :=
  { llv with finalizers := llv.finalizers.erase finalizer }

@[simp] theorem strip_name (f : String) (c : LVMLogicalVolume) : (strip f c).name = c.name := rfl

@[simp] theorem strip_finalizers (f : String) (c : LVMLogicalVolume) :
    (strip f c).finalizers = c.finalizers.erase f := rfl

/-- The error of func.go:357, an Update refused for another reason than a conflict. -/
def updateErr (name : String) (err : Err) : Err :=
  .wrap ("[removeLLVFinalizerIfExist] error updating LVMLogicalVolume " ++ name) err

/-- The error of func.go:369, a failed re-fetch. -/
def refetchErr (name : String) (getErr : Err) : Err :=
  .wrap ("[removeLLVFinalizerIfExist] error getting LVMLogicalVolume " ++ name ++
    " after update conflict") getErr

/-- The error of func.go:377 after the last attempt; its `%w` operand is `nil`. -/
def exhaustedErr (finalizer name : String) : Err :=
  .wrapNil ("after " ++ toString kubernetesAPIRequestLimit ++ " attempts of removing finalizer " ++
    finalizer ++ " from LVMLogicalVolume " ++ name ++ ", last error")

/-- After a conflict on an attempt that is not the last: the `select` on
`ctx.Done()`, then the re-fetch; `next` is the following attempt, on the
fresh copy.
mirrors images/sds-local-volume-csi/src/pkg/utils/func.go:360-373 -/
def refetch (next : LVMLogicalVolume → Kube Removal) (llv : LVMLogicalVolume) : Kube Removal :=
  .ctxDone fun
    | true => .pure ⟨llv, false, some .ctx⟩
    | false => .get llv.name fun
      | .error getErr => .pure ⟨llv, false, some (refetchErr llv.name getErr)⟩
      | .ok freshLLV => next freshLLV

/-- What an attempt does with the reply to its Update of `llv`; `next` is the
rest of the loop.
mirrors images/sds-local-volume-csi/src/pkg/utils/func.go:351-374 -/
def onUpdate (attempt : Nat) (next : LVMLogicalVolume → Kube Removal) (llv : LVMLogicalVolume) :
    Except Err LVMLogicalVolume → Kube Removal
  | .ok stored => .pure ⟨stored, true, none⟩
  | .error err =>
    if !isConflict err then .pure ⟨llv, false, some (updateErr llv.name err)⟩
    else if attempt < kubernetesAPIRequestLimit - 1 then refetch next llv
    else next llv

/-- One pass of the `for attempt` loop on the held copy `llv`.
mirrors images/sds-local-volume-csi/src/pkg/utils/func.go:337-374 -/
def removeAttempt (finalizer : String) (attempt : Nat) (next : LVMLogicalVolume → Kube Removal)
    (llv : LVMLogicalVolume) : Kube Removal :=
  let r := dropFinalizer finalizer llv.finalizers
  if !r.2 then .pure ⟨llv, false, none⟩ else
  let llv := { llv with finalizers := r.1 }
  .update llv (onUpdate attempt next llv)

/-- The `for attempt` loop with `left` attempts to go (`attempt` is
`kubernetesAPIRequestLimit - left`), then the error after the loop.
mirrors images/sds-local-volume-csi/src/pkg/utils/func.go:336-377 -/
def removeLoop (finalizer : String) : Nat → LVMLogicalVolume → Kube Removal
  | 0, llv => .pure ⟨llv, false, some (exhaustedErr finalizer llv.name)⟩
  | left + 1, llv =>
    removeAttempt finalizer (kubernetesAPIRequestLimit - (left + 1)) (removeLoop finalizer left) llv

/-- mirrors images/sds-local-volume-csi/src/pkg/utils/func.go:335-378 -/
def removeLLVFinalizerIfExist (llv : LVMLogicalVolume) (finalizer : String) : Kube Removal :=
  removeLoop finalizer kubernetesAPIRequestLimit llv

/-- Get, release the finalizer, Delete (the `Delete` uses the `*llv` the
remover left).
mirrors images/sds-local-volume-csi/src/pkg/utils/func.go:65-90 -/
def deleteLVMLogicalVolume (lvmLogicalVolumeName : String) : Kube (Option Err) :=
  .get lvmLogicalVolumeName fun
    | .error err => .pure (some (.wrap ("get LVMLogicalVolume " ++ lvmLogicalVolumeName) err))
    | .ok llv => (removeLLVFinalizerIfExist llv sdsLocalVolumeCSIFinalizer).bind fun res =>
      match res.err with
      | some err =>
        .pure (some (.wrap ("remove finalizers from LVMLogicalVolume " ++ lvmLogicalVolumeName) err))
      | none => .delete res.llv .pure

/-! ## Runs of the pieces -/

theorem runs_refetch {next : LVMLogicalVolume → Kube Removal} {c : LVMLogicalVolume} {cs : List Call}
    {r : Removal} :
    (refetch next c).Runs cs r ↔
      (cs = [.ctxDone true] ∧ r = ⟨c, false, some .ctx⟩) ∨
      (∃ ge, cs = [.ctxDone false, .get c.name (.error ge)] ∧
        r = ⟨c, false, some (refetchErr c.name ge)⟩) ∨
      (∃ x cs', cs = .ctxDone false :: .get c.name (.ok x) :: cs' ∧ (next x).Runs cs' r) := by
  constructor
  · intro h
    obtain ⟨_ | _, cs', rfl, h₁⟩ := Kube.runs_ctxDone.1 h
    · obtain ⟨_ | x, cs'', rfl, h₂⟩ := Kube.runs_get.1 h₁
      · obtain ⟨rfl, rfl⟩ := Kube.runs_pure.1 h₂; exact .inr (.inl ⟨_, rfl, rfl⟩)
      · exact .inr (.inr ⟨x, cs'', rfl, h₂⟩)
    · obtain ⟨rfl, rfl⟩ := Kube.runs_pure.1 h₁; exact .inl ⟨rfl, rfl⟩
  · rintro (⟨rfl, rfl⟩ | ⟨ge, rfl, rfl⟩ | ⟨x, cs', rfl, h⟩)
    · exact .ctxDone true (.pure _)
    · exact .ctxDone false (.get (.error ge) (.pure _))
    · exact .ctxDone false (.get (.ok x) h)

theorem removeAttempt_of_not_mem {f : String} {a : Nat} {next : LVMLogicalVolume → Kube Removal}
    {c : LVMLogicalVolume} (hc : f ∉ c.finalizers) : removeAttempt f a next c = .pure ⟨c, false, none⟩ := by
  simp [removeAttempt, hc]

theorem removeAttempt_of_mem {f : String} {a : Nat} {next : LVMLogicalVolume → Kube Removal}
    {c : LVMLogicalVolume} (hc : f ∈ c.finalizers) :
    removeAttempt f a next c = .update (strip f c) (onUpdate a next (strip f c)) := by
  simp [removeAttempt, hc, strip]

theorem runs_onUpdate {a : Nat} {next : LVMLogicalVolume → Kube Removal} {u : LVMLogicalVolume}
    {rep : Except Err LVMLogicalVolume} {cs : List Call} {r : Removal} :
    (onUpdate a next u rep).Runs cs r ↔
      (∃ y, rep = .ok y ∧ cs = [] ∧ r = ⟨y, true, none⟩) ∨
      (∃ e, rep = .error e ∧ isConflict e = false ∧ cs = [] ∧
        r = ⟨u, false, some (updateErr u.name e)⟩) ∨
      (∃ e, rep = .error e ∧ isConflict e = true ∧
        (if a < kubernetesAPIRequestLimit - 1 then refetch next u else next u).Runs cs r) := by
  cases rep with
  | ok y => simp [onUpdate]
  | error e => cases he : isConflict e <;> simp [onUpdate, he]

/-! ## The remover attempt by attempt -/

section
variable (f : String)

/-- The runs of the remover with `n` attempts left on the held copy `c`, one
constructor per way an attempt ends. -/
inductive Attempts : Nat → LVMLogicalVolume → List Call → Removal → Prop
  /-- The copy carries no finalizer: `(false, nil)` without a call. -/
  | absent {n c} : f ∉ c.finalizers → Attempts (n + 1) c [] ⟨c, false, none⟩
  /-- The Update is accepted: `(true, nil)`. -/
  | updated {n c y} : f ∈ c.finalizers →
      Attempts (n + 1) c [.update (strip f c) (.ok y)] ⟨y, true, none⟩
  /-- The Update is refused, not by a conflict. -/
  | failed {n c e} : f ∈ c.finalizers → isConflict e = false →
      Attempts (n + 1) c [.update (strip f c) (.error e)]
        ⟨strip f c, false, some (updateErr c.name e)⟩
  /-- A conflict on the last attempt. -/
  | exhausted {c e} : f ∈ c.finalizers → isConflict e = true →
      Attempts 1 c [.update (strip f c) (.error e)]
        ⟨strip f c, false, some (exhaustedErr f c.name)⟩
  /-- A conflict, then a done context. -/
  | canceled {n c e} : f ∈ c.finalizers → isConflict e = true →
      Attempts (n + 2) c [.update (strip f c) (.error e), .ctxDone true] ⟨strip f c, false, some .ctx⟩
  /-- A conflict, then a failed re-fetch. -/
  | refetchFailed {n c e ge} : f ∈ c.finalizers → isConflict e = true →
      Attempts (n + 2) c [.update (strip f c) (.error e), .ctxDone false, .get c.name (.error ge)]
        ⟨strip f c, false, some (refetchErr c.name ge)⟩
  /-- A conflict, then a re-fetch of `x`, and the next attempt works on `x`. -/
  | retried {n c e x cs r} : f ∈ c.finalizers → isConflict e = true → Attempts (n + 1) x cs r →
      Attempts (n + 2) c (.update (strip f c) (.error e) :: .ctxDone false :: .get c.name (.ok x) :: cs) r

end

theorem attempt_lt_last (n : Nat) : kubernetesAPIRequestLimit - (n + 2) < kubernetesAPIRequestLimit - 1 := by
  simp only [kubernetesAPIRequestLimit]; omega

theorem not_attempt_lt_last : ¬kubernetesAPIRequestLimit - (0 + 1) < kubernetesAPIRequestLimit - 1 := by
  decide

/-- After its Update, an attempt either returns (the accepted object, or the
copy it sent) or, on a conflict before the last attempt, checks the context
and fetches again. -/
theorem onUpdate_pure_or_refetch (f : String) (n : Nat) (u : LVMLogicalVolume)
    (rep : Except Err LVMLogicalVolume) :
    (∃ r, onUpdate (kubernetesAPIRequestLimit - (n + 1)) (removeLoop f n) u rep = .pure r ∧
        (rep = .ok r.llv ∨ r.llv = u)) ∨
      onUpdate (kubernetesAPIRequestLimit - (n + 1)) (removeLoop f n) u rep = refetch (removeLoop f n) u := by
  rcases rep with e | y
  · cases he : isConflict e
    · exact .inl ⟨⟨u, false, some (updateErr u.name e)⟩, by simp [onUpdate, he], .inr rfl⟩
    · cases n with
      | zero =>
        exact .inl ⟨⟨u, false, some (exhaustedErr f u.name)⟩,
          by simp [onUpdate, he, removeLoop, not_attempt_lt_last], .inr rfl⟩
      | succ n => exact .inr (by simp [onUpdate, he, attempt_lt_last])
  · exact .inl ⟨_, rfl, .inl rfl⟩

theorem Attempts.runs {f : String} {n : Nat} {c : LVMLogicalVolume} {cs : List Call} {r : Removal}
    (h : Attempts f n c cs r) : (removeLoop f n c).Runs cs r := by
  induction h with
  | absent hc => rw [removeLoop, removeAttempt_of_not_mem hc]; exact .pure _
  | updated hc => rw [removeLoop, removeAttempt_of_mem hc]; exact .update _ (.pure _)
  | failed hc he =>
    rw [removeLoop, removeAttempt_of_mem hc]
    exact .update _ (runs_onUpdate.2 (.inr (.inl ⟨_, rfl, he, rfl, rfl⟩)))
  | exhausted hc he =>
    rw [removeLoop, removeAttempt_of_mem hc]
    exact .update _ (runs_onUpdate.2 (.inr (.inr ⟨_, rfl, he, by
      rw [if_neg not_attempt_lt_last]; exact .pure _⟩)))
  | canceled hc he =>
    rw [removeLoop, removeAttempt_of_mem hc]
    exact .update _ (runs_onUpdate.2 (.inr (.inr ⟨_, rfl, he, by
      rw [if_pos (attempt_lt_last _)]; exact runs_refetch.2 (.inl ⟨rfl, rfl⟩)⟩)))
  | refetchFailed hc he =>
    rw [removeLoop, removeAttempt_of_mem hc]
    exact .update _ (runs_onUpdate.2 (.inr (.inr ⟨_, rfl, he, by
      rw [if_pos (attempt_lt_last _)]; exact runs_refetch.2 (.inr (.inl ⟨_, rfl, rfl⟩))⟩)))
  | retried hc he _ ih =>
    rw [removeLoop, removeAttempt_of_mem hc]
    exact .update _ (runs_onUpdate.2 (.inr (.inr ⟨_, rfl, he, by
      rw [if_pos (attempt_lt_last _)]; exact runs_refetch.2 (.inr (.inr ⟨_, _, rfl, ih⟩))⟩)))

theorem attempts_of_runs (f : String) (n : Nat) :
    ∀ c cs r, (removeLoop f (n + 1) c).Runs cs r → Attempts f (n + 1) c cs r := by
  induction n using Nat.strong_induction_on with
  | _ n ih =>
    intro c cs r h
    rw [removeLoop] at h
    by_cases hc : f ∈ c.finalizers
    · rw [removeAttempt_of_mem hc] at h
      obtain ⟨rep, cs', rfl, h₁⟩ := Kube.runs_update.1 h
      rcases runs_onUpdate.1 h₁ with ⟨y, rfl, rfl, rfl⟩ | ⟨e, rfl, he, rfl, rfl⟩ | ⟨e, rfl, he, h₂⟩
      · exact .updated hc
      · exact .failed hc he
      · rcases n with _ | m
        · rw [if_neg not_attempt_lt_last] at h₂
          obtain ⟨rfl, rfl⟩ := Kube.runs_pure.1 h₂
          exact .exhausted hc he
        · rw [if_pos (attempt_lt_last m)] at h₂
          rcases runs_refetch.1 h₂ with ⟨rfl, rfl⟩ | ⟨ge, rfl, rfl⟩ | ⟨x, cs'', rfl, h₃⟩
          · exact .canceled hc he
          · exact .refetchFailed hc he
          · exact .retried hc he (ih m (by omega) x cs'' r h₃)
    · rw [removeAttempt_of_not_mem hc] at h
      obtain ⟨rfl, rfl⟩ := Kube.runs_pure.1 h
      exact .absent hc

/-- The runs of the Go loop are exactly the runs `Attempts` describes. -/
theorem runs_removeLoop (f : String) (n : Nat) (c : LVMLogicalVolume) (cs : List Call) (r : Removal) :
    (removeLoop f (n + 1) c).Runs cs r ↔ Attempts f (n + 1) c cs r :=
  ⟨attempts_of_runs f n c cs r, Attempts.runs⟩

/-! ## What every run of the remover does -/

/-- A call after which the remover has to stop with an error: an Update
refused by something else than a conflict, a done context, a failed re-fetch. -/
def fatal : Call → Bool
  | .update _ (.error e) => !isConflict e
  | .ctxDone b => b
  | .get _ (.error _) => true
  | _ => false

section
variable {m : String} {u x : LVMLogicalVolume} {e : Err} {d : Option Err} {b : Bool}

@[simp] theorem fatal_update_ok : fatal (.update u (.ok x)) = false := rfl
@[simp] theorem fatal_update_error : fatal (.update u (.error e)) = !isConflict e := rfl
@[simp] theorem fatal_ctxDone : fatal (.ctxDone b) = b := rfl
@[simp] theorem fatal_get_ok : fatal (.get m (.ok x)) = false := rfl
@[simp] theorem fatal_get_error : fatal (.get m (.error e)) = true := rfl
@[simp] theorem fatal_delete : fatal (.delete u d) = false := rfl

end

/-- No call comes after a call satisfying `p`. -/
def EndsAt (p : Call → Bool) (cs : List Call) : Prop :=
  ∀ pre x post, cs = pre ++ x :: post → p x = true → post = []

@[simp] theorem endsAt_nil (p : Call → Bool) : EndsAt p [] := by
  intro pre x post h; simp at h

@[simp] theorem endsAt_cons {p : Call → Bool} {x : Call} {cs : List Call} :
    EndsAt p (x :: cs) ↔ (p x = true → cs = []) ∧ EndsAt p cs := by
  constructor
  · intro h
    exact ⟨fun hx => h [] x cs rfl hx, fun pre y post e hy => h (x :: pre) y post (by simp [e]) hy⟩
  · rintro ⟨h₁, h₂⟩ pre y post e hy
    rcases List.cons_eq_append_iff.1 e with ⟨rfl, e'⟩ | ⟨pre', rfl, e'⟩
    · cases e'; exact h₁ hy
    · exact h₂ pre' y post e' hy

/-- The copy held at the start of the last attempt: the latest re-fetched
object, else `c`. -/
def lastHeld (c : LVMLogicalVolume) : List Call → LVMLogicalVolume
  | [] => c
  | .get _ (.ok x) :: cs => lastHeld x cs
  | _ :: cs => lastHeld c cs

section
variable {f : String} {n : Nat} {c : LVMLogicalVolume} {cs : List Call} {r : Removal}

theorem Attempts.budget (h : Attempts f n c cs r) :
    cs.countP Call.isUpdate ≤ n ∧ cs.countP Call.isGet + 1 ≤ n := by
  induction h with
  | retried _ _ _ ih => simp at ih ⊢; omega
  | _ => simp

theorem Attempts.removed_iff (h : Attempts f n c cs r) :
    (r.removed = true ∧ r.err = none) ↔ ∃ x ∈ cs, x.updated = true := by
  induction h with
  | retried _ _ _ ih => simp [ih]
  | _ => simp

theorem Attempts.endsAt_updated (h : Attempts f n c cs r) : EndsAt Call.updated cs := by
  induction h <;> simp_all

theorem Attempts.kept_iff (h : Attempts f n c cs r) :
    (r.removed = false ∧ r.err = none) ↔ f ∉ (lastHeld c cs).finalizers := by
  induction h <;> simp_all [lastHeld]

theorem Attempts.kept_ends (h : Attempts f n c cs r) (hk : f ∉ (lastHeld c cs).finalizers) :
    cs = [] ∨ ∃ pre m x, cs = pre ++ [.get m (.ok x)] := by
  induction h with
  | absent => exact .inl rfl
  | retried _ _ _ ih =>
    rcases ih (by simpa [lastHeld] using hk) with rfl | ⟨pre, m, x, rfl⟩
    · exact .inr ⟨[_, _], _, _, rfl⟩
    · exact .inr ⟨_ :: _ :: _ :: pre, m, x, rfl⟩
  | _ => simp_all [lastHeld]

theorem Attempts.endsAt_fatal (h : Attempts f n c cs r) : EndsAt fatal cs := by
  induction h <;> simp_all

theorem Attempts.no_delete (h : Attempts f n c cs r) : ∀ x ∈ cs, x.isDelete = false := by
  induction h <;> simp_all

theorem Attempts.fatal_err (h : Attempts f n c cs r) (hx : ∃ x ∈ cs, fatal x = true) :
    r.removed = false ∧ r.err.isSome := by
  induction h with
  | absent => simp at hx
  | updated => simp at hx
  | retried _ he _ ih => exact ih (by simpa [he] using hx)
  | _ => simp

theorem Attempts.all_conflicts (h : Attempts f n c cs r) (hn : cs.countP Call.isUpdate = n)
    (hc : ∀ x ∈ cs, x.isUpdate = true → x.conflicted = true) : r.removed = false ∧ r.err.isSome := by
  induction h with
  | absent => simp at hn
  | updated => simp at hc
  | retried _ _ _ ih => exact ih (by simpa using hn) fun x hx => hc x (by simp [hx])
  | _ => simp

theorem Attempts.start (h : Attempts f n c cs r) :
    (f ∈ c.finalizers → ∃ y rest, cs = .update (strip f c) y :: rest) ∧
      (f ∉ c.finalizers → cs = [] ∧ r = ⟨c, false, none⟩) := by
  cases h with
  | absent hc => exact ⟨fun h => absurd h hc, fun _ => ⟨rfl, rfl⟩⟩
  | updated hc | failed hc _ | exhausted hc _ | canceled hc _ | refetchFailed hc _ | retried hc _ _ =>
    exact ⟨fun _ => ⟨_, _, rfl⟩, fun h => absurd hc h⟩

theorem Attempts.err_cases (h : Attempts f n c cs r) (he : r.err.isSome) :
    (∃ x ∈ cs, fatal x = true) ∨ cs.countP Call.conflicted = n := by
  induction h with
  | absent | updated => simp at he
  | retried _ hc _ ih =>
    rcases ih he with ⟨x, hx, hf⟩ | hn
    · exact .inl ⟨x, by simp [hx], hf⟩
    · exact .inr (by simp [hc, hn])
  | _ => simp_all

theorem eq_head_of_update {a x : Call} {l pre post : List Call} (hcs : a :: l = pre ++ x :: post)
    (hx : x.isUpdate = true) (hl : ∀ y ∈ l, y.isUpdate = false) : pre = [] ∧ a = x ∧ l = post := by
  rcases List.cons_eq_append_iff.1 hcs with ⟨rfl, h⟩ | ⟨pre', rfl, h⟩
  · simp only [List.cons.injEq] at h
    exact ⟨rfl, h.1.symm, h.2.symm⟩
  · simpa [hx] using hl x (h ▸ List.mem_append_right _ (.head _))

theorem retried_split {a b g x : Call} {l pre post : List Call}
    (hcs : a :: b :: g :: l = pre ++ x :: post) :
    (pre = [] ∧ a = x ∧ post = b :: g :: l) ∨ (pre = [a] ∧ b = x ∧ post = g :: l) ∨
      (pre = [a, b] ∧ g = x ∧ post = l) ∨ ∃ pre', pre = a :: b :: g :: pre' ∧ l = pre' ++ x :: post := by
  rcases List.cons_eq_append_iff.1 hcs with ⟨rfl, h₁⟩ | ⟨_, rfl, h₁⟩
  · obtain ⟨rfl, rfl⟩ := List.cons_eq_cons.1 h₁
    exact .inl ⟨rfl, rfl, rfl⟩
  rcases List.cons_eq_append_iff.1 h₁ with ⟨rfl, h₂⟩ | ⟨_, rfl, h₂⟩
  · obtain ⟨rfl, rfl⟩ := List.cons_eq_cons.1 h₂
    exact .inr (.inl ⟨rfl, rfl, rfl⟩)
  rcases List.cons_eq_append_iff.1 h₂ with ⟨rfl, h₃⟩ | ⟨pre', rfl, h₃⟩
  · obtain ⟨rfl, rfl⟩ := List.cons_eq_cons.1 h₃
    exact .inr (.inr (.inl ⟨rfl, rfl, rfl⟩))
  · exact .inr (.inr (.inr ⟨pre', rfl, h₃⟩))

theorem Attempts.conflict_next (h : Attempts f n c cs r) {pre post : List Call}
    {u : LVMLogicalVolume} {e : Err} (hcs : cs = pre ++ .update u (.error e) :: post)
    (he : isConflict e = true) (hn : pre.countP Call.isUpdate + 1 < n) :
    ∃ b rest, post = .ctxDone b :: rest ∧ (b = false → ∃ y rest', rest = .get u.name y :: rest') := by
  induction h generalizing pre with
  | absent => simp at hcs
  | updated => cases (eq_head_of_update hcs rfl (by simp)).2.1
  | failed _ he' =>
    cases (eq_head_of_update hcs rfl (by simp)).2.1
    cases he.symm.trans he'
  | exhausted => simp at hn
  | canceled => exact ⟨true, [], (eq_head_of_update hcs rfl (by simp)).2.2.symm, by simp⟩
  | refetchFailed =>
    obtain ⟨-, hax, rfl⟩ := eq_head_of_update hcs rfl (by simp)
    cases hax
    exact ⟨false, _, rfl, fun _ => ⟨_, [], rfl⟩⟩
  | retried _ _ _ ih =>
    rcases retried_split hcs with ⟨-, hx, rfl⟩ | ⟨-, hx, -⟩ | ⟨-, hx, -⟩ | ⟨pre', rfl, hcs'⟩
    · cases hx
      exact ⟨false, _, rfl, fun _ => ⟨_, _, rfl⟩⟩
    · cases hx
    · cases hx
    · exact ih hcs' (by simp at hn ⊢; omega)

theorem Attempts.refetched (h : Attempts f n c cs r) {pre post : List Call} {m : String}
    {x : LVMLogicalVolume} (hcs : cs = pre ++ .get m (.ok x) :: post) :
    ∃ k, pre.countP Call.isUpdate + k = n ∧ Attempts f k x post r := by
  induction h generalizing pre with
  | retried _ _ h ih =>
    rcases retried_split hcs with ⟨-, hx, -⟩ | ⟨-, hx, -⟩ | ⟨rfl, hx, rfl⟩ | ⟨pre', rfl, hcs'⟩
    · cases hx
    · cases hx
    · cases hx
      exact ⟨_, by simp; omega, h⟩
    · obtain ⟨k, hk, h'⟩ := ih hcs'
      exact ⟨k, by simp at hk ⊢; omega, h'⟩
  | _ => simpa using List.mem_iff_append.2 ⟨_, _, hcs⟩

theorem Attempts.update_payload (h : Attempts f n c cs r) {pre post : List Call}
    {u : LVMLogicalVolume} {y : Except Err LVMLogicalVolume} (hcs : cs = pre ++ .update u y :: post) :
    f ∈ (lastHeld c pre).finalizers ∧ u = strip f (lastHeld c pre) := by
  induction h generalizing pre with
  | absent => simp at hcs
  | updated hc | failed hc _ | exhausted hc _ | canceled hc _ | refetchFailed hc _ =>
    obtain ⟨rfl, hx, -⟩ := eq_head_of_update hcs rfl (by simp)
    cases hx
    exact ⟨hc, rfl⟩
  | retried hc _ _ ih =>
    rcases retried_split hcs with ⟨rfl, hx, -⟩ | ⟨-, hx, -⟩ | ⟨-, hx, -⟩ | ⟨pre', rfl, hcs'⟩
    · cases hx
      exact ⟨hc, rfl⟩
    · cases hx
    · cases hx
    · simpa [lastHeld] using ih hcs'

end

/-- The remover over every sequence of replies: it makes at most
`kubernetesAPIRequestLimit` Updates and one re-fetch fewer; it returns
`(true, nil)` exactly when an Update was accepted, and that Update is its last
call; `(false, nil)` exactly when the copy held at the start of the last
attempt carries no finalizer, and then that copy was the last thing it got;
a refused Update (not a conflict), a done context or a failed re-fetch ends it
at once with an error; a conflict on an attempt but the last is followed by
the context check and the re-fetch of the same object, and the re-fetched copy
starts a new run of the loop with the budget left; when all its Updates
conflicted it returns an error. Each attempt, on the copy passed in or on a
re-fetched one, begins with the Update of that copy minus the finalizer when
the copy carries it, and otherwise returns `(false, nil)` without a call; and
an error comes only after a fatal call or after a conflict on every attempt. -/
theorem removeLLVFinalizerIfExist_retry_contract (llv : LVMLogicalVolume) (f : String)
    (cs : List Call) (r : Removal) (h : (removeLLVFinalizerIfExist llv f).Runs cs r) :
    cs.countP Call.isUpdate ≤ kubernetesAPIRequestLimit ∧
    cs.countP Call.isGet ≤ kubernetesAPIRequestLimit - 1 ∧
    ((r.removed = true ∧ r.err = none) ↔ ∃ x ∈ cs, x.updated = true) ∧
    EndsAt Call.updated cs ∧
    ((r.removed = false ∧ r.err = none) ↔ f ∉ (lastHeld llv cs).finalizers) ∧
    (f ∉ (lastHeld llv cs).finalizers → cs = [] ∨ ∃ pre m x, cs = pre ++ [.get m (.ok x)]) ∧
    EndsAt fatal cs ∧
    ((∃ x ∈ cs, fatal x = true) → r.removed = false ∧ r.err.isSome) ∧
    (∀ pre u e post, cs = pre ++ .update u (.error e) :: post → isConflict e = true →
      pre.countP Call.isUpdate + 1 < kubernetesAPIRequestLimit →
      ∃ b rest, post = .ctxDone b :: rest ∧ (b = false → ∃ y rest', rest = .get u.name y :: rest')) ∧
    (∀ pre m x post, cs = pre ++ .get m (.ok x) :: post →
      ∃ k, pre.countP Call.isUpdate + k = kubernetesAPIRequestLimit ∧ (removeLoop f k x).Runs post r) ∧
    (cs.countP Call.isUpdate = kubernetesAPIRequestLimit →
      (∀ x ∈ cs, x.isUpdate = true → x.conflicted = true) → r.removed = false ∧ r.err.isSome) ∧
    ((f ∈ llv.finalizers → ∃ y rest, cs = .update (strip f llv) y :: rest) ∧
      (f ∉ llv.finalizers → cs = [] ∧ r = ⟨llv, false, none⟩)) ∧
    (∀ pre m x post, cs = pre ++ .get m (.ok x) :: post →
      (f ∈ x.finalizers → ∃ y rest, post = .update (strip f x) y :: rest) ∧
        (f ∉ x.finalizers → post = [] ∧ r = ⟨x, false, none⟩)) ∧
    (r.err.isSome →
      (∃ x ∈ cs, fatal x = true) ∨ cs.countP Call.conflicted = kubernetesAPIRequestLimit) := by
  have ha : Attempts f kubernetesAPIRequestLimit llv cs r := (runs_removeLoop f 2 llv cs r).1 h
  obtain ⟨hu, hg⟩ := ha.budget
  exact ⟨hu, by omega, ha.removed_iff, ha.endsAt_updated, ha.kept_iff, ha.kept_ends, ha.endsAt_fatal,
    ha.fatal_err, fun _ _ _ _ hcs he hn => ha.conflict_next hcs he hn,
    fun _ _ _ _ hcs => (ha.refetched hcs).imp fun _ hk => ⟨hk.1, hk.2.runs⟩, ha.all_conflicts,
    ha.start, fun _ _ _ _ hcs => (ha.refetched hcs).elim fun _ hk => hk.2.start, ha.err_cases⟩

theorem removeLLVFinalizerIfExist_two_conflicts :
    let llv : LVMLogicalVolume :=
      { name := "pvc-1", resourceVersion := 1, deletionTimestamp := none, spec := default,
        status := none, finalizers := [sdsLocalVolumeCSIFinalizer] }
    let u := strip sdsLocalVolumeCSIFinalizer llv
    let cs : List Call :=
      [.update u (.error (.status .conflict)), .ctxDone false, .get "pvc-1" (.ok llv),
        .update u (.error (.status .conflict)), .ctxDone false, .get "pvc-1" (.ok llv),
        .update u (.ok u)]
    (removeLLVFinalizerIfExist llv sdsLocalVolumeCSIFinalizer).Runs cs ⟨u, true, none⟩ ∧
      ((true = true ∧ (none : Option Err) = none) ↔ ∃ x ∈ cs, x.updated = true) := by
  intro llv u cs
  have h : (removeLLVFinalizerIfExist llv sdsLocalVolumeCSIFinalizer).Runs cs ⟨u, true, none⟩ :=
    Attempts.runs (.retried (by decide) rfl (.retried (by decide) rfl (.updated (by decide))))
  exact ⟨h, (removeLLVFinalizerIfExist_retry_contract _ _ _ _ h).2.2.1⟩

/-! ## What the Updates write -/

/-- The runs of `deleteLVMLogicalVolume`: a failed Get, or a run of the
remover on the fetched object, followed by the Delete when it returned no
error. -/
theorem runs_deleteLVMLogicalVolume {name : String} {cs : List Call} {res : Option Err} :
    (deleteLVMLogicalVolume name).Runs cs res ↔
      (∃ e, cs = [.get name (.error e)] ∧ res = some (.wrap ("get LVMLogicalVolume " ++ name) e)) ∨
      (∃ llv cs₁ r, (removeLLVFinalizerIfExist llv sdsLocalVolumeCSIFinalizer).Runs cs₁ r ∧
        ((∃ e, r.err = some e ∧ cs = .get name (.ok llv) :: cs₁ ∧
            res = some (.wrap ("remove finalizers from LVMLogicalVolume " ++ name) e)) ∨
          (r.err = none ∧ cs = .get name (.ok llv) :: (cs₁ ++ [.delete r.llv res])))) := by
  constructor
  · intro h
    obtain ⟨_ | llv, cs', rfl, h₁⟩ := Kube.runs_get.1 h
    · obtain ⟨rfl, rfl⟩ := Kube.runs_pure.1 h₁
      exact .inl ⟨_, rfl, rfl⟩
    · obtain ⟨cs₁, cs₂, r, rfl, hr, h₂⟩ := Kube.runs_bind.1 h₁
      refine .inr ⟨llv, cs₁, r, hr, ?_⟩
      cases he : r.err with
      | none =>
        simp only [he, Kube.runs_delete, Kube.runs_pure] at h₂
        obtain ⟨d, _, rfl, rfl, rfl⟩ := h₂
        exact .inr ⟨rfl, rfl⟩
      | some e =>
        simp only [he, Kube.runs_pure] at h₂
        obtain ⟨rfl, rfl⟩ := h₂
        exact .inl ⟨e, rfl, by simp, rfl⟩
  · rintro (⟨e, rfl, rfl⟩ | ⟨llv, cs₁, r, hr, ⟨e, he, rfl, rfl⟩ | ⟨he, rfl⟩⟩)
    · exact .get (.error e) (.pure _)
    · exact .get (.ok llv) (Kube.runs_bind.2 ⟨cs₁, [], r, by simp, hr, by simp [he]⟩)
    · refine .get (.ok llv) (Kube.runs_bind.2 ⟨cs₁, [.delete r.llv res], r, rfl, hr, ?_⟩)
      simp only [he]; exact .delete res (.pure _)

theorem append_single_split {l pre post : List Call} {x d : Call} (h : l ++ [d] = pre ++ x :: post)
    (hx : x ≠ d) : ∃ post', l = pre ++ x :: post' := by
  induction pre generalizing l with
  | nil =>
    cases l with
    | nil => simp at h; exact absurd h.1.symm hx
    | cons a l => simp only [List.cons_append, List.nil_append, List.cons.injEq] at h; exact ⟨l, by simp [h.1]⟩
  | cons a pre ih =>
    cases l with
    | nil => simp at h
    | cons b l =>
      simp only [List.cons_append, List.cons.injEq] at h
      obtain ⟨post', rfl⟩ := ih h.2
      exact ⟨post', by simp [h.1]⟩

/-- Every Update of the remover sends the copy it holds (the one it was
given, or the latest re-fetch) with the first occurrence of the finalizer
deleted and every other field and finalizer as they were; so the object an
accepted Update of `deleteLVMLogicalVolume` writes carries no
`sdsLocalVolumeCSIFinalizer` exactly when the held copy carried it once. -/
theorem update_strips_first_finalizer :
    (∀ llv f cs r, (removeLLVFinalizerIfExist llv f).Runs cs r →
      ∀ pre u y post, cs = pre ++ .update u y :: post →
        f ∈ (lastHeld llv pre).finalizers ∧ u = strip f (lastHeld llv pre)) ∧
    (∀ name cs res, (deleteLVMLogicalVolume name).Runs cs res →
      ∀ pre u y post, cs = pre ++ .update u (.ok y) :: post →
        (sdsLocalVolumeCSIFinalizer ∉ u.finalizers ↔
          (lastHeld default pre).finalizers.count sdsLocalVolumeCSIFinalizer = 1)) := by
  refine ⟨fun llv f cs r h _ _ _ _ hcs => ((runs_removeLoop f 2 llv cs r).1 h).update_payload hcs, ?_⟩
  intro name cs res h pre u y post hcs
  have held : ∀ llv pre₁ r post₁, (removeLLVFinalizerIfExist llv sdsLocalVolumeCSIFinalizer).Runs
      (pre₁ ++ .update u (.ok y) :: post₁) r → pre = .get name (.ok llv) :: pre₁ →
      (sdsLocalVolumeCSIFinalizer ∉ u.finalizers ↔
        (lastHeld default pre).finalizers.count sdsLocalVolumeCSIFinalizer = 1) := by
    rintro llv pre₁ r post₁ hr rfl
    obtain ⟨hm, rfl⟩ := ((runs_removeLoop _ 2 llv _ r).1 hr).update_payload rfl
    have := List.count_pos_iff.2 hm
    simp only [lastHeld, strip_finalizers, ← List.count_eq_zero, List.count_erase_self]
    omega
  rcases runs_deleteLVMLogicalVolume.1 h with ⟨e, rfl, -⟩ | ⟨llv, cs₁, r, hr, ⟨e, -, rfl, -⟩ | ⟨-, rfl⟩⟩
  · simp [List.cons_eq_append_iff] at hcs
  · rcases List.cons_eq_append_iff.1 hcs with ⟨-, h'⟩ | ⟨pre₁, rfl, h'⟩
    · simp at h'
    · exact held llv pre₁ r post (h' ▸ hr) rfl
  · rcases List.cons_eq_append_iff.1 hcs with ⟨-, h'⟩ | ⟨pre₁, rfl, h'⟩
    · simp at h'
    · obtain ⟨post₁, rfl⟩ := append_single_split h' (by simp)
      exact held llv pre₁ r post₁ hr rfl

/-- The finalizer listed twice: `deleteLVMLogicalVolume` reaches its Delete
after an accepted Update whose object still carries the finalizer. -/
theorem delete_after_double_finalizer :
    let llv : LVMLogicalVolume :=
      { name := "pvc-1", resourceVersion := 1, deletionTimestamp := none, spec := default,
        status := none, finalizers := [sdsLocalVolumeCSIFinalizer, sdsLocalVolumeCSIFinalizer] }
    (deleteLVMLogicalVolume "pvc-1").Runs
      [.get "pvc-1" (.ok llv), .update (strip sdsLocalVolumeCSIFinalizer llv)
        (.ok (strip sdsLocalVolumeCSIFinalizer llv)), .delete (strip sdsLocalVolumeCSIFinalizer llv) none]
      none ∧
    sdsLocalVolumeCSIFinalizer ∈ (strip sdsLocalVolumeCSIFinalizer llv).finalizers :=
  ⟨.get (.ok _) (Kube.runs_bind.2 ⟨[_], [_], _, rfl, Attempts.runs (.updated (by decide)),
    .delete none (.pure _)⟩), by decide⟩

end LocalLvm.L5.Release
