import LocalLvm.L5Finalizer.Concurrent

/-!
# The remover in every interleaving

`LocalLvm.L5.Concurrent` runs one `deleteLVMLogicalVolume` against a store that
other writers change at any time (`Step`, `Reach`). Here the same system is
read three more ways.

**History.** `Trace name cs s` is `Reach` with the remover's calls recorded: a
writer's step leaves `cs` alone, an answered call appends itself with its
reply. Along a trace, what is left of the remover is what the call tree of
`deleteLVMLogicalVolume` is left with after `cs` (`Trace.after`). So the calls
of every interleaving begin a run of the sequential program, and are one once
it has returned (`Trace.prefix_runs`, `Trace.runs`): what `LocalLvm.L5.Release` proves of
every sequence of replies holds of every interleaving, for instance the budget
of calls (`interleaved_budget`).

**Scope.** The API server files each object under its name, so a Get of `n`
returns an object named `n`, and an accepted Update returns the object it
wrote. `Scoped name Q p`: every call of `p` concerns the object named `name`,
as long as the objects it gets back carry that name. `DeleteLVMLogicalVolume
name` is scoped to `name` and every step keeps that (`scoped_step`): the
remover never fetches, writes or deletes another object
(`remover_touches_only_name`).

**Conflicts.** By the snapshot invariant of `Concurrent`, the store refuses an
Update of the remover exactly when the object stored under its name is no
longer the copy the Update was made from (`update_refused_iff_changed`): a
conflict or a NotFound always means that another writer changed, deleted or
re-created the object since the remover read it.
-/
namespace LocalLvm.L5.Interleaved
open LocalLvm.L1 LocalLvm.L5.Release LocalLvm.L5.Concurrent

/-! ## Scope -/

section
variable {α β : Type} (name : String)

/-- A reply that is an object carries the name `name`. -/
def Named (r : Except Err LVMLogicalVolume) : Prop :=
  ∀ x, r = .ok x → x.name = name

/-- Every call of `p` concerns the object named `name`, as long as each object
it gets back is named `name`; `Q` holds of what it returns. -/
def Scoped (Q : α → Prop) : Kube α → Prop
  | .pure a => Q a
  | .get n k => n = name ∧ ∀ r, Named name r → Scoped Q (k r)
  | .update u k => u.name = name ∧ ∀ r, Named name r → Scoped Q (k r)
  | .delete u k => u.name = name ∧ ∀ r, Scoped Q (k r)
  | .ctxDone k => ∀ b, Scoped Q (k b)

variable {name}

theorem Scoped.bind {Q : α → Prop} {R : β → Prop} {p : Kube α} {g : α → Kube β}
    (h : Scoped name Q p) (hg : ∀ a, Q a → Scoped name R (g a)) : Scoped name R (p.bind g) := by
  induction p with
  | pure a => exact hg a h
  | get _ _ ih => exact ⟨h.1, fun r hr => ih r (h.2 r hr)⟩
  | update _ _ ih => exact ⟨h.1, fun r hr => ih r (h.2 r hr)⟩
  | delete _ _ ih => exact ⟨h.1, fun r => ih r (h.2 r)⟩
  | ctxDone _ ih => exact fun b => ih b (h b)

/-- The remover's loop, started on a copy named `name`, only concerns `name`
and leaves its caller a copy named `name`. -/
theorem scoped_removeLoop (f : String) (n : Nat) {c : LVMLogicalVolume} (hc : c.name = name) :
    Scoped name (fun r : Removal => r.llv.name = name) (removeLoop f n c) := by
  induction n generalizing c with
  | zero => exact hc
  | succ n ih =>
    by_cases hf : f ∈ c.finalizers
    · rw [removeLoop, removeAttempt_of_mem hf]
      refine ⟨hc, fun rep hr => ?_⟩
      rcases onUpdate_pure_or_refetch f n (strip f c) rep with ⟨r, hx, hr' | hr'⟩ | hx <;> rw [hx]
      · exact hr _ hr'
      · exact (congrArg LVMLogicalVolume.name hr').trans hc
      · rintro (_ | _)
        · exact ⟨hc, fun | .error _, _ => hc | .ok _, hx => ih (hx _ rfl)⟩
        · exact hc
    · rw [removeLoop, removeAttempt_of_not_mem hf]
      exact hc

theorem scoped_deleteLVMLogicalVolume :
    Scoped name (fun _ => True) (deleteLVMLogicalVolume name) := by
  refine ⟨rfl, ?_⟩
  rintro (e | llv) hr
  · trivial
  · refine (scoped_removeLoop _ _ (hr llv rfl)).bind fun res hres => ?_
    cases res.err with
    | none => exact ⟨hres, fun _ => trivial⟩
    | some _ => trivial

end

theorem named_get {st : Store} (h : st.Ok) (n : String) : Named n (st.get n) := by
  intro x hx
  cases ho : st.objects n with
  | none => simp [Store.get, ho] at hx
  | some o =>
    simp only [Store.get, ho, Except.ok.injEq] at hx
    exact hx ▸ h.name n o ho

theorem named_error (name : String) (e : Err) : Named name (.error e) :=
  fun _ h => Except.noConfusion h

theorem scoped_step {name : String} {s s' : Sys} (hst : s.store.Ok)
    (hs : Scoped name (fun _ => True) s.rel) (h : Step s s') : Scoped name (fun _ => True) s'.rel := by
  cases h with
  | write | erase => exact hs
  | get hr =>
    rw [hr] at hs
    obtain ⟨rfl, hk⟩ := hs
    exact hk _ (named_get hst _)
  | update hr =>
    rw [hr] at hs
    exact hs.2 _ fun x hx => by cases hx; exact hs.1
  | getFail _ hr | updateLost _ hr | updateRefused hr | updateFail _ hr =>
    rw [hr] at hs
    exact hs.2 _ (named_error _ _)
  | delete hr | deleteFail _ hr =>
    rw [hr] at hs
    exact hs.2 _
  | ctxDone b hr =>
    rw [hr] at hs
    exact hs b

theorem reach_scoped {name : String} {s : Sys} (h : Reach name s) :
    Scoped name (fun _ => True) s.rel := by
  induction h with
  | init => exact scoped_deleteLVMLogicalVolume
  | step hr hs ih => exact scoped_step (reach_inv hr).store ih hs

/-- Whatever other writers do and whichever calls fail, the remover only ever
concerns the object it was asked to delete: every Get it sends is of `name`,
and every Update it sends and its Delete carry an object named `name`. -/
theorem remover_touches_only_name {name : String} {s : Sys} (h : Reach name s) :
    (∀ n k, s.rel = .get n k → n = name) ∧ (∀ u k, s.rel = .update u k → u.name = name) ∧
      (∀ u k, s.rel = .delete u k → u.name = name) := by
  have hs := reach_scoped h
  refine ⟨fun n k hr => ?_, fun u k hr => ?_, fun u k hr => ?_⟩ <;> rw [hr] at hs <;> exact hs.1

/-- The object of the runs below: version 1, carrying the driver's finalizer. -/
def pvc1 : LVMLogicalVolume :=
  { name := "pvc-1", resourceVersion := 1, deletionTimestamp := none, spec := default, status := none,
    finalizers := [sdsLocalVolumeCSIFinalizer] }

/-- A store holding only `pvc1`. -/
def pvc1Store : Store := ⟨fun n => if n = "pvc-1" then some pvc1 else none, 1⟩

theorem pvc1Store_ok : pvc1Store.Ok := by
  constructor <;> intro n o h <;> by_cases hn : n = "pvc-1" <;> simp [pvc1Store, hn] at h <;> subst h
  · exact hn.symm
  · exact le_refl _

theorem remover_updates_pvc1 :
    ∃ s u k, Reach "pvc-1" s ∧ s.rel = .update u k ∧ u.name = "pvc-1" :=
  have h : Reach "pvc-1" _ := .step (.init pvc1Store_ok) (.get rfl)
  ⟨_, _, _, h, rfl, (remover_touches_only_name h).2.1 _ _ rfl⟩

/-! ## Conflicts -/

/-- In every interleaving, an Update the remover is about to send carries a
copy `c` it read, minus the finalizer, and the store refuses it exactly when
the object stored under that name is no longer `c`: a conflict or a NotFound
happens only after another writer changed, deleted or re-created the object. -/
theorem update_refused_iff_changed {name : String} {s : Sys} {u : LVMLogicalVolume}
    {k : Except Err LVMLogicalVolume → Kube (Option Err)} (h : Reach name s)
    (hu : s.rel = .update u k) :
    ∃ c, u = strip sdsLocalVolumeCSIFinalizer c ∧
      ((∀ o, s.store.objects u.name = some o → o.resourceVersion ≠ u.resourceVersion) ↔
        s.store.objects u.name ≠ some c) := by
  have hf := (reach_inv h).fresh
  rw [hu] at hf
  obtain ⟨⟨c, ⟨-, hc⟩, rfl⟩, -⟩ := hf
  refine ⟨c, rfl, fun href heq => href c heq rfl, fun hne o ho hv => hne ?_⟩
  rw [ho, hc o ho hv]

theorem update_refused_after_write :
    ∃ s u k, Reach "pvc-1" s ∧ s.rel = .update u k ∧
      ∀ o, s.store.objects u.name = some o → o.resourceVersion ≠ u.resourceVersion := by
  have h : Reach "pvc-1" _ := .step (.step (.init pvc1Store_ok) (.get rfl)) (.write _ pvc1)
  obtain ⟨c, hu, hiff⟩ := update_refused_iff_changed h rfl
  refine ⟨_, _, _, h, rfl, hiff.2 fun hc => ?_⟩
  have hv := congrArg LVMLogicalVolume.resourceVersion hu
  simp only [Store.put, strip, Function.update_same, Option.some.injEq] at hc
  subst hc
  simp [strip, pvc1Store, pvc1] at hv

/-! ## History -/

/-- `Reach` with the remover's calls recorded: a writer's step leaves the
history alone, an answered call appends itself with its reply. -/
inductive Trace (name : String) : List Call → Sys → Prop
  | init {st : Store} : st.Ok → Trace name [] ⟨st, deleteLVMLogicalVolume name⟩
  | write {cs s} (o : LVMLogicalVolume) : Trace name cs s → Trace name cs ⟨s.store.put o, s.rel⟩
  | erase {cs s} (n : String) : Trace name cs s → Trace name cs ⟨s.store.remove n, s.rel⟩
  | call {cs s s'} (c : Call) : Trace name cs s → Step s s' → Kube.Next s.rel c s'.rel →
      Trace name (cs ++ [c]) s'

theorem writer_or_answer {s s' : Sys} (h : Step s s') :
    (∃ o, s' = ⟨s.store.put o, s.rel⟩) ∨ (∃ n, s' = ⟨s.store.remove n, s.rel⟩) ∨
      ∃ c, Kube.Next s.rel c s'.rel := by
  cases h with
  | write o => exact .inl ⟨o, rfl⟩
  | erase n => exact .inr (.inl ⟨n, rfl⟩)
  | get hr | getFail _ hr =>
    exact .inr (.inr ⟨_, by rw [hr]; exact .get _⟩)
  | update hr | updateLost _ hr | updateRefused hr | updateFail _ hr =>
    exact .inr (.inr ⟨_, by rw [hr]; exact .update _⟩)
  | delete hr | deleteFail _ hr =>
    exact .inr (.inr ⟨_, by rw [hr]; exact .delete _⟩)
  | ctxDone b hr =>
    exact .inr (.inr ⟨_, by rw [hr]; exact .ctxDone b⟩)

theorem Trace.reach {name : String} {cs : List Call} {s : Sys} (h : Trace name cs s) : Reach name s := by
  induction h with
  | init hst => exact .init hst
  | write o _ ih => exact .step ih (.write _ o)
  | erase n _ ih => exact .step ih (.erase _ n)
  | call _ _ hs _ ih => exact .step ih hs

theorem trace_of_reach {name : String} {s : Sys} (h : Reach name s) : ∃ cs, Trace name cs s := by
  induction h with
  | init hst => exact ⟨[], .init hst⟩
  | step _ hs ih =>
    obtain ⟨cs, ht⟩ := ih
    rcases writer_or_answer hs with ⟨o, rfl⟩ | ⟨n, rfl⟩ | ⟨c, hc⟩
    · exact ⟨cs, .write o ht⟩
    · exact ⟨cs, .erase n ht⟩
    · exact ⟨cs ++ [c], .call c ht hs hc⟩

/-- What is left of the remover is what its call tree is left with after the
recorded calls. -/
theorem Trace.after {name : String} {cs : List Call} {s : Sys} (h : Trace name cs s) :
    Kube.After (deleteLVMLogicalVolume name) cs s.rel := by
  induction h with
  | init => exact .nil
  | write _ _ ih | erase _ _ ih => exact ih
  | call _ _ _ hc ih => exact ih.snoc hc

theorem Trace.prefix_runs {name : String} {cs : List Call} {s : Sys} (h : Trace name cs s) :
    ∃ cs' res, (deleteLVMLogicalVolume name).Runs (cs ++ cs') res := by
  obtain ⟨cs', res, hr⟩ := Kube.exists_runs s.rel
  exact ⟨cs', res, h.after.runs hr⟩

theorem Trace.runs {name : String} {cs : List Call} {s : Sys} {res : Option Err}
    (h : Trace name cs s) (hr : s.rel = .pure res) : (deleteLVMLogicalVolume name).Runs cs res := by
  simpa using h.after.runs (hr ▸ Kube.Runs.pure res : s.rel.Runs [] res)

theorem reach_uncontended : ∃ s, Reach "pvc-1" s ∧ s.rel = .pure none :=
  ⟨_, .step (.step (.step (.init pvc1Store_ok) (.get rfl)) (.update rfl rfl rfl)) (.delete rfl), rfl⟩

/-! ## The budget in every interleaving -/

theorem endsAt_of_append {p : Call → Bool} {cs cs' : List Call} (h : EndsAt p (cs ++ cs')) :
    EndsAt p cs := fun pre x post e hx =>
  (List.append_eq_nil.1 (h pre x (post ++ cs') (by simp [e]) hx)).1

theorem endsAt_of_forall {p : Call → Bool} {l : List Call} (hl : ∀ x ∈ l, p x = false) :
    EndsAt p l := fun pre x post e hx => by
  rw [hl x (by simp [e])] at hx
  cases hx

theorem endsAt_append_single {p : Call → Bool} {l : List Call} (d : Call)
    (hl : ∀ x ∈ l, p x = false) : EndsAt p (l ++ [d]) := by
  induction l with
  | nil => simp
  | cons a l ih =>
    simp only [List.forall_mem_cons] at hl
    simp [hl.1, ih hl.2]

/-- Every run of `deleteLVMLogicalVolume` makes at most `kubernetesAPIRequestLimit`
Updates and as many Gets, and a Delete only as its last call. -/
theorem runs_deleteLVMLogicalVolume_budget {name : String} {cs : List Call} {res : Option Err}
    (h : (deleteLVMLogicalVolume name).Runs cs res) :
    cs.countP Call.isUpdate ≤ kubernetesAPIRequestLimit ∧
      cs.countP Call.isGet ≤ kubernetesAPIRequestLimit ∧ EndsAt Call.isDelete cs := by
  rcases runs_deleteLVMLogicalVolume.1 h with ⟨e, rfl, -⟩ | ⟨llv, cs₁, r, hr, ⟨e, -, rfl, -⟩ | ⟨-, rfl⟩⟩
  · simp [kubernetesAPIRequestLimit]
  all_goals
    have ha := (runs_removeLoop _ 2 llv cs₁ r).1 hr
    obtain ⟨hu, hg⟩ := ha.budget
  · refine ⟨by simp [kubernetesAPIRequestLimit]; omega, by simp [kubernetesAPIRequestLimit]; omega,
      endsAt_cons.2 ⟨fun h => by simp at h, endsAt_of_forall ha.no_delete⟩⟩
  · refine ⟨by simp [kubernetesAPIRequestLimit]; omega, by simp [kubernetesAPIRequestLimit]; omega,
      endsAt_cons.2 ⟨fun h => by simp at h, endsAt_append_single _ ha.no_delete⟩⟩

/-- Whatever other writers do and whichever calls fail, at every point of every
interleaving the remover has sent at most `kubernetesAPIRequestLimit` Updates
and as many Gets, and no call after a Delete. -/
theorem interleaved_budget {name : String} {cs : List Call} {s : Sys} (h : Trace name cs s) :
    cs.countP Call.isUpdate ≤ kubernetesAPIRequestLimit ∧
      cs.countP Call.isGet ≤ kubernetesAPIRequestLimit ∧ EndsAt Call.isDelete cs := by
  obtain ⟨cs', res, hr⟩ := h.prefix_runs
  obtain ⟨hu, hg, hd⟩ := runs_deleteLVMLogicalVolume_budget hr
  have hsub := (List.sublist_append_left cs cs').countP_le
  exact ⟨(hsub _).trans hu, (hsub _).trans hg, endsAt_of_append hd⟩

theorem interleaved_budget_uncontended :
    ∃ cs s, Trace "pvc-1" cs s ∧ s.rel = .pure none ∧
      cs.countP Call.isUpdate ≤ kubernetesAPIRequestLimit ∧
      cs.countP Call.isGet ≤ kubernetesAPIRequestLimit ∧ EndsAt Call.isDelete cs := by
  obtain ⟨s, hs, hr⟩ := reach_uncontended
  obtain ⟨cs, ht⟩ := trace_of_reach hs
  exact ⟨cs, s, ht, hr, interleaved_budget ht⟩

end LocalLvm.L5.Interleaved
