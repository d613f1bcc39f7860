import LocalLvm.L5Finalizer.Interleaved

/-!
# Many removers at once

The controller serves DeleteVolume requests concurrently, so several
`deleteLVMLogicalVolume` calls run against the API server at the same time:
of different volumes, or of the same one when a request is retried while the
first is still running, and among the other writers.

**Model.** `Pool` is the store with the removers started so far, each with
the name it was called with and what is left of its call tree. A step of the
pool starts a remover, is another writer's write or delete, or is a `Step` of
one remover against the shared store (`PoolStep`).

**Rely and guarantee.** A step of one remover changes the store only as a
writer may: it leaves it as it is, stores an object, or deletes one
(`step_store`). So each remover sees the other removers as more writers, and
its part of every run of the pool is a run of the one-remover system of
`Concurrent` (`pool_reach`): what is proved there of `Reach` holds of each
remover of the pool.

**Result.** `concurrent_removers_isolated`: in every run of the pool, each
remover only ever concerns the object it was called with, and an Update of a
remover that the store would accept carries exactly the stored object minus
the finalizer, so no remover writes back a copy over another remover's or
writer's change.
-/
namespace LocalLvm.L5.Removers
open LocalLvm.L1 LocalLvm.L5.Release LocalLvm.L5.Concurrent LocalLvm.L5.Interleaved

/-- The store, and the removers started so far: the name each was called with,
and what is left of its `deleteLVMLogicalVolume`. -/
structure Pool where
  store : Store
  removers : List (String × Kube (Option Err))

inductive PoolStep : Pool → Pool → Prop
  /-- A DeleteVolume request starts a remover. -/
  | start (p : Pool) (name : String) :
      PoolStep p ⟨p.store, p.removers ++ [(name, deleteLVMLogicalVolume name)]⟩
  /-- Another writer stores `o`. -/
  | write (p : Pool) (o : LVMLogicalVolume) : PoolStep p ⟨p.store.put o, p.removers⟩
  /-- Another writer deletes the object named `n`. -/
  | erase (p : Pool) (n : String) : PoolStep p ⟨p.store.remove n, p.removers⟩
  /-- The remover at index `i` takes a step against the shared store. -/
  | remover {p : Pool} {i : Nat} {name : String} {rel : Kube (Option Err)} {s' : Sys} :
      p.removers[i]? = some (name, rel) → Step ⟨p.store, rel⟩ s' →
      PoolStep p ⟨s'.store, p.removers.set i (name, s'.rel)⟩

/-- The pools reached from a well-formed store with no remover yet. -/
inductive PoolReach : Pool → Prop
  | init {st : Store} : st.Ok → PoolReach ⟨st, []⟩
  | step {p p' : Pool} : PoolReach p → PoolStep p p' → PoolReach p'

theorem step_store {s s' : Sys} (h : Step s s') :
    s'.store = s.store ∨ (∃ o, s'.store = s.store.put o) ∨ ∃ n, s'.store = s.store.remove n := by
  cases h with
  | write o => exact .inr (.inl ⟨o, rfl⟩)
  | erase n => exact .inr (.inr ⟨n, rfl⟩)
  | delete _ => exact .inr (.inr ⟨_, rfl⟩)
  | update _ _ _ | updateLost _ _ _ _ => exact .inr (.inl ⟨_, rfl⟩)
  | _ => exact .inl rfl

theorem reach_rely {name : String} {st st' : Store} {rel : Kube (Option Err)}
    (h : Reach name ⟨st, rel⟩)
    (hs : st' = st ∨ (∃ o, st' = st.put o) ∨ ∃ n, st' = st.remove n) : Reach name ⟨st', rel⟩ := by
  rcases hs with rfl | ⟨o, rfl⟩ | ⟨n, rfl⟩
  · exact h
  · exact .step h (.write _ o)
  · exact .step h (.erase _ n)

/-- The store of every reachable pool is well formed, and each remover's part
of the run is a run of the one-remover system. -/
theorem pool_reach {p : Pool} (h : PoolReach p) :
    p.store.Ok ∧ ∀ r ∈ p.removers, Reach r.1 ⟨p.store, r.2⟩ := by
  induction h with
  | init hst => exact ⟨hst, by simp⟩
  | step _ hs ih =>
    obtain ⟨hok, hr⟩ := ih
    cases hs with
    | start name =>
      refine ⟨hok, fun r hmem => ?_⟩
      rcases List.mem_append.1 hmem with h | h
      · exact hr r h
      · rw [List.mem_singleton] at h; subst h; exact .init hok
    | write o => exact ⟨hok.put o, fun r hmem => .step (hr r hmem) (.write _ o)⟩
    | erase n => exact ⟨hok.remove n, fun r hmem => .step (hr r hmem) (.erase _ n)⟩
    | remover hi hstep =>
      have hself := Reach.step (hr _ (List.getElem?_mem hi)) hstep
      refine ⟨(reach_inv hself).store, fun r hmem => ?_⟩
      rcases List.mem_or_eq_of_mem_set hmem with h | rfl
      · exact reach_rely (hr r h) (step_store hstep)
      · exact hself

/-- In every run of any number of concurrent `deleteLVMLogicalVolume` calls and
other writers, each remover only ever concerns the object it was called with,
and an Update of a remover that the store would accept (its version is the
stored one) carries exactly the stored object minus the finalizer: no remover
writes a stale copy over a change of another remover or writer. -/
theorem concurrent_removers_isolated {p : Pool} (h : PoolReach p) :
    ∀ name rel, (name, rel) ∈ p.removers →
      (∀ n k, rel = .get n k → n = name) ∧
      (∀ u k, rel = .update u k → u.name = name ∧
        ∀ o, p.store.objects u.name = some o → o.resourceVersion = u.resourceVersion →
          u = strip sdsLocalVolumeCSIFinalizer o) ∧
      (∀ u k, rel = .delete u k → u.name = name) := by
  intro name rel hmem
  have hr : Reach name ⟨p.store, rel⟩ := (pool_reach h).2 _ hmem
  have hs := reach_scoped hr
  refine ⟨fun n k he => ?_, fun u k he => ?_, fun u k he => ?_⟩
  · rw [he] at hs; exact hs.1
  · rw [he] at hs
    exact ⟨hs.1, fun o ho hv => (reach_inv hr).update_strips he ho hv⟩
  · rw [he] at hs; exact hs.1

theorem two_removers_same_object :
    ∃ p u k, PoolReach p ∧ ("pvc-1", Kube.update u k) ∈ p.removers ∧
      u = strip sdsLocalVolumeCSIFinalizer pvc1 := by
  have h : PoolReach _ :=
    .step (.step (.step (.step (.init pvc1Store_ok) (.start _ "pvc-1")) (.start _ "pvc-1"))
      (@PoolStep.remover _ 0 _ _ _ rfl (.get rfl))) (@PoolStep.remover _ 1 _ _ _ rfl (.get rfl))
  exact ⟨_, _, _, h, List.mem_cons_self _ _,
    ((concurrent_removers_isolated h _ _ (List.mem_cons_self _ _)).2.1 _ _ rfl).2 pvc1 rfl rfl⟩

end LocalLvm.L5.Removers
