import LocalLvm.L5Finalizer.Interleaved

/-!
# Conflicts are paid for by other writers

`removeLLVFinalizerIfExist` answers an Update refused with a conflict by
fetching the object again and retrying, up to `kubernetesAPIRequestLimit`
attempts. Here: that is enough whenever other writers change the object fewer
times than that.

**Quiet interleavings (`Quiet`).** Other writers store objects at any time
and delete objects of other names; the API server answers every call of the
remover itself (no timeout, no lost reply) and the context stays live.
`Quiet name w cs s` is such an interleaving of `deleteLVMLogicalVolume name`
from a store holding `name`, where `cs` are the remover's calls and `w` counts
the other writers' writes to `name`. Every quiet interleaving is one of
`Interleaved.Trace` (`Quiet.trace`), so what is proved there holds of it.

**Objects not being deleted.** The store of `Concurrent` keeps an object
whose Update is accepted and answers a Delete nil. The API server does so
only for an object without a deletion timestamp: it removes an object that
is being deleted as soon as an Update empties its finalizers, and a Delete
after that is answered NotFound. So a quiet interleaving starts from an
object that is not being deleted, and the other writers' writes do not mark
it: only a Delete sets the deletion timestamp, which an Update cannot. Then
the object is never being deleted while the remover runs
(`quiet_not_deleting`), and the store's answers are the API server's. The
store drops the object at the remover's Delete, where the API server may only
mark it while other finalizers remain; the remover returns at that reply, so
nothing it does depends on the difference.

**Accounting.** `Once`: every Update of the remover carries the copy its
latest Get returned, minus the finalizer, and after an Update or the Delete
only a new Get gives it a copy to send. An Update of the stored object is
accepted, and only a write of another party makes the stored object differ
from the copy the remover holds; so along a quiet interleaving the refused
Updates so far, plus one while the held copy is stale, never exceed `w`
(`quiet_once`).

**Results.**
* `conflicts_bounded_by_writes`: in every quiet interleaving the object is
  never being deleted, the remover has had at most `w` Updates refused, and
  once it has returned, it has returned nil when
  `w < kubernetesAPIRequestLimit`.
-/
namespace LocalLvm.L5.Contention
open LocalLvm.L1 LocalLvm.L5.Release LocalLvm.L5.Concurrent LocalLvm.L5.Interleaved

/-! ## One Update per copy -/

section
variable {α β : Type} (f : String)

/-- Every Update of `p` carries a copy satisfying `C`, minus the finalizer `f`;
a Get gives a new copy, and an Update or a Delete uses the copy up. -/
def Once : (C : LVMLogicalVolume → Prop) → Kube α → Prop
  | _, .pure _ => True
  | C, .get _ k => (∀ x, Once (· = x) (k (.ok x))) ∧ ∀ e, Once C (k (.error e))
  | C, .update u k => (∃ c, C c ∧ u = strip f c) ∧ ∀ r, Once (fun _ => False) (k r)
  | _, .delete _ k => ∀ r, Once (fun _ => False) (k r)
  | C, .ctxDone k => ∀ b, Once C (k b)

variable {f}

theorem Once.mono {C C' : LVMLogicalVolume → Prop} (hC : ∀ c, C c → C' c) {p : Kube α}
    (h : Once f C p) : Once f C' p := by
  induction p generalizing C C' with
  | pure | delete => exact h
  | get _ _ ih => exact ⟨h.1, fun e => ih _ hC (h.2 e)⟩
  | update => exact ⟨h.1.imp fun c hc => ⟨hC c hc.1, hc.2⟩, h.2⟩
  | ctxDone _ ih => exact fun b => ih b hC (h b)

theorem Once.of_false {C : LVMLogicalVolume → Prop} {p : Kube α} (h : Once f (fun _ => False) p) :
    Once f C p :=
  h.mono fun _ => False.elim

theorem Once.bind {C : LVMLogicalVolume → Prop} {p : Kube α} {g : α → Kube β} (h : Once f C p)
    (hg : ∀ C a, Once f C (g a)) : Once f C (p.bind g) := by
  induction p generalizing C with
  | pure a => exact hg C a
  | get _ _ ih => exact ⟨fun x => ih _ (h.1 x), fun e => ih _ (h.2 e)⟩
  | update _ _ ih => exact ⟨h.1, fun r => ih r (h.2 r)⟩
  | delete _ _ ih => exact fun r => ih r (h r)
  | ctxDone _ ih => exact fun b => ih b (h b)

end

/-- The loop sends each copy at most once: after a conflict it fetches again
before its next Update, and the last attempt's conflict ends it. -/
theorem once_removeLoop (f : String) (n : Nat) (c : LVMLogicalVolume) :
    Once f (· = c) (removeLoop f n c) := by
  induction n generalizing c with
  | zero => trivial
  | succ n ih =>
    by_cases hc : f ∈ c.finalizers
    · rw [removeLoop, removeAttempt_of_mem hc]
      refine ⟨⟨c, rfl, rfl⟩, fun rep => ?_⟩
      rcases onUpdate_pure_or_refetch f n (strip f c) rep with ⟨r, hx, -⟩ | hx <;> rw [hx]
      · trivial
      · rintro (_ | _)
        · exact ⟨ih, fun _ => trivial⟩
        · trivial
    · rw [removeLoop, removeAttempt_of_not_mem hc]; trivial

theorem once_deleteLVMLogicalVolume (C : LVMLogicalVolume → Prop) (name : String) :
    Once sdsLocalVolumeCSIFinalizer C (deleteLVMLogicalVolume name) := by
  refine ⟨fun x => (once_removeLoop _ _ x).bind fun C' res => ?_, fun _ => trivial⟩
  cases res.err with
  | none => exact fun _ => trivial
  | some _ => trivial

/-! ## Quiet interleavings -/

/-- Interleavings of `deleteLVMLogicalVolume name` from a store holding `name`,
not being deleted, in which other writers store objects (`w` counts their
writes to `name`, none of which marks it as being deleted) and delete objects
of other names, the store answers every call of the remover, and the context
stays live; `cs` are the remover's calls. -/
inductive Quiet (name : String) : Nat → List Call → Sys → Prop
  | init {st : Store} : st.Ok → (∃ o, st.objects name = some o ∧ o.deletionTimestamp = none) →
      Quiet name 0 [] ⟨st, deleteLVMLogicalVolume name⟩
  | write {w cs s} (o : LVMLogicalVolume) : (o.name = name → o.deletionTimestamp = none) →
      Quiet name w cs s → Quiet name (w + if o.name = name then 1 else 0) cs ⟨s.store.put o, s.rel⟩
  | erase {w cs s} (n : String) : n ≠ name → Quiet name w cs s →
      Quiet name w cs ⟨s.store.remove n, s.rel⟩
  | get {w cs s n k} : Quiet name w cs s → s.rel = .get n k →
      Quiet name w (cs ++ [.get n (s.store.get n)]) ⟨s.store, k (s.store.get n)⟩
  | update {w cs s u k o} : Quiet name w cs s → s.rel = .update u k →
      s.store.objects u.name = some o → o.resourceVersion = u.resourceVersion →
      Quiet name w (cs ++ [.update u (.ok { u with resourceVersion := s.store.rev + 1 })])
        ⟨s.store.put u, k (.ok { u with resourceVersion := s.store.rev + 1 })⟩
  | updateRefused {w cs s u k} : Quiet name w cs s → s.rel = .update u k →
      (∀ o, s.store.objects u.name = some o → o.resourceVersion ≠ u.resourceVersion) →
      Quiet name w (cs ++ [.update u (.error (s.store.refusal u))])
        ⟨s.store, k (.error (s.store.refusal u))⟩
  | delete {w cs s u k} : Quiet name w cs s → s.rel = .delete u k →
      Quiet name w (cs ++ [.delete u none]) ⟨s.store.remove u.name, k none⟩
  | ctxDone {w cs s k} : Quiet name w cs s → s.rel = .ctxDone k →
      Quiet name w (cs ++ [.ctxDone false]) ⟨s.store, k false⟩

section
variable {name : String} {w : Nat} {cs : List Call} {s : Sys}

theorem Quiet.trace (h : Quiet name w cs s) : Trace name cs s := by
  induction h with
  | init hst => exact .init hst
  | write o _ _ ih => exact .write o ih
  | erase n _ _ ih => exact .erase n ih
  | get _ hr ih => exact .call _ ih (.get hr) (by rw [hr]; exact .get _)
  | update _ hr ho hv ih => exact .call _ ih (.update hr ho hv) (by rw [hr]; exact .update _)
  | updateRefused _ hr hno ih => exact .call _ ih (.updateRefused hr hno) (by rw [hr]; exact .update _)
  | delete _ hr ih => exact .call _ ih (.delete hr) (by rw [hr]; exact .delete _)
  | ctxDone _ hr ih => exact .call _ ih (.ctxDone false hr) (by rw [hr]; exact .ctxDone _)

theorem Quiet.scoped (h : Quiet name w cs s) : Scoped name (fun _ => True) s.rel :=
  reach_scoped h.trace.reach

theorem rel_pure_of_delete (h : Trace name cs s) (hd : ∃ x ∈ cs, x.isDelete = true) :
    ∃ a, s.rel = .pure a := by
  obtain ⟨x, hx, hdx⟩ := hd
  obtain ⟨pre, post, rfl⟩ := List.append_of_mem hx
  obtain ⟨cs', res, hr⟩ := Kube.exists_runs s.rel
  have hend := (runs_deleteLVMLogicalVolume_budget (h.after.runs hr)).2.2 pre x (post ++ cs')
    (by simp) hdx
  obtain ⟨-, rfl⟩ := List.append_eq_nil.1 hend
  exact ⟨res, Kube.runs_nil hr⟩

theorem present_put {st : Store} (hp : ∃ o, st.objects name = some o) (o : LVMLogicalVolume) :
    ∃ o', (st.put o).objects name = some o' := by
  by_cases hn : name = o.name
  · exact ⟨_, hn ▸ Store.put_self st o⟩
  · rwa [Store.put_ne st hn]

theorem quiet_present (h : Quiet name w cs s) :
    (∃ o, s.store.objects name = some o) ∨ ∃ x ∈ cs, x.isDelete = true := by
  have grow : ∀ {l : List Call} (l'), (∃ x ∈ l, x.isDelete = true) → ∃ x ∈ l ++ l', x.isDelete = true :=
    fun _ ⟨x, hx, hd⟩ => ⟨x, List.mem_append_left _ hx, hd⟩
  induction h with
  | init _ hs => exact .inl (hs.imp fun _ => And.left)
  | write o _ _ ih => exact ih.imp_left (present_put · o)
  | erase n hn _ ih => rwa [Store.remove_ne _ (Ne.symm hn)]
  | update _ _ _ _ ih => exact (ih.imp_left (present_put · _)).imp_right (grow _)
  | delete => exact .inr ⟨_, List.mem_append_right _ (List.mem_singleton_self _), rfl⟩
  | get _ _ ih | updateRefused _ _ _ ih | ctxDone _ _ ih => exact ih.imp_right (grow _)

theorem Quiet.stored (h : Quiet name w cs s) (hr : ∀ a, s.rel ≠ .pure a) :
    ∃ o, s.store.objects name = some o :=
  (quiet_present h).resolve_right fun hd =>
    let ⟨a, ha⟩ := rel_pure_of_delete h.trace hd
    hr a ha

/-- The object stored under `name`, if any, is not being deleted. -/
def NotDeleting (name : String) (st : Store) : Prop :=
  ∀ o, st.objects name = some o → o.deletionTimestamp = none

theorem NotDeleting.put {st : Store} (h : NotDeleting name st) {o : LVMLogicalVolume}
    (ho : o.name = name → o.deletionTimestamp = none) : NotDeleting name (st.put o) := by
  intro x hx
  by_cases hn : name = o.name
  · rw [hn, Store.put_self] at hx
    cases hx
    exact ho hn.symm
  · rw [Store.put_ne st hn] at hx
    exact h x hx

theorem NotDeleting.remove {st : Store} (h : NotDeleting name st) (n : String) :
    NotDeleting name (st.remove n) := by
  intro x hx
  by_cases hn : name = n
  · rw [hn, Store.remove_self] at hx
    cases hx
  · rw [Store.remove_ne st hn] at hx
    exact h x hx

/-- **The object is never being deleted** along a quiet interleaving: an
accepted Update of the remover writes the stored object minus the finalizer,
which keeps its deletion timestamp. -/
theorem quiet_not_deleting (h : Quiet name w cs s) : NotDeleting name s.store := by
  induction h with
  | init _ hs =>
    obtain ⟨o, ho, hd⟩ := hs
    exact fun x hx => Option.some.inj (ho.symm.trans hx) ▸ hd
  | write o hd _ ih => exact ih.put hd
  | erase n _ _ ih => exact ih.remove n
  | @update _ _ s u _ o hq hr ho hv ih =>
    refine ih.put fun hn => ?_
    obtain rfl := (reach_inv hq.trace.reach).update_strips hr ho hv
    exact ih o (hn ▸ ho)
  | delete _ _ ih => exact ih.remove _
  | get _ _ ih | updateRefused _ _ _ ih | ctxDone _ _ ih => exact ih

theorem objects_of_get {st : Store} {n : String} {x : LVMLogicalVolume} (h : st.get n = .ok x) :
    st.objects n = some x := by
  cases ho : st.objects n <;> simp [Store.get, ho] at h ⊢
  exact h

theorem quiet_calm (h : Quiet name w cs s) :
    ∀ x ∈ cs, fatal x = false ∧ ∀ u d, x = .delete u d → d = none := by
  induction h with
  | init => simp
  | write _ _ _ ih | erase _ _ _ ih => exact ih
  | get hq hr ih =>
    have hn := hq.scoped
    rw [hr] at hn
    obtain ⟨o, ho⟩ := hq.stored fun a ha => by rw [hr] at ha; cases ha
    refine List.forall_mem_append.2 ⟨ih, List.forall_mem_singleton.2 ⟨?_, fun _ _ h => by cases h⟩⟩
    simp [Store.get, hn.1, ho]
  | update _ _ _ _ ih =>
    exact List.forall_mem_append.2 ⟨ih, List.forall_mem_singleton.2 ⟨rfl, fun _ _ h => by cases h⟩⟩
  | updateRefused hq hr _ ih =>
    have hn := hq.scoped
    rw [hr] at hn
    obtain ⟨o, ho⟩ := hq.stored fun a ha => by rw [hr] at ha; cases ha
    refine List.forall_mem_append.2 ⟨ih, List.forall_mem_singleton.2 ⟨?_, fun _ _ h => by cases h⟩⟩
    simp [Store.refusal, hn.1, ho, isConflict]
  | delete _ _ ih =>
    exact List.forall_mem_append.2 ⟨ih, List.forall_mem_singleton.2 ⟨rfl, fun _ _ h => by cases h; rfl⟩⟩
  | ctxDone _ _ ih =>
    exact List.forall_mem_append.2 ⟨ih, List.forall_mem_singleton.2 ⟨rfl, fun _ _ h => by cases h⟩⟩

end

/-! ## Refusals against writes -/

/-- The refusals `k` so far are paid for by the writes `w` of others, with one
write to spare while the copy `c` the remover holds is not the stored object. -/
def Good (name : String) (st : Store) (w k : Nat) (c : LVMLogicalVolume) : Prop :=
  st.objects name ≠ some c → k < w

theorem countP_conflicted_append (l : List Call) (x : Call) (hx : x.conflicted = false) :
    (l ++ [x]).countP Call.conflicted = l.countP Call.conflicted := by
  simp [hx]

theorem countP_conflicted_append_le (l : List Call) (x : Call) :
    (l ++ [x]).countP Call.conflicted ≤ l.countP Call.conflicted + 1 := by
  simp only [List.countP_append, List.countP_cons, List.countP_nil]
  split <;> omega

section
variable {name : String} {w : Nat} {cs : List Call} {s : Sys}

/-- Along a quiet interleaving the refusals are paid for by the writes of
others, and every pending Update of the remover carries a copy whose
staleness is paid for too. -/
theorem quiet_once (h : Quiet name w cs s) :
    cs.countP Call.conflicted ≤ w ∧
      Once sdsLocalVolumeCSIFinalizer (Good name s.store w (cs.countP Call.conflicted)) s.rel := by
  induction h with
  | init => exact ⟨le_refl _, once_deleteLVMLogicalVolume _ _⟩
  | write o _ _ ih =>
    obtain ⟨hk, ho⟩ := ih
    by_cases hn : o.name = name
    · simp only [hn, if_true]
      exact ⟨by omega, ho.mono fun _ _ _ => by omega⟩
    · simp only [hn, if_false, Nat.add_zero]
      exact ⟨hk, ho.mono fun _ hc hs => hc (by rwa [Store.put_ne _ (Ne.symm hn)] at hs)⟩
  | erase n hn _ ih =>
    exact ⟨ih.1, ih.2.mono fun _ hc hs => hc (by rwa [Store.remove_ne _ (Ne.symm hn)] at hs)⟩
  | @get _ _ s n _ hq hr ih =>
    obtain ⟨hk, ho⟩ := ih
    have hn := hq.scoped
    rw [hr] at ho hn
    rw [countP_conflicted_append _ (.get _ _) rfl]
    refine ⟨hk, ?_⟩
    cases hg : s.store.get n with
    | error e => exact ho.2 e
    | ok x => exact (ho.1 x).mono fun c hc hs => (hs (by rw [hc, ← hn.1]; exact objects_of_get hg)).elim
  | update _ hr _ _ ih =>
    obtain ⟨hk, ho⟩ := ih
    rw [hr] at ho
    rw [countP_conflicted_append _ (.update _ (.ok _)) rfl]
    exact ⟨hk, (ho.2 _).of_false⟩
  | updateRefused hq hr hno ih =>
    obtain ⟨hk, ho⟩ := ih
    have hn := hq.scoped
    rw [hr] at ho hn
    obtain ⟨⟨c, hc, rfl⟩, hk'⟩ := ho
    have hlt := hc fun hs => hno c (by rw [hn.1]; exact hs) rfl
    exact ⟨(countP_conflicted_append_le _ _).trans hlt, (hk' _).of_false⟩
  | delete _ hr ih =>
    obtain ⟨hk, ho⟩ := ih
    rw [hr] at ho
    rw [countP_conflicted_append _ (.delete _ _) rfl]
    exact ⟨hk, (ho _).of_false⟩
  | ctxDone _ hr ih =>
    obtain ⟨hk, ho⟩ := ih
    rw [hr] at ho
    rw [countP_conflicted_append _ (.ctxDone _) rfl]
    exact ⟨hk, ho false⟩

/-- In every interleaving in which the object is not being deleted at the
start, other writers store objects without marking it and delete only other
objects, the store answers every call and the context stays live: while the
remover runs the object is not being deleted, and each Update of the remover
that the store refused
is paid for by a write of another party to the object: at most `w` were
refused. So the retry budget is enough: once `deleteLVMLogicalVolume` has
returned, it has returned nil if others wrote the object fewer than
`kubernetesAPIRequestLimit` times. -/
theorem conflicts_bounded_by_writes (h : Quiet name w cs s) :
    cs.countP Call.conflicted ≤ w ∧
      (∀ res, s.rel = .pure res → w < kubernetesAPIRequestLimit → res = none) ∧
      ((∀ a, s.rel ≠ .pure a) → ∃ o, s.store.objects name = some o ∧ o.deletionTimestamp = none) := by
  have hw := (quiet_once h).1
  have hcalm := quiet_calm h
  refine ⟨hw, fun res hr hlt => ?_,
    fun hr => (h.stored hr).imp fun o ho => ⟨ho, quiet_not_deleting h o ho⟩⟩
  rcases runs_deleteLVMLogicalVolume.1 (h.trace.runs hr) with
    ⟨e, rfl, -⟩ | ⟨llv, cs₁, r, hr₁, ⟨e, he, rfl, -⟩ | ⟨-, rfl⟩⟩
  · simp at hcalm
  · rcases ((runs_removeLoop _ 2 llv cs₁ r).1 hr₁).err_cases (by simp [he]) with ⟨x, hx, hf⟩ | hn
    · simp [(hcalm x (.tail _ hx)).1] at hf
    · simp only [List.countP_cons, Call.conflicted_get, hn] at hw
      simp only [kubernetesAPIRequestLimit] at hlt
      omega
  · exact (hcalm (.delete r.llv res) (by simp)).2 _ _ rfl

end

theorem one_write_one_conflict :
    ∃ cs s res, Quiet "pvc-1" 1 cs s ∧ s.rel = .pure res ∧ cs.countP Call.conflicted = 1 ∧
      res = none := by
  have h : Quiet "pvc-1" 1 _ _ :=
    .delete (.update (.get (.ctxDone (.updateRefused (.write pvc1 (fun _ => rfl)
      (.get (.init pvc1Store_ok ⟨pvc1, rfl, rfl⟩) rfl))
      rfl (fun o ho => by simp [pvc1Store, pvc1, Store.put, strip] at ho ⊢; subst ho; simp))
      rfl) rfl) rfl rfl rfl) rfl
  exact ⟨_, _, _, h, rfl, rfl, (conflicts_bounded_by_writes h).2.1 _ rfl (by decide)⟩

end LocalLvm.L5.Contention
