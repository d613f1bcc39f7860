import LocalLvm.L1Api.Objects

/-!
# Calls to the API server as a tree

The deprovision path of the local-volume driver (`DeleteLVMLogicalVolume`,
`removeLLVFinalizerIfExist`) is a sequence of calls to the API server and
reads of the request context, each continued by what it returned. `Kube α` is
that call tree: one node per call, whose child is chosen by the reply.

The replies are not under the program's control. `Runs p cs a` says that `p`
can make the calls `cs`, each recorded with the reply it got, and end with
`a`. Every way of choosing the replies gives a run (`runs_run`: run `p`
against any `Oracle`), so a statement about every run of `p` is a statement
about every sequence of store responses.

`After p cs q` says that `p`, once it has made the calls `cs`, is left with
`q`; a run of `q` completes a run of `p` (`After.runs`). This is how a run
interleaved with other parties is read back as a run of the program.
-/
namespace LocalLvm.L1

/-- A computation against the API server (`kc`) and the request context (`ctx`). -/
inductive Kube (α : Type) where
  | pure (a : α)
  /-- `kc.Get(ctx, {Name: name}, &llv)`. -/
  | get (name : String) (k : Except Err LVMLogicalVolume → Kube α)
  /-- `kc.Update(ctx, llv)`; on success the client decodes the stored object. -/
  | update (llv : LVMLogicalVolume) (k : Except Err LVMLogicalVolume → Kube α)
  /-- `kc.Delete(ctx, llv)`. -/
  | delete (llv : LVMLogicalVolume) (k : Option Err → Kube α)
  /-- A `select` on `ctx.Done()` with a `default` branch: `true` when the
  context is done. -/
  | ctxDone (k : Bool → Kube α)

/-- One call made, with its reply. -/
inductive Call where
  | get (name : String) (reply : Except Err LVMLogicalVolume)
  | update (llv : LVMLogicalVolume) (reply : Except Err LVMLogicalVolume)
  | delete (llv : LVMLogicalVolume) (reply : Option Err)
  | ctxDone (done : Bool)

namespace Kube

variable {α β : Type}

def bind : Kube α → (α → Kube β) → Kube β
  | .pure a, f => f a
  | .get n k, f => .get n fun r => (k r).bind f
  | .update u k, f => .update u fun r => (k r).bind f
  | .delete u k, f => .delete u fun r => (k r).bind f
  | .ctxDone k, f => .ctxDone fun b => (k b).bind f

/-- `p` can make the calls `cs` (with these replies) and return `a`. -/
inductive Runs : Kube α → List Call → α → Prop
  | pure (a : α) : Runs (.pure a) [] a
  | get {n k cs a} (r : Except Err LVMLogicalVolume) :
      Runs (k r) cs a → Runs (.get n k) (.get n r :: cs) a
  | update {u k cs a} (r : Except Err LVMLogicalVolume) :
      Runs (k r) cs a → Runs (.update u k) (.update u r :: cs) a
  | delete {u k cs a} (r : Option Err) :
      Runs (k r) cs a → Runs (.delete u k) (.delete u r :: cs) a
  | ctxDone {k cs a} (b : Bool) : Runs (k b) cs a → Runs (.ctxDone k) (.ctxDone b :: cs) a

@[simp] theorem runs_pure {a b : α} {cs : List Call} : Runs (.pure a) cs b ↔ cs = [] ∧ b = a := by
  constructor
  · intro h; cases h; exact ⟨rfl, rfl⟩
  · rintro ⟨rfl, rfl⟩; exact .pure _

theorem runs_nil {p : Kube α} {a : α} (h : Runs p [] a) : p = .pure a := by
  cases h; rfl

@[simp] theorem runs_get {n : String} {k : Except Err LVMLogicalVolume → Kube α} {cs : List Call}
    {a : α} : Runs (.get n k) cs a ↔ ∃ r cs', cs = .get n r :: cs' ∧ Runs (k r) cs' a := by
  constructor
  · rintro ⟨⟩; exact ⟨_, _, rfl, ‹_›⟩
  · rintro ⟨r, cs', rfl, h⟩; exact .get r h

@[simp] theorem runs_update {u : LVMLogicalVolume} {k : Except Err LVMLogicalVolume → Kube α}
    {cs : List Call} {a : α} :
    Runs (.update u k) cs a ↔ ∃ r cs', cs = .update u r :: cs' ∧ Runs (k r) cs' a := by
  constructor
  · rintro ⟨⟩; exact ⟨_, _, rfl, ‹_›⟩
  · rintro ⟨r, cs', rfl, h⟩; exact .update r h

@[simp] theorem runs_delete {u : LVMLogicalVolume} {k : Option Err → Kube α} {cs : List Call}
    {a : α} : Runs (.delete u k) cs a ↔ ∃ r cs', cs = .delete u r :: cs' ∧ Runs (k r) cs' a := by
  constructor
  · rintro ⟨⟩; exact ⟨_, _, rfl, ‹_›⟩
  · rintro ⟨r, cs', rfl, h⟩; exact .delete r h

@[simp] theorem runs_ctxDone {k : Bool → Kube α} {cs : List Call} {a : α} :
    Runs (.ctxDone k) cs a ↔ ∃ b cs', cs = .ctxDone b :: cs' ∧ Runs (k b) cs' a := by
  constructor
  · rintro ⟨⟩; exact ⟨_, _, rfl, ‹_›⟩
  · rintro ⟨b, cs', rfl, h⟩; exact .ctxDone b h

/-- A run of `p.bind f` is a run of `p` followed by a run of its continuation. -/
theorem runs_bind {p : Kube α} {f : α → Kube β} {cs : List Call} {b : β} :
    Runs (p.bind f) cs b ↔ ∃ cs₁ cs₂ a, cs = cs₁ ++ cs₂ ∧ Runs p cs₁ a ∧ Runs (f a) cs₂ b := by
  induction p generalizing cs with
  | pure a =>
    constructor
    · intro h; exact ⟨[], cs, a, rfl, .pure a, h⟩
    · rintro ⟨_, _, _, rfl, h₁, h₂⟩; cases h₁; exact h₂
  | get _ _ ih | update _ _ ih | delete _ _ ih | ctxDone _ ih =>
    simp only [bind, runs_get, runs_update, runs_delete, runs_ctxDone, ih]
    constructor
    · rintro ⟨r, _, rfl, cs₁, cs₂, a, rfl, h₁, h₂⟩; exact ⟨_, cs₂, a, rfl, ⟨r, cs₁, rfl, h₁⟩, h₂⟩
    · rintro ⟨_, cs₂, a, rfl, ⟨r, cs₁, rfl, h₁⟩, h₂⟩; exact ⟨r, _, rfl, cs₁, cs₂, a, rfl, h₁, h₂⟩

/-- The API server and the context as an adversary: each reply may depend on
every call made before it. -/
structure Oracle where
  get : List Call → String → Except Err LVMLogicalVolume
  update : List Call → LVMLogicalVolume → Except Err LVMLogicalVolume
  delete : List Call → LVMLogicalVolume → Option Err
  ctxDone : List Call → Bool

/-- Runs `p` against `o` after the calls `h`: the calls `p` makes and its result. -/
def run (o : Oracle) (h : List Call) : Kube α → List Call × α
  | .pure a => ([], a)
  | .get n k =>
    let r := o.get h n
    let x := run o (h ++ [.get n r]) (k r)
    (.get n r :: x.1, x.2)
  | .update u k =>
    let r := o.update h u
    let x := run o (h ++ [.update u r]) (k r)
    (.update u r :: x.1, x.2)
  | .delete u k =>
    let r := o.delete h u
    let x := run o (h ++ [.delete u r]) (k r)
    (.delete u r :: x.1, x.2)
  | .ctxDone k =>
    let b := o.ctxDone h
    let x := run o (h ++ [.ctxDone b]) (k b)
    (.ctxDone b :: x.1, x.2)

/-- Every oracle gives a run: no choice of replies leaves the program stuck. -/
theorem runs_run (o : Oracle) (h : List Call) (p : Kube α) : Runs p (run o h p).1 (run o h p).2 := by
  induction p generalizing h with
  | pure a => exact .pure a
  | get n k ih => exact .get _ (ih _ _)
  | update u k ih => exact .update _ (ih _ _)
  | delete u k ih => exact .delete _ (ih _ _)
  | ctxDone k ih => exact .ctxDone _ (ih _ _)

/-- Every program has a run: answer each call with an error, each Delete with
success and each context check with "done". -/
theorem exists_runs (p : Kube α) : ∃ cs a, Runs p cs a :=
  ⟨_, _, runs_run ⟨fun _ _ => .error .ctx, fun _ _ => .error .ctx, fun _ _ => none, fun _ => true⟩ [] p⟩

/-! ## What is left after some calls -/

/-- `q` is what is left of `p` once its first call is answered as `c` records. -/
inductive Next : Kube α → Call → Kube α → Prop
  | get {n k} (r : Except Err LVMLogicalVolume) : Next (.get n k) (.get n r) (k r)
  | update {u k} (r : Except Err LVMLogicalVolume) : Next (.update u k) (.update u r) (k r)
  | delete {u k} (r : Option Err) : Next (.delete u k) (.delete u r) (k r)
  | ctxDone {k} (b : Bool) : Next (.ctxDone k) (.ctxDone b) (k b)

/-- `p` can make the calls `cs`, with these replies, and be left with `q`. -/
inductive After (p : Kube α) : List Call → Kube α → Prop
  | nil : After p [] p
  | snoc {cs q c q'} : After p cs q → Next q c q' → After p (cs ++ [c]) q'

theorem Next.runs {p q : Kube α} {c : Call} {cs : List Call} {a : α} (h : Next p c q)
    (hq : Runs q cs a) : Runs p (c :: cs) a := by
  cases h with
  | get r => exact .get r hq
  | update r => exact .update r hq
  | delete r => exact .delete r hq
  | ctxDone b => exact .ctxDone b hq

/-- A run of what is left after `cs` completes a run of `p` that begins with `cs`. -/
theorem After.runs {p q : Kube α} {cs cs' : List Call} {a : α} (h : After p cs q)
    (hq : Runs q cs' a) : Runs p (cs ++ cs') a := by
  induction h generalizing cs' with
  | nil => exact hq
  | snoc _ hn ih => simpa using ih (hn.runs hq)

end Kube

namespace Call

def isUpdate : Call → Bool
  | .update .. => true
  | _ => false

def isGet : Call → Bool
  | .get .. => true
  | _ => false

def isDelete : Call → Bool
  | .delete .. => true
  | _ => false

/-- An Update the store accepted. -/
def updated : Call → Bool
  | .update _ (.ok _) => true
  | _ => false

/-- An Update rejected with a version conflict. -/
def conflicted : Call → Bool
  | .update _ (.error e) => isConflict e
  | _ => false

section
variable {n : String} {u : LVMLogicalVolume} {x : LVMLogicalVolume} {e : Err}
  {g : Except Err LVMLogicalVolume} {d : Option Err} {b : Bool}

@[simp] theorem isUpdate_update : (update u g).isUpdate = true := rfl
@[simp] theorem isUpdate_get : (get n g).isUpdate = false := rfl
@[simp] theorem isUpdate_delete : (delete u d).isUpdate = false := rfl
@[simp] theorem isUpdate_ctxDone : (ctxDone b).isUpdate = false := rfl
@[simp] theorem isGet_update : (update u g).isGet = false := rfl
@[simp] theorem isGet_get : (get n g).isGet = true := rfl
@[simp] theorem isGet_delete : (delete u d).isGet = false := rfl
@[simp] theorem isGet_ctxDone : (ctxDone b).isGet = false := rfl
@[simp] theorem isDelete_update : (update u g).isDelete = false := rfl
@[simp] theorem isDelete_get : (get n g).isDelete = false := rfl
@[simp] theorem isDelete_delete : (delete u d).isDelete = true := rfl
@[simp] theorem isDelete_ctxDone : (ctxDone b).isDelete = false := rfl
@[simp] theorem updated_update_ok : (update u (.ok x)).updated = true := rfl
@[simp] theorem updated_update_error : (update u (.error e)).updated = false := rfl
@[simp] theorem updated_get : (get n g).updated = false := rfl
@[simp] theorem updated_delete : (delete u d).updated = false := rfl
@[simp] theorem updated_ctxDone : (ctxDone b).updated = false := rfl
@[simp] theorem conflicted_update_ok : (update u (.ok x)).conflicted = false := rfl
@[simp] theorem conflicted_update_error : (update u (.error e)).conflicted = isConflict e := rfl
@[simp] theorem conflicted_get : (get n g).conflicted = false := rfl
@[simp] theorem conflicted_delete : (delete u d).conflicted = false := rfl
@[simp] theorem conflicted_ctxDone : (ctxDone b).conflicted = false := rfl

end

end Call

end LocalLvm.L1
