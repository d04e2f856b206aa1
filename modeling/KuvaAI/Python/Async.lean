import KuvaAI.Lib.StepGuarantee
import KuvaAI.Python.Value

/-! Coroutines of Python: exceptions that handlers can catch, cancellations that they
cannot, and asynchronous context managers. -/
namespace KuvaAI.Python
open Coroutine

variable {σ Q α : Type} {A : Q → Type}

def raise (e : Exn) : Coroutine σ A Interrupt α := throw (.raised e)

def raiseIf (c : Prop) [Decidable c] (e : Exn) : Coroutine σ A Interrupt Unit :=
  if c then raise e else return ()

def orRaise : Except Exn α → Coroutine σ A Interrupt α
  | .ok a => pure a
  | .error e => raise e

def outcome (result : Except Interrupt α) : Coroutine σ A Interrupt α := MonadExcept.ofExcept result

def exceptException (body : Coroutine σ A Interrupt α) (handler : Exn → Coroutine σ A Interrupt α) :
    Coroutine σ A Interrupt α :=
  tryCatch body fun
    | .raised e => handler e
    | .cancelled => throw .cancelled

/-- `async with`; a manager whose `__aexit__` returns true swallows what its body raised. -/
def asyncWith (enter : Coroutine σ A Interrupt Unit) (exit : Coroutine σ A Interrupt Bool)
    (body : Coroutine σ A Interrupt Unit) : Coroutine σ A Interrupt Unit := do
  enter
  match ← attempt body with
  | .ok () => do
    let _ ← exit
    return ()
  | .error e => do
    let swallowed ← exit
    if swallowed then return () else throw e

section Closed

variable {K : ∀ {α : Type}, Coroutine σ A Interrupt α → Prop} (closed : Closed K)

include closed

theorem closed_raise (e : Exn) : K (raise e : Coroutine σ A Interrupt α) := closed.throw _

theorem closed_raiseIf (c : Prop) [Decidable c] (e : Exn) :
    K (raiseIf c e : Coroutine σ A Interrupt Unit) :=
  Closed.ite (closed_raise closed e) (closed.pure _)

theorem closed_orRaise (result : Except Exn α) : K (orRaise result : Coroutine σ A Interrupt α) := by
  cases result with
  | ok a => exact closed.pure a
  | error e => exact closed_raise closed e

theorem closed_outcome (result : Except Interrupt α) :
    K (outcome result : Coroutine σ A Interrupt α) :=
  closed.ofExcept result

theorem closed_exceptException {body : Coroutine σ A Interrupt α}
    {handler : Exn → Coroutine σ A Interrupt α} (runs : K body) (handled : ∀ e, K (handler e)) :
    K (exceptException body handler) := by
  refine closed.tryCatch runs fun e => ?_
  cases e with
  | raised e => exact handled e
  | cancelled => exact closed.throw _

theorem closed_asyncWith {enter : Coroutine σ A Interrupt Unit} {exit : Coroutine σ A Interrupt Bool}
    {body : Coroutine σ A Interrupt Unit} (entered : K enter) (exited : K exit) (runs : K body) :
    K (asyncWith enter exit body) := by
  refine closed.bind entered fun _ => closed.bind (closed.attempt runs) fun ended => ?_
  cases ended with
  | ok a => exact closed.bind exited fun _ => closed.pure _
  | error e => exact closed.bind exited fun _ => Closed.ite (closed.pure _) (closed.throw _)

end Closed

section Wp

variable {D : Discipline σ A} {i : Nat} {exn : Interrupt → σ → Prop} {s : σ}

@[simp] theorem wp_raise {post : α → σ → Prop} (e : Exn) :
    wp D i post exn (raise e) s ↔ exn (.raised e) s := Iff.rfl

theorem wp_orRaise {post : α → σ → Prop} {result : Except Exn α} (ended : ∀ a, result = .ok a → post a s)
    (raised : ∀ e, result = .error e → exn (.raised e) s) : wp D i post exn (orRaise result) s := by
  cases result with
  | ok a => exact ended a rfl
  | error e => exact raised e rfl

theorem wp_outcome {post : α → σ → Prop} {result : Except Interrupt α}
    (ended : ∀ a, result = .ok a → post a s) (failed : ∀ e, result = .error e → exn e s) :
    wp D i post exn (outcome result) s := by
  cases result with
  | ok a => exact ended a rfl
  | error e => exact failed e rfl

theorem wp_exceptException {post : α → σ → Prop} {body : Coroutine σ A Interrupt α}
    {handler : Exn → Coroutine σ A Interrupt α}
    (holds : wp D i post
      (fun e t => match e with
        | .raised e => wp D i post exn (handler e) t
        | .cancelled => exn .cancelled t) body s) :
    wp D i post exn (exceptException body handler) s := by
  rw [exceptException, wp_tryCatch]
  refine wp_mono holds (fun _ _ ended => ended) fun e t failed => ?_
  cases e with
  | raised e => exact failed
  | cancelled => exact failed

theorem wp_asyncWith {post : Unit → σ → Prop} {enter : Coroutine σ A Interrupt Unit}
    {exit : Coroutine σ A Interrupt Bool} {body : Coroutine σ A Interrupt Unit}
    (holds : wp D i (fun _ => wp D i (fun _ => wp D i (fun _ => post ()) exn exit)
      (fun e => wp D i (fun swallowed t => if swallowed then post () t else exn e t) exn exit) body)
      exn enter s) :
    wp D i post exn (asyncWith enter exit body) s := by
  rw [asyncWith, wp_bind]
  refine wp_mono holds (fun _ t within => ?_) fun _ _ failed => failed
  rw [wp_bind, wp_attempt]
  refine wp_mono within (fun _ u ended => ?_) fun e u failed => ?_
  · exact (wp_bind _ _ u).mpr ended
  · refine (wp_bind _ _ u).mpr (wp_mono failed (fun swallowed v left => ?_) fun _ _ failed => failed)
    cases swallowed with
    | true => exact left
    | false => exact left

theorem triple_exceptException {pre failed : σ → Prop} {post : α → σ → Prop}
    {body : Coroutine σ A Interrupt α} {handler : Exn → Coroutine σ A Interrupt α}
    (runs : Triple D i pre body post fun _ => failed)
    (handled : ∀ e, Triple D i failed (handler e) post exn)
    (cancelled : ∀ s, failed s → exn .cancelled s) :
    Triple D i pre (exceptException body handler) post exn := by
  intro s started
  refine wp_exceptException (wp_mono (runs s started) (fun _ _ ended => ended) fun e t failed => ?_)
  cases e with
  | raised e => exact handled e t failed
  | cancelled => exact cancelled t failed

theorem triple_asyncWith {pre within left : σ → Prop} {enter : Coroutine σ A Interrupt Unit}
    {exit : Coroutine σ A Interrupt Bool} {body : Coroutine σ A Interrupt Unit}
    (entered : Triple D i pre enter (fun _ => within) fun _ => left)
    (runs : Triple D i within body (fun _ => left) fun _ => left)
    (exited : Triple D i left exit (fun _ => left) fun _ => left) :
    Triple D i pre (asyncWith enter exit body) (fun _ => left) fun _ => left := by
  intro s started
  refine wp_asyncWith (wp_mono (entered s started) (fun _ t inside => ?_) fun _ _ failed => failed)
  refine wp_mono (runs t inside) (fun _ u ended => exited u ended) fun e u failed => ?_
  refine wp_mono (exited u failed) (fun swallowed _ closed => ?_) fun _ _ failed => failed
  cases swallowed <;> exact closed

theorem triple_context {pre within ended broken left failed : σ → Prop}
    {enter : Coroutine σ A Interrupt Unit} {exit : Coroutine σ A Interrupt Bool}
    {body : Coroutine σ A Interrupt Unit}
    (entered : Triple D i pre enter (fun _ => within) fun _ => failed)
    (runs : Triple D i within body (fun _ => ended) fun _ => broken)
    (afterEnd : Triple D i ended exit (fun swallowed t => swallowed = false ∧ left t)
      fun _ => failed)
    (afterFailure : Triple D i broken exit (fun swallowed t => swallowed = false ∧ failed t)
      fun _ => failed) :
    Triple D i pre (asyncWith enter exit body) (fun _ => left) fun _ => failed := by
  intro s started
  refine wp_asyncWith (wp_mono (entered s started) (fun _ t inside => ?_) fun _ _ failed => failed)
  refine wp_mono (runs t inside) (fun _ u ended => ?_) fun e u fails => ?_
  · exact wp_mono (afterEnd u ended) (fun _ _ closed => closed.2) fun _ _ failed => failed
  · refine wp_mono (afterFailure u fails) ?_ fun _ _ failed => failed
    rintro _ v ⟨rfl, closed⟩
    exact closed

end Wp

end KuvaAI.Python
