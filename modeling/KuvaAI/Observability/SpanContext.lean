import KuvaAI.Lib.Effect
import KuvaAI.Python.Value

/-! The current span of otel.py: a context variable, in the one context of a task. The
tracer, which makes the spans or fails to, is outside. -/
namespace KuvaAI.Otel
open Python

/-- What has happened, for the record: no code reads it. -/
inductive Event (Span : Type) where
  /-- The tracer is asked for a span of that name. -/
  | started (name : String)
  | observed (span : Option Span)
  | recorded (span : Span) (e : Exn)
  deriving DecidableEq

structure Context (Span : Type) where
  currentSpan : Option Span
  events : List (Event Span)
  deriving DecidableEq

/-- The value of the variable before the `set` that returned the token. -/
structure Token (Span : Type) where
  oldValue : Option Span

variable {Span : Type}

abbrev Run (Span : Type) := Effect (Context Span) Interrupt

def record (event : Event Span) : Run Span PUnit := modify fun w => { w with events := w.events ++ [event] }

def set (value : Option Span) : Run Span (Token Span) := do
  let w ← get
  modify fun w => { w with currentSpan := value }
  return ⟨w.currentSpan⟩

def reset (token : Token Span) : Run Span PUnit := modify fun w => { w with currentSpan := token.oldValue }

def getCurrentSpan : Run Span (Option Span) := do
  let w ← get
  return w.currentSpan

/-- `start_as_current_span`, around the body of its `with`. -/
def startAsCurrentSpan (name : String) (made : Except Interrupt Span) (body : Span → Run Span Unit) :
    Run Span Unit := do
  let token ← set none
  Effect.ensuring (do
    record (.started name)
    let span ← Effect.fromExcept made
    let _ ← set (some span)
    body span) (reset token)

def exceptException {σ : Type} (body : Effect σ Interrupt Unit) (handler : Exn → Effect σ Interrupt Unit) :
    Effect σ Interrupt Unit :=
  tryCatch body fun
    | .raised e => handler e
    | .cancelled => throw .cancelled

/-- `span_name or` the name of the function. -/
def nameOf (spanName : Option String) (function : String) : String :=
  (spanName.filter fun name => name ≠ "").getD function

/-- A call of a function that `trace` has decorated. -/
def trace (spanName : Option String) (function : String) (recordException : Bool)
    (made : Except Interrupt Span) (func : Run Span Unit) : Run Span Unit :=
  startAsCurrentSpan (nameOf spanName function) made fun _ => exceptException func fun e => do
    if recordException then
      match ← getCurrentSpan with
      | some span => record (.recorded span e)
      | none => pure ()
    throw (.raised e)

inductive Code (Span : Type) where
  | pass
  | raise (e : Interrupt)
  | getCurrentSpan
  | seq (first second : Code Span)
  | tryExcept (body handler : Code Span)
  | tryFinally (body cleanup : Code Span)
  | block (name : String) (made : Except Interrupt Span) (body : Code Span)
  | traced (spanName : Option String) (function : String) (recordException : Bool)
      (made : Except Interrupt Span) (func : Code Span)

namespace Code

def run : Code Span → Run Span Unit
  | pass => return ()
  | raise e => throw e
  | getCurrentSpan => do record (.observed (← Otel.getCurrentSpan))
  | seq first second => do
    first.run
    second.run
  | tryExcept body handler => exceptException body.run fun _ => handler.run
  | tryFinally body cleanup => Effect.ensuring body.run cleanup.run
  | block name made body => startAsCurrentSpan name made fun _ => body.run
  | traced spanName function recordException made func =>
    trace spanName function recordException made func.run

/-- What the code is to do inside a body whose own span is `own`. The span of a block is
known only to the body of that block, and nothing is ever set or reset. -/
def lexical (own : Option Span) : Code Span → Effect (List (Event Span)) Interrupt Unit
  | pass => return ()
  | raise e => throw e
  | getCurrentSpan => modify (· ++ [.observed own])
  | seq first second => do
    first.lexical own
    second.lexical own
  | tryExcept body handler => exceptException (body.lexical own) fun _ => handler.lexical own
  | tryFinally body cleanup => Effect.ensuring (body.lexical own) (cleanup.lexical own)
  | block name made body => do
    modify (· ++ [.started name])
    let span ← Effect.fromExcept made
    body.lexical (some span)
  | traced spanName function recordException made func => do
    modify (· ++ [.started (nameOf spanName function)])
    let span ← Effect.fromExcept made
    exceptException (func.lexical (some span)) fun e => do
      if recordException then
        modify (· ++ [.recorded span e])
      throw (.raised e)

end Code

section Nesting

variable {α β : Type}

def Nests (own : Option Span) (x : Run Span α) (y : Effect (List (Event Span)) Interrupt α) : Prop :=
  ∀ events, x ⟨own, events⟩ = ((y events).1, ⟨own, (y events).2⟩)

variable {own : Option Span} {x : Run Span Unit} {y : Effect (List (Event Span)) Interrupt Unit}

namespace Nests

theorem record (event : Event Span) : Nests own (record event) (modify (· ++ [event])) := fun _ => rfl

theorem throw (e : Interrupt) : Nests own (throw e : Run Span α) (throw e) := fun _ => rfl

theorem pure (a : α) : Nests own (pure a : Run Span α) (pure a) := fun _ => rfl

theorem fromExcept (made : Except Interrupt α) :
    Nests own (Effect.fromExcept made) (Effect.fromExcept made) := fun _ => rfl

theorem bind {x : Run Span α} {y : Effect (List (Event Span)) Interrupt α} {f : α → Run Span β}
    {g : α → Effect (List (Event Span)) Interrupt β} (nests : Nests own x y)
    (rest : ∀ a, Nests own (f a) (g a)) : Nests own (x >>= f) (y >>= g) := by
  intro events
  simp only [Bind.bind, nests events]
  rcases y events with ⟨result, later⟩
  cases result with
  | ok a => exact rest a later
  | error e => rfl

theorem ensuring {cleanup : Run Span PUnit} {cleaned : Effect (List (Event Span)) Interrupt PUnit}
    (nests : Nests own x y) (after : Nests own cleanup cleaned) :
    Nests own (x.ensuring cleanup) (y.ensuring cleaned) := by
  intro events
  simp only [Effect.ensuring, nests events, after (y events).2]
  rcases cleaned (y events).2 with ⟨ended, _⟩
  cases ended <;> rfl

theorem exceptException {handler : Exn → Run Span Unit}
    {handled : Exn → Effect (List (Event Span)) Interrupt Unit} (nests : Nests own x y)
    (rest : ∀ e, Nests own (handler e) (handled e)) :
    Nests own (exceptException x handler) (exceptException y handled) := by
  intro events
  simp only [Otel.exceptException, tryCatch, tryCatchThe, MonadExceptOf.tryCatch, nests events]
  rcases y events with ⟨result, later⟩
  cases result with
  | ok a => rfl
  | error e =>
    cases e with
    | raised e => exact rest e later
    | cancelled => rfl

/-- The one reset undoes both sets, and the first alone when there is no span. -/
theorem block (name : String) (made : Except Interrupt Span) {x : Span → Run Span Unit}
    {y : Span → Effect (List (Event Span)) Interrupt Unit}
    (nests : ∀ span, Nests (some span) (x span) (y span)) :
    Nests own (startAsCurrentSpan name made x) (do
      modify (· ++ [.started name])
      let span ← Effect.fromExcept made
      y span) := by
  intro events
  cases made with
  | error e => rfl
  | ok span =>
    change ((x span ⟨some span, events ++ [.started name]⟩).1,
      { (x span ⟨some span, events ++ [.started name]⟩).2 with currentSpan := own }) = _
    rw [nests span]
    rfl

theorem recording (span : Span) (recordException : Bool) (e : Exn) :
    Nests (some span) (do
      if recordException then
        match ← getCurrentSpan with
        | some span => Otel.record (.recorded span e)
        | none => Pure.pure ()
      MonadExcept.throw (Interrupt.raised e)) (do
      if recordException then
        modify (· ++ [.recorded span e])
      MonadExcept.throw (Interrupt.raised e) : Effect (List (Event Span)) Interrupt Unit) := by
  intro events
  cases recordException <;> rfl

end Nests

theorem run_nests (code : Code Span) (own : Option Span) : Nests own code.run (code.lexical own) := by
  induction code generalizing own with
  | pass => exact .pure ()
  | raise e => exact .throw e
  | getCurrentSpan => exact fun _ => rfl
  | seq first second ihFirst ihSecond => exact (ihFirst own).bind fun _ => ihSecond own
  | tryExcept body handler ihBody ihHandler => exact (ihBody own).exceptException fun _ => ihHandler own
  | tryFinally body cleanup ihBody ihCleanup => exact (ihBody own).ensuring (ihCleanup own)
  | block name made body ih => exact .block name made fun span => ih (some span)
  | traced spanName function recordException made func ih =>
    exact .block _ made fun span =>
      (ih (some span)).exceptException fun e => .recording span recordException e

end Nesting

/-- Whatever nests in it and however it ends, a piece of code leaves the current span as it
was, and what it observes and records is what the blocks around each place say. -/
theorem spans_nest (code : Code Span) (w : Context Span) :
    (code.run w).2.currentSpan = w.currentSpan ∧
    (code.run w).1 = (code.lexical w.currentSpan w.events).1 ∧
    (code.run w).2.events = (code.lexical w.currentSpan w.events).2 := by
  rw [show code.run w = _ from run_nests code w.currentSpan w.events]
  exact ⟨rfl, rfl, rfl⟩

/-- A block fails inside another one, whose span is then the current one again. -/
example : (Code.run (.block "outer" (.ok 1) (.seq
    (.tryExcept (.block "inner" (.ok 2) (.seq .getCurrentSpan (.raise (.raised ⟨.valueError, ""⟩)))) .pass)
      .getCurrentSpan)) ⟨none, []⟩ : Except Interrupt Unit × Context Nat) =
    (.ok (), ⟨none, [.started "outer", .started "inner", .observed (some 2), .observed (some 1)]⟩) := by
  rfl

end KuvaAI.Otel
