import KuvaAI.Lib.Permits
import KuvaAI.Lib.StepGuarantee
import KuvaAI.Python.Value
import Mathlib.Logic.Function.Basic

/-! The reconciliations of operator.py, any number at a time on one operator. The lifecycle
manager, the metrics, the circuit breaker and tenacity are outside, and any task may be
cancelled wherever it waits. -/
namespace KuvaAI.Reconcile
open Python Coroutine

/-- What ends a call early: the exceptions of pydantic, aiohttp and tenacity, all others,
and a cancellation, which `except Exception` does not catch. -/
inductive Failure where
  | validation (text : String)
  | client (text : String)
  | retryError
  | exception (e : Exn)
  | cancelled

abbrev Fields := List (String × Value)

structure AgentStatus where
  state : Value
  fields : Fields

inductive Action (Spec : Type) where
  | start (spec : Spec)
  | stop
  | terminate
  | restart

inductive Decision where
  | again (seconds : Nat)
  | retryError
  | reraise

/-- `AsyncRetrying` as `reconcile` asks for it: a network error is tried again until the
third attempt, and nothing else is. -/
structure AsyncRetrying where
  after : Nat → Failure → Decision
  retried : ∀ number text, number < 3 → ∃ seconds, after number (.client text) = .again seconds
  stopped : ∀ text, after 3 (.client text) = .retryError
  reraised : ∀ number e, (∀ text, e ≠ .client text) → after number e = .reraise

structure Env (Spec : Type) where
  parse : Fields → Except Failure Spec
  text : Value → String
  retrying : AsyncRetrying
  maxConcurrentReconciles : Nat
  /-- `feature_gates["selfHealing"]`. -/
  selfHealing : Except Exn Bool

structure ResourceState where
  desired : Fields
  current : Fields

/-- How the attempts of a reconciliation have failed, for the record: how many with a network
error, and whether one did with a `RetryError` of something that it called. -/
structure Tries where
  failures : Nat
  retryError : Bool

def Tries.fail (tries : Tries) : Failure → Tries
  | .client _ => { tries with failures := tries.failures + 1 }
  | .retryError => { tries with retryError := true }
  | _ => tries

/-- An action, for the record, with what had failed of the same reconciliation by then. -/
structure Done (Spec : Type) extends Tries where
  resource : String
  action : Action Spec

/-- The states of the resources are objects that reconciliations share. -/
structure Operator (Spec : Type) where
  store : String → Option Nat
  objects : List ResourceState
  semaphore : Permits
  tries : Nat → Tries
  actions : List (Done Spec)

inductive Call (Spec : Type) where
  | permit
  | getStatus (resource : String)
  | enter (resource : String)
  | exit (resource : String)
  | act (resource : String) (action : Action Spec)
  | recordMetric (name : String)
  | trigger
  | sleep (seconds : Nat)

inductive Wake where
  | woken
  | cancelled

def Answer (Spec : Type) : Call Spec → Type
  | .permit | .sleep _ => Wake
  | .getStatus _ => Except Failure AgentStatus
  | .exit _ => Except Failure Bool
  | _ => Except Failure Unit

variable {Spec : Type}

abbrev Task (Spec : Type) := Coroutine (Operator Spec) (Answer Spec) Failure

def served (_ : Nat) : (call : Call Spec) → Answer Spec call → Operator Spec → Prop
  | .permit, .woken, g => 0 < g.semaphore.free
  | _, _, _ => True

namespace Operator

variable (g : Operator Spec)

def desired (resource : String) : Fields :=
  match g.store resource with
  | some object => (g.objects[object]?.map ResourceState.desired).getD []
  | none => []

def allocate : Operator Spec := { g with objects := g.objects ++ [⟨[], []⟩] }

def setCurrent (object : Nat) (status : AgentStatus) : Operator Spec :=
  { g with objects := g.objects.modify object fun state => { state with current := status.fields } }

def setStore (resource : String) (object : Nat) : Operator Spec :=
  { g with store := Function.update g.store resource (some object) }

def setTries (task : Nat) (tries : Tries) : Operator Spec :=
  { g with tries := Function.update g.tries task tries }

end Operator

section Reconciliation

variable (env : Env Spec) (task : Nat) (resource : String)

def ask (call : Call Spec) (answered : Answer Spec call → Except Failure Unit) : Task Spec Unit := do
  MonadExcept.ofExcept (answered (← wait call))

/-- `self._state_store.get(resource_id, ResourceState())`. -/
def lookup : Task Spec Nat := do
  let g ← get
  match g.store resource with
  | some object => return object
  | none => do
    modify fun g => g.allocate
    return g.objects.length

def act (action : Action Spec) : Task Spec Unit := do
  modify fun g => { g with actions := g.actions ++ [⟨g.tries task, resource, action⟩] }
  ask (.act resource action) id

def targetAction (spec : Spec) (target : Value) : Except Failure (Action Spec) :=
  if target.eq (.str "RUNNING") then .ok (.start spec)
  else if target.eq (.str "STOPPED") then .ok .stop
  else if target.eq (.str "TERMINATED") then .ok .terminate
  else .error (.exception ⟨.valueError, "Invalid target state: " ++ env.text target⟩)

def desiredAction (spec : Fields) : Except Failure (Action Spec) :=
  match spec.lookup "targetState" with
  | none => .error (.exception ⟨.keyError, "'targetState'"⟩)
  | some target => do
    let agentSpec ← env.parse spec
    targetAction env agentSpec target

/-- `_apply_state_change`, within its `managed_operation`. -/
def applyStateChange (spec : Fields) : Task Spec Unit := do
  ask (.enter resource) id
  let result ← attempt (do
    let action ← MonadExcept.ofExcept (desiredAction env spec)
    act task resource action)
  let exited : Except Failure Bool ← wait (Call.exit resource)
  let swallowed ← MonadExcept.ofExcept exited
  match result with
  | .ok () => return ()
  | .error e => if swallowed then return () else throw e

def updateResourceState (object : Nat) : Task Spec Unit := do
  modify fun g => g.setStore resource object
  ask (.recordMetric "resource_state_version") id

def changeState (spec : Fields) (status : AgentStatus) : Task Spec Unit :=
  if status.state.eq ((spec.lookup "targetState").getD .none) then return ()
  else applyStateChange env task resource spec

/-- The body of the `try` of `_perform_reconciliation`. -/
def attemptReconciliation (object : Nat) (spec : Fields) : Task Spec Unit := do
  let answered : Except Failure AgentStatus ← wait (Call.getStatus resource)
  let status ← MonadExcept.ofExcept answered
  modify fun g => g.setCurrent object status
  changeState env task resource spec status
  updateResourceState resource object
  ask (.recordMetric "reconcile_success_total") id

def onFailure : Failure → Task Spec Unit
  | .validation _ => ask (.recordMetric "reconcile_validation_errors_total") id
  | .client text => throw (.client text)
  | .cancelled => throw .cancelled
  | e => do
    ask .trigger id
    throw e

def performReconciliation : Task Spec Unit := do
  let object ← lookup resource
  let g ← get
  let spec := (g.objects[object]?.map ResourceState.desired).getD []
  tryCatch (attemptReconciliation env task resource object spec) onFailure

def handleReconciliationFailure : Task Spec Unit := do
  ask (.recordMetric "reconcile_failure_total") id
  let healing ← match env.selfHealing with
    | .ok healing => pure healing
    | .error e => throw (.exception e)
  if healing then act task resource .restart else return ()

def pause (seconds : Nat) : Task Spec Unit := do
  let wake : Wake ← wait (Call.sleep seconds)
  match wake with
  | .woken => return ()
  | .cancelled => throw .cancelled

/-- At most so many attempts from the one of this number on. -/
def retrying : Nat → Nat → Task Spec Unit
  -- no attempt follows the third
  | 0, _ => throw .cancelled
  | attempts + 1, number => do
    let result ← attempt (performReconciliation env task resource)
    match result with
    | .ok () => return ()
    | .error e => do
      modify fun g => g.setTries task ((g.tries task).fail e)
      match env.retrying.after number e with
      | .again seconds => do
        pause seconds
        retrying attempts (number + 1)
      | .retryError => throw .retryError
      | .reraise => throw e

def takePermit : Task Spec Unit := modify fun g => { g with semaphore := g.semaphore.take task }

def acquire : Task Spec Unit := do
  let g ← get
  if g.semaphore.free = 0 then do
    let wake : Wake ← wait Call.permit
    match wake with
    | .woken => takePermit task
    | .cancelled => throw .cancelled
  else
    takePermit task

/-- The `except` clause of `reconcile`, which any `RetryError` reaches. -/
def onExhausted : Failure → Task Spec Unit
  | .retryError => handleReconciliationFailure env task resource
  | e => throw e

def reconcile : Task Spec Unit := do
  acquire task
  finallyDo (do
    modify fun g => g.setTries task ⟨0, false⟩
    tryCatch (retrying env task resource 3 1) (onExhausted env task resource))
    (modify fun g => { g with semaphore := g.semaphore.give task })

end Reconciliation

def Operator.init (env : Env Spec) : Operator Spec where
  store _ := none
  objects := []
  semaphore := .full env.maxConcurrentReconciles
  tries _ := ⟨0, false⟩
  actions := []

/-- Reconciliations of the control loop and of `trigger_reconciliation`. -/
def IsReconciliation (env : Env Spec) (task : Nat) (x : Task Spec Unit) : Prop :=
  ∃ resource, x = reconcile env task resource

def Reaches (env : Env Spec) (start : Operator Spec)
    (c : Config (Operator Spec) (Answer Spec) Failure Unit) : Prop :=
  Reachable served (IsReconciliation env) start c

end KuvaAI.Reconcile
