import KuvaAI.Python.Async

/-! An agent of base.py and the tasks that share it: calls of `start` and `stop`, and the
heartbeats that `start` creates. A heartbeat is known by the order of creation, and nothing but
`stop` cancels one; what else the event bus and the dependencies come to is given from
outside. -/
namespace KuvaAI.Heartbeats
open Python Coroutine

inductive Status where
  | created
  | running (task : Nat)
  | returned
  | failed (e : Exn)
  | cancelled
  deriving DecidableEq

def Status.Live : Status → Prop
  | .created | .running _ => True
  | .returned | .failed _ | .cancelled => False

instance (status : Status) : Decidable status.Live :=
  match status with
  | .created | .running _ => isTrue trivial
  | .returned | .failed _ | .cancelled => isFalse id

def Status.outcome : Status → Except Interrupt Unit
  | .failed e => .error (.raised e)
  | .cancelled => .error .cancelled
  | .created | .running _ | .returned => .ok ()

def Status.ofInterrupt : Interrupt → Status
  | .raised e => .failed e
  | .cancelled => .cancelled

def Status.ended : Except Interrupt Unit → Status
  | .ok _ => .returned
  | .error e => .ofInterrupt e

/-- Whether a task has been asked to stop, and whether that has reached it where it waits. -/
inductive Cancellation where
  | unasked | pending | delivered
  deriving DecidableEq

structure Heartbeat where
  status : Status
  cancellation : Cancellation
  deriving DecidableEq

namespace Heartbeat

def Asked (h : Heartbeat) : Prop := h.cancellation ≠ .unasked

def fresh : Heartbeat := ⟨.created, .unasked⟩

def receive (h : Heartbeat) : Heartbeat :=
  { h with cancellation := if h.cancellation = .pending then .delivered else h.cancellation }

def begin (task : Nat) (h : Heartbeat) : Heartbeat := { h.receive with status := .running task }

def settle (ended : Except Interrupt Unit) (h : Heartbeat) : Heartbeat :=
  { h with status := .ended ended }

def cancel (h : Heartbeat) : Heartbeat :=
  if h.status.Live then { h with cancellation := .pending } else h

end Heartbeat

inductive Dependency where
  | agent | awaitable
  deriving DecidableEq

/-- An agent with the lock and the state of its `AgentLifecycleState`. The heartbeats include
those that no attribute refers to any more. -/
structure AgentBase where
  className : String
  agentId : String
  dependencies : Dict String Dependency
  state : String
  locked : Bool
  heartbeatTask : Option Nat
  heartbeats : List Heartbeat

namespace AgentBase

variable (a : AgentBase)

def init (className agentId : String) (dependencies : Dict String Dependency) : AgentBase :=
  ⟨className, agentId, dependencies, "INIT", false, none, []⟩

def change (n : Nat) (f : Heartbeat → Heartbeat) : AgentBase :=
  { a with heartbeats := a.heartbeats.modify n f }

def createTask : AgentBase :=
  { a with
    heartbeatTask := some a.heartbeats.length
    heartbeats := a.heartbeats ++ [.fresh] }

end AgentBase

inductive Call where
  | lock
  | dependency (name : String)
  | scheduled (n : Nat)
  | publish (n : Nat) (topic agentId : String)
  | sleep (n : Nat)
  /-- Where a heartbeat is followed no further. -/
  | unfollowed
  | finished (n : Nat)
  | unsubscribeAll
  /-- What is done within `async with`. -/
  | body

abbrev Answer (_ : Call) : Type := Except Interrupt Unit

abbrev Task := Coroutine AgentBase Answer Interrupt

/-- A heartbeat is cancelled only after it has been asked to stop, and a sleep has to be. The
publication may end in another way. The wait for a heartbeat lasts until it has ended, also
for a task that is cancelled itself: this asks the heartbeat once more. -/
def served (_ : Nat) (call : Call) (result : Except Interrupt Unit) (a : AgentBase) : Prop :=
  match call with
  | .lock => result = .error .cancelled ∨ result = .ok () ∧ a.locked = false
  | .scheduled n => ∃ h, a.heartbeats[n]? = some h ∧ h.status = .created ∧
      result = if h.cancellation = .pending then .error .cancelled else .ok ()
  | .publish n _ _ => result = .error .cancelled → ∃ h, a.heartbeats[n]? = some h ∧ h.Asked
  | .sleep n => ∃ h, a.heartbeats[n]? = some h ∧
      (result = .ok () ∧ h.cancellation ≠ .pending ∨ result = .error .cancelled ∧ h.Asked)
  | .unfollowed => False
  | .finished n => (result = .ok () ∨ result = .error .cancelled) ∧
      ∃ h, a.heartbeats[n]? = some h ∧ ¬ h.status.Live
  | .dependency _ | .unsubscribeAll | .body => True

def await (call : Call) : Task Unit := do
  let result : Except Interrupt Unit ← wait call
  outcome result

/-- `except asyncio.CancelledError`. -/
def exceptCancelled {α : Type} (body handler : Task α) : Task α :=
  tryCatch body fun e => if e = .cancelled then handler else throw e

section Transitions

def states : List String := ["INIT", "STARTING", "RUNNING", "PAUSED", "STOPPING", "TERMINATED"]

def acquire : Task Unit := do
  let a ← get
  if a.locked then
    await .lock
  modify fun a => { a with locked := true }

def release : Task Bool := do
  modify fun a => { a with locked := false }
  return false

def transition (newState : String) : Task Unit :=
  asyncWith acquire release do
    let a ← get
    if newState ∈ states then
      modify fun a => { a with state := newState }
    else
      raise ⟨.other, s!"Invalid state transition: {a.state} -> {newState}"⟩

end Transitions

section Heartbeats

/-- Where a heartbeat waits it receives the cancellation that is pending. -/
def pause (n : Nat) (call : Call) : Task Unit := do
  let result : Except Interrupt Unit ← wait call
  modify fun a => a.change n .receive
  outcome result

def beat (n : Nat) : Task Unit := do
  let a ← get
  pause n (.publish n "agent.heartbeat" a.agentId)
  pause n (.sleep n)

/-- `_heartbeat`, for this many rounds of its loop. -/
def heartbeat (n : Nat) : Nat → Task Unit
  | 0 => await .unfollowed
  | rounds + 1 => do
    let again ← exceptCancelled (do beat n; return true) (return false)
    if again then heartbeat n rounds else return ()

/-- The task that runs heartbeat `n`; it may be cancelled before it begins. -/
def runHeartbeat (task n rounds : Nat) : Task Unit := do
  let started : Except Interrupt Unit ← wait (Call.scheduled n)
  modify fun a => a.change n (.begin task)
  let ended ← attempt (do outcome started; heartbeat n rounds)
  modify fun a => a.change n (.settle ended)

end Heartbeats

section Operations

def startDependency (dependency : String × Dependency) : Task Unit :=
  if dependency.2 = .awaitable then await (.dependency dependency.1) else return ()

def start : Task Unit := do
  transition "STARTING"
  let a ← get
  a.dependencies.entries.forM startDependency
  modify AgentBase.createTask
  transition "RUNNING"

/-- The attribute is set by `start` only. -/
def heartbeatTask : Task Nat := do
  let a ← get
  a.heartbeatTask.elim
    (raise ⟨.attributeError, s!"'{a.className}' object has no attribute '_heartbeat_task'"⟩) pure

/-- `await` of a heartbeat, which suspends unless it has ended. -/
def join (n : Nat) : Task Unit := do
  let a ← get
  if ∃ h ∈ a.heartbeats[n]?, h.status.Live then
    await (.finished n)
  let a ← get
  outcome (a.heartbeats[n]?.elim (.ok ()) fun h => h.status.outcome)

def stop : Task Unit := do
  transition "STOPPING"
  let n ← heartbeatTask
  modify fun a => a.change n .cancel
  exceptCancelled (join n) (return ())
  await .unsubscribeAll
  transition "TERMINATED"

def use : Task Unit := asyncWith start (do stop; return false) (await .body)

def uses : Nat → Task Unit
  | 0 => return ()
  | n + 1 => do
    let _ ← attempt use
    uses n

end Operations

end KuvaAI.Heartbeats
