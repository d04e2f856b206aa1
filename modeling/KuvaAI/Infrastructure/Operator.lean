import KuvaAI.Python.Async
import Mathlib.Logic.Function.Basic

/-! The operators of operator.py, each in a process of its own, and the service that
leases out the leadership of their namespace. A process that is killed ends as a
cancelled one does. -/
namespace KuvaAI.Operator
open Python Coroutine

structure OperatorSpec where
  reconciliationInterval : Rat
  leaderElection : Bool

/-- Where an operator stands, for the record: no code reads it. -/
inductive Stage where
  | out
  /-- It has been granted a lease and is not in the control loop yet. -/
  | granted
  | inside
  deriving DecidableEq, Repr

structure Cluster where
  now : Rat
  /-- When the last lease that was granted expires. -/
  lease : Option Rat
  /-- `_leader_lock` of each operator. -/
  locked : Nat → Bool
  stage : Nat → Stage

inductive Call where
  | leaderLock
  | post (ttl : Rat)
  | response
  | protect
  | unprotect
  | listing
  | gather (resourceIds : List String)
  | sleep (seconds : Rat)
  | backoff

def Answer : Call → Type
  | .listing => Except Interrupt (List String)
  | .unprotect => Except Interrupt Bool
  | _ => Except Interrupt Unit

abbrev Task := Coroutine Cluster Answer Interrupt

namespace Cluster

def init : Cluster where
  now := 0
  lease := none
  locked := fun _ => false
  stage := fun _ => .out

variable (s : Cluster)

def Vacant : Prop := ∀ expiry, s.lease = some expiry → expiry ≤ s.now

instance : Decidable s.Vacant :=
  match found : s.lease with
  | none => isTrue fun _ some => nomatch found.symm.trans some
  | some expiry => decidable_of_iff (expiry ≤ s.now) <| by simp [Vacant, found]

def stands (operator : Nat) (stage : Stage) : Cluster :=
  { s with stage := Function.update s.stage operator stage }

def setLock (operator : Nat) (locked : Bool) : Cluster :=
  { s with locked := Function.update s.locked operator locked }

def handle (operator : Nat) (ttl : Rat) : Cluster :=
  if s.Vacant then { s with lease := some (s.now + ttl) }.stands operator .granted else s

end Cluster

/-- The request is handled when the first await ends, and answered when the second does. -/
def postLease (operator : Nat) (ttl : Rat) : Task Nat := do
  outcome (← wait (Call.post ttl))
  let s ← get
  modify fun s => s.handle operator ttl
  outcome (← wait Call.response)
  return if s.Vacant then 201 else 409

def withLeaderLock {α : Type} (operator : Nat) (body : Task α) : Task α := do
  let s ← get
  if s.locked operator then
    outcome (← wait Call.leaderLock)
  modify fun s => s.setLock operator true
  finallyDo body (modify fun s => s.setLock operator false)

/-- `async with self._leader_election()`. A generator that ends without a yield is an
error of the context manager. -/
def leaderElection (spec : OperatorSpec) (operator : Nat) (body : Task Unit) : Task Unit :=
  if spec.leaderElection then do
    let yielded ← withLeaderLock operator (finallyDo (do
      let status ← postLease operator 30
      if status = 201 then do
        body
        return true
      else
        return false) (modify fun s => s.stands operator .out))
    raiseIf (yielded = false) ⟨.runtimeError, "generator didn't yield"⟩
  else
    body

/-- No exception gets out of it. -/
def listManagedResources : Task (List String) :=
  exceptException (do
    let listed : Except Interrupt (List String) ← wait Call.listing
    outcome listed) fun _ => return []

def reconciliationLoop : Task Unit := do
  let resourceIds ← listManagedResources
  outcome (← wait (Call.gather resourceIds))

/-- The loop, for this many rounds; a task that is followed no further ends as one that
is cancelled. -/
def controlLoop (spec : OperatorSpec) : Nat → Task Unit
  | 0 => throw .cancelled
  | rounds + 1 => do
    exceptException (asyncWith (do outcome (← wait Call.protect))
      (do
        let swallowed : Except Interrupt Bool ← wait Call.unprotect
        outcome swallowed)
      (do
        reconciliationLoop
        outcome (← wait (Call.sleep spec.reconciliationInterval))))
      fun _ => do outcome (← wait Call.backoff)
    controlLoop spec rounds

def runForever (spec : OperatorSpec) (operator rounds : Nat) : Task Unit :=
  leaderElection spec operator (do
    modify fun s => s.stands operator .inside
    finallyDo (controlLoop spec rounds) (modify fun s => s.stands operator .out))

def elapse (seconds : Rat) : Task Unit := modify fun s => { s with now := s.now + seconds }

end KuvaAI.Operator
