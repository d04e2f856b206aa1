import KuvaAI.Cli.Deploy
import KuvaAI.Lib.Permits
import KuvaAI.Python.Async

/-! The deployment of the full stack by deploy.py: calls of `deploy_full_stack` on one
engine, each with its group of tasks. What the commands, the checks and the cloud come to is
given from outside, and any task may be cancelled wherever it waits. -/
namespace KuvaAI.Deploy.FullStack
open Python Coroutine

structure StackTarget extends DeploymentTarget where
  cloud : String
  concurrency : Nat
  validateIam : Bool
  concurrency_range : 1 ≤ concurrency ∧ concurrency ≤ 10

inductive Work where
  | infrastructure (tfvars : String)
  | cloudIam (cloud : String)
  | component (config : ComponentConfig) (target : StackTarget)

inductive Status where
  | created
  | running (task : Nat)
  | succeeded
  | failed (e : Exn)
  | cancelled

/-- A task of a group. The commands that have succeeded, and the process that is waited for,
are for the record: no code reads them. -/
structure Child where
  work : Work
  status : Status
  done : List (List String)
  process : Option (List String)

inductive Phase where
  | deploying | validating | complete
  deriving DecidableEq

structure Group where
  children : List Child
  errors : List Exn
  aborting : Bool
  semaphore : Permits
  limit : Nat
  phase : Phase

structure Emitted where
  name : String
  tags : List (String × String)

/-- The groups are known by the tasks that wait for them. -/
structure Engine where
  lock : Permits
  groups : Nat → Group
  metrics : List Emitted

inductive Call where
  | scheduled (parent child : Nat)
  | permit (parent : Nat)
  | lock
  | group (parent : Nat)
  /-- The wait for a group that is being aborted; it cannot be cancelled again. -/
  | aborted (parent : Nat)
  | start (cmd : List String)
  | communicate (cmd : List String) (timeout : Nat)
  | validateDependencies (clusterId : String)
  | verifyCloudIam (cloud : String)
  | check (name : String)
  | runSmokeTests (clusterId : String)

inductive Wake where
  | woken
  | cancelled

def Answer : Call → Type
  | .scheduled .. | .permit _ | .lock | .group _ => Wake
  | .aborted _ => Unit
  | .communicate .. => Waited
  | .check _ => Except Interrupt Bool
  | _ => Except Interrupt Unit

abbrev Task := Coroutine Engine Answer Interrupt

def noGroup : Group := ⟨[], [], false, .full 0, 0, .deploying⟩

def Engine.init : Engine := ⟨.full 1, fun _ => noGroup, []⟩

def Status.Settled : Status → Prop
  | .created | .running _ => False
  | .succeeded | .failed _ | .cancelled => True

def Group.Settled (group : Group) : Prop := ∀ child ∈ group.children, child.status.Settled

namespace Engine

variable (g : Engine)

def change (parent : Nat) (f : Group → Group) : Engine :=
  { g with groups := Function.update g.groups parent (f (g.groups parent)) }

def changeChild (parent child : Nat) (f : Child → Child) : Engine :=
  g.change parent fun group => { group with children := group.children.modify child f }

def emit (name : String) (tags : List (String × String)) : Engine :=
  { g with metrics := g.metrics ++ [⟨name, tags⟩] }

end Engine

/-- A task that waits for a permit or a lock is served when one is free, a task of a group
is run once, and the end of a group is waited for. -/
def served (_ : Nat) : (call : Call) → Answer call → Engine → Prop
  | .scheduled parent child, _, g =>
    ∃ c, (g.groups parent).children[child]? = some c ∧ c.status = .created
  | .permit parent, .woken, g => 0 < (g.groups parent).semaphore.free
  | .lock, .woken, g => 0 < g.lock.free
  | .group parent, .woken, g => (g.groups parent).Settled
  | .aborted parent, _, g => (g.groups parent).Settled
  | _, _, _ => True

def resume : Wake → Task Unit
  | .woken => return ()
  | .cancelled => throw .cancelled

section Commands

variable (logging : Logging) (parent child : Nat)

def executeCommand (cmd : List String) (timeout : Nat) : Task Bool := do
  if cmd = [] then
    throw noProgram
  else
    let started : Except Interrupt Unit ← wait (Call.start cmd)
    outcome started
    modify fun g => g.changeChild parent child fun c => { c with process := some cmd }
    let waited : Waited ← wait (Call.communicate cmd timeout)
    modify fun g => g.changeChild parent child fun c => { c with
      process := none
      done := if concluded logging waited = .ok true then c.done ++ [cmd] else c.done }
    outcome (concluded logging waited)

def execute (cmd : List String) (timeout : Nat) (failed : String) : Task Unit := do
  if ← executeCommand logging parent child cmd timeout then
    return ()
  else
    raise ⟨.runtimeError, failed⟩

def executeAll (cmd : String → List String) (label : String) (texts : List String) : Task Unit :=
  texts.forM fun text => execute logging parent child (cmd text) 300 (label ++ text)

end Commands

section Tasks

variable (logging : Logging) (task parent child : Nat)

def takeLock : Task Unit := modify fun g => { g with lock := g.lock.take task }

def acquireLock : Task Unit := do
  let g ← get
  if g.lock.free = 0 then do
    let wake : Wake ← wait Call.lock
    resume wake
    takeLock task
  else
    takeLock task

def releaseLock : Task Bool := do
  modify fun g => { g with lock := g.lock.give task }
  return false

def takePermit : Task Unit :=
  modify fun g => g.change parent fun group => { group with semaphore := group.semaphore.take task }

def acquirePermit : Task Unit := do
  let g ← get
  if (g.groups parent).semaphore.free = 0 then do
    let wake : Wake ← wait (Call.permit parent)
    resume wake
    takePermit task parent
  else
    takePermit task parent

def releasePermit : Task Bool := do
  modify fun g => g.change parent fun group => { group with semaphore := group.semaphore.give task }
  return false

def componentTags (component : ComponentConfig) (target : StackTarget) : List (String × String) :=
  [("component", component.name), ("environment", target.environment)]

def validateDependencies (target : StackTarget) : Task Unit :=
  if target.checkDependencies then do
    let validated : Except Interrupt Unit ← wait (Call.validateDependencies target.clusterId)
    outcome validated
  else
    return ()

/-- The body of the `try` of `_deploy_component`. -/
def attemptComponent (component : ComponentConfig) (target : StackTarget) : Task Unit := do
  validateDependencies target
  executeAll logging parent child words "Pre-hook failed: " component.preHooks
  let helmCmd ← outcome (helmCommand component target.toDeploymentTarget)
  execute logging parent child helmCmd component.timeout "Helm deployment failed"
  executeAll logging parent child waitCommand "Condition not met: " component.waitConditions
  executeAll logging parent child words "Post-hook failed: " component.postHooks
  modify fun g => g.emit "deploy.component.success" (componentTags component target)

def rollbackComponent (component : ComponentConfig) : Task Unit := do
  let _ ← executeCommand logging parent child (rollbackCommand component) 300

def deployComponent (component : ComponentConfig) (target : StackTarget) : Task Unit :=
  asyncWith (acquireLock task) (releaseLock task)
    (exceptException (attemptComponent logging parent child component target) fun e => do
      modify fun g => g.emit "deploy.component.failure" (componentTags component target)
      rollbackComponent logging parent child component
      raise e)

def limitedDeploy (component : ComponentConfig) (target : StackTarget) : Task Unit :=
  asyncWith (acquirePermit task parent) (releasePermit task parent)
    (deployComponent logging task parent child component target)

def terraformCommands (tfvars : String) : List (List String) :=
  [["terraform", "init", "-backend-config=kuva.backend"],
    ["terraform", "validate"],
    ["terraform", "apply", "-auto-approve", "-var-file=" ++ tfvars]]

/-- `_deploy_infrastructure`; the file of variables has been written. -/
def deployInfrastructure (tfvars : String) : Task Unit :=
  (terraformCommands tfvars).forM fun cmd =>
    execute logging parent child cmd 600 "Infrastructure deployment failed"

def verifyCloudIam (cloud : String) : Task Unit := do
  let verified : Except Interrupt Unit ← wait (Call.verifyCloudIam cloud)
  outcome verified

def perform : Work → Task Unit
  | .infrastructure tfvars => deployInfrastructure logging parent child tfvars
  | .cloudIam cloud => verifyCloudIam cloud
  | .component component target => limitedDeploy logging task parent child component target

def Status.ofResult : Except Interrupt Unit → Status
  | .ok () => .succeeded
  | .error (.raised e) => .failed e
  | .error .cancelled => .cancelled

/-- An exception of a task aborts its group; a cancellation of a task does not. -/
def Group.settle (group : Group) (result : Except Interrupt Unit) : Group :=
  let ended := { group with
    children := group.children.modify child fun c => { c with status := .ofResult result } }
  match result with
  | .error (.raised e) => { ended with errors := ended.errors ++ [e], aborting := true }
  | _ => ended

def startChild (c : Child) : Task Unit := do
  modify fun g => g.changeChild parent child fun c => { c with status := .running task }
  let result ← Coroutine.attempt (perform logging task parent child c.work)
  modify fun g => g.change parent fun group => group.settle child result

/-- A task of a group. One that is cancelled before its first step does nothing. -/
def runChild : Task Unit := do
  let scheduled : Wake ← wait (Call.scheduled parent child)
  match scheduled with
  | .cancelled =>
    modify fun g => g.change parent fun group => group.settle child (.error .cancelled)
  | .woken => do
    let g ← get
    ((g.groups parent).children[child]?).elim (return ()) (startChild logging task parent child)

end Tasks

section Stack

variable (parent : Nat) (components : List ComponentConfig) (target : StackTarget)

def stackTags : List (String × String) :=
  [("environment", target.environment), ("version", target.version)]

def works (tfvars : String) : List Work :=
  [.infrastructure tfvars] ++ (if target.validateIam then [.cloudIam target.cloud] else []) ++
    components.map fun component => .component component target

def newGroup (tfvars : String) : Group where
  children := (works components target tfvars).map fun work => ⟨work, .created, [], none⟩
  errors := []
  aborting := false
  semaphore := .full target.concurrency
  limit := target.concurrency
  phase := .deploying

def exceptionGroup (errors : List Exn) : Exn :=
  ⟨.other, "unhandled errors in a TaskGroup (" ++ toString errors.length ++ " sub-exception" ++
    (if errors.length = 1 then "" else "s") ++ ")"⟩

/-- The end of the `async with` over the group: whether it was cancelled. -/
def exitGroup : Task Bool := do
  let wake : Wake ← wait (Call.group parent)
  match wake with
  | .woken => return false
  | .cancelled => do
    modify fun g => g.change parent fun group => { group with aborting := true }
    let _ : Unit ← wait (Call.aborted parent)
    return true

def securityChecks : List (String × String) :=
  [("network-policies", "check_network_policies"), ("pod-security", "check_pod_security"),
    ("encryption-at-rest", "check_storage_encryption"), ("rbac", "check_rbac_config")]

def runChecks : List (String × String) → Task (List (String × Bool))
  | [] => return []
  | (name, check) :: rest => do
    let result : Except Interrupt Bool ← wait (Call.check check)
    let passed ← outcome result
    let others ← runChecks rest
    return (name, passed) :: others

/-- `_validate_security`. All checks are made before the first result is looked at. -/
def validateSecurity : Task Unit := do
  let checks ← runChecks securityChecks
  checks.forM fun check => raiseIf (check.2 = false) ⟨.runtimeError, "Security check failed: " ++ check.1⟩

/-- `deploy_full_stack`. What is raised after the group is no group of exceptions. -/
def deployFullStack (tfvars : String) : Task Unit := do
  modify fun g => g.change parent fun _ => newGroup components target tfvars
  let cancelled ← exitGroup parent
  let g ← get
  let errors := (g.groups parent).errors
  if errors ≠ [] then
    modify fun g => g.emit "deploy.failed" (stackTags target)
    raise (exceptionGroup errors)
  else if cancelled then
    throw .cancelled
  else
    modify fun g => g.change parent fun group => { group with phase := .validating }
    validateSecurity
    let tested : Except Interrupt Unit ← wait (Call.runSmokeTests target.clusterId)
    outcome tested
    modify fun g => (g.emit "deploy.complete" (stackTags target)).change parent fun group =>
      { group with phase := .complete }

end Stack

def IsTask (logging : Logging) (task : Nat) (x : Task Unit) : Prop :=
  (∃ components target tfvars, x = deployFullStack task components target tfvars) ∨
    ∃ parent child, x = runChild logging task parent child

def Reaches (logging : Logging) (c : Config Engine Answer Interrupt Unit) : Prop :=
  Reachable served (IsTask logging) .init c

end KuvaAI.Deploy.FullStack
