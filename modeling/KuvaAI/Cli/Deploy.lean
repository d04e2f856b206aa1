import KuvaAI.Lib.Effect
import KuvaAI.Python.Value

/-! The deployment of one component by deploy.py, with the revisions of its release. What
each command comes to, and where the task is cancelled, is given from outside. The hooks and
the conditions leave the release alone. -/
namespace KuvaAI.Deploy
open Python Effect

structure DeploymentTarget where
  environment : String
  clusterId : String
  version : String
  rolloutStrategy : String
  checkDependencies : Bool

structure ComponentConfig where
  name : String
  chartPath : String
  valuesFiles : List String
  waitConditions : List String
  preHooks : List String
  postHooks : List String
  timeout : Nat

inductive Waited where
  | exited (code : Int)
  | timedOut
  | interrupted (i : Interrupt)
  deriving DecidableEq

inductive Outcome where
  | unstarted (i : Interrupt)
  | started (waited : Waited)
  deriving DecidableEq

structure Logging where
  info : Bool
  error : Bool

structure Env (C : Type) where
  logging : Logging
  lockCancelled : Bool
  validateDependencies : String → Except Interrupt Unit
  preHook : Nat → Outcome
  upgrade : Outcome
  waiting : Nat → Outcome
  postHook : Nat → Outcome
  rollback : Outcome
  /-- What an upgrade by a command deploys. -/
  content : List String → C

structure Metric where
  name : String
  component : String
  environment : String
  deriving DecidableEq

/-- The revisions of the release, the current one last, and of each rollback whether it
succeeded. -/
structure World (C : Type) where
  history : List C
  rollbacks : List Bool
  metrics : List Metric

/-- `str.isspace` of one character. -/
def isSpace (c : Char) : Bool :=
  let n := c.toNat
  (9 ≤ n ∧ n ≤ 13) ∨ (28 ≤ n ∧ n ≤ 32) ∨ n ∈ [0x85, 0xa0, 0x1680, 0x2028, 0x2029, 0x202f, 0x205f, 0x3000] ∨
    (0x2000 ≤ n ∧ n ≤ 0x200a)

def words (s : String) : List String :=
  ((s.toList.splitOnP isSpace).filter fun word => word ≠ []).map String.ofList

/-- The keywords of the audit log are none that the logger takes. -/
def badKeyword : Interrupt :=
  .raised ⟨.typeError, "Logger._log() got an unexpected keyword argument 'command'"⟩

/-- `_execute_command` from the wait on. -/
def concluded (logging : Logging) : Waited → Except Interrupt Bool
  | .exited code =>
    if code ≠ 0 then
      if logging.error then .error badKeyword else .ok false
    else if logging.info then .error badKeyword
    else .ok true
  | .timedOut => if logging.error then .error badKeyword else .ok false
  | .interrupted i => .error i

def noProgram : Interrupt :=
  .raised ⟨.typeError, "create_subprocess_exec() missing 1 required positional argument: 'program'"⟩

def helmCommand (component : ComponentConfig) (target : DeploymentTarget) :
    Except Interrupt (List String) :=
  match component.valuesFiles with
  | [] => .error (.raised ⟨.indexError, "list index out of range"⟩)
  | values :: _ => .ok (
      ["helm", "upgrade", "--install", "--namespace", "kuva-system", "--create-namespace",
        "--version", target.version, "--wait", "--timeout", toString component.timeout ++ "s",
        "-f", values] ++
      (if target.rolloutStrategy = "canary" then ["--set", "canary.enabled=true"] else []) ++
      [component.name, component.chartPath])

def waitCommand (condition : String) : List String :=
  ["kubectl", "wait", "--namespace", "kuva-system", "--for", condition, "--timeout", "300s"]

def rollbackCommand (component : ComponentConfig) : List String :=
  ["helm", "rollback", "--namespace", "kuva-system", component.name, "--timeout", "300s"]

structure Step where
  cmd : List String
  outcome : Outcome
  failed : Exn

def steps (texts : List String) (cmd : String → List String) (outcome : Nat → Outcome)
    (label : String) : List Step :=
  texts.zipIdx.map fun (text, i) => ⟨cmd text, outcome i, ⟨.runtimeError, label ++ text⟩⟩

def previous {C : Type} (history : List C) : Option C := history.dropLast.getLast?

section Component

variable {C : Type} (env : Env C) (component : ComponentConfig) (target : DeploymentTarget)

def executeCommand (cmd : List String) (outcome : Outcome) (effect : World C → World C) :
    Effect (World C) Interrupt Bool := do
  if cmd = [] then
    throw noProgram
  else
    match outcome with
    | .unstarted i => throw i
    | .started waited =>
      -- what the process does is done by the time that its end is looked at
      modify effect
      fromExcept (concluded env.logging waited)

def execute (step : Step) : Effect (World C) Interrupt Unit := do
  if ← executeCommand env step.cmd step.outcome id then
    return ()
  else
    throw (.raised step.failed)

def executeAll : List Step → Effect (World C) Interrupt Unit
  | [] => return ()
  | step :: rest => do
    execute env step
    executeAll rest

def preSteps : List Step := steps component.preHooks words env.preHook "Pre-hook failed: "

def waitSteps : List Step :=
  steps component.waitConditions waitCommand env.waiting "Condition not met: "

def postSteps : List Step := steps component.postHooks words env.postHook "Post-hook failed: "

def emit (name : String) : Effect (World C) Interrupt Unit :=
  modify fun w => { w with metrics := w.metrics ++ [⟨name, component.name, target.environment⟩] }

def acquire : Except Interrupt Unit := if env.lockCancelled then .error .cancelled else .ok ()

def validation : Except Interrupt Unit :=
  if target.checkDependencies then env.validateDependencies target.clusterId else .ok ()

/-- The body of the `try`. An attempt to upgrade adds a revision. -/
def attempt : Effect (World C) Interrupt Unit := do
  fromExcept (validation env target)
  executeAll env (preSteps env component)
  let helmCmd ← fromExcept (helmCommand component target)
  if ← executeCommand env helmCmd env.upgrade
      (fun w => { w with history := w.history ++ [env.content helmCmd] }) then
    executeAll env (waitSteps env component)
    executeAll env (postSteps env component)
    emit component target "deploy.component.success"
  else
    throw (.raised ⟨.runtimeError, "Helm deployment failed"⟩)

/-- What the rollback of a release comes to. It needs a revision to go back to. -/
def rollbackOutcome (history : List C) : Outcome :=
  if history.length < 2 ∧ env.rollback = .started (.exited 0) then .started (.exited 1)
  else env.rollback

def RollsBack (history : List C) : Prop := rollbackOutcome env history = .started (.exited 0)

instance (history : List C) : Decidable (RollsBack env history) :=
  inferInstanceAs (Decidable (_ = _))

def rollBack (w : World C) : World C :=
  if RollsBack env w.history then { w with history := w.history ++ (previous w.history).toList } else w

def rollbackComponent : Effect (World C) Interrupt Unit := do
  let w ← get
  set { w with rollbacks := w.rollbacks ++ [decide (RollsBack env w.history)] }
  let _ ← executeCommand env (rollbackCommand component) (rollbackOutcome env w.history) (rollBack env)

def recover : Interrupt → Effect (World C) Interrupt Unit
  | .raised e => do
    emit component target "deploy.component.failure"
    rollbackComponent env component
    throw (.raised e)
  -- `except Exception` lets a cancellation through
  | .cancelled => throw .cancelled

def deployComponent : Effect (World C) Interrupt Unit := do
  fromExcept (acquire env)
  tryCatch (attempt env component target) (recover env component target)

end Component

end KuvaAI.Deploy
