import KuvaAI.Cli.Deploy

/-! When a deployment that fails leaves the release as it was. The rollback undoes the
attempt to upgrade, so it is one step too many before that attempt, and it is missing after
a cancellation. -/
namespace KuvaAI.Deploy
open Python Effect

section Fate

def executed (logging : Logging) (cmd : List String) : Outcome → Except Interrupt Bool
  | .unstarted i => if cmd = [] then .error noProgram else .error i
  | .started waited => if cmd = [] then .error noProgram else concluded logging waited

def Step.verdict (logging : Logging) (step : Step) : Except Interrupt Unit := do
  if ← executed logging step.cmd step.outcome then
    return ()
  else
    throw (.raised step.failed)

def verdicts (logging : Logging) : List Step → Except Interrupt Unit
  | [] => return ()
  | step :: rest => do
    step.verdict logging
    verdicts logging rest

def begun : Outcome → Except Interrupt Waited
  | .unstarted i => .error i
  | .started waited => .ok waited

variable {C : Type} (env : Env C) (component : ComponentConfig) (target : DeploymentTarget)

def preparation : Except Interrupt (List String × Waited) := do
  validation env target
  verdicts env.logging (preSteps env component)
  let helmCmd ← helmCommand component target
  let waited ← begun env.upgrade
  return (helmCmd, waited)

def completion (waited : Waited) : Except Interrupt Unit := do
  if ← concluded env.logging waited then
    verdicts env.logging (waitSteps env component)
    verdicts env.logging (postSteps env component)
  else
    throw (.raised ⟨.runtimeError, "Helm deployment failed"⟩)

end Fate

section Runs

variable {C : Type} {env : Env C} {component : ComponentConfig} {target : DeploymentTarget}

theorem execute_run (step : Step) (w : World C) :
    execute env step w = (step.verdict env.logging, w) := by
  obtain ⟨cmd, outcome, failed⟩ := step
  by_cases empty : cmd = []
  · cases outcome <;>
      simp [execute, executeCommand, Step.verdict, executed, empty, bind, Except.bind, throw, throwThe,
        MonadExceptOf.throw]
  · cases outcome with
    | unstarted i =>
      simp [execute, executeCommand, Step.verdict, executed, empty, bind, Except.bind, throw, throwThe,
        MonadExceptOf.throw]
    | started waited =>
      cases ended : concluded env.logging waited with
      | error i =>
        simp [execute, executeCommand, Step.verdict, executed, empty, ended, bind, Except.bind,
          fromExcept, modify_run]
      | ok success =>
        cases success <;>
          simp [execute, executeCommand, Step.verdict, executed, empty, ended, bind, Except.bind,
            fromExcept, modify_run, pure, Except.pure, throw, throwThe, MonadExceptOf.throw]

theorem executeAll_run (steps : List Step) (w : World C) :
    executeAll env steps w = (verdicts env.logging steps, w) := by
  induction steps with
  | nil => rfl
  | cons step steps ih =>
    simp only [executeAll, verdicts, bind, Except.bind, execute_run]
    cases step.verdict env.logging with
    | error i => rfl
    | ok _ => exact ih

theorem wp_executeAll {steps : List Step} {post : Unit → World C → Prop}
    {exn : Interrupt → World C → Prop} {w : World C} :
    wp (executeAll env steps) post exn w ↔ wp (fromExcept (verdicts env.logging steps)) post exn w := by
  rw [wp, wp, executeAll_run]
  rfl

theorem helmCommand_ne_nil {cmd : List String} (helm : helmCommand component target = .ok cmd) :
    cmd ≠ [] := by
  unfold helmCommand at helm
  split at helm
  · cases helm
  · cases helm
    simp

theorem attempt_unprepared {i : Interrupt} (failed : preparation env component target = .error i)
    (w : World C) : attempt env component target w = (.error i, w) := by
  have run : wp (attempt env component target) (fun _ _ => False) (fun e t => e = i ∧ t = w) w := by
    simp only [preparation, bind, Except.bind] at failed
    cases valid : validation env target with
    | error e => simpa [attempt, valid] using failed
    | ok _ =>
      cases pre : verdicts env.logging (preSteps env component) with
      | error e => simpa [attempt, wp_executeAll, valid, pre] using failed
      | ok _ =>
        cases helm : helmCommand component target with
        | error e => simpa [attempt, wp_executeAll, valid, pre, helm] using failed
        | ok cmd =>
          cases upgrade : env.upgrade with
          | unstarted e =>
            have program := helmCommand_ne_nil helm
            simpa [attempt, wp_executeAll, valid, pre, helm, upgrade, begun, executeCommand, program]
              using failed
          | started waited => simp [valid, pre, helm, upgrade, begun, pure, Except.pure] at failed
  obtain ⟨e, t, ran, rfl, rfl⟩ := exists_of_wp_error run
  exact ran

theorem preparation_ok {cmd : List String} {waited : Waited}
    (prepared : preparation env component target = .ok (cmd, waited)) :
    validation env target = .ok () ∧ verdicts env.logging (preSteps env component) = .ok () ∧
      helmCommand component target = .ok cmd ∧ env.upgrade = .started waited := by
  unfold preparation at prepared
  obtain ⟨_, valid, prepared⟩ := Python.bind_eq_ok prepared
  obtain ⟨_, pre, prepared⟩ := Python.bind_eq_ok prepared
  obtain ⟨found, helm, prepared⟩ := Python.bind_eq_ok prepared
  obtain ⟨w, started, prepared⟩ := Python.bind_eq_ok prepared
  cases prepared
  cases upgrade : env.upgrade with
  | unstarted e => simp [upgrade, begun] at started
  | started t =>
    simp only [upgrade, begun, Except.ok.injEq] at started
    exact ⟨valid, pre, helm, by rw [started]⟩

/-- An attempt to upgrade that has started adds its revision, whatever it comes to. -/
theorem attempt_prepared {cmd : List String} {waited : Waited}
    (prepared : preparation env component target = .ok (cmd, waited)) (w : World C) :
    (attempt env component target w).1 = completion env component waited ∧
      (attempt env component target w).2.history = w.history ++ [env.content cmd] ∧
      (attempt env component target w).2.rollbacks = w.rollbacks := by
  obtain ⟨valid, pre, helm, upgrade⟩ := preparation_ok prepared
  have program := helmCommand_ne_nil helm
  apply (wp_result w (attempt env component target) (completion env component waited) fun t =>
    t.history = w.history ++ [env.content cmd] ∧ t.rollbacks = w.rollbacks).mp
  cases ended : concluded env.logging waited with
  | error i =>
    have fate : completion env component waited = .error i := by
      simp [completion, ended, bind, Except.bind]
    simp [attempt, wp_executeAll, valid, pre, helm, upgrade, program, executeCommand, ended, fate]
  | ok success =>
    cases success with
    | false =>
      have fate : completion env component waited =
          .error (.raised ⟨.runtimeError, "Helm deployment failed"⟩) := by
        simp [completion, ended, bind, Except.bind, throw, throwThe, MonadExceptOf.throw]
      simp [attempt, wp_executeAll, valid, pre, helm, upgrade, program, executeCommand, ended, fate]
    | true =>
      cases waits : verdicts env.logging (waitSteps env component) with
      | error i =>
        have fate : completion env component waited = .error i := by
          simp [completion, ended, waits, bind, Except.bind]
        simp [attempt, wp_executeAll, valid, pre, helm, upgrade, program, executeCommand, ended,
          waits, fate]
      | ok _ =>
        have fate : completion env component waited = verdicts env.logging (postSteps env component) := by
          simp [completion, ended, waits, bind, Except.bind]
        cases posts : verdicts env.logging (postSteps env component) <;>
          simp [attempt, wp_executeAll, valid, pre, helm, upgrade, program, executeCommand, ended,
            waits, posts, fate, emit]

variable (env component target) in
theorem recover_raised (e : Exn) (w : World C) :
    (∃ i, (recover env component target (.raised e) w).1 = .error i) ∧
      (recover env component target (.raised e) w).2.rollbacks =
        w.rollbacks ++ [decide (RollsBack env w.history)] ∧
      (recover env component target (.raised e) w).2.history =
        if RollsBack env w.history then w.history ++ (previous w.history).toList else w.history := by
  have run : wp (recover env component target (.raised e)) (fun _ _ => False) (fun _ t =>
      t.rollbacks = w.rollbacks ++ [decide (RollsBack env w.history)] ∧
      t.history = if RollsBack env w.history then w.history ++ (previous w.history).toList
        else w.history) w := by
    have program : rollbackCommand component ≠ [] := by simp [rollbackCommand]
    cases outcome : rollbackOutcome env w.history with
    | unstarted i =>
      simp [recover, emit, rollbackComponent, executeCommand, program, outcome, RollsBack]
    | started waited =>
      cases ended : concluded env.logging waited <;>
        by_cases rolls : RollsBack env w.history <;>
          simp [recover, emit, rollbackComponent, executeCommand, program, outcome, ended, rolls,
            rollBack]
  obtain ⟨i, t, ran, rolled⟩ := exists_of_wp_error run
  rw [ran]
  exact ⟨⟨i, rfl⟩, rolled⟩

theorem rollsBack_iff {history : List C} :
    RollsBack env history ↔ env.rollback = .started (.exited 0) ∧ 2 ≤ history.length := by
  unfold RollsBack rollbackOutcome
  split
  · rename_i refused
    simp [refused]
  · rename_i allowed
    constructor
    · intro succeeds
      exact ⟨succeeds, by grind⟩
    · exact fun both => both.1

theorem last_rolledBack {history : List C} (rolls : RollsBack env history) :
    (history ++ (previous history).toList).getLast? = previous history := by
  have long := (rollsBack_iff.mp rolls).2
  have some : history.dropLast ≠ [] := by
    intro none
    have short := congrArg List.length none
    simp at short
    omega
  rw [previous, List.getLast?_eq_some_getLast some]
  simp

theorem deploy_run {w t : World C} {result : Except Interrupt Unit} (acquired : acquire env = .ok ())
    (ran : attempt env component target w = (result, t)) :
    (result = .ok () → deployComponent env component target w = (.ok (), t)) ∧
      ∀ i, result = .error i →
        deployComponent env component target w = recover env component target i t := by
  constructor
  · rintro rfl
    simp [deployComponent, acquired, bind, fromExcept, tryCatch, tryCatchThe, MonadExceptOf.tryCatch, ran]
  · rintro i rfl
    simp [deployComponent, acquired, bind, fromExcept, tryCatch, tryCatchThe, MonadExceptOf.tryCatch, ran]

end Runs

section Restores

variable {C : Type} (env : Env C) (component : ComponentConfig) (target : DeploymentTarget)

/-- A call that does not return leaves the content that was deployed, if the rollbacks that
it asks for succeed. -/
def Restores (history : List C) : Prop :=
  (deployComponent env component target ⟨history, [], []⟩).1 ≠ .ok () →
    (∀ succeeded ∈ (deployComponent env component target ⟨history, [], []⟩).2.rollbacks,
      succeeded = true) →
    (deployComponent env component target ⟨history, [], []⟩).2.history.getLast? = history.getLast?

variable {env component target} {history : List C}

theorem restores_of_raised {t : World C} {e : Exn} (fresh : t.rollbacks = [])
    (raised : deployComponent env component target ⟨history, [], []⟩ =
      recover env component target (.raised e) t) :
    Restores env component target history ↔
      (RollsBack env t.history → previous t.history = history.getLast?) := by
  obtain ⟨⟨i, ended⟩, rollbacks, after⟩ := recover_raised env component target e t
  rw [Restores, raised, ended, rollbacks, after, fresh]
  by_cases rolls : RollsBack env t.history
  · simp [rolls, last_rolledBack rolls]
  · simp [rolls]

theorem restores_of_cancelled {t : World C} (fresh : t.rollbacks = [])
    (cancelled : deployComponent env component target ⟨history, [], []⟩ = (.error .cancelled, t)) :
    Restores env component target history ↔ t.history.getLast? = history.getLast? := by
  simp [Restores, cancelled, fresh]

variable (env component target history)

/-- The release is left as it was exactly if an exception before the attempt to upgrade
finds the last two revisions the same, and a cancellation after its start finds that the
attempt has deployed the same again. -/
theorem deploy_restores_iff :
    Restores env component target history ↔
      (env.lockCancelled = false →
        (∀ e, preparation env component target = .error (.raised e) → RollsBack env history →
          previous history = history.getLast?) ∧
        ∀ cmd waited, preparation env component target = .ok (cmd, waited) →
          completion env component waited = .error .cancelled →
            some (env.content cmd) = history.getLast?) := by
  cases held : env.lockCancelled with
  | true =>
    have cancelled : deployComponent env component target ⟨history, [], []⟩ =
        (.error .cancelled, ⟨history, [], []⟩) := by
      simp [deployComponent, acquire, held, bind, fromExcept]
    simp [restores_of_cancelled rfl cancelled]
  | false =>
    have acquired : acquire env = .ok () := by simp [acquire, held]
    cases prepared : preparation env component target with
    | error i =>
      have handled := (deploy_run acquired (attempt_unprepared prepared ⟨history, [], []⟩)).2 i rfl
      cases i with
      | cancelled => simp [restores_of_cancelled rfl handled]
      | raised e => simp [restores_of_raised rfl handled]
    | ok found =>
      obtain ⟨cmd, waited⟩ := found
      obtain ⟨fate, upgraded, fresh⟩ := attempt_prepared prepared ⟨history, [], []⟩
      rcases ran : attempt env component target ⟨history, [], []⟩ with ⟨result, t⟩
      rw [ran] at fate upgraded fresh
      have handled := deploy_run acquired ran
      simp only at fate upgraded fresh
      cases completed : completion env component waited with
      | ok _ => simp [Restores, handled.1 (by rw [fate, completed]), completed]
      | error i =>
        have raised := handled.2 i (by rw [fate, completed])
        cases i with
        | cancelled => simp [restores_of_cancelled fresh raised, upgraded, completed]
        | raised e => simp [restores_of_raised fresh raised, upgraded, previous, completed]

end Restores

section FailedHook

def prod : DeploymentTarget := ⟨"prod", "kuva-prod-01", "1.3.0", "canary", true⟩

def orchestrator : ComponentConfig where
  name := "ai-orchestrator"
  chartPath := "charts/ai-core"
  valuesFiles := ["env/prod/ai-core-values.yaml"]
  waitConditions := []
  preHooks := ["scripts/check quota"]
  postHooks := []
  timeout := 600

def hookFails : Env String where
  logging := ⟨false, true⟩
  lockCancelled := false
  validateDependencies _ := .ok ()
  preHook _ := .started (.exited 1)
  upgrade := .started (.exited 0)
  waiting _ := .started (.exited 0)
  postHook _ := .started (.exited 0)
  rollback := .started (.exited 0)
  content _ := "1.3.0"

/-- The upgrade has not been tried yet, and the release goes back by one revision. -/
theorem failed_hook_goes_back :
    (deployComponent hookFails orchestrator prod ⟨["1.1.0", "1.2.0"], [], []⟩).2.history =
        ["1.1.0", "1.2.0", "1.1.0"] ∧
      ¬ Restores hookFails orchestrator prod ["1.1.0", "1.2.0"] := by
  have run : deployComponent hookFails orchestrator prod ⟨["1.1.0", "1.2.0"], [], []⟩ =
      (.error badKeyword, ⟨["1.1.0", "1.2.0", "1.1.0"], [true],
        [⟨"deploy.component.failure", "ai-orchestrator", "prod"⟩]⟩) := rfl
  simp [Restores, run]

end FailedHook

end KuvaAI.Deploy
