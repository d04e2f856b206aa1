import KuvaAI.Agent.LifecycleTasks

/-! What the steps inside an operation leave alone. They change the agent and its
health, never the state, the lock, the restart count or the configuration, so any
property of these survives them. -/
namespace KuvaAI.LifecycleTasks
open Coroutine
open Lifecycle (LifecyclePhase AgentState AgentType HealthStatus Raised Interrupt)

structure Minor (f : Manager → Manager) : Prop where
  state : ∀ m, (f m).state = m.state
  holder : ∀ m, (f m).holder = m.holder
  restartCount : ∀ m, (f m).restartCount = m.restartCount
  config : ∀ m, (f m).config = m.config

theorem minor_agentInstance (present : Bool) : Minor fun m => { m with agentInstance := present } :=
  ⟨fun _ => rfl, fun _ => rfl, fun _ => rfl, fun _ => rfl⟩

theorem minor_healthStatus (status : HealthStatus) : Minor fun m => { m with healthStatus := status } :=
  ⟨fun _ => rfl, fun _ => rfl, fun _ => rfl, fun _ => rfl⟩

theorem minor_task (created : Bool) : Minor fun m => { m with task := created } :=
  ⟨fun _ => rfl, fun _ => rfl, fun _ => rfl, fun _ => rfl⟩

theorem minor_dependency (dep : AgentType) :
    Minor fun m => { m with dependencies := m.dependencies ++ [dep] } :=
  ⟨fun _ => rfl, fun _ => rfl, fun _ => rfl, fun _ => rfl⟩

/-- A property `P` that task `i` keeps in its small steps. `E` is what holds where an
exception or a cancellation ends one of them. -/
structure Frame (D : Discipline Shared Answer) (i : Nat) (P : Shared → Prop)
    (E : Interrupt → Shared → Prop) : Prop where
  inv : ∀ s, P s → D.inv s
  moved : ∀ s t, P s → D.rely i s t → D.inv t → P t
  raised : ∀ e s, P s → E (.raised e) s
  cancelled : ∀ point s, point ≠ .awaitTask → P s →
    D.allowed i (.awaits point) (.error .cancelled) s → E .cancelled s
  minor : ∀ f s, Minor f → P s → (∀ j, j ≠ i → D.rely j s (s.edit f)) ∧ P (s.edit f)

def Framed (D : Discipline Shared Answer) (i : Nat) (P : Shared → Prop)
    (E : Interrupt → Shared → Prop) {α : Type} (x : Task α) : Prop :=
  Triple D i P x (fun _ => P) E

section Rules

variable {D : Discipline Shared Answer} {i : Nat} {P : Shared → Prop}
  {E : Interrupt → Shared → Prop} {α : Type}

theorem framed_pure (a : α) : Framed D i P E (pure a : Task α) := fun _ holds => holds

theorem framed_manager : Framed D i P E manager := fun _ holds => holds

theorem triple_manager : Triple D i P manager (fun m s => P s ∧ m = s.manager) E :=
  fun _ holds => ⟨holds, rfl⟩

theorem framed_call (query : Query) : Framed D i P E (call query : Task (Answer query)) :=
  fun _ holds _ => holds

theorem Framed.bind {β : Type} {x : Task α} {f : α → Task β} (first : Framed D i P E x)
    (rest : ∀ a, Framed D i P E (f a)) : Framed D i P E (x >>= f) :=
  Triple.bind first rest

theorem Framed.tryCatch {x : Task α} {handler : Interrupt → Task α}
    (body : Framed D i P (fun _ => P) x) (handled : ∀ e, Framed D i P (fun _ => P) (handler e)) :
    Framed D i P (fun _ => P) (tryCatch x handler) :=
  Triple.tryCatch body handled

theorem Framed.ite {c : Prop} [Decidable c] {x y : Task α} (holds : Framed D i P E x)
    (fails : Framed D i P E y) : Framed D i P E (if c then x else y) :=
  Triple.ite (fun _ => holds) (fun _ => fails)

variable (frame : Frame D i P E)

include frame

theorem framed_raise (e : Raised) : Framed D i P E (raise e : Task α) :=
  fun s holds => frame.raised e s holds

theorem framed_raiseIf (c : Prop) [Decidable c] (e : Raised) : Framed D i P E (raiseIf c e) :=
  .ite (framed_raise frame e) (framed_pure ())

theorem framed_rejectIf (refusal : Option Raised) : Framed D i P E (rejectIf refusal) := by
  cases refusal with
  | none => exact framed_pure ()
  | some e => exact framed_raise frame e

theorem framed_reraise (result : Except Raised α) : Framed D i P E (reraise result) := by
  cases result with
  | ok a => exact framed_pure a
  | error e => exact framed_raise frame e

theorem framed_lift (result : Except Python.Exn α) : Framed D i P E (lift result) := by
  cases result with
  | ok a => exact framed_pure a
  | error e => exact framed_raise frame (.builtin e)

theorem framed_edit {f : Manager → Manager} (minor : Minor f) : Framed D i P E (edit f) :=
  fun s holds => frame.minor f s minor holds

theorem awaiting_spec (point : Await) :
    Triple D i P (awaiting point)
      (fun reply s => P s ∧ D.allowed i (.awaits point) (.ok reply) s)
      (fun e s => P s ∧ D.allowed i (.awaits point) (.error e) s) := by
  intro s holds
  rw [awaiting, wp_bind, wp_wait]
  refine ⟨frame.inv s holds, fun answer t moved inv answered => ?_⟩
  have later : P t := frame.moved s t holds moved inv
  cases answer with
  | ok reply => exact ⟨later, answered⟩
  | error e => exact ⟨later, answered⟩

theorem triple_awaiting (point : Await) :
    Triple D i P (awaiting point) (fun _ => P)
      (fun e s => P s ∧ D.allowed i (.awaits point) (.error e) s) :=
  (awaiting_spec frame point).conseq (fun _ holds => holds) (fun _ _ ended => ended.1)
    (fun _ _ failed => failed)

theorem framed_awaiting {point : Await} (other : point ≠ .awaitTask) :
    Framed D i P E (awaiting point) := by
  refine (triple_awaiting frame point).conseq (fun _ holds => holds) (fun _ _ holds => holds) ?_
  rintro (e | _) t ⟨holds, allowed⟩
  · exact frame.raised e t holds
  · exact frame.cancelled point t other holds allowed

theorem framed_runMiddlewares (phase : LifecyclePhase) : Framed D i P E (runMiddlewares phase) := by
  have once : Framed D i P E (runMiddleware phase) := by
    refine (triple_awaiting frame (.onPhase phase)).tryCatch ?_
    rintro (e | _) t ⟨holds, allowed⟩
    · exact holds
    · exact frame.cancelled _ t Await.noConfusion holds allowed
  have times : ∀ n, Framed D i P E (runMiddlewaresTimes phase n) := by
    intro n
    induction n with
    | zero => exact framed_pure ()
    | succ n ih => exact once.bind fun _ => ih
  exact framed_manager.bind fun m => times m.middlewares

theorem framed_instanceHook (env : Env) (method : String) :
    Framed D i P E (instanceHook env method) := by
  refine framed_manager.bind fun m => (framed_raiseIf frame _ _).bind fun _ => ?_
  exact .ite (framed_awaiting frame Await.noConfusion)
    ((framed_call _).bind fun result => framed_reraise frame result)

theorem framed_loadState : Framed D i P E loadState :=
  framed_manager.bind fun _ => .ite
    ((framed_lift frame _).bind fun _ => framed_awaiting frame Await.noConfusion) (framed_pure ())

theorem framed_saveState : Framed D i P E saveState := by
  refine framed_manager.bind fun m => .ite ?_ (framed_pure ())
  refine (framed_lift frame _).bind fun _ => (framed_raiseIf frame _ _).bind fun _ => ?_
  exact (framed_call _).bind fun result => (framed_reraise frame result).bind fun _ =>
    framed_awaiting frame Await.noConfusion

theorem framed_resolveDependencies : Framed D i P E resolveDependencies := by
  have each : ∀ deps, Framed D i P E (addDependencies deps) := by
    intro deps
    induction deps with
    | nil => exact framed_pure ()
    | cons dep rest ih =>
      refine (framed_call _).bind fun (registered : Bool) => ?_
      refine (framed_raiseIf frame (registered = false) _).bind fun _ => ?_
      exact (framed_edit frame (minor_dependency dep.2)).bind fun _ => ih
  exact framed_manager.bind fun m => (framed_lift frame _).bind fun deps => each deps

theorem framed_construct : Framed D i P E construct := by
  refine framed_manager.bind fun m => ?_
  split
  · exact framed_raise frame uncallable
  · exact (framed_call _).bind fun result => (framed_reraise frame result).bind fun _ =>
      framed_edit frame (minor_agentInstance true)

theorem framed_startDependencies : Framed D i P E startDependencies := by
  have each : ∀ deps, Framed D i P E (startEach deps) := by
    intro deps
    induction deps with
    | nil => exact framed_pure ()
    | cons dep rest ih => exact (framed_awaiting frame Await.noConfusion).bind fun _ => ih
  refine framed_manager.bind fun m => ?_
  split
  · exact each m.dependencies
  · exact framed_awaiting frame Await.noConfusion

theorem framed_stopDependencies : Framed D i P E stopDependencies :=
  framed_manager.bind fun _ => framed_awaiting frame Await.noConfusion

/-- The one await of an operation whose cancellation goes no further. -/
theorem framed_cancelTask : Framed D i P E cancelTask := by
  refine framed_manager.bind fun m => .ite ?_ (framed_pure ())
  refine (triple_awaiting frame .awaitTask).tryCatch ?_
  rintro (e | _) t ⟨holds, _⟩
  · exact frame.raised e t holds
  · exact holds

end Rules

section Handler

variable {D : Discipline Shared Answer} {i : Nat} {P Q : Shared → Prop}
  {E : Interrupt → Shared → Prop} {env : Env}

/-- The handler may find `P` and leave `Q`, which the state it sets establishes. -/
theorem triple_handleErrorWith (edits : ∀ f, Minor f → Framed D i P E (edit f))
    (failing : Triple D i P (setState env .error) (fun _ => Q) E) (frame : Frame D i Q E)
    {restart : Task Unit} (restarts : Framed D i Q E restart) :
    Triple D i P (handleErrorWith env restart) (fun _ => Q) E := by
  refine Triple.bind (edits _ (minor_healthStatus .down)) fun _ => Triple.bind failing fun _ => ?_
  have restarted : Framed D i Q E (do
      let m ← manager
      if 0 < m.config.maxRestartAttempts then restart else return ()) :=
    framed_manager.bind fun _ => .ite restarts (framed_pure ())
  exact framed_manager.bind fun m =>
    .ite ((framed_awaiting frame Await.noConfusion).bind fun _ => restarted) restarted

end Handler

section Operations

variable {D : Discipline Shared Answer} {i : Nat} {P R O : Shared → Prop}
  {E : Interrupt → Shared → Prop} {env : Env} (frame : Frame D i P E)
  (settles : ∀ target ∈ [AgentState.initialized, .running, .stopped, .paused],
    Triple D i P (setState env target) (fun _ => R) E)
  (rule : ∀ refused transit failure body, Triple D i P body (fun _ => R) E →
    Framed D i O (fun _ => O) (operation env i refused transit failure body))

include frame settles rule

theorem framed_initializeAgent : Framed D i O (fun _ => O) (initializeAgent env i) := by
  refine rule _ _ _ _ ?_
  refine Triple.bind (framed_loadState frame) fun _ => ?_
  refine Triple.bind (framed_resolveDependencies frame) fun _ => ?_
  refine Triple.bind (framed_runMiddlewares frame .preInit) fun _ => ?_
  refine Triple.bind (framed_construct frame) fun _ => ?_
  refine Triple.bind (framed_instanceHook frame env "post_init") fun _ => ?_
  refine Triple.bind (framed_saveState frame) fun _ => ?_
  exact Triple.bind (framed_runMiddlewares frame .postInit) fun _ => settles _ (by simp)

theorem framed_start : Framed D i O (fun _ => O) (start env i) := by
  refine rule _ _ _ _ ?_
  refine Triple.bind (framed_startDependencies frame) fun _ => ?_
  refine Triple.bind (framed_runMiddlewares frame .preStart) fun _ => ?_
  refine Triple.bind framed_manager fun m => ?_
  refine Triple.bind (framed_raiseIf frame _ _) fun _ => ?_
  refine Triple.bind (framed_instanceHook frame env "start") fun _ => ?_
  refine Triple.bind (framed_edit frame (minor_task true)) fun _ => ?_
  exact Triple.bind (framed_runMiddlewares frame .postStart) fun _ => settles _ (by simp)

theorem framed_stop : Framed D i O (fun _ => O) (stop env i) := by
  refine rule _ _ _ _ ?_
  refine Triple.bind (framed_runMiddlewares frame .preStop) fun _ => ?_
  refine Triple.bind framed_manager fun m => ?_
  refine Triple.bind (framed_instanceHook frame env _) fun _ => ?_
  refine Triple.bind (framed_cancelTask frame) fun _ => ?_
  refine Triple.bind (framed_stopDependencies frame) fun _ => ?_
  refine Triple.bind (framed_saveState frame) fun _ => ?_
  exact Triple.bind (framed_runMiddlewares frame .postStop) fun _ => settles _ (by simp)

theorem framed_pause : Framed D i O (fun _ => O) (pause env i) := by
  refine rule _ _ _ _ ?_
  refine Triple.bind (framed_runMiddlewares frame .prePause) fun _ => ?_
  refine Triple.bind (framed_instanceHook frame env "pause") fun _ => ?_
  exact Triple.bind (framed_runMiddlewares frame .postPause) fun _ => settles _ (by simp)

theorem framed_resume : Framed D i O (fun _ => O) (resume env i) := by
  refine rule _ _ _ _ ?_
  refine Triple.bind (framed_runMiddlewares frame .preResume) fun _ => ?_
  refine Triple.bind (framed_instanceHook frame env "resume") fun _ => ?_
  exact Triple.bind (framed_runMiddlewares frame .postResume) fun _ => settles _ (by simp)

end Operations

structure JobFrame (D : Discipline Shared Answer) (i : Nat) (O : Shared → Prop) (env : Env) :
    Prop where
  frame : Frame D i O (fun _ => O)
  failing : Framed D i O (fun _ => O) (setState env .error)
  initializes : Framed D i O (fun _ => O) (initializeAgent env i)
  starts : Framed D i O (fun _ => O) (start env i)
  stops : Framed D i O (fun _ => O) (stop env i)
  pauses : Framed D i O (fun _ => O) (pause env i)
  resumes : Framed D i O (fun _ => O) (resume env i)
  restarts : Framed D i O (fun _ => O) (restart env i)

section Jobs

variable {D : Discipline Shared Answer} {i : Nat} {O : Shared → Prop} {env : Env}
  (jobs : JobFrame D i O env)

include jobs

theorem framed_handleUnhealthy : Framed D i O (fun _ => O) (handleUnhealthy env i) := by
  refine framed_manager.bind fun m => .ite ?_ (framed_pure ())
  refine Triple.tryCatch jobs.restarts fun e => ?_
  split
  · exact jobs.failing
  · exact fun _ holds => holds

theorem framed_monitorRound : Framed D i O (fun _ => O) (monitorRound env i) := by
  refine Framed.tryCatch ?_ fun e => ?_
  · refine framed_manager.bind fun m => .ite ?_ ?_
    · have checked : Framed D i O (fun _ => O) (healthCheck env) :=
        .ite (framed_awaiting jobs.frame Await.noConfusion)
          ((framed_call _).bind fun result => framed_reraise jobs.frame result)
      have slept : Framed D i O (fun _ => O) (do awaiting .sleep; return true) :=
        (framed_awaiting jobs.frame Await.noConfusion).bind fun _ => framed_pure true
      refine checked.bind fun status => (framed_edit jobs.frame (minor_healthStatus status)).bind
        fun _ => ?_
      exact .ite ((framed_handleUnhealthy jobs).bind fun _ => slept) slept
    · exact (framed_edit jobs.frame (minor_healthStatus .down)).bind fun _ => framed_pure true
  · split
    · exact framed_pure false
    · refine Framed.bind ?_ fun _ => framed_pure true
      exact triple_handleErrorWith (fun _ minor => framed_edit jobs.frame minor) jobs.failing
        jobs.frame jobs.restarts

theorem framed_job (job : Job) : Framed D i O (fun _ => O) (job.run env i) := by
  cases job with
  | init => exact jobs.initializes
  | start => exact jobs.starts
  | stop => exact jobs.stops
  | pause => exact jobs.pauses
  | resume => exact jobs.resumes
  | restart => exact jobs.restarts
  | enter => exact jobs.initializes.bind fun _ => jobs.starts
  | monitorHealth rounds =>
    change Framed D i O (fun _ => O) (monitorHealth env i rounds)
    induction rounds with
    | zero => exact framed_pure ()
    | succ rounds ih =>
      exact (framed_monitorRound jobs).bind fun again => .ite ih (framed_pure ())

end Jobs

end KuvaAI.LifecycleTasks
