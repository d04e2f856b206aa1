import KuvaAI.Agent.LifecycleFrames

/-! The restart count, over every interleaving of a manager's tasks. A restart looks at
the count when it begins and adds to it when it fails, so what bounds the count is the
restarts in progress as well. -/
namespace KuvaAI.LifecycleTasks
open Coroutine
open Lifecycle (LifecyclePhase AgentState LifecycleConfig AgentType Raised Interrupt)

/-- Each restart so far that passed its check left room for those then in progress. -/
def LeftRoom (limit : Nat) (s : Shared) : Prop := ∀ check ∈ s.checks, check.1 + check.2 < limit

def budget (limit : Nat) : Discipline Shared Answer where
  allowed := served
  inv := fun s => s.manager.config.maxRestartAttempts = limit ∧
    (LeftRoom limit s → s.manager.restartCount + s.restarting.length ≤ limit)
  rely := fun i s t => t.restarting.count i = s.restarting.count i
  idle := fun i s => s.restarting.count i = 0
  rely_refl := fun _ _ => rfl
  rely_trans := fun _ _ _ _ first second => second.trans first
  idle_stable := fun _ _ _ moved idle => moved.trans idle

structure Budget (limit i n : Nat) (s : Shared) : Prop where
  inv : (budget limit).inv s
  count : s.restarting.count i = n

/-- A restart of task `i` is about to leave: its failure is counted already. -/
structure Leaving (limit i n : Nat) (s : Shared) : Prop where
  config : s.manager.config.maxRestartAttempts = limit
  spent : LeftRoom limit s → s.manager.restartCount + s.restarting.length ≤ limit + 1
  count : s.restarting.count i = n

section Frames

variable {limit i n : Nat}

theorem frame_budget : Frame (budget limit) i (Budget limit i n) (fun _ => Budget limit i n) where
  inv := fun _ kept => kept.inv
  moved := fun _ _ kept moved inv => ⟨inv, moved.trans kept.count⟩
  raised := fun _ _ kept => kept
  cancelled := fun _ _ _ kept _ => kept
  minor := fun f s minor kept => by
    refine ⟨fun _ _ => rfl, ⟨?_, fun room => ?_⟩, kept.count⟩
    · rw [Shared.edit, minor.config]
      exact kept.inv.1
    · rw [Shared.edit, minor.restartCount]
      exact kept.inv.2 room

abbrev Keeping (limit i n : Nat) {α : Type} (x : Task α) : Prop :=
  Framed (budget limit) i (Budget limit i n) (fun _ => Budget limit i n) x

theorem keeping_holder (holder : Option Nat) :
    Keeping limit i n (edit fun m => { m with holder := holder }) :=
  Triple.modify fun _ kept => ⟨fun _ _ => rfl, kept.inv, kept.count⟩

theorem keeping_setState (env : Env) (newState : AgentState) :
    Keeping limit i n (setState env newState) := by
  refine framed_manager.bind fun m => (framed_lift frame_budget _).bind fun event => ?_
  refine Framed.bind (Triple.modify fun _ kept => ⟨fun _ _ => rfl, kept.inv, kept.count⟩) fun _ => ?_
  exact .ite (framed_awaiting frame_budget Await.noConfusion) (framed_pure ())

theorem keeping_withLock {body : Task Unit} (runs : Keeping limit i n body) :
    Keeping limit i n (withLock i body) := by
  refine framed_manager.bind fun m => (framed_raiseIf frame_budget _ _).bind fun _ => ?_
  refine (framed_awaiting frame_budget Await.noConfusion).bind fun _ => ?_
  refine (keeping_holder (some i)).bind fun _ => ?_
  exact Triple.finallyDo runs (fun _ => keeping_holder none) (fun _ => keeping_holder none)

theorem keeping_operating {call : Task Unit} (runs : Keeping limit i n call) :
    Keeping limit i n (operating i call) := by
  have recorded : ∀ calls : Shared → List Nat,
      Keeping limit i n (modify fun s => { s with operating := calls s } : Task PUnit) :=
    fun calls => Triple.modify fun _ kept => ⟨fun _ _ => rfl, kept.inv, kept.count⟩
  refine (recorded fun s => i :: s.operating).bind fun _ => ?_
  exact Triple.finallyDo runs (fun _ => recorded fun s => s.operating.erase i)
    (fun _ => recorded fun s => s.operating.erase i)

end Frames

section Restarts

variable {limit i n : Nat}

theorem budget_admits {s : Shared} (kept : Budget limit i n s) :
    Budget limit i (n + 1) { s with
      restarting := i :: s.restarting
      checks := (s.manager.restartCount, s.restarting.length) :: s.checks } := by
  refine ⟨⟨kept.inv.1, fun room => ?_⟩, ?_⟩
  · have here : s.manager.restartCount + s.restarting.length < limit :=
      room _ List.mem_cons_self
    change s.manager.restartCount + (s.restarting.length + 1) ≤ limit
    omega
  · rw [List.count_cons_self, kept.count]

theorem leaving_spent {s : Shared} (kept : Budget limit i n s) :
    Leaving limit i n (s.edit fun m => { m with restartCount := m.restartCount + 1 }) := by
  refine ⟨kept.inv.1, fun room => ?_, kept.count⟩
  have within := kept.inv.2 room
  change s.manager.restartCount + 1 + s.restarting.length ≤ limit + 1
  omega

theorem leaving_reset {s : Shared} (kept : Budget limit i n s) :
    Leaving limit i n (s.edit fun m => { m with restartCount := 0 }) := by
  refine ⟨kept.inv.1, fun room => ?_, kept.count⟩
  have within := kept.inv.2 room
  change 0 + s.restarting.length ≤ limit + 1
  omega

theorem leaving_untouched {s : Shared} (kept : Budget limit i n s) : Leaving limit i n s := by
  refine ⟨kept.inv.1, fun room => ?_, kept.count⟩
  have within := kept.inv.2 room
  omega

theorem budget_left {s : Shared} (leaving : Leaving limit i (n + 1) s) :
    Budget limit i n { s with restarting := s.restarting.erase i } := by
  have member : i ∈ s.restarting := by
    rw [← List.count_pos_iff, leaving.count]
    exact n.succ_pos
  refine ⟨⟨leaving.config, fun room => ?_⟩, ?_⟩
  · have spent := leaving.spent room
    have shorter := List.length_erase_of_mem member
    have some := List.length_pos_of_mem member
    change s.manager.restartCount + (s.restarting.erase i).length ≤ limit
    omega
  · rw [List.count_erase_self, leaving.count, Nat.add_sub_cancel]

theorem keeping_restartWith {stop init start : Task Unit} (stops : Keeping limit i (n + 1) stop)
    (inits : Keeping limit i (n + 1) init) (starts : Keeping limit i (n + 1) start) :
    Keeping limit i n (restartWith i stop init start) := by
  refine framed_manager.bind fun m => (framed_raiseIf frame_budget _ _).bind fun _ => ?_
  refine Triple.bind (Triple.modify fun s kept =>
    ⟨fun j other => List.count_cons_of_ne other.symm, budget_admits kept⟩) fun _ => ?_
  have left : Triple (budget limit) i (Leaving limit i (n + 1))
      (modify fun s => { s with restarting := s.restarting.erase i } : Task PUnit)
      (fun _ => Budget limit i n) (fun _ => Budget limit i n) :=
    Triple.modify fun s leaving =>
      ⟨fun j other => List.count_erase_of_ne other, budget_left leaving⟩
  have restarted : Triple (budget limit) i (Budget limit i (n + 1))
      (do stop; init; start; edit fun m => { m with restartCount := 0 })
      (fun _ => Leaving limit i (n + 1)) (fun _ => Budget limit i (n + 1)) :=
    Triple.bind stops fun _ => Triple.bind inits fun _ => Triple.bind starts fun _ =>
      Triple.modify fun s kept => ⟨fun _ _ => rfl, leaving_reset kept⟩
  refine Triple.finallyDo (restarted.tryCatch fun e => ?_) (fun _ => left) (fun _ => left)
  cases e with
  | raised e =>
    refine Triple.bind (Triple.modify fun s kept => ⟨fun _ _ => rfl, leaving_spent kept⟩) fun _ => ?_
    exact fun _ leaving => leaving
  | cancelled => exact fun _ kept => leaving_untouched kept

theorem keeping_restartWithin : Keeping limit i n (restartWithin i) := by
  have relock : Keeping limit i (n + 1) (operating i (withLock i (return ()))) :=
    keeping_operating (keeping_withLock (framed_pure ()))
  exact keeping_restartWith relock relock relock

end Restarts

section Jobs

variable {limit i n : Nat} (env : Env)

theorem keeping_operation (refused : AgentState → Option Raised) (transit : AgentState)
    (failure : String) {body : Task Unit} (runs : Keeping limit i n body) :
    Keeping limit i n (operation env i refused transit failure body) := by
  refine keeping_operating (keeping_withLock ?_)
  refine framed_manager.bind fun m => (framed_rejectIf frame_budget _).bind fun _ => ?_
  refine (keeping_setState env transit).bind fun _ => runs.tryCatch fun e => ?_
  cases e with
  | raised e =>
    have handled : Keeping limit i n (handleErrorWith env (restartWithin i)) :=
      triple_handleErrorWith (fun _ minor => framed_edit frame_budget minor)
        (keeping_setState env .error) frame_budget keeping_restartWithin
    exact handled.bind fun _ => framed_raise frame_budget _
  | cancelled => exact fun _ kept => kept

theorem budget_jobFrame : JobFrame (budget limit) i (Budget limit i n) env := by
  have final : ∀ k, ∀ target ∈ [AgentState.initialized, .running, .stopped, .paused],
      Keeping limit i k (setState env target) := fun _ target _ => keeping_setState env target
  have rule : ∀ k refused transit failure body, Keeping limit i k body →
      Keeping limit i k (operation env i refused transit failure body) :=
    fun _ refused transit failure _ runs => keeping_operation env refused transit failure runs
  exact
    { frame := frame_budget
      failing := keeping_setState env .error
      initializes := framed_initializeAgent frame_budget (final n) (rule n)
      starts := framed_start frame_budget (final n) (rule n)
      stops := framed_stop frame_budget (final n) (rule n)
      pauses := framed_pause frame_budget (final n) (rule n)
      resumes := framed_resume frame_budget (final n) (rule n)
      restarts := keeping_restartWith
        (framed_stop frame_budget (final (n + 1)) (rule (n + 1)))
        (framed_initializeAgent frame_budget (final (n + 1)) (rule (n + 1)))
        (framed_start frame_budget (final (n + 1)) (rule (n + 1))) }

end Jobs

/-- Whatever the tasks do and whatever fails, the count stays within its limit as long as
each restart that passes its check leaves room for the restarts then in progress. -/
theorem restart_budget_kept (env : Env) (agentType : AgentType) (config : LifecycleConfig)
    (observability stateStore : Bool) (middlewares : Nat) (c : Config Shared Answer Interrupt Unit)
    (reached : Reachable served (Started env)
      (fresh agentType config observability stateStore middlewares) c)
    (room : LeftRoom config.maxRestartAttempts c.shared) :
    c.shared.manager.restartCount ≤ config.maxRestartAttempts := by
  have created : (budget config.maxRestartAttempts).inv
      (fresh agentType config observability stateStore middlewares) :=
    ⟨rfl, fun _ => Nat.zero_le _⟩
  have kept : (budget config.maxRestartAttempts).inv c.shared := by
    refine reachable_inv (P := fun i => Budget config.maxRestartAttempts i 0) ?_
      (fun _ _ inv idle => ⟨inv, idle⟩) (fun _ _ kept => ⟨kept.inv, kept.count⟩) created (fun _ => rfl)
      reached
    rintro i x ⟨job, rfl⟩
    exact framed_job (budget_jobFrame (n := 0) env) job
  exact (Nat.le_add_right _ _).trans (kept.2 room)

def oneAttempt : LifecycleConfig := ⟨1, .parallel, true, true⟩

def ofSource : Env where
  transition := Lifecycle.transitionEvent
  isCoroutine := fun _ => false

/-- A restart on its own spends the one attempt there is. -/
theorem one_restart_within : ∃ c,
    Reachable served (Started ofSource) (fresh ledgerAgent oneAttempt false false 0) c ∧
    c.shared.checks = [(0, 0)] ∧
    c.shared.manager.restartCount ≤ oneAttempt.maxRestartAttempts := by
  have idle : Reachable served (Started ofSource) (fresh ledgerAgent oneAttempt false false 0) _ := .refl
  have ended := (idle.spawn 0 syncAnswer rfl ⟨.restart, rfl⟩).resume 0 (.awaits .acquire) (.ok ())
    syncAnswer rfl rfl
  refine ⟨_, ended, rfl, restart_budget_kept ofSource ledgerAgent oneAttempt false false 0 _ ended ?_⟩
  intro check mem
  cases List.mem_singleton.mp mem
  decide

/-- Both restarts look at the count before either has failed. -/
theorem two_restarts_overspend : ∃ c,
    Reachable served (Started ofSource) (fresh ledgerAgent oneAttempt false false 0) c ∧
    oneAttempt.maxRestartAttempts < c.shared.manager.restartCount := by
  have idle : Reachable served (Started ofSource) (fresh ledgerAgent oneAttempt false false 0) _ := .refl
  have checked := (idle.spawn 0 syncAnswer rfl ⟨.restart, rfl⟩).spawn 1 syncAnswer rfl ⟨.restart, rfl⟩
  have failed := (checked.resume 0 (.awaits .acquire) (.ok ()) syncAnswer rfl rfl).resume 1
    (.awaits .acquire) (.ok ()) syncAnswer rfl rfl
  exact ⟨_, failed, by decide⟩

end KuvaAI.LifecycleTasks
