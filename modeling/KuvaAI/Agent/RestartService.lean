import KuvaAI.Agent.LifecycleService

/-! What a restart does to a manager that runs. Its stop ends in `STOPPED`, while
an agent is initialized from `CREATED` only, so no restart gets as far as its start. -/
namespace KuvaAI.Lifecycle
open Python Effect

section Stopping

variable {env : Env} {P Q : Manager → Prop}

theorem takes_raise (e : Raised) : Takes True P (raise e) Q :=
  fun _ _ => trivial

theorem takes_check (c : Prop) [Decidable c] (e : Raised) : Takes True P (raiseIf c e) P := by
  intro w holds
  rw [wp_raiseIf]
  split
  · trivial
  · exact holds

theorem takes_hook (method : String) : Takes True P (instanceHook env method) P := by
  apply takes_manager
  intro m _
  apply Triple.ite
  · exact takes_outside (.inr trivial) _
  · exact takes_raise _

theorem takes_save : Takes True P (saveState env) P := by
  apply takes_manager
  intro m _
  apply Triple.ite
  · cases m.agentType with
    | name text => exact takes_raise _
    | cls module qualname deps => exact takes_seq (takes_hook _) (takes_outside (.inr trivial) _)
  · exact takes_return

theorem takes_locked {body : Action Unit} (locks : ∀ m now, P m → P { m with locked := now })
    (unlocks : ∀ m now, Q m → Q { m with locked := now }) (runs : Takes True P body Q) :
    Takes True P (withLock env body) Q := by
  apply takes_manager
  intro m _
  apply takes_seq (takes_check _ _)
  apply takes_seq (takes_outside (.inr trivial) _)
  apply takes_seq (takes_update fun m => locks m true)
  intro w holds
  rw [wp_finallyDo]
  apply wp_mono (runs w holds)
  · exact fun _ t reached => unlocks t.manager false reached
  · exact fun _ _ tolerated => tolerated

structure Stopped (n : Nat) (m : Manager) : Prop where
  at_state : m.state = .stopped
  counted : m.restartCount = n

theorem stopWith_stopped {n : Nat} {stopDependencies : Action Unit}
    (keeps : Takes True (fun m => m.restartCount = n) stopDependencies
      (fun m => m.restartCount = n)) :
    Takes True (fun m => m.restartCount = n) (stopWith env stopDependencies) (Stopped n) := by
  apply takes_locked
  · exact fun _ _ counted => counted
  · exact fun _ _ stopped => ⟨stopped.at_state, stopped.counted⟩
  have calm : Quiet env ∨ True := .inr trivial
  apply takes_manager
  intro m _
  apply takes_seq (takes_check _ _)
  apply takes_seq (takes_setState calm (Q := fun m => m.restartCount = n) fun _ _ counted => counted)
  apply takes_attempt
  apply takes_seq (takes_runMiddlewares calm _)
  apply takes_seq (takes_hook _)
  apply takes_seq (takes_cancelTask calm)
  apply takes_seq keeps
  apply takes_seq takes_save
  apply takes_seq (takes_runMiddlewares calm _)
  exact takes_setState calm fun _ _ counted => ⟨rfl, counted⟩

theorem overDependencies_counted {n : Nat} (step : Nat → Except Interrupt Unit × List Manager × Nat) :
    Takes True (fun m => m.restartCount = n) (overDependencies step)
      (fun m => m.restartCount = n) := by
  intro w counted
  rw [overDependencies, wp_bind, wp_get, wp_bind, wp_set]
  cases (step w.calls).1 with
  | ok u => exact counted
  | error i => trivial

theorem stopManager_stopped {n : Nat} :
    Takes True (fun m => m.restartCount = n) (stopManager env) (Stopped n) := by
  intro w counted
  rw [wp, stopManager_eq]
  exact stopWith_stopped (overDependencies_counted _) w counted

end Stopping

section Initializing

variable (env : Env)

theorem initializeAgent_stopped {n : Nat} {w : World} (stopped : Stopped n w.manager) :
    wp (initializeAgent env) (fun _ _ => False) (fun _ t => Stopped n t.manager) w := by
  have again : w.manager.state ≠ .created := by simp [stopped.at_state]
  simp only [initializeAgent, withLock, wp_bind, wp_manager, wp_raiseIf]
  split
  · exact stopped
  · apply wp_outside
    · intro _
      rw [wp_bind, wp_update, wp_finallyDo, wp_bind, wp_manager, wp_bind, wp_raiseIf, if_pos again]
      exact ⟨stopped.at_state, stopped.counted⟩
    · exact fun _ _ => stopped

theorem restart_raises (w : World) : wp (restart env) (fun _ _ => False) (fun _ _ => True) w := by
  rw [restart, restartWith, wp_bind, wp_manager, wp_bind, wp_raiseIf]
  split
  · trivial
  · rw [wp_tryCatch, wp_bind]
    apply wp_mono (stopManager_stopped w rfl)
    · intro _ t stopped
      rw [wp_bind]
      apply wp_mono (initializeAgent_stopped env stopped)
      · exact fun _ _ never => never.elim
      · intro i t _
        cases i <;> trivial
    · intro i t _
      cases i <;> trivial

def alreadyInitialized : Raised := .lifecycleError "Agent already initialized"

theorem initializeAgent_refuses {env : Env} (quiet : Quiet env) {n : Nat} {w : World}
    (stopped : Stopped n w.manager) (unlocked : w.manager.locked = false) :
    wp (initializeAgent env) (fun _ _ => False)
      (fun i t => i = .raised alreadyInitialized ∧ Stopped n t.manager) w := by
  have again : w.manager.state ≠ .created := by simp [stopped.at_state]
  have free : ¬ w.manager.locked = true := by simp [unlocked]
  simp only [initializeAgent, withLock, wp_bind, wp_manager, wp_raiseIf, if_neg free]
  apply wp_outside
  · intro _
    rw [wp_bind, wp_update, wp_finallyDo, wp_bind, wp_manager, wp_bind, wp_raiseIf, if_pos again]
    exact ⟨rfl, stopped.at_state, stopped.counted⟩
  · intro i ended
    rw [quiet.silent] at ended
    cases ended

/-- Where nothing outside raises, a permitted restart stops the agent and fails. -/
theorem restart_stops {env : Env} (quiet : Quiet env) {state : AgentState}
    (stoppable : Operation.permits .stop state = true) {w : World}
    (shape : Shape [] (Waiting 0) false true state w.manager)
    (room : w.manager.restartCount < w.manager.config.maxRestartAttempts) :
    wp (restart env) (fun _ _ => False)
      (fun i t => Stopped (w.manager.restartCount + 1) t.manager ∧
        i = .raised (.lifecycleError ("Restart failed (attempt " ++
          toString (w.manager.restartCount + 1) ++ "): " ++ alreadyInitialized.text))) w := by
  obtain ⟨_, t, stops, reached⟩ := exists_of_wp (run_takes quiet .stop stoppable w shape)
  have stops : stopManager env w = (.ok (), t) := stops
  have stopped := wp_of_eq_ok (stopManager_stopped w rfl) stops
  obtain ⟨i, u, refused, rfl, kept⟩ :=
    exists_of_wp_error (initializeAgent_refuses quiet stopped reached.lock)
  rw [restart, restartWith, wp_bind, wp_manager, wp_bind, wp_raiseIf, if_neg (Nat.not_le.mpr room),
    wp_tryCatch, wp_bind, wp_of_ok stops, wp_bind, wp_of_error refused, wp_bind, wp_update, wp_bind,
    wp_manager]
  have counted : u.manager.restartCount + 1 = w.manager.restartCount + 1 :=
    congrArg (· + 1) kept.counted
  exact ⟨⟨kept.at_state, counted⟩, by rw [counted]⟩

/-- Restarting the manager of `w` brings it back into service. -/
def Restores (w : World) : Prop :=
  ∃ t, restart env w = (.ok (), t) ∧ t.manager.state = .running ∧ t.manager.restartCount = 0

theorem restart_never_restores (w : World) : ¬ Restores env w := by
  rintro ⟨t, restarted, _⟩
  exact wp_of_eq_ok (restart_raises env w) restarted

def running : World :=
  { manager := { Manager.init billingAgent defaultConfig false false 0 with
      agentInstance := true, state := .running, task := true }
    calls := 0 }

theorem running_not_restored :
    ¬ ∀ (env : Env) (w : World) (module qualname : String), Quiet env →
      w.manager.agentType = .cls module qualname [] → w.manager.dependencies = [] →
      w.manager.agentInstance = true → w.manager.locked = false →
      w.manager.state = .running ∨ w.manager.state = .paused ∨ w.manager.state = .error →
      w.manager.restartCount < w.manager.config.maxRestartAttempts → Restores env w := by
  intro restores
  let silent : Env :=
    { registry := []
      transition := fun _ state => .ok ⟨.preInit, "agents.billing.BillingAgent", state⟩
      outcome := fun _ _ => .ok () }
  obtain ⟨t, restarted, _⟩ := restores silent running "agents.billing" "BillingAgent"
    ⟨fun _ _ => rfl, fun _ _ => ⟨_, rfl⟩⟩ rfl rfl rfl rfl (.inl rfl) (by decide)
  exact wp_of_eq_ok (restart_raises silent running) restarted

end Initializing

end KuvaAI.Lifecycle
