import KuvaAI.Security.SyslogHandler

/-! Where the messages of syslog_handler.py are when `close` returns. Whatever the worker
took from the queue is counted; what is still queued when the thread ends is not. -/
namespace KuvaAI.Syslog
open Python

def Balanced (h : Handler) : Prop := h.formatted = h.sent + h.failed + h.queueDrops

/-- No message is put into the queue once the worker thread has ended, and the worker
does not see the shutdown flag while there is something in the queue. -/
def Clean (h : Handler) : Action → Prop
  | .emit call => (∃ message, call.format h.config = .ok message) → h.worker ≠ .dead
  | .worker _ => h.worker = .testing → h.shutdownFlag = true → h.queue = []
  | .close | .join => True

def Worker.inHand : Worker → Nat
  | .testing | .getting | .dead => 0
  | .sending _ _ | .hung => 1

structure Ledger (h : Handler) : Prop where
  balance : h.formatted =
    h.sent + h.failed + h.queueDrops + h.queue.length + h.worker.inHand
  ended : h.closing = .returned → h.worker = .dead

def NoneStranded (h : Handler) : Prop := h.worker = .dead → h.queue = []

section Steps

variable {h : Handler}

theorem ledger_init (config : SyslogConfig) : Ledger (.init config) where
  balance := rfl
  ended := by simp [Handler.init]

theorem emit_cases (call : EmitCall) (h : Handler) :
    (∃ e, call.format h.config = .error e ∧ emit call h = h) ∨
    (∃ message, call.format h.config = .ok message ∧ h.queue.length < h.config.queueSize ∧
      emit call h = { h with queue := h.queue ++ [message], formatted := h.formatted + 1 }) ∨
    (∃ message, call.format h.config = .ok message ∧ ¬ h.queue.length < h.config.queueSize ∧
      emit call h = { h with queueDrops := h.queueDrops + 1, formatted := h.formatted + 1 }) := by
  unfold emit
  cases call.format h.config with
  | error e => exact .inl ⟨e, rfl, rfl⟩
  | ok message =>
    by_cases room : h.queue.length < h.config.queueSize
    · exact .inr (.inl ⟨message, rfl, room, if_pos room⟩)
    · exact .inr (.inr ⟨message, rfl, room, if_neg room⟩)

theorem ledger_emit (call : EmitCall) (ledger : Ledger h) : Ledger (emit call h) := by
  have balance := ledger.balance
  rcases emit_cases call h with ⟨_, _, same⟩ | ⟨message, _, _, queued⟩ | ⟨message, _, _, refused⟩
  · rw [same]
    exact ledger
  · rw [queued]
    exact ⟨by simp only [List.length_append, List.length_singleton]; omega, ledger.ended⟩
  · rw [refused]
    exact ⟨by simp only; omega, ledger.ended⟩

theorem ledger_processQueue (answer : Answer) (ledger : Ledger h) :
    Ledger (processQueue answer h) := by
  have balance := ledger.balance
  have ended := ledger.ended
  unfold processQueue
  cases worker : h.worker with
  | testing =>
    simp only [worker, Worker.inHand] at balance
    dsimp only
    split
    · exact ⟨balance, fun _ => rfl⟩
    · exact ⟨balance, fun returned => by simp [worker] at ended; exact absurd returned ended⟩
  | getting =>
    simp only [worker, Worker.inHand] at balance
    cases queue : h.queue with
    | nil =>
      dsimp only
      split
      · exact ⟨by simpa [queue, Worker.inHand] using balance, fun _ => rfl⟩
      · exact ledger
    | cons message rest =>
      refine ⟨?_, fun returned => by simp [worker] at ended; exact absurd returned ended⟩
      simp only [queue, List.length_cons, Worker.inHand] at balance ⊢
      omega
  | sending message attempt =>
    simp only [worker, Worker.inHand] at balance
    simp only [worker, reduceCtorEq, imp_false] at ended
    dsimp only
    split
    · split
      · exact ⟨by simp only [Worker.inHand]; omega, fun returned => absurd returned ended⟩
      · split
        · exact ⟨by simp only [Worker.inHand]; omega, fun returned => absurd returned ended⟩
        · exact ⟨balance, fun returned => absurd returned ended⟩
    · exact ⟨balance, fun returned => absurd returned ended⟩
  | hung | dead => exact ledger

theorem ledger_step (h : Handler) (action : Action) (ledger : Ledger h) : Ledger (step h action) := by
  cases action with
  | emit call => exact ledger_emit call ledger
  | worker answer => exact ledger_processQueue answer ledger
  | close =>
    unfold step close
    cases closing : h.closing with
    | notCalled => exact ⟨ledger.balance, by simp⟩
    | joining | returned => exact ledger
  | join =>
    unfold step join
    dsimp only
    split
    · rename_i ended
      exact ⟨ledger.balance, fun _ => ended.2⟩
    · exact ledger

theorem noneStranded_close (h : Handler) : NoneStranded (step h .close) ↔ NoneStranded h := by
  unfold step close NoneStranded
  cases h.closing <;> rfl

theorem noneStranded_join (h : Handler) : NoneStranded (step h .join) ↔ NoneStranded h := by
  unfold step join NoneStranded
  dsimp only
  split <;> rfl

theorem noneStranded_of_step (h : Handler) (action : Action)
    (after : NoneStranded (step h action)) : NoneStranded h := by
  cases action with
  | emit call =>
    intro dead
    have after : NoneStranded (emit call h) := after
    rcases emit_cases call h with ⟨_, _, same⟩ | ⟨message, _, _, queued⟩ | ⟨message, _, _, refused⟩
    · rw [same] at after
      exact after dead
    · rw [queued] at after
      exact absurd (after dead) (by simp)
    · rw [refused] at after
      exact after dead
  | worker answer =>
    intro dead
    have same : step h (.worker answer) = h := by simp [step, processQueue, dead]
    rw [same] at after
    exact after dead
  | close => exact (noneStranded_close h).mp after
  | join => exact (noneStranded_join h).mp after

theorem noneStranded_emit_iff (call : EmitCall) (before : NoneStranded h) :
    NoneStranded (emit call h) ↔ Clean h (.emit call) := by
  unfold Clean
  rcases emit_cases call h with ⟨_, raised, same⟩ | ⟨message, ok, _, queued⟩ |
    ⟨message, ok, full, refused⟩
  · rw [same]
    exact iff_of_true before (by simp [raised])
  · rw [queued]
    simp [NoneStranded, ok]
  · -- A full queue is not an empty one, so that the worker has not ended.
    have alive : h.worker ≠ .dead := by
      intro dead
      have least := h.config.queueSizeMin
      rw [before dead] at full
      simp only [List.length_nil] at full
      omega
    rw [refused]
    exact iff_of_true (fun dead => absurd dead alive) (fun _ => alive)

theorem noneStranded_worker_iff (answer : Answer) (before : NoneStranded h) :
    NoneStranded (processQueue answer h) ↔ Clean h (.worker answer) := by
  unfold processQueue Clean NoneStranded
  cases worker : h.worker with
  | testing =>
    dsimp only
    by_cases flagged : h.shutdownFlag = true <;> simp [flagged]
  | getting =>
    cases h.queue with
    | nil => dsimp only; split <;> simp [worker]
    | cons message rest => simp
  | sending message attempt =>
    dsimp only
    split
    · split
      · simp
      · split <;> simp
    · simp
  | hung => simp [worker]
  | dead => simpa [worker] using before worker

theorem noneStranded_step_iff (h : Handler) (action : Action) (before : NoneStranded h) :
    NoneStranded (step h action) ↔ Clean h action := by
  cases action with
  | emit call => exact noneStranded_emit_iff call before
  | worker answer => exact noneStranded_worker_iff answer before
  | close => exact iff_of_true ((noneStranded_close h).mpr before) trivial
  | join => exact iff_of_true ((noneStranded_join h).mpr before) trivial

end Steps

/-- When `close` has returned, the counters balance exactly if no message was queued for
a worker that had ended and the worker did not leave its loop with messages queued. -/
theorem closed_balanced_iff (config : SyslogConfig) (actions : List Action)
    (returned : (Runs.run step (.init config) actions).closing = .returned) :
    Balanced (Runs.run step (.init config) actions) ↔
      Runs.Each step Clean (.init config) actions := by
  have ledger := Runs.invariant ledger_step _ actions (ledger_init config)
  have dead := ledger.ended returned
  have balance := ledger.balance
  have clean : Runs.Always step NoneStranded (.init config) actions ↔
      Runs.Each step Clean (.init config) actions :=
    Runs.always_iff_each ledger_step
      (fun h action _ before => noneStranded_step_iff h action before) _ _ (ledger_init config)
      (by simp [NoneStranded, Handler.init])
  rw [← clean, Runs.always_iff_last noneStranded_of_step]
  simp only [dead, Worker.inHand] at balance
  constructor
  · intro balanced _
    rw [Balanced] at balanced
    exact List.length_eq_zero_iff.mp (by omega)
  · intro none
    rw [none dead] at balance
    simpa [Balanced] using balance

def auditConfig : SyslogConfig := ⟨16, 10000, by decide, 3, none⟩

def loginEvent : EmitCall := ⟨"2024-01-01T00:00:00", "node-1", "login", 6, .empty⟩

theorem close_strands_message :
    (Runs.run step (.init auditConfig)
      [.emit loginEvent, .close, .worker ⟨false, true, true⟩, .join]).closing = .returned ∧
    ¬ Balanced (Runs.run step (.init auditConfig)
      [.emit loginEvent, .close, .worker ⟨false, true, true⟩, .join]) := by
  unfold Balanced
  decide

theorem closed_balanced_iff_served : Runs.Each step Clean (.init auditConfig)
    [.emit loginEvent, .worker ⟨false, true, true⟩, .worker ⟨false, true, true⟩,
      .worker ⟨false, true, true⟩, .close, .worker ⟨false, true, true⟩, .join] :=
  (closed_balanced_iff auditConfig _ (by decide)).mp (by unfold Balanced; decide)

end KuvaAI.Syslog
