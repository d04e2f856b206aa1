import KuvaAI.Lib.OwnLock
import KuvaAI.Security.SyslogLedger

/-! The calls of the syslog worker one below the other, with the lock they take. Only this
thread takes `_connect_lock` while it lives: `close` disconnects after it has ended. -/
namespace KuvaAI.Syslog.Locking
open Python Effect OwnLock

inductive Protocol where
  | udp | tcp | tls
  deriving DecidableEq, Repr

structure Outcomes where
  socket : Except Exn Unit
  wrapSocket : Except Exn Unit
  connect : Except Exn Unit
  sendall : Except Exn Unit
  unwrap : Except Exn Unit
  close : Except Exn Unit

structure Thread where
  handler : Handler
  log : List String

def Thread.init (config : SyslogConfig) : Thread := ⟨.init config, []⟩

def Thread.error (t : Thread) (text : String) : Thread := { t with log := t.log ++ [text] }

def Thread.setSocket (t : Thread) (connected : Bool) : Thread :=
  { t with handler := { t.handler with connected := connected } }

def Thread.sent (t : Thread) : Thread :=
  { t with handler := { t.handler with sent := t.handler.sent + 1 } }

def Thread.failed (t : Thread) : Thread :=
  { t with handler := { t.handler with failed := t.handler.failed + 1 } }

def Thread.moves (t : Thread) (worker : Worker) : Thread :=
  { t with handler := { t.handler with worker := worker } }

section Attempt

variable (protocol : Protocol) (outcomes : Outcomes)

/-- An error of the closing is passed over, also when the socket then stays open. -/
def disconnect : Prog Thread Exn Unit := withLock <| plain do
  let t ← get
  if t.handler.connected then
    finallyDo
      (tryCatch (do
          if protocol = .tls then fromExcept outcomes.unwrap
          fromExcept outcomes.close)
        fun _ => pure ())
      fun t => t.setSocket false
  else pure ()

def handleError (errorMsg : String) : Prog Thread Exn Unit := do
  plain (modify fun t => t.error errorMsg)
  disconnect protocol outcomes

def establish : Effect Thread Exn Unit := do
  fromExcept outcomes.socket
  if protocol = .tls then fromExcept outcomes.wrapSocket
  fromExcept outcomes.connect
  modify fun t => t.setSocket true

def connect : Prog Thread Exn Unit := withLock do
  let s ← get
  if s.state.handler.connected then pure ()
  else
    catching (plain (establish protocol outcomes)) fun e => do
      handleError protocol outcomes ("Connection failed: " ++ e.text)
      throw (.raised e)

inductive Next where
  | done
  | again
  deriving DecidableEq, Repr

def attemptSend (attempt : Nat) : Prog Thread Exn Next :=
  catching (do
      connect protocol outcomes
      plain (fromExcept outcomes.sendall)
      plain (modify Thread.sent)
      pure .done)
    fun e => do
      let s ← get
      if attempt = s.state.handler.config.retries then do
        plain (modify Thread.failed)
        handleError protocol outcomes ("Final send failure: " ++ e.text)
        pure .done
      else do
        disconnect protocol outcomes
        pure .again

end Attempt

inductive Action where
  | emit (call : EmitCall)
  | worker (timedOut : Bool) (outcomes : Outcomes)
  | close
  | join

/-- An exception that leaves an attempt meets the name `Empty` that is not imported. -/
def processQueue (protocol : Protocol) (timedOut : Bool) (outcomes : Outcomes) (s : Guarded Thread) :
    Guarded Thread :=
  match s.state.handler.worker with
  | .testing =>
    if s.state.handler.shutdownFlag then ⟨s.held, s.state.moves .dead⟩
    else ⟨s.held, s.state.moves .getting⟩
  | .getting =>
    match s.state.handler.queue with
    | [] => if timedOut then ⟨s.held, s.state.moves .dead⟩ else s
    | message :: rest =>
      ⟨s.held, { s.state with handler :=
        { s.state.handler with queue := rest, worker := .sending message 0 } }⟩
  | .sending message attempt =>
    match attemptSend protocol outcomes attempt s with
    | (.ok .done, t) => ⟨t.held, t.state.moves .testing⟩
    | (.ok .again, t) => ⟨t.held, t.state.moves (.sending message (attempt + 1))⟩
    | (.error (.raised _), t) => ⟨t.held, t.state.moves .dead⟩
    | (.error .stuck, t) => ⟨t.held, t.state.moves .hung⟩
  | .hung | .dead => s

def step (protocol : Protocol) (s : Guarded Thread) : Action → Guarded Thread
  | .emit call => ⟨s.held, { s.state with handler := emit call s.state.handler }⟩
  | .worker timedOut outcomes => processQueue protocol timedOut outcomes s
  | .close => ⟨s.held, { s.state with handler := Syslog.close s.state.handler }⟩
  | .join => ⟨s.held, { s.state with handler := Syslog.join s.state.handler }⟩

def start (config : SyslogConfig) : Guarded Thread := ⟨false, .init config⟩

/-- A step of the worker in an attempt does not ask for the lock while the worker has it. -/
def NoReentry (protocol : Protocol) (s : Guarded Thread) : Action → Prop
  | .worker _ outcomes => ∀ message attempt, s.state.handler.worker = .sending message attempt →
      Free (attemptSend protocol outcomes attempt) s
  | .emit _ | .close | .join => True

def Outcomes.Established (protocol : Protocol) (outcomes : Outcomes) : Prop :=
  outcomes.socket = .ok () ∧ (protocol = .tls → outcomes.wrapSocket = .ok ()) ∧
    outcomes.connect = .ok ()

instance (protocol : Protocol) (outcomes : Outcomes) : Decidable (outcomes.Established protocol) :=
  inferInstanceAs (Decidable (_ ∧ _ ∧ _))

def Reaches (protocol : Protocol) (s : Guarded Thread) : Action → Prop
  | .worker _ outcomes => (∃ message attempt, s.state.handler.worker = .sending message attempt) →
      s.state.handler.connected = true ∨ outcomes.Established protocol
  | .emit _ | .close | .join => True

section Attempt

variable (protocol : Protocol) (outcomes : Outcomes) (t : Thread)

theorem disconnect_free :
    disconnect protocol outcomes ⟨false, t⟩ = (.ok (), ⟨false, t.setSocket false⟩) := by
  cases connected : t.handler.connected with
  | false =>
    have same : t.setSocket false = t := by simp [Thread.setSocket, ← connected]
    simp [disconnect, withLock, plain, bind, get, getThe, MonadStateOf.get, pure, connected, same]
  | true =>
    cases protocol <;> cases unwrapped : outcomes.unwrap <;> cases closed : outcomes.close <;>
      simp [disconnect, withLock, plain, bind, get, getThe, MonadStateOf.get, pure, connected,
        finallyDo, tryCatch, tryCatchThe, MonadExceptOf.tryCatch, fromExcept, unwrapped, closed]

theorem handleError_free (errorMsg : String) :
    handleError protocol outcomes errorMsg ⟨false, t⟩ =
      (.ok (), ⟨false, (t.error errorMsg).setSocket false⟩) := by
  simp [handleError, bind, disconnect_free]

theorem handleError_held (errorMsg : String) :
    handleError protocol outcomes errorMsg ⟨true, t⟩ =
      (.error .stuck, ⟨true, t.error errorMsg⟩) := by
  simp [handleError, bind, disconnect, withLock]

theorem establish_cases :
    (outcomes.Established protocol ∧ establish protocol outcomes t = (.ok ⟨⟩, t.setSocket true)) ∨
    (¬ outcomes.Established protocol ∧ ∃ e, establish protocol outcomes t = (.error e, t)) := by
  unfold Outcomes.Established
  cases created : outcomes.socket <;> cases connected : outcomes.connect <;> cases protocol <;>
    cases wrapped : outcomes.wrapSocket <;>
    simp [establish, fromExcept, bind, created, connected, wrapped, modify_run]

theorem connect_ok (reaches : t.handler.connected = true ∨ outcomes.Established protocol) :
    connect protocol outcomes ⟨false, t⟩ = (.ok (), ⟨false, t.setSocket true⟩) := by
  cases connected : t.handler.connected with
  | true =>
    have same : t.setSocket true = t := by simp [Thread.setSocket, ← connected]
    simp [connect, withLock, bind, get, getThe, MonadStateOf.get, pure, connected, same]
  | false =>
    have established : outcomes.Established protocol := by simpa [connected] using reaches
    rcases establish_cases protocol outcomes t with ⟨_, ran⟩ | ⟨refused, _⟩
    · simp [connect, withLock, catching, plain, bind, get, getThe, MonadStateOf.get, connected, ran]
    · exact absurd established refused

theorem connect_stuck (connected : t.handler.connected = false)
    (refused : ¬ outcomes.Established protocol) :
    ∃ text, connect protocol outcomes ⟨false, t⟩ = (.error .stuck, ⟨true, t.error text⟩) := by
  rcases establish_cases protocol outcomes t with ⟨established, _⟩ | ⟨_, e, ran⟩
  · exact absurd established refused
  · refine ⟨"Connection failed: " ++ e.text, ?_⟩
    simp [connect, withLock, catching, plain, bind, get, getThe, MonadStateOf.get, connected, ran,
      handleError_held]

theorem attempt_stuck (attempt : Nat) (connected : t.handler.connected = false)
    (refused : ¬ outcomes.Established protocol) :
    ∃ text, attemptSend protocol outcomes attempt ⟨false, t⟩ =
      (.error .stuck, ⟨true, t.error text⟩) := by
  obtain ⟨text, stuck⟩ := connect_stuck protocol outcomes t connected refused
  exact ⟨text, catching_of_stuck (by simp [bind, stuck])⟩

section Connected

variable (attempt : Nat) (reaches : t.handler.connected = true ∨ outcomes.Established protocol)

include reaches

theorem attempt_sent (sends : outcomes.sendall = .ok ()) :
    attemptSend protocol outcomes attempt ⟨false, t⟩ =
      (.ok .done, ⟨false, (t.setSocket true).sent⟩) := by
  have connects := connect_ok protocol outcomes t reaches
  have written : plain (fromExcept outcomes.sendall) ⟨false, t.setSocket true⟩ =
      (.ok (), ⟨false, t.setSocket true⟩) := by simp [plain, fromExcept, sends]
  apply catching_of_ok
  simp [bind, pure, connects, written]

theorem attempt_failed (e : Exn) (fails : outcomes.sendall = .error e) :
    attemptSend protocol outcomes attempt ⟨false, t⟩ =
      if attempt = t.handler.config.retries then (.ok .done, ⟨false,
        ((t.setSocket true).failed.error ("Final send failure: " ++ e.text)).setSocket false⟩)
      else (.ok .again, ⟨false, t.setSocket false⟩) := by
  have connects := connect_ok protocol outcomes t reaches
  have raised : plain (fromExcept outcomes.sendall) ⟨false, t.setSocket true⟩ =
      (.error (.raised e), ⟨false, t.setSocket true⟩) := by simp [plain, fromExcept, fails]
  refine (catching_of_raised (by simp only [bind, connects, raised]; rfl)).trans ?_
  have config : (t.setSocket true).handler.config = t.handler.config := rfl
  have socket : (t.setSocket true).setSocket false = t.setSocket false := rfl
  by_cases last : attempt = t.handler.config.retries
  · simp [bind, get, getThe, MonadStateOf.get, pure, config, last, handleError_free]
  · simp [bind, get, getThe, MonadStateOf.get, pure, config, last, disconnect_free, socket]

end Connected

end Attempt

section Steps

variable (protocol : Protocol) {s : Guarded Thread}

def LockOk (s : Guarded Thread) : Prop := s.held = true → s.state.handler.worker = .hung

def Action.coarse : Action → Syslog.Action
  | .emit call => .emit call
  | .worker timedOut outcomes => .worker
    { timedOut := timedOut
      connects := decide (outcomes.Established protocol)
      sends := outcomes.sendall.isOk }
  | .close => .close
  | .join => .join

@[simp] theorem worker_emit (call : EmitCall) (h : Handler) : (emit call h).worker = h.worker := by
  unfold emit
  split
  · rfl
  · split <;> rfl

@[simp] theorem worker_close (h : Handler) : (Syslog.close h).worker = h.worker := by
  unfold Syslog.close
  split <;> rfl

@[simp] theorem worker_join (h : Handler) : (Syslog.join h).worker = h.worker := by
  unfold Syslog.join
  split <;> rfl

theorem free_of_sending (ok : LockOk s) {message : String} {attempt : Nat}
    (sending : s.state.handler.worker = .sending message attempt) : s = ⟨false, s.state⟩ := by
  cases s with
  | mk held t =>
    cases held with
    | false => rfl
    | true =>
      have hung : t.handler.worker = .hung := ok rfl
      simp [hung] at sending

theorem processQueue_sending (ok : LockOk s) (timedOut : Bool) (outcomes : Outcomes)
    {message : String} {attempt : Nat}
    (sending : s.state.handler.worker = .sending message attempt) :
    LockOk (processQueue protocol timedOut outcomes s) ∧
      (processQueue protocol timedOut outcomes s).state.handler =
        Syslog.processQueue ⟨timedOut, decide (outcomes.Established protocol), outcomes.sendall.isOk⟩
          s.state.handler ∧
      (Free (attemptSend protocol outcomes attempt) s ↔
        s.state.handler.connected = true ∨ outcomes.Established protocol) := by
  rw [free_of_sending ok sending]
  simp only [processQueue, Syslog.processQueue, sending]
  by_cases reaches : s.state.handler.connected = true ∨ outcomes.Established protocol
  · cases sends : outcomes.sendall with
    | ok _ =>
      have ran := attempt_sent protocol outcomes s.state attempt reaches sends
      refine ⟨?_, ?_, iff_of_true (free_of_ok ran) reaches⟩
      · simp [ran, LockOk]
      · simp [ran, reaches, Thread.moves, Thread.sent, Thread.setSocket, Except.isOk, Except.toBool]
    | error e =>
      have ran := attempt_failed protocol outcomes s.state attempt reaches e sends
      by_cases last : attempt = s.state.handler.config.retries
      · rw [if_pos last] at ran
        refine ⟨?_, ?_, iff_of_true (free_of_ok ran) reaches⟩
        · simp [ran, LockOk]
        · simp only [ran]
          simp [reaches, last, Thread.moves, Thread.failed, Thread.error, Thread.setSocket,
            Except.isOk, Except.toBool]
      · rw [if_neg last] at ran
        refine ⟨?_, ?_, iff_of_true (free_of_ok ran) reaches⟩
        · simp [ran, LockOk]
        · simp [ran, reaches, last, Thread.moves, Thread.setSocket, Except.isOk, Except.toBool]
  · obtain ⟨unconnected, refused⟩ := not_or.mp reaches
    have connected : s.state.handler.connected = false := by simpa using unconnected
    obtain ⟨text, ran⟩ := attempt_stuck protocol outcomes s.state attempt connected refused
    refine ⟨?_, ?_, iff_of_false (not_free ran) reaches⟩
    · simp [ran, LockOk, Thread.moves]
    · simp [ran, connected, refused, Thread.moves, Thread.error]

theorem processQueue_idle (ok : LockOk s) (timedOut : Bool) (outcomes : Outcomes)
    (idle : ∀ message attempt, s.state.handler.worker ≠ .sending message attempt) :
    LockOk (processQueue protocol timedOut outcomes s) ∧
      (processQueue protocol timedOut outcomes s).state.handler =
        Syslog.processQueue ⟨timedOut, decide (outcomes.Established protocol), outcomes.sendall.isOk⟩
          s.state.handler := by
  unfold LockOk at ok ⊢
  unfold processQueue Syslog.processQueue
  cases worker : s.state.handler.worker with
  | testing =>
    have free : s.held = false := by simpa [worker] using ok
    simp only
    split <;> simp [free, Thread.moves]
  | getting =>
    have free : s.held = false := by simpa [worker] using ok
    cases queue : s.state.handler.queue with
    | nil => cases timedOut <;> simp [free, queue, Thread.moves]
    | cons message rest => simp [free]
  | sending message attempt => exact absurd worker (idle message attempt)
  | hung | dead => exact ⟨ok, rfl⟩

theorem step_refines (ok : LockOk s) (action : Action) :
    LockOk (step protocol s action) ∧
      (step protocol s action).state.handler =
        Syslog.step s.state.handler (action.coarse protocol) := by
  cases action with
  | worker timedOut outcomes =>
    by_cases attempts : ∃ message attempt, s.state.handler.worker = .sending message attempt
    · obtain ⟨message, attempt, sending⟩ := attempts
      obtain ⟨kept, same, _⟩ := processQueue_sending protocol ok timedOut outcomes sending
      exact ⟨kept, same⟩
    · refine processQueue_idle protocol ok timedOut outcomes ?_
      exact fun message attempt sending => attempts ⟨message, attempt, sending⟩
  | emit call => exact ⟨fun held => (worker_emit call _).trans (ok held), rfl⟩
  | close => exact ⟨fun held => (worker_close _).trans (ok held), rfl⟩
  | join => exact ⟨fun held => (worker_join _).trans (ok held), rfl⟩

theorem noReentry_iff (ok : LockOk s) (action : Action) :
    NoReentry protocol s action ↔ Reaches protocol s action := by
  cases action with
  | worker timedOut outcomes =>
    constructor
    · rintro free ⟨message, attempt, sending⟩
      exact (processQueue_sending protocol ok timedOut outcomes sending).2.2.mp
        (free message attempt sending)
    · intro reaches message attempt sending
      exact (processQueue_sending protocol ok timedOut outcomes sending).2.2.mpr
        (reaches ⟨message, attempt, sending⟩)
  | emit | close | join => exact Iff.rfl

end Steps

/-- In every run the worker asks for its own lock at exactly the attempts that find no
connection and fail to make one. -/
theorem worker_noReentry_iff (protocol : Protocol) (config : SyslogConfig) (actions : List Action) :
    Runs.Each (step protocol) (NoReentry protocol) (start config) actions ↔
      Runs.Each (step protocol) (Reaches protocol) (start config) actions := by
  have begins : LockOk (start config) := fun held => nomatch held
  exact Runs.each_congr_inv (fun s action ok => (step_refines protocol ok action).1)
    (fun s action ok => noReentry_iff protocol ok action) _ actions begins

def unreachable : Outcomes where
  socket := .ok ()
  wrapSocket := .ok ()
  connect := .error ⟨.oSError, "[Errno 111] Connection refused"⟩
  sendall := .ok ()
  unwrap := .ok ()
  close := .ok ()

theorem refused_reentry :
    ¬ Runs.Each (step .tcp) (NoReentry .tcp) (start auditConfig)
      [.emit loginEvent, .worker false unreachable, .worker false unreachable,
        .worker false unreachable] := by
  intro free
  have third := free [.emit loginEvent, .worker false unreachable, .worker false unreachable]
    (.worker false unreachable) (List.prefix_refl _)
  obtain ⟨text, ran⟩ := attempt_stuck .tcp unreachable (Runs.run (step .tcp) (start auditConfig)
    [.emit loginEvent, .worker false unreachable, .worker false unreachable]).state 0 rfl (by decide)
  exact not_free ran (third _ 0 rfl)

end KuvaAI.Syslog.Locking
