import KuvaAI.Lib.OwnLock
import KuvaAI.Observability.StatsdLedger

/-! The calls of a flush one below the other, with the lock they take. A flush begins here
when it has been given `_conn_lock`; it has waited for other tasks by then. -/
namespace KuvaAI.Statsd.Locking
open Python Effect OwnLock

structure Outside where
  /-- `not self.sock or self.sock.fileno() == -1`. -/
  closed : Bool
  maxRetries : Nat
  maxRetriesPositive : 0 < maxRetries
  connect : Nat → Except Exn Unit
  /-- The i-th `sendto` or `sendall` of this flush. -/
  transmit : Nat → Except Exn Unit

variable (outside : Outside)

def Outside.fails (i : Nat) : Bool :=
  match outside.transmit i with
  | .ok () => false
  | .error _ => true

def reconnect : (left attempt : Nat) → Effect World Exn Unit
  | 0, _ => pure ()
  | left + 1, attempt =>
    match outside.connect attempt with
    | .ok () => pure ()
    | .error e =>
      if e.cls = .oSError then
        if left = 0 then
          throw ⟨.other, "Connection failed after " ++ toString outside.maxRetries ++ " attempts"⟩
        else reconnect left (attempt + 1)
      else throw e

/-- The protocols of the configuration do not include the `unix` that the code tests for. -/
def ensureConnection : Prog World Exn Unit := do
  let s ← get
  if s.state.client.config.protocol = .udp then pure ()
  else withLock (if outside.closed then plain (reconnect outside outside.maxRetries 0) else pure ())

def send (i : Nat) (chunk : List String) : Prog World Exn Unit :=
  catching (do
      let s ← get
      if s.state.client.config.protocol = .udp then plain (fromExcept (outside.transmit i))
      else do
        ensureConnection outside
        plain (fromExcept (outside.transmit i))
      plain (modify fun w => w.sendOk chunk))
    fun e => do
      plain (modify World.sendError)
      throw (.raised e)

def sendChunks : Nat → List (List String) → Prog World Exn Unit
  | _, [] => pure ()
  | i, chunk :: rest => do
    send outside i chunk
    sendChunks (i + 1) rest

def flushBuffer : Prog World Exn Unit := do
  let s ← get
  if s.state.client.buffer.items = [] then pure ()
  else
    catching (do
        plain (modify World.emptied)
        sendChunks outside 0 s.state.client.chunks)
      fun e => do
        plain (modify World.clear)
        throw (.raised e)

def flush : Prog World Exn Unit := withLock (flushBuffer outside)

inductive Agrees (held : Bool) :
    Except (Halt Exn) Unit × Guarded World → Except Unit Unit × World → Prop where
  | returned (w : World) : Agrees held (.ok (), ⟨held, w⟩) (.ok (), w)
  | raised (e : Exn) (w : World) : Agrees held (.error (.raised e), ⟨held, w⟩) (.error (), w)

theorem flush_empty {w : World} (empty : w.client.buffer.items = []) :
    flush outside ⟨false, w⟩ = (.ok (), ⟨false, w⟩) := by
  simp [flush, withLock, flushBuffer, bind, get, getThe, MonadStateOf.get, pure, empty]

section Udp

variable {w : World} (udp : w.client.config.protocol = .udp)

include udp

theorem send_udp (i : Nat) (chunk : List String) (held : Bool) :
    send outside i chunk ⟨held, w⟩ =
      match outside.transmit i with
      | .ok () => (.ok (), ⟨held, w.sendOk chunk⟩)
      | .error e => (.error (.raised e), ⟨held, w.sendError⟩) := by
  simp only [send, catching, bind, get, getThe, MonadStateOf.get, udp, plain, fromExcept]
  cases outside.transmit i <;> rfl

theorem sendChunks_udp (i : Nat) (chunks : List (List String)) (held : Bool) :
    Agrees held (sendChunks outside i chunks ⟨held, w⟩) (sendAll outside.fails i chunks w) := by
  induction chunks generalizing i w with
  | nil => exact .returned w
  | cons chunk rest ih =>
    have sent := send_udp outside udp i chunk held
    have next := ih (w := w.sendOk chunk) udp (i + 1)
    cases answered : outside.transmit i with
    | ok _ => simpa [sendChunks, sendAll, bind, sent, Outside.fails, answered] using next
    | error e => simpa [sendChunks, sendAll, bind, sent, Outside.fails, answered] using .raised e _

theorem flushBuffer_udp (filled : w.client.buffer.items ≠ []) (held : Bool) :
    Agrees held (flushBuffer outside ⟨held, w⟩)
      (match sendAll outside.fails 0 w.client.chunks w.emptied with
        | (.ok (), sent) => (.ok (), sent)
        | (.error (), failed) => (.error (), failed.clear)) := by
  have still : w.emptied.client.config.protocol = .udp := udp
  have sent := sendChunks_udp outside still 0 w.client.chunks held
  simp only [flushBuffer, bind, get, getThe, MonadStateOf.get, filled, if_false, catching, plain_modify]
  revert sent
  generalize sendChunks outside 0 w.client.chunks ⟨held, w.emptied⟩ = fine
  generalize sendAll outside.fails 0 w.client.chunks w.emptied = coarse
  intro sent
  cases sent with
  | returned t => exact .returned t
  | raised e t => exact .raised e t.clear

theorem flush_udp : ∃ result t, flush outside ⟨false, w⟩ = (result, ⟨false, t⟩) ∧
    result ≠ .error .stuck ∧ (w.client.locked = false → Statsd.flush outside.fails w = t) := by
  by_cases empty : w.client.buffer.items = []
  · exact ⟨.ok (), w, flush_empty outside empty, by simp, fun _ => Statsd.flush_empty empty⟩
  · have sent := flushBuffer_udp outside udp empty true
    simp only [flush, withLock, Statsd.flush, empty, udp]
    revert sent
    generalize flushBuffer outside ⟨true, w⟩ = fine
    generalize sendAll outside.fails 0 w.client.chunks w.emptied = coarse
    intro sent
    obtain ⟨result, t⟩ := coarse
    cases result with
    | ok _ =>
      cases sent with
      | returned => exact ⟨.ok (), t, rfl, by simp, by simp +contextual⟩
    | error _ =>
      cases sent with
      | raised e => exact ⟨.error (.raised e), t.clear, rfl, by simp, by simp +contextual⟩

end Udp

section Stream

variable {w : World} (stream : w.client.config.protocol ≠ .udp)

include stream

theorem send_stuck (i : Nat) (chunk : List String) :
    send outside i chunk ⟨true, w⟩ = (.error .stuck, ⟨true, w⟩) := by
  simp [send, ensureConnection, withLock, catching, bind, get, getThe, MonadStateOf.get, stream]

theorem flush_stuck (filled : w.client.buffer.items ≠ []) :
    flush outside ⟨false, w⟩ = (.error .stuck, ⟨true, w.emptied⟩) := by
  have some_chunk : w.client.chunks ≠ [] := by
    intro nothing
    have flat := w.client.chunks_flatten
    simp only [nothing, List.flatten_nil] at flat
    exact filled flat.symm
  obtain ⟨chunk, rest, chunks⟩ := List.exists_cons_of_ne_nil some_chunk
  have still : w.emptied.client.config.protocol ≠ .udp := stream
  have stuck := send_stuck outside still 0 chunk
  simp [flush, withLock, flushBuffer, catching, sendChunks, bind, get, getThe, MonadStateOf.get,
    filled, chunks, stuck]

end Stream

/-- The ledger has the state in which this ends; a lock that is held for ever is there one
that the later flushes wait for. -/
theorem flush_refines (w : World) (locked : w.client.locked = false) :
    Statsd.flush outside.fails w =
      if (flush outside ⟨false, w⟩).2.held then (flush outside ⟨false, w⟩).2.state.lock
      else (flush outside ⟨false, w⟩).2.state := by
  by_cases empty : w.client.buffer.items = []
  · simp [flush_empty outside empty, Statsd.flush_empty empty]
  · by_cases udp : w.client.config.protocol = .udp
    · obtain ⟨result, t, ran, _, same⟩ := flush_udp outside udp
      simp [ran, same locked]
    · simp [flush_stuck outside udp empty, Statsd.flush_stream locked udp empty]

/-- Over TCP and TLS every flush of a buffer with lines in it comes to wait for itself. -/
theorem flush_free_iff (w : World) :
    Free (flush outside) ⟨false, w⟩ ↔
      w.client.config.protocol = .udp ∨ w.client.buffer.items = [] := by
  by_cases empty : w.client.buffer.items = []
  · exact iff_of_true (free_of_ok (flush_empty outside empty)) (.inr empty)
  by_cases udp : w.client.config.protocol = .udp
  · refine iff_of_true ?_ (.inl udp)
    obtain ⟨result, t, ran, goes, _⟩ := flush_udp outside udp
    cases result with
    | ok _ => exact free_of_ok ran
    | error halt =>
      cases halt with
      | raised e => exact free_of_raised ran
      | stuck => exact absurd rfl goes
  · exact iff_of_false (not_free (flush_stuck outside udp empty)) (by simp [udp, empty])

def tcpConfig : StatsDConfig := { udpConfig with protocol := .tcp }

def oneLine : World := ⟨(Client.init tcpConfig).append "jobs:1|c", ["jobs:1|c"], []⟩

def online : Outside := ⟨false, 3, by decide, fun _ => .ok (), fun _ => .ok ()⟩

theorem tcp_flush_stuck : ¬ Free (flush online) ⟨false, oneLine⟩ := by
  exact not_free (flush_stuck online (w := oneLine) (by decide) (by decide))

end KuvaAI.Statsd.Locking
