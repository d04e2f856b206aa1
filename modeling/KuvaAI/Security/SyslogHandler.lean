import KuvaAI.Python.Value
import KuvaAI.Lib.Runs

/-! The audit queue of syslog_handler.py. The module imports `Full` and `Queue` but not
`Empty`: when `get` times out, evaluating `except Empty` raises a NameError, which ends
the worker thread. A connection that fails calls `_handle_error` under `_connect_lock`,
and its `_disconnect` then waits for that lock for ever. The emit calls follow one
another; the worker's steps come anywhere between them. -/
namespace KuvaAI.Syslog
open Python

/-- The address, the timeout and the TLS context are read by the connection alone. -/
structure SyslogConfig where
  facility : Fin 24
  queueSize : Nat
  queueSizeMin : 100 ≤ queueSize
  retries : Nat
  structuredData : Option (Dict String (Dict String String))

section Format

def orDash (field : Option String) : String :=
  match field with
  | none | some "" => "-"
  | some s => s

def formatStructuredData (config : SyslogConfig) : String :=
  match config.structuredData with
  | none | some ⟨[], _⟩ => "-"
  | some elements => " ".intercalate (elements.entries.map fun element =>
      "[" ++ element.1 ++ " " ++ " ".intercalate
        (element.2.entries.map fun param => param.1 ++ "=\"" ++ param.2 ++ "\"") ++ "]")

def messageFields : List String := ["app_name", "proc_id", "msg_id"]

/-- The clock and the host's name are read at the call. -/
def formatMessage (config : SyslogConfig) (timestamp hostname message : String) (severity : Fin 8)
    (kwargs : Dict String (Option String)) : Except Exn String :=
  match kwargs.keys.find? (· ∉ messageFields) with
  | some key => .error ⟨.typeError,
      "SyslogHandler._format_message() got an unexpected keyword argument '" ++ key ++ "'"⟩
  | none =>
    let pri := config.facility.val * 8 + severity.val
    .ok ("<" ++ toString pri ++ ">1 " ++ timestamp ++ "Z " ++ hostname ++ " " ++
      orDash (kwargs.get? "app_name").join ++ " " ++ orDash (kwargs.get? "proc_id").join ++ " " ++
      orDash (kwargs.get? "msg_id").join ++ " " ++ formatStructuredData config ++ " " ++ message ++ "\n")

end Format

inductive Worker where
  | testing
  | getting
  | sending (message : String) (attempt : Nat)
  /-- Waiting for `_connect_lock`, which it holds. -/
  | hung
  | dead
  deriving DecidableEq, Repr

inductive Closing where
  | notCalled | joining | returned
  deriving DecidableEq, Repr

structure Handler where
  config : SyslogConfig
  queue : List String
  shutdownFlag : Bool
  sent : Nat
  failed : Nat
  queueDrops : Nat
  connected : Bool
  worker : Worker
  closing : Closing
  /-- For the record: the emit calls whose formatting succeeded. -/
  formatted : Nat

def Handler.init (config : SyslogConfig) : Handler :=
  ⟨config, [], false, 0, 0, 0, false, .testing, .notCalled, 0⟩

structure EmitCall where
  timestamp : String
  hostname : String
  message : String
  severity : Fin 8
  kwargs : Dict String (Option String)

def EmitCall.format (config : SyslogConfig) (call : EmitCall) : Except Exn String :=
  formatMessage config call.timestamp call.hostname call.message call.severity call.kwargs

/-- An exception of the formatting goes to the caller or is logged; neither changes anything. -/
def emit (call : EmitCall) (h : Handler) : Handler :=
  match call.format h.config with
  | .error _ => h
  | .ok message =>
    if h.queue.length < h.config.queueSize then
      { h with queue := h.queue ++ [message], formatted := h.formatted + 1 }
    else
      { h with queueDrops := h.queueDrops + 1, formatted := h.formatted + 1 }

structure Answer where
  timedOut : Bool
  connects : Bool
  sends : Bool

def processQueue (answer : Answer) (h : Handler) : Handler :=
  match h.worker with
  | .testing => if h.shutdownFlag then { h with worker := .dead } else { h with worker := .getting }
  | .getting =>
    match h.queue with
    | [] => if answer.timedOut then { h with worker := .dead } else h
    | message :: rest => { h with queue := rest, worker := .sending message 0 }
  | .sending message attempt =>
    if h.connected ∨ answer.connects then
      if answer.sends then
        { h with connected := true, sent := h.sent + 1, worker := .testing }
      else if attempt = h.config.retries then
        { h with connected := false, failed := h.failed + 1, worker := .testing }
      else
        { h with connected := false, worker := .sending message (attempt + 1) }
    else { h with worker := .hung }
  | .hung | .dead => h

def close (h : Handler) : Handler :=
  match h.closing with
  | .notCalled => { h with shutdownFlag := true, closing := .joining }
  | .joining | .returned => h

def join (h : Handler) : Handler :=
  if h.closing = .joining ∧ h.worker = .dead then { h with connected := false, closing := .returned }
  else h

inductive Action where
  | emit (call : EmitCall)
  | worker (answer : Answer)
  | close
  | join

def step (h : Handler) : Action → Handler
  | .emit call => emit call h
  | .worker answer => processQueue answer h
  | .close => close h
  | .join => join h

end KuvaAI.Syslog
