import KuvaAI.Lib.BoundedDeque
import KuvaAI.Lib.Dict
import KuvaAI.Lib.Spread
import KuvaAI.Python.Async
import Mathlib.Logic.Function.Basic

/-! The monitoring engine of monitor.py: points that are ingested, and the streams of windows
over what has been. Numbers are exact, and times are microseconds. The security context, the
circuit breaker, the backoff, the telemetry and numpy's percentile are outside. A stream that
is closed where it yields is one that is not resumed. -/
namespace KuvaAI.Monitor
open Python Coroutine

structure MonitoringConfig (F : Type) [Zero F] [LT F] where
  samplingRate : Nat
  retentionWindow : Nat
  anomalyThreshold : F
  correlationInterval : Nat
  enableForensic : Bool
  samplingRate_pos : 0 < samplingRate
  retentionWindow_pos : 0 < retentionWindow
  anomalyThreshold_pos : 0 < anomalyThreshold
  correlationInterval_pos : 0 < correlationInterval

structure DataPoint (F : Type) where
  metric : String
  value : F
  source : String
  deriving DecidableEq

/-- Means of nothing are no numbers. -/
structure Statistics (F : Type) where
  mean : Option F
  stddev : Option F
  percentile95 : Option F
  anomalyCount : Nat

structure StreamWindow (F : Type) where
  start : Int
  ending : Int
  stats : Option (Statistics F)
  anomalies : List (DataPoint F)

structure Event where
  type : String
  metrics : List String
  timestamp : Int

structure Env (F : Type) where
  sqrt : F → F
  percentile : List F → Nat → Except Exn (Option F)
  warning : Bool
  info : Bool

/-- What has been accepted, emitted and yielded is for the record; the current window of a
stream is a local of its task. -/
structure RealTimeMonitor (F : Type) where
  streamBuffer : BoundedDeque (DataPoint F)
  correlationCache : Dict String (BoundedDeque (DataPoint F))
  locked : Bool
  current : Nat → StreamWindow F
  accepted : List (DataPoint F)
  emitted : List String
  yielded : Nat → List (StreamWindow F)

inductive Call where
  | utcnow
  | emit (name : String)
  | lock
  | validateDataSource (source : String)
  | breakerEnter
  | breakerExit
  | nextDelay
  | sleep
  | consumer

inductive Wake where
  | woken
  | cancelled

def Answer : Call → Type
  | .utcnow => Int
  | .emit _ => Except Exn Unit
  | .lock => Wake
  | .breakerExit => Except Interrupt Bool
  | .consumer => Unit
  | _ => Except Interrupt Unit

/-- Whoever waits for the lock is woken when it is free. -/
def served {F : Type} (_ : Nat) : (call : Call) → Answer call → RealTimeMonitor F → Prop
  | .lock, .woken, g => g.locked = false
  | _, _, _ => True

abbrev Task (F : Type) := Coroutine (RealTimeMonitor F) Answer Interrupt

section Windows

variable {F : Type} [Field F] [LinearOrder F] (env : Env F) (config : MonitoringConfig F)

def std (values : List F) : F := env.sqrt (Spread.variance values)

def calculateStatistics (anomalies : List (DataPoint F)) : Except Exn (Statistics F) := do
  let values := anomalies.map DataPoint.value
  let percentile95 ← env.percentile values 95
  return {
    mean := if values = [] then none else some (Spread.mean values)
    stddev := if values = [] then none else some (std env values)
    percentile95 := percentile95
    anomalyCount := anomalies.length }

/-- `_detect_anomalies`. Scores of values without a deviation are no numbers, and exceed
nothing. -/
def detectAnomalies (points : List (DataPoint F)) : List (DataPoint F) :=
  if points.length < 10 then []
  else
    let values := points.map DataPoint.value
    let deviation := std env values
    if deviation = 0 then []
    else points.filter fun p =>
      config.anomalyThreshold < |(p.value - Spread.mean values) / deviation|

/-- The last of the anomalies of a metric, as a dictionary of them has it. -/
def latest (anomalies : List (DataPoint F)) (metric : String) : Option (DataPoint F) :=
  anomalies.reverse.find? fun p => p.metric = metric

def exceeds (anomalies : List (DataPoint F)) (metric : String) : Bool :=
  match latest anomalies metric with
  | some p => 90 < p.value
  | none => false

def correlateEvents (window : StreamWindow F) : List Event :=
  if exceeds window.anomalies "cpu_usage" && exceeds window.anomalies "memory_usage" then
    [⟨"resource_saturation", ["cpu_usage", "memory_usage"], window.ending⟩]
  else
    []

def after (time : Int) (seconds : Nat) : Int := time + 1000000 * seconds

end Windows

namespace RealTimeMonitor

variable {F : Type} (g : RealTimeMonitor F)

def cached (metric : String) : BoundedDeque (DataPoint F) :=
  (g.correlationCache.get? metric).getD (.empty 1000)

def append (point : DataPoint F) : RealTimeMonitor F :=
  { g with
    streamBuffer := g.streamBuffer.push point
    correlationCache := g.correlationCache.set point.metric ((g.cached point.metric).push point)
    accepted := g.accepted ++ [point] }

/-- What looking a metric up leaves: a metric that is missing gets a deque of its own. -/
def touch (metric : String) : RealTimeMonitor F :=
  { g with correlationCache := g.correlationCache.set metric (g.cached metric) }

def record (name : String) : RealTimeMonitor F := { g with emitted := g.emitted ++ [name] }

def setLocked (locked : Bool) : RealTimeMonitor F := { g with locked := locked }

def setCurrent (task : Nat) (window : StreamWindow F) : RealTimeMonitor F :=
  { g with current := Function.update g.current task window }

def setYielded (task : Nat) (windows : List (StreamWindow F)) : RealTimeMonitor F :=
  { g with yielded := Function.update g.yielded task windows }

variable {g}

theorem cached_touch (metric other : String) : (g.touch metric).cached other = g.cached other := by
  rw [cached, touch, Dict.get?_set]
  split
  · rename_i same
    rw [same]
    rfl
  · rfl

theorem cached_append_same (point : DataPoint F) :
    (g.append point).cached point.metric = (g.cached point.metric).push point := by
  rw [cached, append, Dict.get?_set_same]
  rfl

theorem cached_append_other {point : DataPoint F} {metric : String} (other : metric ≠ point.metric) :
    (g.append point).cached metric = g.cached metric := by
  rw [cached, append, Dict.get?_set_other _ _ other]
  rfl

end RealTimeMonitor

section Tasks

variable {F : Type}

def emit (name : String) : Task F Unit := do
  modify fun g => g.record name
  let answered : Except Exn Unit ← call (Call.emit name)
  orRaise answered

def awaited (request : Call) (answered : Answer request → Except Interrupt Unit) : Task F Unit := do
  outcome (answered (← wait request))

def acquireLock : Task F Unit := do
  let g ← get
  if g.locked then do
    let wake : Wake ← wait Call.lock
    match wake with
    | .woken => modify fun g => g.setLocked true
    | .cancelled => throw .cancelled
  else
    modify fun g => g.setLocked true

/-- The body of the `try` of `ingest_data`. -/
def ingest (point : DataPoint F) : Task F Bool := do
  awaited (.validateDataSource point.source) id
  modify fun g => g.append point
  emit "monitor.ingest.success"
  return true

def ingestData (point : DataPoint F) : Task F Bool := do
  acquireLock
  finallyDo
    (exceptException (ingest point) fun _ => do
      emit "monitor.ingest.failure"
      return false)
    (modify fun g => g.setLocked false)

variable [Field F] [LinearOrder F] (env : Env F) (config : MonitoringConfig F)

/-- The keywords of the logger's calls are none that it takes. -/
def badKeyword (name : String) : Exn :=
  ⟨.typeError, "Logger._log() got an unexpected keyword argument '" ++ name ++ "'"⟩

def captureForensicData (event : Event) : Task F Unit := do
  event.metrics.forM fun metric => modify fun g => g.touch metric
  raiseIf (env.info = true) (badKeyword "path")
  emit "monitor.forensic.captured"

def triggerAction (event : Event) : Task F Unit :=
  if event.type = "resource_saturation" then do
    raiseIf (env.warning = true) (badKeyword "type")
    emit "monitor.alert.resource_saturation"
    if config.enableForensic then captureForensicData env event else return ()
  else
    return ()

def triggerActions (events : List Event) : Task F Unit :=
  events.forM (triggerAction env config)

variable (task : Nat)

def complete : Task F Unit := do
  let g ← get
  let window := { g.current task with anomalies := detectAnomalies env config g.streamBuffer.items }
  modify fun g => g.setCurrent task window
  let stats ← orRaise (calculateStatistics env window.anomalies)
  modify fun g => g.setCurrent task { window with stats := some stats }
  triggerActions env config (correlateEvents window)

def yieldWindow : Task F Unit := do
  modify fun g => g.setYielded task (g.yielded task ++ [g.current task])
  let _ ← wait Call.consumer
  modify fun g => g.setCurrent task
    ⟨(g.current task).ending, after (g.current task).ending config.correlationInterval, none, []⟩

def turn (now : Int) : Task F Unit := do
  let g ← get
  if (g.current task).ending ≤ now then do
    complete env config task
    yieldWindow config task
  else
    return ()

def process : Task F Unit := do
  let now : Int ← call Call.utcnow
  turn env config task now
  awaited .sleep id

def breakerExit : Task F Bool := do
  let exited : Except Interrupt Bool ← wait Call.breakerExit
  outcome exited

def pass : Task F Unit :=
  exceptException (asyncWith (awaited .breakerEnter id) breakerExit (process env config task))
    fun _ => do
      awaited .nextDelay id
      awaited .sleep id

/-- The loop, for this many passes; a task that is followed no further ends as one that is
done. -/
def passes : Nat → Task F Unit
  | 0 => return ()
  | n + 1 => do
    pass env config task
    passes n

/-- `process_stream`, which has yielded nothing when it begins. -/
def processStream (rounds : Nat) : Task F Unit := do
  let start : Int ← call Call.utcnow
  let now : Int ← call Call.utcnow
  modify fun g => (g.setYielded task []).setCurrent task
    ⟨start, after now config.correlationInterval, none, []⟩
  passes env config task rounds

end Tasks

section System

variable {F : Type} [Field F] [LinearOrder F] (env : Env F) (config : MonitoringConfig F)

def RealTimeMonitor.init : RealTimeMonitor F where
  streamBuffer := .empty (config.samplingRate * config.retentionWindow)
  correlationCache := .empty
  locked := false
  current _ := ⟨0, 0, none, []⟩
  accepted := []
  emitted := []
  yielded _ := []

def ingestion (point : DataPoint F) : Task F Unit := do
  let _ ← ingestData point
  return ()

def IsTask (task : Nat) (x : Task F Unit) : Prop :=
  (∃ rounds, x = processStream env config task rounds) ∨ ∃ point, x = ingestion point

def Reaches (c : Config (RealTimeMonitor F) Answer Interrupt Unit) : Prop :=
  Reachable served (IsTask env config) (.init config) c

end System

end KuvaAI.Monitor
