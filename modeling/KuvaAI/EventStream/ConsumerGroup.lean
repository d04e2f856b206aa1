import KuvaAI.EventStream.SchemaCache
import KuvaAI.Python.Bytes

/-! The consumer group of consumer_group.py. The processor, the retry policy, the
circuit breaker and Kafka itself are outside, and so are the deserializers of the schema
registry and the message schema. Two names that the module uses are not bound in it, so
what is bound is a parameter. -/
namespace KuvaAI.ConsumerGroup
open Python Coroutine EventStream

structure Message where
  topic : String
  partition : Int
  offset : Int
  error : Bool
  key : Option Bytes
  value : Option Bytes
  deriving DecidableEq, Repr

structure TopicPartition where
  topic : String
  partition : Int
  offset : Int
  deriving DecidableEq, Repr

structure Attempt where
  shouldRetry : Bool

inductive RebalanceEvent where
  | revoked
  | lost
  | assigned (partitions : List (String × Int))
  | other

structure ConsumerConfig where
  maxBatchSize : Nat
  retryPolicy : Bool
  deadLetterTopic : Option String

inductive Argument (Validated : Type) where
  | validated (value : Validated)
  | message (message : Message)

/-- What has happened, for the record: no code reads it. -/
inductive Event (Decoded Validated : Type) where
  | polling
  | polled (message : Message)
  | deserialized (topic : String) (raw : Option Bytes) (value : Decoded)
  | accepted (value : Decoded) (validated : Validated)
  | invoked (argument : Argument Validated)
  | processed (message : Message)
  | failed (message : Message)
  | retried (message : Message)
  | deadLettered (message : Message)
  | committed (offsets : List TopicPartition)

structure KafkaConsumerGroup (Decoded Validated : Type) where
  connected : Bool
  running : Bool
  schemas : SchemaCache
  currentAssignments : Dict String (List Int)
  offsetCommits : Dict String (Dict Int Int)
  history : List (Event Decoded Validated)

inductive Call (Decoded Validated : Type) where
  | createConsumer
  | poll
  | breakerEnter
  | breakerExit
  | lock
  | createDeserializer (topic : String)
  | deserialize (topic : String) (raw : Option Bytes)
  | modelValidate (value : Decoded)
  | processor (message : Message) (argument : Argument Validated)
  | nextAttempt
  | warningEnabled
  | sleep
  | failureReason
  | produce (topic : String) (message : Message) (failureReason : String)
  | commitAsync (offsets : List TopicPartition)
  | assign (partitions : List (String × Int))
  | closeConsumer

def Answer {Decoded Validated : Type} : Call Decoded Validated → Type
  | .poll => Except Interrupt (Option Message)
  | .breakerExit => Except Interrupt Bool
  | .deserialize _ _ => Except Exn Decoded
  | .modelValidate _ => Except Exn Validated
  | .nextAttempt => Except Interrupt (Option Attempt)
  | .warningEnabled => Bool
  | .failureReason => Except Exn String
  | .createConsumer => Except Exn Unit
  | .createDeserializer _ => Except Exn Unit
  | .commitAsync _ => Except Exn Unit
  | .assign _ => Except Exn Unit
  | .closeConsumer => Except Exn Unit
  | _ => Except Interrupt Unit

variable {Decoded Validated : Type}

def KafkaConsumerGroup.init : KafkaConsumerGroup Decoded Validated :=
  ⟨false, false, .empty, Dict.empty, Dict.empty, []⟩

abbrev Task (Decoded Validated : Type) :=
  Coroutine (KafkaConsumerGroup Decoded Validated) (@Answer Decoded Validated) Interrupt

def KafkaConsumerGroup.note (g : KafkaConsumerGroup Decoded Validated) (event : Event Decoded Validated) :
    KafkaConsumerGroup Decoded Validated :=
  { g with history := g.history ++ [event] }

def record (event : Event Decoded Validated) : Task Decoded Validated Unit :=
  modify fun g => g.note event

def schemas : CacheField (KafkaConsumerGroup Decoded Validated) where
  view := KafkaConsumerGroup.schemas
  update f g := { g with schemas := f g.schemas }

def getDeserializer : String → Task Decoded Validated Unit :=
  getCodec schemas (do outcome (← wait Call.lock)) fun topic => do
    orRaise (← call (Call.createDeserializer topic))

def moduleNames : List String :=
  ["annotations", "asyncio", "json", "logging", "ssl", "time", "defaultdict", "dataclass", "Any",
    "Awaitable", "Callable", "Dict", "List", "Optional", "DeserializingConsumer", "KafkaException",
    "SchemaRegistryClient", "AvroDeserializer", "BaseModel", "ValidationError", "ConsumerMetrics",
    "TraceContext", "trace_method", "MessageSchema", "CircuitBreaker", "ExponentialBackoff",
    "SingletonMeta", "ConsumerConfig", "SchemaDeserializer", "KafkaConsumerGroup",
    "message_processor", "main"]

section Globals

variable (globals : List String)

def topicPartition (topic : String) (partition offset : Int) : Task Decoded Validated TopicPartition := do
  raiseIf ("TopicPartition" ∉ globals) ⟨.nameError, "name 'TopicPartition' is not defined"⟩
  return ⟨topic, partition, offset⟩

def partitionOffsets (topic : String) : List (Int × Int) → Task Decoded Validated (List TopicPartition)
  | [] => return []
  | (partition, offset) :: rest => do
    let first ← topicPartition globals topic partition (offset + 1)
    let others ← partitionOffsets topic rest
    return first :: others

def commitList : List (String × Dict Int Int) → Task Decoded Validated (List TopicPartition)
  | [] => return []
  | (topic, partitions) :: rest => do
    let first ← partitionOffsets globals topic partitions.entries
    let others ← commitList rest
    return first ++ others

def commitOffsets : Task Decoded Validated Unit := do
  let g ← get
  if g.connected then do
    let offsets ← commitList globals g.offsetCommits.entries
    if offsets ≠ [] then do
      record (.committed offsets)
      orRaise (← call (Call.commitAsync offsets))
      modify fun g => { g with offsetCommits := Dict.empty }
    else
      return ()
  else
    return ()

/-- `str(e)`, where no `e` is in scope but a global. -/
def failureReason : Task Decoded Validated String := do
  raiseIf ("e" ∉ globals) ⟨.nameError, "name 'e' is not defined"⟩
  orRaise (← call Call.failureReason)

def sendToDlq (config : ConsumerConfig) (message : Message) : Task Decoded Validated Unit := do
  let g ← get
  match config.deadLetterTopic with
  | none => return ()
  | some topic =>
    if topic ≠ "" ∧ g.connected then do
      let reason ← failureReason globals
      outcome (← wait (Call.produce topic message reason))
      record (.deadLettered message)
    else
      return ()

def runProcessor (message : Message) (argument : Argument Validated) : Task Decoded Validated Unit := do
  record (.invoked argument)
  outcome (← wait (Call.processor message argument))

/-- The logger takes no keyword `error`, which shows when warnings are enabled. -/
def warnRetry : Task Decoded Validated Unit := do
  let enabled : Bool ← call Call.warningEnabled
  raiseIf (enabled = true)
    ⟨.typeError, "Logger._log() got an unexpected keyword argument 'error'"⟩

/-- The first `rounds` attempts; a task that is followed no further ends as one that is
cancelled. -/
def retryEach (config : ConsumerConfig) (message : Message) : Nat → Task Decoded Validated Unit
  | 0 => throw .cancelled
  | rounds + 1 => do
    match ← outcome (← wait Call.nextAttempt) with
    | none => return ()
    | some current => do
      record (.retried message)
      let ended ← attempt (do runProcessor message (.message message); record (.processed message))
      match ended with
      | .ok () => return ()
      | .error .cancelled => throw .cancelled
      | .error (.raised _) => do
        warnRetry
        if current.shouldRetry then do
          outcome (← wait Call.sleep)
          retryEach config message rounds
        else
          sendToDlq globals config message

def handleRetry (config : ConsumerConfig) (rounds : Nat) (message : Message) :
    Task Decoded Validated Unit :=
  if config.retryPolicy then retryEach globals config message rounds else return ()

def KafkaConsumerGroup.recordOffset (g : KafkaConsumerGroup Decoded Validated) (message : Message) :
    KafkaConsumerGroup Decoded Validated :=
  let partitions := (g.offsetCommits.get? message.topic).getD Dict.empty
  { g with
    offsetCommits := g.offsetCommits.set message.topic (partitions.set message.partition message.offset) }

/-- The body of the `try` in `_process_message`. -/
def processValid (message : Message) : Task Decoded Validated Unit := do
  getDeserializer message.topic
  let value ← orRaise (← call (Call.deserialize message.topic message.value))
  record (.deserialized message.topic message.value value)
  let validated ← orRaise (← call (Call.modelValidate value))
  record (.accepted value validated)
  runProcessor message (.validated validated)
  record (.processed message)
  modify fun g => g.recordOffset message

def processMessage (config : ConsumerConfig) (rounds : Nat) (message : Message) :
    Task Decoded Validated Unit :=
  asyncWith (do outcome (← wait Call.breakerEnter)) (do outcome (← wait Call.breakerExit))
    (exceptException (processValid message) fun e => do
      record (.failed message)
      if e.cls = .validationError then
        sendToDlq globals config message
      else
        handleRetry globals config rounds message)

def consumeEach (config : ConsumerConfig) (rounds : Nat) : Nat → Task Decoded Validated Unit
  | 0 => throw .cancelled
  | polls + 1 => do
    let g ← get
    if g.running then do
      record .polling
      match ← outcome (← wait Call.poll) with
      | none => consumeEach config rounds polls
      | some message =>
        if message.error then
          consumeEach config rounds polls
        else do
          record (.polled message)
          processMessage globals config rounds message
          let g ← get
          if config.maxBatchSize ≤ g.offsetCommits.keys.length then
            commitOffsets globals
          consumeEach config rounds polls
    else
      return ()

def runConsumptionLoop (config : ConsumerConfig) (rounds polls : Nat) :
    Task Decoded Validated Unit := do
  let g ← get
  raiseIf (g.connected = false) ⟨.runtimeError, "Consumer not initialized"⟩
  finallyDo (consumeEach globals config rounds polls) (commitOffsets globals)

/-- `__aenter__`. -/
def connect : Task Decoded Validated Unit := do
  orRaise (← call Call.createConsumer)
  modify fun g => { g with connected := true, running := true }

def close : Task Decoded Validated Unit := do
  modify fun g => { g with running := false }
  let g ← get
  if g.connected then do
    commitOffsets globals
    orRaise (← call Call.closeConsumer)
  else
    return ()

def addAssignment (assignments : Dict String (List Int)) (assigned : String × Int) :
    Dict String (List Int) :=
  assignments.set assigned.1 ((assignments.get? assigned.1).getD [] ++ [assigned.2])

def handleRebalance : RebalanceEvent → Task Decoded Validated Unit
  | .revoked | .lost => do
    commitOffsets globals
    modify fun g => { g with currentAssignments := Dict.empty }
  | .assigned partitions => do
    modify fun g => { g with
      currentAssignments := partitions.foldl addAssignment g.currentAssignments }
    orRaise (← call (Call.assign partitions))
  | .other => return ()

inductive Operation where
  | connect
  | consume (rounds polls : Nat)
  | rebalance (event : RebalanceEvent)
  | close

def Operation.run (config : ConsumerConfig) : Operation → Task Decoded Validated Unit
  | connect => ConsumerGroup.connect
  | consume rounds polls => runConsumptionLoop globals config rounds polls
  | rebalance event => handleRebalance globals event
  | close => ConsumerGroup.close globals

end Globals

end KuvaAI.ConsumerGroup
