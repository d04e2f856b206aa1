import KuvaAI.EventStream.SchemaCache
import KuvaAI.Lib.Dict
import KuvaAI.Python.Bytes
import Mathlib.Logic.Function.Basic

/-! The subscriber of subscriber.py and the event loop that its tasks run on. The message
handler, the circuit breaker and Kafka are outside, and so are the deserializers. -/
namespace KuvaAI.Subscriber
open Python Coroutine EventStream

inductive HeaderValue where
  | bytes (value : Bytes)
  | number (value : Nat)

structure Message where
  topic : String
  partition : Int
  offset : Int
  value : Option Bytes
  headers : Dict String HeaderValue

structure Position where
  topic : String
  partition : Int
  offset : Int
  deriving DecidableEq

def Message.position (message : Message) : Position := ⟨message.topic, message.partition, message.offset⟩

/-- What is polled carries no retry header of its own. -/
abbrev Polled := { message : Message // message.headers.get? "retry_attempt" = none }

/-- A message and the number of its delivery, which no code reads: a copy for a retry is
of the same delivery. -/
structure Delivery where
  number : Nat
  message : Message

inductive PollResult where
  | nothing
  | error
  | message (polled : Polled)
  | kafkaException
  | raised (e : Exn)

structure Poll where
  assignments : List (List (String × Int))
  result : PollResult

/-- A task that `run` creates; the retry task is followed for this many rounds. -/
inductive Job where
  | process (delivery : Delivery)
  | handleRetries (rounds : Nat)

structure SubscriberConfig where
  enableAutoCommit : Bool
  maxConcurrentMessages : Nat
  maxRetryAttempts : Nat
  deadLetterTopic : Option String

/-- What has happened, for the record: no code reads it. -/
inductive Event where
  | polled (delivery : Delivery)
  | invoked (delivery : Delivery)
  | handled (delivery : Delivery)
  | committed (delivery : Delivery)
  | deadLettered (delivery : Delivery)
  /-- The processing ended, and the message is neither handled nor on its way elsewhere. -/
  | lost (delivery : Delivery)

/-- Where the deliveries are: the tasks that were created and have not begun, the retry
queue and, for the record, what each task is processing and what has happened. -/
structure Book where
  scheduled : List Job
  retryQueue : List Delivery
  processing : Nat → Option Delivery
  delivered : Nat
  history : List Event

structure KafkaSubscriber extends Book where
  consumer : Bool
  schemas : SchemaCache
  permits : Nat
  isShuttingDown : Bool
  assignment : List (String × Int)

inductive Call (Parsed : Type) where
  | createConsumer
  | subscribe (topics : List String)
  | resubscribe (assignment : List (String × Int))
  | poll
  | closeConsumer
  | breakerEnter
  | breakerExit
  | acquirePermit
  | lock
  | createDeserializer (topic : String)
  | deserialize (topic : String) (raw : Option Bytes)
  /-- The handler gets what was parsed; which delivery it is of is for the record. -/
  | messageHandler (delivery : Delivery) (parsed : Parsed)
  | commit (delivery : Delivery)
  | publish (topic : String) (delivery : Delivery) (error : String)
  | sleep

def Answer {Parsed : Type} : Call Parsed → Type
  | .poll => Poll
  | .breakerExit => Except Interrupt Bool
  | .deserialize _ _ => Except Exn Parsed
  | .createConsumer => Except Exn Unit
  | .subscribe _ => Except Exn Unit
  | .resubscribe _ => Except Exn Unit
  | .closeConsumer => Except Exn Unit
  | .createDeserializer _ => Except Exn Unit
  | .commit _ => Except Exn Unit
  | _ => Except Interrupt Unit

variable {Parsed : Type}

abbrev Task (Parsed : Type) := Coroutine KafkaSubscriber (@Answer Parsed) Interrupt

def KafkaSubscriber.init (config : SubscriberConfig) : KafkaSubscriber where
  consumer := false
  schemas := .empty
  permits := config.maxConcurrentMessages
  retryQueue := []
  isShuttingDown := false
  assignment := []
  scheduled := []
  processing := fun _ => none
  delivered := 0
  history := []

def Event.settles (position : Position) : Event → Bool
  | .handled delivery | .deadLettered delivery => delivery.message.position = position
  | _ => false

namespace Book

variable (b : Book)

def note (event : Event) : Book := { b with history := b.history ++ [event] }

def create (job : Job) : Book := { b with scheduled := b.scheduled ++ [job] }

def receive (message : Message) : Book :=
  ({ b with delivered := b.delivered + 1 }.note (.polled ⟨b.delivered, message⟩)).create
    (.process ⟨b.delivered, message⟩)

def take (task : Nat) (delivery : Delivery) : Book :=
  { b with processing := Function.update b.processing task (some delivery) }

def clear (task : Nat) : Book :=
  { b with processing := Function.update b.processing task none }

def requeue (task : Nat) (copy : Delivery) : Book :=
  { b with retryQueue := b.retryQueue ++ [copy] }.clear task

def leave (task : Nat) : Book :=
  match b.processing task with
  | none => b
  | some delivery =>
    if b.history.any (Event.settles delivery.message.position) then
      b.clear task
    else
      (b.clear task).note (.lost delivery)

end Book

def edit (f : Book → Book) : Task Parsed Unit := modify fun g => { g with toBook := f g.toBook }

def record (event : Event) : Task Parsed Unit := edit fun b => b.note event

def schemas : CacheField KafkaSubscriber where
  view := KafkaSubscriber.schemas
  update f g := { g with schemas := f g.schemas }

def getDeserializer : String → Task Parsed Unit :=
  getCodec schemas (do outcome (← wait Call.lock)) fun topic => do
    orRaise (← call (Call.createDeserializer topic))

/-- `msg.headers().get("retry_attempt", 0)`. -/
def Message.retryAttempt (message : Message) : HeaderValue :=
  (message.headers.get? "retry_attempt").getD (.number 0)

def Message.withAttempt (message : Message) (attempt : Nat) : Message :=
  { message with headers := message.headers.set "retry_attempt" (.number attempt) }

/-- The module does not import the class of this name. -/
def deserializingProducer : Task Parsed Unit :=
  raise ⟨.nameError, "name 'DeserializingProducer' is not defined"⟩

def handleInvalidMessage (config : SubscriberConfig) (delivery : Delivery) : Task Parsed Unit :=
  match config.deadLetterTopic with
  | none => return ()
  | some topic =>
    if topic ≠ "" then do
      deserializingProducer
      outcome (← wait (Call.publish topic delivery "Schema validation failed"))
      record (.deadLettered delivery)
    else
      return ()

def handleProcessingFailure (config : SubscriberConfig) (task : Nat) (delivery : Delivery) :
    Task Parsed Unit :=
  match delivery.message.retryAttempt with
  | .bytes _ => raise ⟨.typeError, "'<' not supported between instances of 'bytes' and 'int'"⟩
  | .number attempt =>
    if attempt < config.maxRetryAttempts then
      edit fun b => b.requeue task { delivery with message := delivery.message.withAttempt (attempt + 1) }
    else
      handleInvalidMessage config delivery

/-- The body of the `try` in `_process_message`. -/
def handleMessage (config : SubscriberConfig) (delivery : Delivery) : Task Parsed Unit := do
  getDeserializer delivery.message.topic
  let parsed ← orRaise (← call (Call.deserialize delivery.message.topic delivery.message.value))
  record (.invoked delivery)
  outcome (← wait (Call.messageHandler delivery parsed))
  record (.handled delivery)
  if config.enableAutoCommit then
    return ()
  else do
    record (.committed delivery)
    orRaise (← call (Call.commit delivery))

/-- A task may have to wait for a permit even when there is one: others came first. -/
def acquirePermit : Task Parsed Unit := do
  outcome (← wait Call.acquirePermit)
  modify fun g => { g with permits := g.permits - 1 }

def releasePermit (config : SubscriberConfig) : Task Parsed Bool := do
  let g ← get
  raiseIf (config.maxConcurrentMessages ≤ g.permits)
    ⟨.valueError, "BoundedSemaphore released too many times"⟩
  modify fun g => { g with permits := g.permits + 1 }
  return false

def processMessage (config : SubscriberConfig) (task : Nat) (delivery : Delivery) : Task Parsed Unit :=
  asyncWith (do outcome (← wait Call.breakerEnter)) (do outcome (← wait Call.breakerExit))
    (asyncWith acquirePermit (releasePermit config)
      (exceptException (handleMessage config delivery) fun e =>
        if e.cls = .validationError then
          handleInvalidMessage config delivery
        else
          handleProcessingFailure config task delivery))

def work (config : SubscriberConfig) (task : Nat) (delivery : Delivery) : Task Parsed Unit := do
  edit fun b => b.take task delivery
  finallyDo (processMessage config task delivery) (edit fun b => b.leave task)

def retryNext (config : SubscriberConfig) (task : Nat) : Task Parsed Unit := do
  let g ← get
  match g.retryQueue with
  | [] => return ()
  | delivery :: rest => do
    edit fun b => { b with retryQueue := rest }
    work config task delivery

/-- The loop, for this many rounds; a task that is followed no further ends as one that
is cancelled. -/
def handleRetries (config : SubscriberConfig) (task : Nat) : Nat → Task Parsed Unit
  | 0 => throw .cancelled
  | rounds + 1 => do
    let g ← get
    if g.isShuttingDown then
      return ()
    else do
      exceptException (retryNext config task) fun _ => return ()
      outcome (← wait Call.sleep)
      handleRetries config task rounds

def Job.run (config : SubscriberConfig) (task : Nat) : Job → Task Parsed Unit
  | process delivery => work config task delivery
  | handleRetries rounds => Subscriber.handleRetries config task rounds

def begin (config : SubscriberConfig) (task index : Nat) : Task Parsed Unit := do
  let g ← get
  match g.scheduled[index]? with
  | none => return ()
  | some job => do
    edit fun b => { b with scheduled := b.scheduled.eraseIdx index }
    job.run config task

def initializeConsumer : Task Parsed Unit := do
  orRaise (← call Call.createConsumer)
  modify fun g => { g with consumer := true }

def rebalanceRecovery : Task Parsed Unit := do
  orRaise (← call Call.closeConsumer)
  initializeConsumer
  let g ← get
  orRaise (← call (Call.resubscribe g.assignment))

def pollEach : Nat → Task Parsed Unit
  | 0 => throw .cancelled
  | polls + 1 => do
    let g ← get
    if g.isShuttingDown then
      return ()
    else do
      let polled : Poll ← call Call.poll
      modify fun g => { g with assignment := polled.assignments.foldl (fun _ latest => latest) g.assignment }
      match polled.result with
      | .nothing | .error => pollEach polls
      | .message message => do
        edit fun b => b.receive message
        pollEach polls
      | .kafkaException => do
        rebalanceRecovery
        pollEach polls
      | .raised e => raise e

def run (topics : List String) (rounds polls : Nat) : Task Parsed Unit := do
  let g ← get
  raiseIf (g.consumer = false) ⟨.attributeError, "'NoneType' object has no attribute 'subscribe'"⟩
  orRaise (← call (Call.subscribe topics))
  edit fun b => b.create (.handleRetries rounds)
  pollEach polls

def close : Task Parsed Unit := do
  modify fun g => { g with isShuttingDown := true }
  let g ← get
  if g.consumer then
    exceptException (do orRaise (← call Call.closeConsumer)) fun _ => return ()
  else
    return ()

inductive Operation where
  | enter
  | run (topics : List String) (rounds polls : Nat)
  | begin (index : Nat)
  | close

def Operation.task (config : SubscriberConfig) (task : Nat) : Operation → Task Parsed Unit
  | enter => initializeConsumer
  | run topics rounds polls => Subscriber.run topics rounds polls
  | begin index => Subscriber.begin config task index
  | close => Subscriber.close

end KuvaAI.Subscriber
