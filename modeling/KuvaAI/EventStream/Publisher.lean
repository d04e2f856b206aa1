import KuvaAI.EventStream.SchemaCache
import KuvaAI.Lib.Dict
import KuvaAI.Python.Bytes
import Mathlib.Logic.Function.Basic

/-! The publisher pool of publisher.py. The producers, the circuit breaker, the clock and
the serializers are outside. A producer with an open transaction is assumed to put every
message that is produced on it into that transaction. -/
namespace KuvaAI.Publisher
open Python Coroutine EventStream

/-- A message; `Payload` stands for the fields that only the serializer reads. -/
structure Message (Payload : Type) where
  correlationId : Option String
  payload : Payload

/-- What has happened, for the record: no code reads it. -/
inductive Event where
  | began (transactionId : String) (producer : Nat)
  /-- A message is to be published: the producer that was picked, the one bound to its
  transaction, whether the one picked has an open transaction, and the one that it is
  produced on unless it is refused. -/
  | published (transactionId : Option String) (picked : Nat) (bound : Option Nat)
      (inTransaction : Bool) (on : Option Nat)
  | committed (producer : Nat)
  /-- These messages, known by the transaction they were published with, are discarded. -/
  | aborted (producer : Nat) (discarded : List (Option String))
  deriving DecidableEq

structure KafkaPublisherPool where
  producers : Nat
  schemas : SchemaCache
  activeTransactions : Dict String Nat
  locked : Bool
  isShuttingDown : Bool
  /-- The messages in the open transaction of each producer that has one. -/
  opened : Nat → Option (List (Option String))
  history : List Event

inductive Call (Payload : Type) where
  | createProducer
  | poolLock
  | monotonicNs
  | beginTransaction (producer : Nat)
  | commitTransaction (producer : Nat)
  | abortTransaction (producer : Nat)
  | breakerEnter
  | breakerExit
  | serializerLock
  | createSerializer (topic : String)
  | serialize (topic : String) (message : Message Payload)
  | produce (producer : Nat) (topic : String) (key : Option Bytes) (value : Bytes)
      (headers : List (String × Bytes))
  | poll (producer : Nat)
  | flushNow (producer : Nat)
  | flush (producer : Nat)
  | closeProducer (producer : Nat)

def Answer {Payload : Type} : Call Payload → Type
  | .poolLock => Except Interrupt Unit
  | .serializerLock => Except Interrupt Unit
  | .breakerEnter => Except Interrupt Unit
  | .breakerExit => Except Interrupt Bool
  | .monotonicNs => Nat
  | .serialize _ _ => Except Exn Bytes
  | .flushNow _ => Except Exn Nat
  | _ => Except Exn Unit

variable {Payload : Type}

abbrev Task (Payload : Type) := Coroutine KafkaPublisherPool (@Answer Payload) Interrupt

def KafkaPublisherPool.init : KafkaPublisherPool where
  producers := 0
  schemas := .empty
  activeTransactions := Dict.empty
  locked := false
  isShuttingDown := false
  opened := fun _ => none
  history := []

namespace KafkaPublisherPool

variable (g : KafkaPublisherPool)

def note (event : Event) : KafkaPublisherPool := { g with history := g.history ++ [event] }

def opens (producer : Nat) : KafkaPublisherPool :=
  { g with opened := Function.update g.opened producer (some ((g.opened producer).getD [])) }

def closes (producer : Nat) : KafkaPublisherPool :=
  { g with opened := Function.update g.opened producer none }

def adds (producer : Nat) (transactionId : Option String) : KafkaPublisherPool :=
  { g with opened := Function.update g.opened producer ((g.opened producer).map (· ++ [transactionId])) }

end KafkaPublisherPool

def record (event : Event) : Task Payload Unit := modify fun g => g.note event

def schemas : CacheField KafkaPublisherPool where
  view := KafkaPublisherPool.schemas
  update f g := { g with schemas := f g.schemas }

def getSerializer : String → Task Payload Unit :=
  getCodec schemas (do outcome (← wait Call.serializerLock)) fun topic => do
    orRaise (← call (Call.createSerializer topic))

/-- `_initialize_pool`, for this many connections. -/
def initializePool : Nat → Task Payload Unit
  | 0 => return ()
  | connections + 1 => do
    orRaise (← call Call.createProducer)
    modify fun g => { g with producers := g.producers + 1 }
    initializePool connections

/-- The clock decides: the remainder of the number of producers by that of the clock. -/
def getProducer : Task Payload Nat := do
  let g ← get
  let clock : Nat ← call Call.monotonicNs
  raiseIf (g.producers = 0 ∨ clock % g.producers = 0) ⟨.zeroDivisionError, "integer modulo by zero"⟩
  return g.producers % (clock % g.producers)

def withLock (body : Task Payload Unit) : Task Payload Unit := do
  let g ← get
  if g.locked then
    outcome (← wait Call.poolLock)
  modify fun g => { g with locked := true }
  finallyDo body (modify fun g => { g with locked := false })

def beginTransaction (transactionId : String) : Task Payload Unit :=
  withLock (do
    let g ← get
    raiseIf (transactionId ∈ g.activeTransactions.keys)
      ⟨.valueError, s!"Transaction {transactionId} already exists"⟩
    let producer ← getProducer
    orRaise (← call (Call.beginTransaction producer))
    record (.began transactionId producer)
    modify fun g => g.opens producer
    modify fun g => { g with activeTransactions := g.activeTransactions.set transactionId producer })

/-- `commit_transaction` and `abort_transaction`, which differ in what they do with the
producer. -/
def endTransaction (transactionId : String) (finish : Nat → Task Payload Unit) : Task Payload Unit :=
  withLock (do
    let g ← get
    match g.activeTransactions.get? transactionId with
    | none => raise ⟨.valueError, s!"Transaction {transactionId} not found"⟩
    | some producer =>
      finallyDo (finish producer)
        (modify fun g => { g with activeTransactions := g.activeTransactions.erase transactionId }))

def commit (producer : Nat) : Task Payload Unit := do
  orRaise (← call (Call.commitTransaction producer))
  record (.committed producer)
  modify fun g => g.closes producer

def abort (producer : Nat) : Task Payload Unit := do
  orRaise (← call (Call.abortTransaction producer))
  let g ← get
  record (.aborted producer ((g.opened producer).getD []))
  modify fun g => g.closes producer

def commitTransaction (transactionId : String) : Task Payload Unit := endTransaction transactionId commit

def abortTransaction (transactionId : String) : Task Payload Unit := endTransaction transactionId abort

def messageKey (message : Message Payload) : Option Bytes :=
  (message.correlationId.filter fun id => id ≠ "").map encode

def kafkaHeaders (headers : List (String × String)) : List (String × Bytes) :=
  headers.map fun header => (header.1, encode header.2)

/-- The message is serialized, and is produced on the producer that was picked unless its
transaction has another. -/
def produceOn (picked : Nat) (topic : String) (message : Message Payload) (transactionId : Option String)
    (headers : List (String × String)) : Task Payload Unit := do
  let value ← orRaise (← call (Call.serialize topic message))
  let g ← get
  let bound := transactionId.bind g.activeTransactions.get?
  let inTransaction := (g.opened picked).isSome
  if transactionId.any (fun id => id ≠ "") ∧ bound ≠ some picked then do
    record (.published transactionId picked bound inTransaction none)
    raise ⟨.valueError, "Transaction spans multiple producers"⟩
  else do
    record (.published transactionId picked bound inTransaction (some picked))
    orRaise (← call (Call.produce picked topic (messageKey message) value (kafkaHeaders headers)))
    modify fun g => g.adds picked transactionId
    orRaise (← call (Call.poll picked))
    let left ← orRaise (← call (Call.flushNow picked))
    if 0 < left then
      orRaise (← call (Call.flush picked))
    else
      return ()

def publish (topic : String) (message : Message Payload) (transactionId : Option String)
    (headers : List (String × String)) : Task Payload Unit :=
  asyncWith (do outcome (← wait Call.breakerEnter)) (do outcome (← wait Call.breakerExit)) (do
    let picked ← getProducer
    getSerializer topic
    produceOn picked topic message transactionId headers)

def closeProducer (producer : Nat) : Task Payload Unit :=
  exceptException (do
    let g ← get
    if producer ∈ g.activeTransactions.values then
      abort producer
    orRaise (← call (Call.flush producer))
    orRaise (← call (Call.closeProducer producer))) fun _ => return ()

def close : Task Payload Unit :=
  withLock (do
    let g ← get
    if g.isShuttingDown then
      return ()
    else do
      modify fun g => { g with isShuttingDown := true }
      (List.range g.producers).forM closeProducer)

inductive Operation (Payload : Type) where
  | enter (maxConnections : Nat)
  | beginTransaction (transactionId : String)
  | commitTransaction (transactionId : String)
  | abortTransaction (transactionId : String)
  | publish (topic : String) (message : Message Payload) (transactionId : Option String)
      (headers : List (String × String))
  | close

def Operation.run : Operation Payload → Task Payload Unit
  | enter maxConnections => initializePool maxConnections
  | beginTransaction transactionId => Publisher.beginTransaction transactionId
  | commitTransaction transactionId => Publisher.commitTransaction transactionId
  | abortTransaction transactionId => Publisher.abortTransaction transactionId
  | publish topic message transactionId headers => Publisher.publish topic message transactionId headers
  | close => Publisher.close

end KuvaAI.Publisher
