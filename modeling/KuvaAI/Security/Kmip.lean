import KuvaAI.Lib.Coroutine
import KuvaAI.Python.Bytes
import Mathlib.Logic.Function.Basic

/-! The key management client of kmip_client.py and its pool of connections. The
connections are outside. -/
namespace KuvaAI.Kmip
open Python Coroutine

abbrev EnumName := String

structure KMIPConfig where
  maxConnections : Nat
  maxAttempts : Nat

/-- What ends a call early: exceptions of kmip, of asyncio and of this client, and the
cancellation, which no handler here catches. -/
inductive KMIPExn where
  | kmipOperationFailure (text : String)
  | kmipInvalidFieldValue (text : String)
  | kmipPermissionDenied (text : String)
  | kmipInvalidMessage (text : String)
  | kmipOperationNotSupported (text : String)
  | kmipConnectionError (text : String)
  | queueEmpty
  | operationError (text : String)
  | validationError (text : String)
  | permissionError (text : String)
  | other (text : String)
  | cancelled
  deriving DecidableEq, Repr

structure SymmetricKey where
  algorithm : EnumName
  length : Nat
  material : Bytes
  usageMask : List EnumName

inductive Request where
  | create (objectType algorithm : EnumName) (length : Int) (usageMask : List EnumName) (policy : String)
  | register (key : SymmetricKey)
  | encrypt (plaintext : Bytes) (uid : String) (iv : Option Bytes) (algorithm mode : EnumName)
  | decrypt (ciphertext : Bytes) (uid : String) (iv : Option Bytes) (algorithm mode : EnumName)
  | rekey (uid : String) (algorithm : Option EnumName)
  | setAttribute (uid : String) (metadata : List (String × String))

def Request.Reply : Request → Type
  | create .. | register .. | rekey .. => String
  | encrypt .. | decrypt .. => Bytes
  | setAttribute .. => Unit

inductive Pause where
  | getter
  | putter
  | sleep

inductive Wake where
  | woken
  | cancelled

inductive Call where
  | pause (pause : Pause)
  | send (client : Nat) (request : Request)
  | symmetricKey (key : SymmetricKey)

def Answer : Call → Type
  | .pause _ => Wake
  | .send _ request => Except KMIPExn request.Reply
  | .symmetricKey _ => Except KMIPExn Unit

/-- Where a call stands, for the record: no code reads it. -/
inductive Phase where
  | idle
  /-- It waits in `acquire`: the queue was empty. -/
  | blocked
  | working
  /-- It has a connection to make a key with that metadata is to be added to. -/
  | creating
  deriving DecidableEq, Repr

structure KMIPConnectionPool where
  queue : List Nat
  connected : Nat → Bool
  /-- The connections that calls have, each with its task. -/
  held : List (Nat × Nat)
  phases : Nat → Phase

abbrev Task := Coroutine KMIPConnectionPool Answer KMIPExn

namespace KMIPConnectionPool

/-- `init_pool`: every connection is opened and put into the queue. -/
def init (config : KMIPConfig) : KMIPConnectionPool where
  queue := List.range config.maxConnections
  connected := fun _ => true
  held := []
  phases := fun _ => .idle

variable (g : KMIPConnectionPool)

def moves (task : Nat) (phase : Phase) : KMIPConnectionPool :=
  { g with phases := Function.update g.phases task phase }

def takes (task : Nat) (phase : Phase) (client : Nat) : KMIPConnectionPool :=
  { g with queue := g.queue.tail, held := g.held ++ [(task, client)] }.moves task phase

def puts (task : Nat) (phase : Phase) (client : Nat) : KMIPConnectionPool :=
  { g with queue := g.queue ++ [client], held := g.held.erase (task, client) }.moves task phase

def drops (task : Nat) (phase : Phase) (client : Nat) : KMIPConnectionPool :=
  { g with held := g.held.erase (task, client) }.moves task phase

/-- `Queue.full`: a queue without a bound never is. -/
def Full (config : KMIPConfig) : Prop :=
  0 < config.maxConnections ∧ config.maxConnections ≤ g.queue.length

instance (config : KMIPConfig) : Decidable (g.Full config) := inferInstanceAs (Decidable (_ ∧ _))

end KMIPConnectionPool

def pauseFor (pause : Pause) : Task Unit := do
  let wake : Wake ← wait (Call.pause pause)
  match wake with
  | .woken => return ()
  | .cancelled => throw .cancelled

def getNowait (task : Nat) (phase : Phase) : Task Nat := do
  let g ← get
  match g.queue with
  | [] => throw .queueEmpty
  | client :: _ => do
    modify fun g => g.takes task phase client
    return client

/-- `Queue.get`. A task that waits may be woken for nothing when another is faster; then
it waits on. -/
def queueGet (task : Nat) (before phase : Phase) : Task Nat := do
  let g ← get
  if g.queue = [] then do
    modify fun g => g.moves task .blocked
    tryCatch (pauseFor .getter) fun e => do
      modify fun g => g.moves task before
      throw e
    getNowait task phase
  else
    getNowait task phase

def queuePut (config : KMIPConfig) (task : Nat) (phase : Phase) (client : Nat) : Task Unit := do
  let g ← get
  if g.Full config then do
    pauseFor .putter
    modify fun g => g.puts task phase client
  else
    modify fun g => g.puts task phase client

def acquireEach (task : Nat) (before phase : Phase) : Nat → Task Nat
  | 0 => throw (.kmipConnectionError "Connection pool exhausted")
  | attempts + 1 =>
    tryCatch (queueGet task before phase) fun e =>
      if e = .queueEmpty then do
        pauseFor .sleep
        acquireEach task before phase attempts
      else
        throw e

def acquire (config : KMIPConfig) (task : Nat) (before phase : Phase) : Task Nat :=
  acquireEach task before phase config.maxAttempts

def release (config : KMIPConfig) (task : Nat) (phase : Phase) (client : Nat) : Task Unit := do
  let g ← get
  if g.connected client then
    queuePut config task phase client
  else
    modify fun g => g.drops task phase client

def send (client : Nat) (request : Request) : Task request.Reply := do
  let reply : Except KMIPExn request.Reply ← wait (Call.send client request)
  MonadExcept.ofExcept reply

/-- An operation of the client: a connection is acquired, used and released, and the
exceptions that it handles are replaced. -/
def withClient {α : Type} (config : KMIPConfig) (task : Nat) (phase : Phase)
    (replace : KMIPExn → KMIPExn) (use : Nat → Task α) : Task α := do
  let client ← acquire config task .idle phase
  finallyDo (tryCatch (use client) fun e => throw (replace e)) (release config task .idle client)

/-- A call that has its first connection acquires another one. -/
def addMetadata (config : KMIPConfig) (task : Nat) (keyId : String) (metadata : List (String × String)) :
    Task Unit := do
  let client ← acquire config task .creating .working
  finallyDo (send client (.setAttribute keyId metadata)) (release config task .working client)

def generateSymmetricKey (config : KMIPConfig) (task : Nat) (algorithm : EnumName) (length : Int)
    (usageMask : List EnumName) (metadata : Option (List (String × String))) : Task String :=
  let entries := metadata.getD []
  withClient config task (if entries = [] then .working else .creating)
    (fun
      | .kmipOperationFailure _ => .operationError "Symmetric key generation failed"
      | e => e)
    fun client => do
      let keyId : String ← send client (.create "SYMMETRIC_KEY" algorithm length usageMask "kuva-policy")
      if entries = [] then
        return keyId
      else do
        addMetadata config task keyId entries
        return keyId

def registerExistingKey (config : KMIPConfig) (task : Nat) (material : Bytes) (algorithm : EnumName)
    (usageMask : List EnumName) : Task String :=
  withClient config task .working
    (fun
      | .kmipInvalidFieldValue _ => .validationError "Invalid key material"
      | e => e)
    fun client => do
      let key : SymmetricKey := ⟨algorithm, material.length * 8, material, usageMask⟩
      let made : Except KMIPExn Unit ← call (Call.symmetricKey key)
      MonadExcept.ofExcept made
      send client (.register key)

def encryptData (config : KMIPConfig) (task : Nat) (keyId : String) (plaintext : Bytes)
    (iv : Option Bytes) : Task Bytes :=
  withClient config task .working
    (fun
      | .kmipPermissionDenied _ => .permissionError "Encryption not allowed"
      | e => e)
    fun client => send client (.encrypt plaintext keyId iv "AES" "GCM")

def decryptData (config : KMIPConfig) (task : Nat) (keyId : String) (ciphertext : Bytes)
    (iv : Option Bytes) : Task Bytes :=
  withClient config task .working
    (fun
      | .kmipInvalidMessage _ => .operationError "Decryption integrity failure"
      | e => e)
    fun client => send client (.decrypt ciphertext keyId iv "AES" "GCM")

def rotateKey (config : KMIPConfig) (task : Nat) (keyId : String) (newAlgorithm : Option EnumName) :
    Task String :=
  withClient config task .working
    (fun
      | .kmipOperationNotSupported _ => .operationError "Rotation not supported"
      | e => e)
    fun client => send client (.rekey keyId newAlgorithm)

inductive Operation where
  | generateSymmetricKey (algorithm : EnumName) (length : Int) (usageMask : List EnumName)
      (metadata : Option (List (String × String)))
  | registerExistingKey (material : Bytes) (algorithm : EnumName) (usageMask : List EnumName)
  | encryptData (keyId : String) (plaintext : Bytes) (iv : Option Bytes)
  | decryptData (keyId : String) (ciphertext : Bytes) (iv : Option Bytes)
  | rotateKey (keyId : String) (newAlgorithm : Option EnumName)

def Operation.run (config : KMIPConfig) (task : Nat) : Operation → Task Unit
  | generateSymmetricKey algorithm length usageMask metadata => do
    let _ ← Kmip.generateSymmetricKey config task algorithm length usageMask metadata
    return ()
  | registerExistingKey material algorithm usageMask => do
    let _ ← Kmip.registerExistingKey config task material algorithm usageMask
    return ()
  | encryptData keyId plaintext iv => do
    let _ ← Kmip.encryptData config task keyId plaintext iv
    return ()
  | decryptData keyId ciphertext iv => do
    let _ ← Kmip.decryptData config task keyId ciphertext iv
    return ()
  | rotateKey keyId newAlgorithm => do
    let _ ← Kmip.rotateKey config task keyId newAlgorithm
    return ()

end KuvaAI.Kmip
