import KuvaAI.Lib.Coroutine
import KuvaAI.Lib.Dict
import Mathlib.Logic.Function.Basic

/-! The client of vault.py that reads and writes secrets through a cache. The server
keeps every version of a secret, and hands out one that is not the latest if it likes. -/
namespace KuvaAI.Vault
open Coroutine

variable {V : Type}

structure VaultConfig where
  retries : Nat

/-- `aiohttp.ClientError` with its subclasses, and what else ends a call early. -/
inductive VaultExn where
  | clientError (text : String)
  | vaultConnectionError (text : String)
  | unboundLocalError (text : String)
  | other (text : String)
  | cancelled
  deriving DecidableEq, Repr

inductive Request (V : Type) where
  | get (path : String) (version : Option Int)
  | post (path : String) (data : V) (maxVersions : Int)

/-- The data of a reply, and the number of the version that it is about. -/
structure Reply (V : Type) where
  data : V
  version : Nat

inductive Call (V : Type) where
  /-- Until the server has handled the request. -/
  | handled (request : Request V)
  | response
  | json
  | sleep (seconds : Nat)
  | keeps (path : String) (version : Int)
  | metadata (path : String)

def Answer : Call V → Type
  | .keeps _ _ => Bool
  | .metadata _ => V
  | _ => Except VaultExn Unit

/-- A read without a version that has returned, for the record: the values that were
written to the secret before it began and by when it ended, and what it returned. -/
structure ReadRecord (V : Type) where
  secret : String
  settled : List V
  issued : List V
  result : V
  deriving DecidableEq

/-- The cache and the server. The rest is for the record: no code reads it. -/
structure VaultEnterpriseClient (V : Type) where
  cache : Dict String V
  versions : String → List V
  /-- What `write_secret` was called with, and what it has returned from. -/
  issued : String → List V
  settled : String → List V
  /-- The latest version whose write has cleared the cache. -/
  cleared : String → Nat
  /-- The version that the server has handed to a task that asked for the latest. -/
  fetched : Nat → Option (String × Nat)
  reads : List (ReadRecord V)

abbrev Task (V α : Type) := Coroutine (VaultEnterpriseClient V) (@Answer V) VaultExn α

/-- The secret that a path leads to: `path.lstrip('/')`. -/
def secretOf (path : String) : String := String.ofList (path.toList.dropWhile fun c => c = '/')

def versionText : Option Int → String
  | none => "None"
  | some n => toString n

def cacheKey (path : String) (version : Option Int) : String := path ++ "?version=" ++ versionText version

namespace VaultEnterpriseClient

def init (secrets : String → List V) : VaultEnterpriseClient V where
  cache := Dict.empty
  versions := secrets
  issued := fun _ => []
  settled := fun _ => []
  cleared := fun _ => 0
  fetched := fun _ => none
  reads := []

variable (g : VaultEnterpriseClient V)

def issues (secret : String) (data : V) : VaultEnterpriseClient V :=
  { g with issued := Function.update g.issued secret (g.issued secret ++ [data]) }

def fetches (task : Nat) (fetched : Option (String × Nat)) : VaultEnterpriseClient V :=
  { g with fetched := Function.update g.fetched task fetched }

def stores (task : Nat) (secret : String) (data : V) : VaultEnterpriseClient V :=
  { g with versions := Function.update g.versions secret (g.versions secret ++ [data]) }.fetches task none

def clears (secret : String) (data : V) (version : Nat) : VaultEnterpriseClient V :=
  { g with
    cache := Dict.empty
    settled := Function.update g.settled secret (g.settled secret ++ [data])
    cleared := Function.update g.cleared secret (max (g.cleared secret) version) }

def caches (key : String) (data : V) : VaultEnterpriseClient V := { g with cache := g.cache.set key data }

def returns (settled : List V) (path : String) (version : Option Int) (result : V) :
    VaultEnterpriseClient V :=
  if version = none then
    { g with reads := g.reads ++ [⟨secretOf path, settled, g.issued (secretOf path), result⟩] }
  else g

end VaultEnterpriseClient

def handleRequest (task : Nat) : Request V → Task V (Option (Reply V))
  | .get path version => do
    let g ← get
    let stored := g.versions (secretOf path)
    modify fun g => g.fetches task (if version = none then some (secretOf path, stored.length) else none)
    match version with
    | none | some 0 => return stored.getLast?.map fun data => ⟨data, stored.length⟩
    | some n => do
      let kept : Bool ← call (Call.keeps path n)
      return if kept ∧ 0 < n then stored[n.toNat - 1]?.map fun data => ⟨data, n.toNat⟩ else none
  | .post path data _ => do
    let metadata : V ← call (Call.metadata path)
    let g ← get
    modify fun g => g.stores task (secretOf path) data
    return some ⟨metadata, (g.versions (secretOf path)).length + 1⟩

/-- `session.request`, until the response is there. -/
def sendRequest (task : Nat) (request : Request V) : Task V (Option (Reply V)) := do
  let handled : Except VaultExn Unit ← wait (Call.handled request)
  MonadExcept.ofExcept handled
  let reply ← handleRequest task request
  let response : Except VaultExn Unit ← wait Call.response
  MonadExcept.ofExcept response
  return reply

/-- `raise_for_status` and `json`. -/
def readReply : Option (Reply V) → Task V (Reply V)
  | none => throw (.clientError "Not Found")
  | some reply => do
    let read : Except VaultExn Unit ← wait Call.json
    MonadExcept.ofExcept read
    return reply

/-- The `finally` clause reads `resp`, which is unbound until a response has come. -/
def unbound : VaultExn :=
  .unboundLocalError "cannot access local variable 'resp' where it is not associated with a value"

def failed {α : Type} (bound : Bool) (e : VaultExn) : Task V α := throw (if bound then e else unbound)

def attemptRequest (task : Nat) (request : Request V) (bound : Bool)
    (handler : Bool → VaultExn → Task V (Reply V)) : Task V (Reply V) := do
  match ← attempt (sendRequest task request) with
  | .error e => handler bound e
  | .ok reply =>
    match ← attempt (readReply reply) with
    | .error e => handler true e
    | .ok reply => return reply

def requestEach (config : VaultConfig) (task : Nat) (request : Request V) (bound : Bool) :
    Nat → Task V (Reply V)
  | 0 => attemptRequest task request bound fun
    | bound, .clientError _ =>
      failed bound (.vaultConnectionError s!"Vault request failed after {config.retries} retries")
    | bound, e => failed bound e
  | left + 1 => attemptRequest task request bound fun
    | bound, .clientError _ => do
      let slept : Except VaultExn Unit ← wait (Call.sleep (2 ^ (config.retries - (left + 1))))
      match slept with
      | .error e => failed bound e
      | .ok () =>
        if bound then
          requestEach config task request true left
        else
          throw unbound
    | bound, e => failed bound e

def request (config : VaultConfig) (task : Nat) (request : Request V) : Task V (Reply V) :=
  requestEach config task request false config.retries

section Client

variable (truthy : V → Bool) (config : VaultConfig) (task : Nat)

def readSecret (path : String) (version : Option Int) : Task V V := do
  let g ← get
  let settled := g.settled (secretOf path)
  match (g.cache.get? (cacheKey path version)).filter truthy with
  | some cached => do
    modify fun g => g.returns settled path version cached
    return cached
  | none => do
    let result ← request config task (.get path version)
    modify fun g => (g.caches (cacheKey path version) result.data).returns settled path version result.data
    return result.data

def writeSecret (path : String) (data : V) (maxVersions : Int) : Task V V := do
  modify fun g => g.issues (secretOf path) data
  let result ← request config task (.post path data maxVersions)
  modify fun g => g.clears (secretOf path) data result.version
  return result.data

inductive Operation (V : Type) where
  | readSecret (path : String) (version : Option Int)
  | writeSecret (path : String) (data : V) (maxVersions : Int)

def Operation.run : Operation V → Task V Unit
  | readSecret path version => do
    let _ ← Vault.readSecret truthy config task path version
    return ()
  | writeSecret path data maxVersions => do
    let _ ← Vault.writeSecret config task path data maxVersions
    return ()

end Client

end KuvaAI.Vault
