import KuvaAI.Lib.HashChain
import KuvaAI.Python.Bytes
import KuvaAI.Python.Value

/-! The audit logger of auditor.py. The hash and the serialisation of entries
are parameters: of the first only the shape of its digests is known, of the
second that it is total and writes a JSON object. -/
namespace KuvaAI.Audit
open Python

def hexDigits : List Char := "0123456789abcdefABCDEF".toList

@[ext] structure HexDigest (size : Nat) where
  text : String
  length : text.toList.length = size
  digits : ∀ c ∈ text.toList, c ∈ hexDigits

structure HexHash where
  size : Nat
  positive : 0 < size
  hexdigest : Bytes → HexDigest size

/-- `json.dumps(entry_dict, sort_keys=True).encode()`, taken to succeed. -/
structure Serializer where
  dumps : Dict String Value → Bytes
  opens : ∀ d, ∃ rest, dumps d = 123 :: rest

inductive Severity where
  | debug | info | warning | critical
  deriving DecidableEq, Repr

def Severity.text : Severity → String
  | .debug => "DEBUG"
  | .info => "INFO"
  | .warning => "WARNING"
  | .critical => "CRITICAL"

def optional : Option String → Value
  | none => .none
  | some s => .str s

structure AuditSubject where
  id : String
  type : String
  role : String
  ip : Option String
  geolocation : Option String
  nonempty : 1 ≤ id.length
  shape : 1 ≤ type.length ∧ type.length ≤ 32 ∧
    type.toList.all (fun c => c.isAlphanum || c = '_' || c = '-') = true

def AuditSubject.modelDump (s : AuditSubject) : Value :=
  .dict [("id", .str s.id), ("type", .str s.type), ("role", .str s.role), ("ip", optional s.ip),
    ("geolocation", optional s.geolocation)]

structure AuditTarget where
  id : String
  type : String
  version : Option String
  integrityHash : Option String

def AuditTarget.modelDump (t : AuditTarget) : Value :=
  .dict [("id", .str t.id), ("type", .str t.type), ("version", optional t.version),
    ("integrity_hash", optional t.integrityHash)]

structure AuditEntry where
  timestamp : Int
  action : String
  severity : Severity
  subject : AuditSubject
  targets : List AuditTarget
  context : Dict String Value
  correlationId : Option String
  sessionId : Option String
  chainHash : Option String
  bounded : 1 ≤ action.length ∧ action.length ≤ 128

def AuditEntry.modelDump (e : AuditEntry) : Dict String Value where
  entries := [("timestamp", .datetime e.timestamp), ("action", .str e.action),
    ("severity", .str e.severity.text), ("subject", e.subject.modelDump),
    ("targets", .list (e.targets.map AuditTarget.modelDump)), ("context", .dict e.context.entries),
    ("correlation_id", optional e.correlationId), ("session_id", optional e.sessionId),
    ("chain_hash", optional e.chainHash)]
  nodup := by simp

abbrev Record := Dict String Value

/-- What `storage.persist` did with the record. A backend may store it and
raise afterwards. -/
inductive Persisted where
  | lost (e : Exn)
  | stored (answer : Except Exn String)

structure Call where
  entry : AuditEntry
  signature : Except Exn String
  persisted : Persisted

/-- The logger and its storage. `hashed` is a ghost: the argument of every call
of the hash so far. -/
structure AuditLogger (H : HexHash) where
  publicKey : String
  chainHash : Option (HexDigest H.size)
  storage : List Record
  hashed : List Bytes

section Logger

variable (H : HexHash) (S : Serializer)

def AuditLogger.init (publicKey : String) : AuditLogger H :=
  { publicKey, chainHash := none, storage := [], hashed := [] }

variable {H}

def sha3 (logger : AuditLogger H) (data : Bytes) : HexDigest H.size × AuditLogger H :=
  (H.hexdigest data, { logger with hashed := logger.hashed ++ [data] })

def buildChainHash (logger : AuditLogger H) (contentHash : HexDigest H.size) :
    HexDigest H.size × AuditLogger H :=
  match logger.chainHash.filter (fun chainHash => chainHash.text ≠ "") with
  | some chainHash =>
    let (next, logger) := sha3 logger (encode (chainHash.text ++ contentHash.text))
    (next, { logger with chainHash := some next })
  | none => (contentHash, { logger with chainHash := some contentHash })

def fullRecord (entryDict : Dict String Value) (contentHash chainHash signature publicKey : String) :
    Record :=
  (((entryDict.set "content_hash" (.str contentHash)).set "chain_hash" (.str chainHash)).set
    "signature" (.str signature)).set "public_key" (.str publicKey)

/-- The head of the chain is advanced before the entry is signed and stored. -/
def log (call : Call) (logger : AuditLogger H) : Except Exn String × AuditLogger H :=
  let entryDict := call.entry.modelDump
  let entryJson := S.dumps entryDict
  let (contentHash, logger) := sha3 logger entryJson
  let (chainHash, logger) := buildChainHash logger contentHash
  match call.signature with
  | .error e => (.error e, logger)
  | .ok signature =>
    match call.persisted with
    | .lost e => (.error e, logger)
    | .stored answer =>
      let record := fullRecord entryDict contentHash.text chainHash.text signature logger.publicKey
      (answer, { logger with storage := logger.storage ++ [record] })

def run (logger : AuditLogger H) : List Call → AuditLogger H
  | [] => logger
  | call :: rest => run (log S call logger).2 rest

end Logger

end KuvaAI.Audit
