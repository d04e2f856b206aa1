import KuvaAI.Security.AuditChain
import Mathlib.Data.Set.Function
import Mathlib.Data.List.Sort

/-! Whether the signed dictionary can be had back from a stored record. The record has the
keys of the entry and three more; `chain_hash` is in both, with different values. -/
namespace KuvaAI.Audit
open Python

section Logger

variable {H : HexHash} (S : Serializer)

/-- What `log` hands to its storage; a signature that fails leaves nothing to hand on. -/
def handed (call : Call) (logger : AuditLogger H) : Option Record :=
  match call.signature with
  | .error _ => none
  | .ok signature =>
    let contentHash := H.hexdigest (entryJson S call)
    let chainHash := (buildChainHash logger contentHash).1
    some (fullRecord call.entry.modelDump contentHash.text chainHash.text signature logger.publicKey)

theorem storage_log (call : Call) (logger : AuditLogger H) (kept : call.kept = true) :
    (log S call logger).2.storage = logger.storage ++ (handed S call logger).toList := by
  cases signature : call.signature with
  | error e => simp [Call.kept, signature] at kept
  | ok text =>
    cases persisted : call.persisted with
    | lost e => simp [Call.kept, signature, persisted] at kept
    | stored answer =>
      simp [log, handed, sha3, buildChainHash_eq, entryJson, signature, persisted]

/-- The record without the three keys of its own, and `chain_hash` back at null. -/
def signedDict (record : Record) : Record :=
  (((record.erase "content_hash").erase "signature").erase "public_key").set "chain_hash" .none

def Recoverable (record : Record) : Prop :=
  (H.hexdigest (S.dumps (signedDict record))).text = stored "content_hash" record

theorem signedDict_fullRecord (e : AuditEntry) (contentHash chainHash signature publicKey : String) :
    signedDict (fullRecord e.modelDump contentHash chainHash signature publicKey) =
      e.modelDump.set "chain_hash" .none := by
  rfl

theorem content_fullRecord (entryDict : Dict String Value)
    (contentHash chainHash signature publicKey : String) :
    stored "content_hash" (fullRecord entryDict contentHash chainHash signature publicKey) =
      contentHash :=
  congrArg Prod.fst (hashes_fullRecord entryDict contentHash chainHash signature publicKey)

theorem nulled_eq_self_iff (e : AuditEntry) :
    e.modelDump.set "chain_hash" .none = e.modelDump ↔ e.chainHash = none := by
  rw [Dict.set_eq_self_iff]
  have dumped : e.modelDump.get? "chain_hash" = some (optional e.chainHash) := rfl
  cases chain : e.chainHash <;> simp [dumped, chain, optional]

/-- A record can be verified exactly if its entry came without a `chain_hash`: what the
caller supplied there is signed, and the head of the chain is stored over it. -/
theorem recoverable_iff (call : Call) (logger : AuditLogger H) (record : Record)
    (given : handed S call logger = some record)
    (dumps : Set.InjOn S.dumps {signedDict record, call.entry.modelDump})
    (hexdigest : Set.InjOn H.hexdigest {S.dumps (signedDict record), entryJson S call}) :
    Recoverable S (H := H) record ↔ call.entry.chainHash = none := by
  cases signature : call.signature with
  | error e => simp [handed, signature] at given
  | ok text =>
    simp only [handed, signature, Option.some.injEq] at given
    subst given
    rw [signedDict_fullRecord] at dumps hexdigest
    rw [Recoverable, signedDict_fullRecord, content_fullRecord, ← nulled_eq_self_iff]
    constructor
    · intro same
      apply dumps (by simp) (by simp)
      exact hexdigest (by simp) (by simp [entryJson]) (HexDigest.ext same)
    · intro same
      rw [same]
      rfl

end Logger

section Json

def jsonString (s : String) : String := "\"" ++ s ++ "\""

def jsonObject (members : List (String × String)) : String :=
  "\x7b" ++ (", ".intercalate ((members.insertionSort fun m n => m.1 ≤ n.1).map fun m =>
    jsonString m.1 ++ ": " ++ m.2) ++ "\x7d")

def fractionDigits (den remainder : Nat) : Nat → List Char
  | 0 => []
  | digits + 1 =>
    if remainder = 0 then []
    else Nat.digitChar (10 * remainder / den) :: fractionDigits den (10 * remainder % den) digits

/-- A finite float, whose denominator is a power of two, is written in full; `repr` gives the
shortest text that reads back as the same float. -/
def jsonFloat : Flt → String
  | .nan => "NaN"
  | .infinite negative => if negative then "-Infinity" else "Infinity"
  | .finite q =>
    let whole := q.num.natAbs / q.den
    let fraction := fractionDigits q.den (q.num.natAbs % q.den) q.den.log2
    (if q < 0 then "-" else "") ++ toString whole ++ "." ++
      (if fraction = [] then "0" else String.ofList fraction)

example : jsonFloat (.finite (-5 / 4)) = "-1.25" := by decide +kernel

mutual
/-- `json.dumps` with sorted keys. A datetime, for which that has no text of its own, is
written as its number. -/
def json : Value → String
  | .none => "null"
  | .bool b => if b then "true" else "false"
  | .int n => toString n
  | .float x => jsonFloat x
  | .str s => jsonString s
  | .datetime t => toString t
  | .list xs => "[" ++ ", ".intercalate (jsonEach xs) ++ "]"
  | .dict entries => jsonObject (jsonEntries entries)

def jsonEach : List Value → List String
  | [] => []
  | v :: rest => json v :: jsonEach rest

def jsonEntries : List (String × Value) → List (String × String)
  | [] => []
  | (key, v) :: rest => (key, json v) :: jsonEntries rest
end

def sortedJson : Serializer where
  dumps d := encode (json (.dict d.entries))
  opens d := by
    rw [json, jsonObject, encode_append]
    exact ⟨_, rfl⟩

theorem sortedJson_dumps (d : Record) : sortedJson.dumps d = encode (json (.dict d.entries)) := rfl

end Json

def chained : Call where
  entry := { unsignedLogin.entry with chainHash := some "5f1c" }
  signature := .ok "a1"
  persisted := .stored (.ok "r-1")

def chainedNumber : Nat :=
  0x6e023c64f11d112dac262eeac05b38c43dd27bc6ae80838b5b727aec39b49b9b139effa1f638921caa13d187c0b8f95538a6364d46ca476b42445147109bd6c1
def nulledNumber : Nat :=
  0x4ece59228364ebe4d3d76f50ff63b0816944f1d76300c3ba716e56fe45c12a98a0a9563d3e8c22098a81f51bebb5137fcdd8488455b4950238abfaebb86ea672

def sha3PairOf (data : Bytes) : HexDigest 128 :=
  .ofNat 128 (if data = entryJson sortedJson chained then chainedNumber else nulledNumber)

def sha3Pair : HexHash := ⟨128, sha3Table.positive, sha3PairOf⟩

def nulled : Record := chained.entry.modelDump.set "chain_hash" .none

theorem nulled_json : entryJson sortedJson chained ≠ sortedJson.dumps nulled := by
  intro same
  rw [entryJson, sortedJson_dumps, sortedJson_dumps] at same
  have texts : json (.dict chained.entry.modelDump.entries) ≠ json (.dict nulled.entries) := by
    decide +kernel
  exact texts (encode_injective same)

theorem nulled_digest :
    sha3PairOf (sortedJson.dumps nulled) ≠ sha3PairOf (entryJson sortedJson chained) := by
  intro same
  rw [sha3PairOf, sha3PairOf, if_neg nulled_json.symm, if_pos rfl] at same
  have differ : (nibbles 128 nulledNumber).head? ≠ (nibbles 128 chainedNumber).head? := by
    decide +kernel
  exact differ (congrArg List.head? (HexDigest.ofNat_nibbles same))

def firstLogger : AuditLogger sha3Pair := AuditLogger.init sha3Pair "key-1"

def chainedRecord : Record :=
  fullRecord chained.entry.modelDump (sha3Pair.hexdigest (entryJson sortedJson chained)).text
    (sha3Pair.hexdigest (entryJson sortedJson chained)).text "a1" "key-1"

theorem chained_handed : handed sortedJson chained firstLogger = some chainedRecord := rfl

theorem signedDict_chained : signedDict chainedRecord = nulled := signedDict_fullRecord _ _ _ _ _

theorem chained_dumps : Set.InjOn sortedJson.dumps {signedDict chainedRecord, chained.entry.modelDump} := by
  rw [signedDict_chained, Set.injOn_pair]
  exact fun same => absurd same.symm nulled_json

theorem chained_hexdigest : Set.InjOn sha3Pair.hexdigest
    {sortedJson.dumps (signedDict chainedRecord), entryJson sortedJson chained} := by
  rw [signedDict_chained, Set.injOn_pair]
  exact fun same => absurd same nulled_digest

theorem chained_recoverable_iff :
    Recoverable sortedJson (H := sha3Pair) chainedRecord ↔ chained.entry.chainHash = none :=
  recoverable_iff sortedJson chained firstLogger chainedRecord chained_handed chained_dumps
    chained_hexdigest

theorem chained_unrecoverable :
    ¬ ∀ record ∈ handed sortedJson chained firstLogger, Recoverable sortedJson (H := sha3Pair) record := by
  intro all
  have recovered := all chainedRecord chained_handed
  rw [Recoverable, signedDict_chained, chainedRecord, content_fullRecord] at recovered
  exact nulled_digest (HexDigest.ext recovered)

end KuvaAI.Audit
