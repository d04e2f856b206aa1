import KuvaAI.Lib.ExpiringCache
import KuvaAI.Python.Bytes
import KuvaAI.Python.Value

/-! The TDF client of tdf.py. Third-party code enters as a `Platform`: AES-GCM,
SHA-256, the parser of URLs, and the JSON form of a header. -/
namespace KuvaAI.Tdf
open Python

abbrev Block (size : Nat) := { data : Bytes // data.length = size }

structure TDFPolicy where
  id : String
  name : String
  description : Option String
  attributes : List (Dict String Value)
  createdAt : Int
  expiresAt : Option Int
  encryptionScheme : String
  keyProvider : String
  version : String
  longId : 32 ≤ id.length

structure TDFHeader (U : Type) where
  policy : TDFPolicy
  kekUri : U
  encryptedMetadata : Option Bytes
  iv : Block 12
  ciphertextHash : Block 32

structure Platform (U : Type) where
  sha256 : Bytes → Block 32
  url : String → Except Exn U
  path : U → Option String
  /-- Key, iv and plaintext to ciphertext and tag. -/
  gcmEncrypt : Block 32 → Block 12 → Bytes → Except Exn (Bytes × Block 16)
  /-- Key, iv, tag and ciphertext to plaintext. -/
  gcmDecrypt : Block 32 → Block 12 → Bytes → Bytes → Except Exn Bytes
  gcmDecrypt_gcmEncrypt : ∀ {key iv data ciphertext tag}, gcmEncrypt key iv data = .ok (ciphertext, tag) →
    gcmDecrypt key iv tag.1 ciphertext = .ok data
  /-- `json.dumps(header.model_dump()).encode()`, taken to succeed. -/
  dumps : TDFHeader U → Bytes
  dumps_opens : ∀ header, ∃ rest, dumps header = 123 :: rest
  /-- `TDFHeader.model_validate_json`. -/
  loads : Bytes → Except Exn (TDFHeader U)

inductive Raised where
  | tdfCryptoError (text : String)
  | tdfAuthError (text : String)
  | tdfIntegrityError (text : String)
  | tdfFormatError (text : String)
  | builtin (e : Exn)
  deriving DecidableEq, Repr

abbrev KeyDraw := ExpiringCache.Draw (Block 32)

structure CryptoEngine where
  kmsEndpoint : String
  keyCache : ExpiringCache.Cache String (Block 32)

/-- `timedelta(hours=1)`, in microseconds. -/
def hour : Int := 3600000000

def fetchKey (engine : CryptoEngine) (keyId : String) (draw : KeyDraw) : Block 32 × CryptoEngine :=
  let (key, keyCache) := ExpiringCache.fetch hour engine.keyCache keyId draw
  (key, { engine with keyCache })

/-- `path.split("/")[-1]`. -/
def lastSegment (path : String) : String :=
  String.ofList (path.toList.reverse.takeWhile (fun c => c ≠ '/')).reverse

section Engine

variable {U : Type} (P : Platform U)

def kekId (policy : TDFPolicy) : String :=
  "kek_" ++ String.ofList ((hex (P.sha256 (encode policy.id)).1).toList.take 16)

def encryptData (engine : CryptoEngine) (data : Bytes) (policy : TDFPolicy) (draw : KeyDraw)
    (iv : Block 12) : Except Raised (Bytes × TDFHeader U) × CryptoEngine :=
  let kekId := kekId P policy
  let (kek, engine) := fetchKey engine kekId draw
  let result : Except Exn (Bytes × TDFHeader U) := do
    let (ciphertext, tag) ← P.gcmEncrypt kek iv data
    let kekUri ← P.url (engine.kmsEndpoint ++ "/keys/" ++ kekId)
    return (ciphertext ++ tag.1,
      { policy, kekUri, encryptedMetadata := none, iv, ciphertextHash := P.sha256 ciphertext })
  (result.mapError (fun _ => .tdfCryptoError "Data encryption error"), engine)

def kekIdOf (header : TDFHeader U) : Option String := (P.path header.kekUri).map lastSegment

/-- The tag is the last 16 bytes. The header's policy is not looked at. -/
def decryptData (engine : CryptoEngine) (ciphertext : Bytes) (header : TDFHeader U)
    (draw : KeyDraw) : Except Raised Bytes × CryptoEngine :=
  let tag := ciphertext.drop (ciphertext.length - 16)
  let ciphertext := ciphertext.take (ciphertext.length - 16)
  match kekIdOf P header with
  | none => (.error (.tdfCryptoError "Data decryption error"), engine)
  | some kekId =>
    let (kek, engine) := fetchKey engine kekId draw
    let result : Except Raised Bytes :=
      if P.sha256 ciphertext ≠ header.ciphertextHash then
        .error (.tdfIntegrityError "Ciphertext hash mismatch")
      else (P.gcmDecrypt kek header.iv tag ciphertext).mapError .builtin
    (result.mapError (fun _ => .tdfCryptoError "Data decryption error"), engine)

end Engine

structure OpenTDFClient where
  crypto : CryptoEngine
  authToken : Option String

def OpenTDFClient.authenticated (client : OpenTDFClient) : Bool :=
  client.authToken.any (fun token => token ≠ "")

def OpenTDFClient.authenticate (client : OpenTDFClient) (clientId clientSecret : String) :
    OpenTDFClient :=
  { client with authToken := some (base64 (encode (clientId ++ ":" ++ clientSecret))) }

section Client

variable {U : Type} (P : Platform U)

def encrypt (client : OpenTDFClient) (data : Bytes) (policy : TDFPolicy) (draw : KeyDraw)
    (iv : Block 12) : Except Raised Bytes × OpenTDFClient :=
  if client.authenticated then
    let (result, crypto) := encryptData P client.crypto data policy draw iv
    (result.map (fun (ciphertext, header) =>
      encode "TDF1.0" ++ P.dumps header ++ encode "::" ++ ciphertext), { client with crypto })
  else (.error (.tdfAuthError "Client not authenticated"), client)

def malformed : Raised := .tdfFormatError "Malformed TDF data"

def decrypt (client : OpenTDFClient) (tdfData : Bytes) (draw : KeyDraw) :
    Except Raised Bytes × OpenTDFClient :=
  if client.authenticated then
    match splitOnce (encode "::") tdfData with
    | none => (.error malformed, client)
    | some (version, remainder) =>
      if version ≠ encode "TDF1.0" then
        -- not a `ValueError`, so the handler below does not rename it
        (.error (.tdfFormatError "Unsupported TDF version"), client)
      else
        match splitOnce (encode "::") remainder with
        | none => (.error malformed, client)
        | some (headerJson, ciphertext) =>
          match P.loads headerJson with
          | .error e => (.error (if e.isValueError then malformed else .builtin e), client)
          | .ok header =>
            let (result, crypto) := decryptData P client.crypto ciphertext header draw
            (result, { client with crypto })
  else (.error (.tdfAuthError "Client not authenticated"), client)

end Client

end KuvaAI.Tdf
