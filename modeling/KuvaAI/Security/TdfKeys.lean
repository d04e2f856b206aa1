import KuvaAI.Security.Tdf
import Mathlib.Algebra.Group.Nat.Defs

/-! Which decryptions give the plaintext back. It depends on the key in force for
the header's key id when `decrypt_data` reads the clock, and on nothing else. -/
namespace KuvaAI.Tdf
open Python ExpiringCache

section Engine

variable {U : Type} (P : Platform U)

def Seals (key : Block 32) (data ciphertext : Bytes) (header : TDFHeader U) : Prop :=
  ∃ body tag, P.gcmEncrypt key header.iv data = .ok (body, tag) ∧ ciphertext = body ++ tag.1 ∧
    header.ciphertextHash = P.sha256 body

def Opens (key : Block 32) (data ciphertext : Bytes) (header : TDFHeader U) : Prop :=
  P.gcmDecrypt key header.iv (ciphertext.drop (ciphertext.length - 16))
    (ciphertext.take (ciphertext.length - 16)) = .ok data

def sealingKey (engine : CryptoEngine) (policy : TDFPolicy) (draw : KeyDraw) : Block 32 :=
  (fetchKey engine (kekId P policy) draw).1

theorem split_tag (body : Bytes) (tag : Block 16) :
    (body ++ tag.1).take ((body ++ tag.1).length - 16) = body ∧
      (body ++ tag.1).drop ((body ++ tag.1).length - 16) = tag.1 := by
  have length : (body ++ tag.1).length - 16 = body.length := by
    rw [List.length_append, tag.2]
    omega
  rw [length]
  exact ⟨List.take_left, List.drop_left⟩

theorem hexDigit_ne_slash (n : Nat) : hexDigit n ≠ '/' := by
  rw [hexDigit, List.getD_eq_getElem?_getD]
  cases found : "0123456789abcdef".toList[n]? with
  | none => decide
  | some c =>
    intro slash
    have member : '/' ∈ "0123456789abcdef".toList := slash ▸ List.mem_of_getElem? found
    exact absurd member (by decide)

theorem hex_no_slash (data : Bytes) : '/' ∉ (hex data).toList := by
  rw [hex, String.toList_ofList]
  intro member
  obtain ⟨b, _, digit⟩ := List.mem_flatMap.mp member
  rcases List.mem_pair.mp digit with slash | slash
  · exact hexDigit_ne_slash _ slash.symm
  · exact hexDigit_ne_slash _ slash.symm

theorem kekId_no_slash (policy : TDFPolicy) : '/' ∉ (kekId P policy).toList := by
  have start : '/' ∉ "kek_".toList := by decide
  intro member
  rw [kekId, String.toList_append] at member
  rcases List.mem_append.mp member with member | member
  · exact start member
  · rw [String.toList_ofList] at member
    exact hex_no_slash _ (List.mem_of_mem_take member)

theorem lastSegment_append (front id : String) (plain : '/' ∉ id.toList) :
    lastSegment (front ++ "/" ++ id) = id := by
  have kept : ∀ c ∈ id.toList.reverse, decide (c ≠ '/') = true := by
    intro c member
    refine decide_eq_true (fun slash => plain ?_)
    exact slash ▸ List.mem_reverse.mp member
  have slash : "/".toList = ['/'] := by decide
  rw [lastSegment, String.toList_append, String.toList_append, List.reverse_append,
    List.takeWhile_append_of_pos kept, slash]
  simp

theorem kekIdOf_eq {policy : TDFPolicy} {header : TDFHeader U} (front : String)
    (path : P.path header.kekUri = some (front ++ "/" ++ kekId P policy)) :
    kekIdOf P header = some (kekId P policy) := by
  rw [kekIdOf, path, Option.map_some, lastSegment_append front _ (kekId_no_slash P policy)]

variable {P}

theorem Seals.opens {key : Block 32} {data ciphertext : Bytes} {header : TDFHeader U}
    (seals : Seals P key data ciphertext header) : Opens P key data ciphertext header := by
  obtain ⟨body, tag, sealed, rfl, _⟩ := seals
  obtain ⟨front, back⟩ := split_tag body tag
  rw [Opens, front, back]
  exact P.gcmDecrypt_gcmEncrypt sealed

theorem decryptData_eq_ok {key : Block 32} {data ciphertext : Bytes} {header : TDFHeader U}
    (seals : Seals P key data ciphertext header) (engine : CryptoEngine) (draw : KeyDraw) :
    (decryptData P engine ciphertext header draw).1 = .ok data ↔
      ∃ id, kekIdOf P header = some id ∧
        Opens P (fetchKey engine id draw).1 data ciphertext header := by
  obtain ⟨body, tag, _, rfl, hash⟩ := seals
  obtain ⟨front, back⟩ := split_tag body tag
  cases found : kekIdOf P header with
  | none => simp [decryptData, found]
  | some id =>
    simp only [decryptData, found, front, back, hash, Opens]
    cases opened : P.gcmDecrypt (fetchKey engine id draw).1 header.iv tag.1 body with
    | error e => simp [opened, Except.mapError]
    | ok out => simp [opened, Except.mapError]

@[simp] theorem fetchKey_kmsEndpoint (engine : CryptoEngine) (id : String) (draw : KeyDraw) :
    (fetchKey engine id draw).2.kmsEndpoint = engine.kmsEndpoint := rfl

theorem encryptData_seals {engine : CryptoEngine} {data : Bytes} {policy : TDFPolicy}
    {draw : KeyDraw} {iv : Block 12} {ciphertext : Bytes} {header : TDFHeader U}
    (encrypted : (encryptData P engine data policy draw iv).1 = .ok (ciphertext, header)) :
    Seals P (sealingKey P engine policy draw) data ciphertext header ∧ header.policy = policy := by
  simp only [encryptData] at encrypted
  cases sealed : P.gcmEncrypt (fetchKey engine (kekId P policy) draw).1 iv data with
  | error e => simp [sealed, Except.mapError] at encrypted
  | ok parts =>
    obtain ⟨body, tag⟩ := parts
    cases located : P.url (engine.kmsEndpoint ++ "/keys/" ++ kekId P policy) with
    | error e => simp [sealed, located, Except.mapError] at encrypted
    | ok kekUri =>
      simp only [sealed, located, fetchKey_kmsEndpoint, bind_ok, pure_eq_ok, Except.mapError, Except.ok.injEq,
        Prod.mk.injEq] at encrypted
      obtain ⟨rfl, rfl⟩ := encrypted
      exact ⟨⟨body, tag, sealed, rfl, rfl⟩, rfl⟩

end Engine

section Vector

def Block.ofNat (size n : Nat) : Block size :=
  ⟨(List.range size).map (fun i => UInt8.ofNat (n / 256 ^ (size - 1 - i))), by simp⟩

def zeroKey : Block 32 := Block.ofNat 32 0
def oneKey : Block 32 := Block.ofNat 32 1
def zeroIv : Block 12 := Block.ofNat 12 0

def emptyTag : Block 16 := Block.ofNat 16 0x530f8afbc74536b9a963b4f1c4cb738b

def vectorTag (key : Block 32) (iv : Block 12) (data : Bytes) : Block 16 :=
  if key = zeroKey ∧ iv = zeroIv ∧ data = [] then emptyTag else Block.ofNat 16 0

/-- Behaves as the real platform does on the policy below and the empty plaintext. -/
def vector (loads : Bytes → Except Exn (TDFHeader String)) : Platform String where
  sha256 data :=
    if data = [] then
      Block.ofNat 32 0xe3b0c44298fc1c149afbf4c8996fb92427ae41e4649b934ca495991b7852b855
    else Block.ofNat 32 0x3b692e111303914ab4b7543e926715a5534d53cd505a34f85bca5994f2d7869a
  url text := .ok text
  path url := some (String.ofList (url.toList.drop "https://kms.kuva.ai".toList.length))
  gcmEncrypt key iv data := .ok (data, vectorTag key iv data)
  gcmDecrypt key iv tag ciphertext :=
    if tag = (vectorTag key iv ciphertext).1 then .ok ciphertext else .error ⟨.other, ""⟩
  gcmDecrypt_gcmEncrypt := by
    intro key iv data ciphertext tag sealed
    cases sealed
    exact if_pos rfl
  dumps header := encode "\x7b\"kek_uri\": \"" ++ encode header.kekUri ++ encode "\"\x7d"
  dumps_opens _ := ⟨_, rfl⟩
  loads := loads

def phiPolicy : TDFPolicy where
  id := "policy-7f3a9c52-4e1b-4d6a-9b0e-2c8d5f61a7e3"
  name := "PHI Protection"
  description := none
  attributes := [⟨[("classification", .str "confidential")], by decide⟩]
  createdAt := 0
  expiresAt := some 60000000
  encryptionScheme := "AES-256-GCM"
  keyProvider := "kbs"
  version := "2.1.0"
  longId := by decide

def kms : CryptoEngine := ⟨"https://kms.kuva.ai", .empty⟩

def firstDraw : KeyDraw := ⟨0, zeroKey, 0⟩

def unread : Bytes → Except Exn (TDFHeader String) := fun _ => .error ⟨.validationError, ""⟩

variable (loads : Bytes → Except Exn (TDFHeader String))

def phiHeader : TDFHeader String where
  policy := phiPolicy
  kekUri := "https://kms.kuva.ai" ++ "/keys/" ++ kekId (vector loads) phiPolicy
  encryptedMetadata := none
  iv := zeroIv
  ciphertextHash := (vector loads).sha256 []

def afterPhi : CryptoEngine := (fetchKey kms (kekId (vector loads) phiPolicy) firstDraw).2

theorem phi_encrypted :
    encryptData (vector loads) kms [] phiPolicy firstDraw zeroIv =
      (.ok (emptyTag.1, phiHeader loads), afterPhi loads) := by
  rfl

theorem vector_path (rest : String) :
    (vector loads).path ("https://kms.kuva.ai" ++ "/keys/" ++ rest) =
      some ("/keys" ++ "/" ++ rest) := by
  have segments : "/keys/".toList = "/keys".toList ++ "/".toList := by decide
  simp only [vector, String.toList_append, List.append_assoc, List.drop_left, segments]
  rw [← List.append_assoc, ← String.toList_append, ← String.toList_append, String.ofList_toList]

theorem kekIdOf_phi :
    kekIdOf (vector loads) (phiHeader loads) = some (kekId (vector loads) phiPolicy) :=
  kekIdOf_eq _ "/keys" (vector_path loads _)

theorem vectorTag_eq (key : Block 32) : vectorTag key zeroIv [] = emptyTag ↔ key = zeroKey := by
  have other : Block.ofNat 16 0 ≠ emptyTag := by decide
  by_cases zero : key = zeroKey
  · simp [vectorTag, zero]
  · simp [vectorTag, zero, other]

theorem opens_phi (key : Block 32) :
    Opens (vector loads) key [] emptyTag.1 (phiHeader loads) ↔ key = zeroKey := by
  obtain ⟨front, back⟩ := split_tag [] emptyTag
  rw [List.nil_append] at front back
  rw [Opens, front, back, ← vectorTag_eq]
  change (if emptyTag.1 = (vectorTag key zeroIv []).1 then Except.ok [] else _) = _ ↔ _
  constructor
  · intro opened
    split at opened
    · rename_i same
      exact Subtype.ext same.symm
    · cases opened
  · intro same
    rw [same, if_pos rfl]

theorem seals_phi : Seals (vector loads) zeroKey [] emptyTag.1 (phiHeader loads) :=
  (encryptData_seals (congrArg Prod.fst (phi_encrypted loads))).1

theorem held_phi :
    (afterPhi loads).keyCache.get? (kekId (vector loads) phiPolicy) = some (zeroKey, hour) :=
  Dict.get?_set_same _ _ _

end Vector

end KuvaAI.Tdf
