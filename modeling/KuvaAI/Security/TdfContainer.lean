import KuvaAI.Security.TdfKeys

/-! The container that `encrypt` writes and `decrypt` reads. The writer puts the
version right in front of the header, the reader looks for a separator between. -/
namespace KuvaAI.Tdf
open Python

section Client

variable {U : Type} (P : Platform U)

def container (ciphertext : Bytes) (header : TDFHeader U) : Bytes :=
  encode "TDF1.0" ++ P.dumps header ++ encode "::" ++ ciphertext

theorem splitOnce_version (ciphertext : Bytes) (header : TDFHeader U) {version remainder : Bytes}
    (split : splitOnce (encode "::") (container P ciphertext header) = some (version, remainder)) :
    version ≠ encode "TDF1.0" := by
  intro same
  obtain ⟨json, opens⟩ := P.dumps_opens header
  have joined := splitOnce_eq split
  rw [container, opens, same] at joined
  simp only [List.append_assoc] at joined
  have tails := List.append_cancel_left joined
  have separator : encode "::" = 58 :: [58] := by decide
  rw [separator] at tails
  cases tails

theorem decrypt_container (client : OpenTDFClient) (authenticated : client.authenticated = true)
    (ciphertext : Bytes) (header : TDFHeader U) (draw : KeyDraw) :
    decrypt P client (container P ciphertext header) draw =
      (.error (.tdfFormatError "Unsupported TDF version"), client) := by
  have occurs : encode "::" ≠ [] := by decide
  obtain ⟨⟨version, remainder⟩, split⟩ := splitOnce_of_occurs occurs
    (encode "TDF1.0" ++ P.dumps header) ciphertext
  have unsupported := splitOnce_version P ciphertext header split
  have found : splitOnce (encode "::") (container P ciphertext header) =
      some (version, remainder) := split
  simp [decrypt, authenticated, found, unsupported]

theorem encrypt_of_authenticated {client : OpenTDFClient}
    (authenticated : client.authenticated = true) (data : Bytes) (policy : TDFPolicy)
    (draw : KeyDraw) (iv : Block 12) :
    encrypt P client data policy draw iv =
      ((encryptData P client.crypto data policy draw iv).1.map (fun parts =>
        container P parts.1 parts.2),
        { client with crypto := (encryptData P client.crypto data policy draw iv).2 }) := by
  rw [encrypt, if_pos authenticated]
  rfl

theorem encrypt_eq_ok {client : OpenTDFClient} {data : Bytes} {policy : TDFPolicy} {draw : KeyDraw}
    {iv : Block 12} {tdfData : Bytes}
    (encrypted : (encrypt P client data policy draw iv).1 = .ok tdfData) :
    (encrypt P client data policy draw iv).2.authenticated = true ∧
      ∃ ciphertext header, tdfData = container P ciphertext header := by
  cases authenticated : client.authenticated with
  | false => simp [encrypt, authenticated] at encrypted
  | true =>
    rw [encrypt_of_authenticated P authenticated] at encrypted ⊢
    cases sealed : (encryptData P client.crypto data policy draw iv).1 with
    | error e => simp [sealed, Except.map] at encrypted
    | ok parts =>
      simp only [sealed, Except.map, Except.ok.injEq] at encrypted
      exact ⟨authenticated, parts.1, parts.2, encrypted.symm⟩

/-- `encrypt` returns bytes from which `decrypt`, called at once, gets the plaintext. -/
def RoundTrips (client : OpenTDFClient) (data : Bytes) (policy : TDFPolicy) (draw : KeyDraw)
    (iv : Block 12) (later : KeyDraw) : Prop :=
  ∃ tdfData, (encrypt P client data policy draw iv).1 = .ok tdfData ∧
    (decrypt P (encrypt P client data policy draw iv).2 tdfData later).1 = .ok data

theorem decrypt_encrypt (client : OpenTDFClient) (data : Bytes) (policy : TDFPolicy)
    (draw : KeyDraw) (iv : Block 12) (later : KeyDraw) {tdfData : Bytes}
    (encrypted : (encrypt P client data policy draw iv).1 = .ok tdfData) :
    (decrypt P (encrypt P client data policy draw iv).2 tdfData later).1 =
      .error (.tdfFormatError "Unsupported TDF version") := by
  obtain ⟨authenticated, ciphertext, header, rfl⟩ := encrypt_eq_ok P encrypted
  rw [decrypt_container P _ authenticated]

/-- The client never reads back what it wrote: every container is refused as a
version it does not support. -/
theorem never_roundTrips (client : OpenTDFClient) (data : Bytes) (policy : TDFPolicy)
    (draw : KeyDraw) (iv : Block 12) (later : KeyDraw) :
    ¬ RoundTrips P client data policy draw iv later ∧
      ∀ tdfData, (encrypt P client data policy draw iv).1 = .ok tdfData →
        (decrypt P (encrypt P client data policy draw iv).2 tdfData later).1 =
          .error (.tdfFormatError "Unsupported TDF version") := by
  have refused := fun tdfData => @decrypt_encrypt U P client data policy draw iv later tdfData
  refine ⟨?_, refused⟩
  rintro ⟨tdfData, encrypted, decrypted⟩
  rw [refused tdfData encrypted] at decrypted
  cases decrypted

end Client

theorem authenticate_authenticated (client : OpenTDFClient) (clientId clientSecret : String) :
    (client.authenticate clientId clientSecret).authenticated = true := by
  have colon : encode ":" = [58] := by decide
  have nonempty : encode (clientId ++ ":" ++ clientSecret) ≠ [] := by
    rw [encode_append, encode_append, colon]
    simp
  simp [OpenTDFClient.authenticate, OpenTDFClient.authenticated, base64_ne_empty nonempty]

def readPhi : Bytes → Except Exn (TDFHeader String) := fun _ => .ok (phiHeader unread)

def phiClient : OpenTDFClient := (OpenTDFClient.mk kms none).authenticate "client_id" "client_secret"

theorem phi_not_roundTrips :
    phiClient.authenticated = true ∧
      (vector readPhi).loads ((vector readPhi).dumps (phiHeader readPhi)) = .ok (phiHeader readPhi) ∧
      (encrypt (vector readPhi) phiClient [] phiPolicy firstDraw zeroIv).1 =
        .ok (container (vector readPhi) emptyTag.1 (phiHeader readPhi)) ∧
      ¬ RoundTrips (vector readPhi) phiClient [] phiPolicy firstDraw zeroIv firstDraw := by
  have authenticated : phiClient.authenticated = true := authenticate_authenticated _ _ _
  have encrypted : (encrypt (vector readPhi) phiClient [] phiPolicy firstDraw zeroIv).1 =
      .ok (container (vector readPhi) emptyTag.1 (phiHeader readPhi)) := by
    have sealed : (encryptData (vector readPhi) phiClient.crypto [] phiPolicy firstDraw zeroIv).1 =
        .ok (emptyTag.1, phiHeader readPhi) := congrArg Prod.fst (phi_encrypted readPhi)
    rw [encrypt_of_authenticated _ authenticated, sealed]
    rfl
  refine ⟨authenticated, rfl, encrypted, ?_⟩
  rintro ⟨tdfData, returned, decrypted⟩
  rw [decrypt_encrypt _ _ _ _ _ _ _ returned] at decrypted
  cases decrypted

end KuvaAI.Tdf
