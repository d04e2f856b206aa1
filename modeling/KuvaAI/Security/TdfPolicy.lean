import KuvaAI.Security.TdfKeys

/-! What a TDF policy binds. The policy travels in the header but is looked at by
neither half of the engine. -/
namespace KuvaAI.Tdf
open Python ExpiringCache

section Engine

variable {U : Type}

def Expired (policy : TDFPolicy) (now : Int) : Prop := ∃ t, policy.expiresAt = some t ∧ t < now

variable (P)

/-- What sealing under a policy is expected to bind: no plaintext for a header
that carries another policy, and none after the policy has run out. -/
def PolicyBound (engine : CryptoEngine) (data ciphertext : Bytes) (header : TDFHeader U)
    (policy : TDFPolicy) (draw : KeyDraw) : Prop :=
  policy ≠ header.policy ∨ Expired header.policy draw.before →
    (decryptData P engine ciphertext { header with policy } draw).1 ≠ .ok data

def KeyInForce (engine : CryptoEngine) (key : Block 32) (header : TDFHeader U) (draw : KeyDraw) :
    Prop :=
  ∃ id, kekIdOf P header = some id ∧ InForce engine.keyCache id key draw

def Available (engine : CryptoEngine) (draw : KeyDraw) (key : Block 32) : Prop :=
  key = draw.fresh ∨ ∃ id expiry, engine.keyCache.get? id = some (key, expiry)

variable {P}

theorem decryptData_iff_keyInForce {key : Block 32} {data ciphertext : Bytes}
    {header : TDFHeader U} (seals : Seals P key data ciphertext header) (engine : CryptoEngine)
    (policy : TDFPolicy) (draw : KeyDraw)
    (ideal : ∀ other, other ≠ key → Available engine draw other →
      ¬ Opens P other data ciphertext header) :
    (decryptData P engine ciphertext { header with policy } draw).1 = .ok data ↔
      KeyInForce P engine key header draw := by
  have rebound : Seals P key data ciphertext { header with policy } := seals
  rw [decryptData_eq_ok rebound]
  constructor
  · rintro ⟨id, found, opens⟩
    refine ⟨id, found, (fetch_eq_iff hour engine.keyCache id key draw).mp ?_⟩
    apply Classical.byContradiction
    intro other
    refine ideal _ other ?_ opens
    rcases fetch_cases hour engine.keyCache id draw with ⟨v, expiry, held, _, result⟩ | ⟨_, result⟩
    · exact .inr ⟨id, expiry, by rw [result]; exact held⟩
    · exact .inl (by rw [result])
  · rintro ⟨id, found, inForce⟩
    have fetched := (fetch_eq_iff hour engine.keyCache id key draw).mpr inForce
    refine ⟨id, found, ?_⟩
    rw [← fetched] at seals
    exact seals.opens

/-- The policy binds only where nothing was to be refused, or where the key is no
longer in force. -/
theorem policyBound_iff (engine later : CryptoEngine) (data : Bytes) (policy policy' : TDFPolicy)
    (draw draw' : KeyDraw) (iv : Block 12) {ciphertext : Bytes} {header : TDFHeader U}
    (encrypted : (encryptData P engine data policy draw iv).1 = .ok (ciphertext, header))
    (ideal : ∀ key, key ≠ sealingKey P engine policy draw → Available later draw' key →
      ¬ Opens P key data ciphertext header) :
    PolicyBound P later data ciphertext header policy' draw' ↔
      (policy' = policy ∧ ¬ Expired policy draw'.before) ∨
        ¬ KeyInForce P later (sealingKey P engine policy draw) header draw' := by
  obtain ⟨seals, carried⟩ := encryptData_seals encrypted
  rw [PolicyBound, carried, Ne, Ne, decryptData_iff_keyInForce seals later policy' draw' ideal]
  tauto

end Engine

def renamedPolicy : TDFPolicy := { phiPolicy with name := "Public" }

def laterDraw : KeyDraw := ⟨120000000, oneKey, 120000000⟩

theorem policyBound_phi :
    PolicyBound (vector unread) (afterPhi unread) [] emptyTag.1 (phiHeader unread) renamedPolicy
        laterDraw ↔
      (renamedPolicy = phiPolicy ∧ ¬ Expired phiPolicy laterDraw.before) ∨
        ¬ KeyInForce (vector unread) (afterPhi unread)
          (sealingKey (vector unread) kms phiPolicy firstDraw) (phiHeader unread) laterDraw :=
  policyBound_iff kms (afterPhi unread) [] phiPolicy renamedPolicy firstDraw laterDraw zeroIv
    (congrArg Prod.fst (phi_encrypted unread))
    (fun key other _ opens => other ((opens_phi unread key).mp opens))

theorem renamed_policy_decrypts :
    encryptData (vector unread) kms [] phiPolicy firstDraw zeroIv =
        (.ok (emptyTag.1, phiHeader unread), afterPhi unread) ∧
      ¬ PolicyBound (vector unread) (afterPhi unread) [] emptyTag.1 (phiHeader unread)
        renamedPolicy laterDraw := by
  refine ⟨phi_encrypted unread, ?_⟩
  intro bound
  have expired : Expired phiPolicy laterDraw.before := ⟨60000000, rfl, by decide⟩
  have rebound : Seals (vector unread) zeroKey [] emptyTag.1
      { phiHeader unread with policy := renamedPolicy } := seals_phi unread
  apply bound (.inr expired)
  apply (decryptData_eq_ok rebound _ _).mpr
  refine ⟨_, kekIdOf_phi unread, ?_⟩
  have early : laterDraw.before < hour := by decide
  have key : (fetchKey (afterPhi unread) (kekId (vector unread) phiPolicy) laterDraw).1 = zeroKey :=
    congrArg Prod.fst (fetch_hit hour (held_phi unread) early)
  rw [key]
  exact rebound.opens

end KuvaAI.Tdf
