import KuvaAI.Security.TdfKeys

/-! Runs of calls on one engine: for how long data stays readable. -/
namespace KuvaAI.Tdf
open Python ExpiringCache

section Engine

variable {U : Type}

inductive EngineCall (U : Type) where
  | encrypt (data : Bytes) (policy : TDFPolicy) (draw : KeyDraw) (iv : Block 12)
  | decrypt (ciphertext : Bytes) (header : TDFHeader U) (draw : KeyDraw)

variable (P)

def step (engine : CryptoEngine) : EngineCall U → CryptoEngine
  | .encrypt data policy draw iv => (encryptData P engine data policy draw iv).2
  | .decrypt ciphertext header draw => (decryptData P engine ciphertext header draw).2

def run (engine : CryptoEngine) (calls : List (EngineCall U)) : CryptoEngine :=
  calls.foldl (step P) engine

def fetched : EngineCall U → Option (String × KeyDraw)
  | .encrypt _ policy draw _ => some (kekId P policy, draw)
  | .decrypt _ header draw => (kekIdOf P header).map (fun id => (id, draw))

theorem step_keyCache (engine : CryptoEngine) (call : EngineCall U) :
    (step P engine call).keyCache = fetchAll hour engine.keyCache (fetched P call).toList := by
  cases call with
  | encrypt data policy draw iv => rfl
  | decrypt ciphertext header draw =>
    cases found : kekIdOf P header with
    | none => simp [step, decryptData, fetched, found, fetchAll]
    | some id => simp [step, decryptData, fetched, found, fetchAll, fetchKey]

theorem run_keyCache (engine : CryptoEngine) (calls : List (EngineCall U)) :
    (run P engine calls).keyCache =
      fetchAll hour engine.keyCache (calls.filterMap (fetched P)) := by
  induction calls generalizing engine with
  | nil => rfl
  | cons call rest ih =>
    have tail := ih (step P engine call)
    rw [step_keyCache, ← fetchAll_append] at tail
    have fetches : (call :: rest).filterMap (fetched P) =
        (fetched P call).toList ++ rest.filterMap (fetched P) := by
      cases found : fetched P call <;> simp [found]
    rw [fetches]
    exact tail

def fetches (calls : List (EngineCall U)) (id : String) (draw : KeyDraw) : List (String × KeyDraw) :=
  calls.filterMap (fetched P) ++ [(id, draw)]

theorem fetchKey_run (engine : CryptoEngine) (calls : List (EngineCall U)) (id : String)
    (draw : KeyDraw) :
    ∃ expiry, (fetchAll hour engine.keyCache (fetches P calls id draw)).get? id =
      some ((fetchKey (run P engine calls) id draw).1, expiry) := by
  rw [fetches, fetchAll_append, ← run_keyCache]
  exact fetch_entry hour (run P engine calls).keyCache id draw

/-- The header leads back to the key id, and every fetch of it up to and with the
decryption reads the clock before the key expires. -/
def KeyKept (id : String) (expiry : Int) (header : TDFHeader U) (calls : List (EngineCall U))
    (draw : KeyDraw) : Prop :=
  kekIdOf P header = some id ∧ ∀ f ∈ fetches P calls id draw, f.1 = id → f.2.before < expiry

/-- No key cached under another id and none drawn later opens the data. -/
structure OnlyKey (engine : CryptoEngine) (id : String) (data ciphertext : Bytes)
    (header : TDFHeader U) (calls : List (EngineCall U)) (draw : KeyDraw) : Prop where
  cached : ∀ other key expiry, other ≠ id → engine.keyCache.get? other = some (key, expiry) →
    ¬ Opens P key data ciphertext header
  drawn : ∀ f ∈ fetches P calls id draw, ¬ Opens P f.2.fresh data ciphertext header

variable {P}

theorem readable_of_keyKept {engine : CryptoEngine} {id : String} {key : Block 32} {expiry : Int}
    {data ciphertext : Bytes} {header : TDFHeader U} (seals : Seals P key data ciphertext header)
    (held : engine.keyCache.get? id = some (key, expiry)) {calls : List (EngineCall U)}
    {draw : KeyDraw} (kept : KeyKept P id expiry header calls draw) :
    (decryptData P (run P engine calls) ciphertext header draw).1 = .ok data := by
  obtain ⟨expiry', entry⟩ := fetchKey_run P engine calls id draw
  rw [fetchAll_kept hour held _ kept.2] at entry
  have same : key = (fetchKey (run P engine calls) id draw).1 := (Prod.mk.inj (Option.some.inj entry)).1
  apply (decryptData_eq_ok seals _ draw).mpr
  refine ⟨id, kept.1, ?_⟩
  rw [← same]
  exact seals.opens

theorem keyKept_of_readable {engine : CryptoEngine} {id : String} {key : Block 32} {expiry : Int}
    {data ciphertext : Bytes} {header : TDFHeader U} (seals : Seals P key data ciphertext header)
    (held : engine.keyCache.get? id = some (key, expiry)) {calls : List (EngineCall U)}
    {draw : KeyDraw} (only : OnlyKey P engine id data ciphertext header calls draw)
    (readable : (decryptData P (run P engine calls) ciphertext header draw).1 = .ok data) :
    KeyKept P id expiry header calls draw := by
  obtain ⟨id', found, opens⟩ := (decryptData_eq_ok seals _ draw).mp readable
  obtain ⟨expiry', entry⟩ := fetchKey_run P engine calls id' draw
  have drawn : ∀ f ∈ fetches P calls id' draw, ¬ Opens P f.2.fresh data ciphertext header := by
    intro f member
    rcases List.mem_append.mp member with member | member
    · exact only.drawn f (List.mem_append_left _ member)
    · rw [List.mem_singleton.mp member]
      exact only.drawn (id, draw) (List.mem_append_right _ (List.mem_singleton_self _))
  -- under another id only keys that do not open the data can be found
  have same : id' = id := by
    apply Classical.byContradiction
    intro other
    have closed := fetchAll_values hour (P := fun j v => j ≠ id → ¬ Opens P v data ciphertext header)
      (fetches P calls id' draw) (fun j v e cached away => only.cached j v e away cached)
      (fun f member _ => drawn f member) id' _ expiry' entry
    exact closed other opens
  subst same
  refine ⟨found, ?_⟩
  intro f member onKey
  apply Classical.byContradiction
  intro late
  obtain ⟨g, hg, fresh⟩ := fetchAll_lost hour held (fetches P calls id' draw)
    ⟨f, member, onKey, by omega⟩ entry
  exact drawn g hg (fresh ▸ opens)

/-- What was sealed stays readable through every run that keeps its key, and
through no other where only that key opens it. -/
theorem readable_iff_keyKept (engine : CryptoEngine) (data : Bytes) (policy : TDFPolicy)
    (draw : KeyDraw) (iv : Block 12) {ciphertext : Bytes} {header : TDFHeader U}
    {sealed : CryptoEngine}
    (encrypted : encryptData P engine data policy draw iv = (.ok (ciphertext, header), sealed)) :
    ∃ expiry, sealed.keyCache.get? (kekId P policy) =
        some (sealingKey P engine policy draw, expiry) ∧
      ∀ calls later,
        (KeyKept P (kekId P policy) expiry header calls later →
          (decryptData P (run P sealed calls) ciphertext header later).1 = .ok data) ∧
        (OnlyKey P sealed (kekId P policy) data ciphertext header calls later →
          (decryptData P (run P sealed calls) ciphertext header later).1 = .ok data →
          KeyKept P (kekId P policy) expiry header calls later) := by
  obtain ⟨seals, _⟩ := encryptData_seals (congrArg Prod.fst encrypted)
  have after : (fetchKey engine (kekId P policy) draw).2 = sealed := congrArg Prod.snd encrypted
  obtain ⟨expiry, held⟩ := fetch_entry hour engine.keyCache (kekId P policy) draw
  have cached : sealed.keyCache.get? (kekId P policy) =
      some (sealingKey P engine policy draw, expiry) := after ▸ held
  refine ⟨expiry, cached, ?_⟩
  intro calls later
  exact ⟨readable_of_keyKept seals cached, keyKept_of_readable seals cached⟩

end Engine

def nextDraw : KeyDraw := ⟨2 * hour, oneKey, 2 * hour⟩

theorem readable_phi :
    ∃ expiry, (afterPhi unread).keyCache.get? (kekId (vector unread) phiPolicy) =
        some (sealingKey (vector unread) kms phiPolicy firstDraw, expiry) ∧
      ∀ calls later,
        (KeyKept (vector unread) (kekId (vector unread) phiPolicy) expiry (phiHeader unread) calls
            later →
          (decryptData (vector unread) (run (vector unread) (afterPhi unread) calls) emptyTag.1
            (phiHeader unread) later).1 = .ok []) ∧
        (OnlyKey (vector unread) (afterPhi unread) (kekId (vector unread) phiPolicy) [] emptyTag.1
            (phiHeader unread) calls later →
          (decryptData (vector unread) (run (vector unread) (afterPhi unread) calls) emptyTag.1
            (phiHeader unread) later).1 = .ok [] →
          KeyKept (vector unread) (kekId (vector unread) phiPolicy) expiry (phiHeader unread) calls
            later) :=
  readable_iff_keyKept kms [] phiPolicy firstDraw zeroIv (phi_encrypted unread)

theorem expired_key_unreadable :
    encryptData (vector unread) kms [] phiPolicy firstDraw zeroIv =
        (.ok (emptyTag.1, phiHeader unread), afterPhi unread) ∧
      (decryptData (vector unread) (run (vector unread) (afterPhi unread) []) emptyTag.1
        (phiHeader unread) nextDraw).1 ≠ .ok [] := by
  refine ⟨phi_encrypted unread, ?_⟩
  intro readable
  have only : OnlyKey (vector unread) (afterPhi unread) (kekId (vector unread) phiPolicy) []
      emptyTag.1 (phiHeader unread) [] nextDraw := by
    constructor
    · intro other key expiry away cached
      have absent : (afterPhi unread).keyCache.get? other = none := Dict.get?_set_other _ _ away
      rw [absent] at cached
      cases cached
    · intro f member opens
      rw [List.mem_singleton.mp member, opens_phi] at opens
      exact absurd opens (by decide)
  have kept := keyKept_of_readable (seals_phi unread) (held_phi unread) only readable
  have early := kept.2 (kekId (vector unread) phiPolicy, nextDraw) (by simp [fetches]) rfl
  exact absurd early (by decide)

end KuvaAI.Tdf
