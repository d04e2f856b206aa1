import KuvaAI.Security.Auditor
import Mathlib.Algebra.Group.Nat.Defs
import Mathlib.Data.List.Chain

/-! What the chain of audit hashes gives: its head commits to the entries logged,
and the stored records verify as long as no call loses its record. -/
namespace KuvaAI.Audit
open Python HashChain

def link {size : Nat} (head content : HexDigest size) : Bytes := encode (head.text ++ content.text)

def OpensBrace (data : Bytes) : Prop := ∃ rest, data = 123 :: rest

theorem HexDigest.text_ne_empty {H : HexHash} (d : HexDigest H.size) : d.text ≠ "" := by
  intro empty
  have length := d.length
  have positive := H.positive
  rw [empty] at length
  simp at length
  omega

theorem hexDigit_plain {c : Char} (digit : c ∈ hexDigits) :
    c.toNat < 128 ∧ UInt8.ofNat c.toNat ≠ 123 := by
  have all : hexDigits.all (fun c => c.toNat < 128 ∧ UInt8.ofNat c.toNat ≠ 123) = true := by decide
  exact of_decide_eq_true (List.all_eq_true.mp all c digit)

theorem link_head {H : HexHash} (head content : HexDigest H.size) : ¬ OpensBrace (link head content) := by
  rintro ⟨rest, opens⟩
  cases chars : head.text.toList with
  | nil => exact head.text_ne_empty (String.toList_eq_nil_iff.mp chars)
  | cons c cs =>
    have plain := hexDigit_plain (head.digits c (by simp [chars]))
    rw [link, encode_append, encode_head chars plain.1] at opens
    exact plain.2 (List.cons.inj opens).1

theorem separated (H : HexHash) : Separated (link : HexDigest H.size → _) OpensBrace where
  injective := by
    intro h c h' c' same
    have texts := congrArg String.toList (encode_injective same)
    rw [String.toList_append, String.toList_append] at texts
    have parts := List.append_inj texts (by rw [h.length, h'.length])
    exact ⟨HexDigest.ext (String.toList_inj.mp parts.1), HexDigest.ext (String.toList_inj.mp parts.2)⟩
  apart := by
    rintro item h c opens rfl
    exact link_head h c opens

section Logger

variable {H : HexHash} (S : Serializer)

def entryJson (call : Call) : Bytes := S.dumps call.entry.modelDump

theorem entryJson_opens (calls : List Call) : ∀ data ∈ calls.map (entryJson S), OpensBrace data := by
  intro data member
  obtain ⟨call, _, rfl⟩ := List.mem_map.mp member
  exact S.opens _

def Call.kept (call : Call) : Bool :=
  match call.signature, call.persisted with
  | .ok _, .stored _ => true
  | _, _ => false

def stored (key : String) (record : Record) : String :=
  match record.get? key with
  | some (.str text) => text
  | _ => ""

def hashes (record : Record) : String × String :=
  (stored "content_hash" record, stored "chain_hash" record)

theorem hashes_fullRecord (entryDict : Dict String Value)
    (contentHash chainHash signature publicKey : String) :
    hashes (fullRecord entryDict contentHash chainHash signature publicKey) =
      (contentHash, chainHash) := by
  simp [hashes, stored, fullRecord, Dict.get?_set]

theorem buildChainHash_eq (logger : AuditLogger H) (contentHash : HexDigest H.size) :
    buildChainHash logger contentHash =
      (linked H.hexdigest link logger.chainHash contentHash,
        { logger with
          chainHash := some (linked H.hexdigest link logger.chainHash contentHash)
          hashed := logger.hashed ++ links link logger.chainHash contentHash }) := by
  cases head : logger.chainHash with
  | none => simp [buildChainHash, head, linked, links]
  | some chainHash =>
    have truthy : (some chainHash).filter (fun h => h.text ≠ "") = some chainHash := by
      simp [Option.filter, chainHash.text_ne_empty]
    rw [buildChainHash, head, truthy]
    rfl

theorem log_state (call : Call) (logger : AuditLogger H) :
    (log S call logger).2.chainHash =
        some (extend H.hexdigest link logger.chainHash (entryJson S call)) ∧
      (log S call logger).2.hashed =
        logger.hashed ++ inputs H.hexdigest link logger.chainHash (entryJson S call) ∧
      (log S call logger).2.storage.map hashes = logger.storage.map hashes ++
        if call.kept then
          [((H.hexdigest (entryJson S call)).text,
            (extend H.hexdigest link logger.chainHash (entryJson S call)).text)]
        else [] := by
  cases signature : call.signature with
  | error e => simp [log, buildChainHash_eq, sha3, signature, Call.kept, extend, inputs, entryJson]
  | ok s =>
    cases persisted : call.persisted with
    | lost e =>
      simp [log, buildChainHash_eq, sha3, signature, persisted, Call.kept, extend, inputs, entryJson]
    | stored answer =>
      simp [log, buildChainHash_eq, sha3, signature, persisted, Call.kept, extend, inputs, entryJson,
        hashes_fullRecord]

theorem run_chainHash (logger : AuditLogger H) (calls : List Call) :
    (run S logger calls).chainHash =
      headFrom H.hexdigest link logger.chainHash (calls.map (entryJson S)) := by
  induction calls generalizing logger with
  | nil => rfl
  | cons call rest ih => rw [run, ih, (log_state S call logger).1, List.map_cons, headFrom]

theorem run_hashed (logger : AuditLogger H) (calls : List Call) :
    (run S logger calls).hashed =
      logger.hashed ++ hashedFrom H.hexdigest link logger.chainHash (calls.map (entryJson S)) := by
  induction calls generalizing logger with
  | nil => simp [run, hashedFrom]
  | cons call rest ih =>
    rw [run, ih, (log_state S call logger).1, (log_state S call logger).2.1, List.map_cons,
      hashedFrom, List.append_assoc]

def items (calls : List Call) : List (Bytes × Bool) :=
  calls.map (fun call => (entryJson S call, call.kept))

theorem run_storage (logger : AuditLogger H) (calls : List Call) :
    (run S logger calls).storage.map hashes = logger.storage.map hashes ++
      (keptFrom H.hexdigest link logger.chainHash (items S calls)).map
        (fun record => (record.1.text, record.2.text)) := by
  induction calls generalizing logger with
  | nil => simp [run, items, keptFrom]
  | cons call rest ih =>
    obtain ⟨head, _, storage⟩ := log_state S call logger
    rw [run, ih, head, storage]
    cases kept : call.kept with
    | true => simp [items, keptFrom, kept]
    | false => simp [items, keptFrom, kept]

theorem run_init_storage (publicKey : String) (calls : List Call) :
    (run S (AuditLogger.init H publicKey) calls).storage.map hashes =
      (keptFrom H.hexdigest link none (items S calls)).map
        (fun record => (record.1.text, record.2.text)) :=
  run_storage S (AuditLogger.init H publicKey) calls

/-- Tamper evidence: equal heads after two runs come from the same serialised
entries in the same order, or from a collision of the hash. -/
theorem chain_hash_binding (publicKey publicKey' : String) (calls calls' : List Call)
    (same : (run S (AuditLogger.init H publicKey) calls).chainHash =
      (run S (AuditLogger.init H publicKey') calls').chainHash) :
    calls.map (entryJson S) = calls'.map (entryJson S) ∨
      Collides H.hexdigest ((run S (AuditLogger.init H publicKey) calls).hashed ++
        (run S (AuditLogger.init H publicKey') calls').hashed) := by
  rw [run_chainHash, run_chainHash] at same
  rw [run_hashed, run_hashed]
  exact head_binding H.hexdigest (separated H) _ _ (entryJson_opens S calls)
    (entryJson_opens S calls') same

structure Verifiable (H : HexHash) (records : List Record) : Prop where
  first : ∀ record ∈ records.head?, stored "chain_hash" record = stored "content_hash" record
  later : records.IsChain (fun record next => stored "chain_hash" next =
    (H.hexdigest (encode (stored "chain_hash" record ++ stored "content_hash" next))).text)

def verified (records : List Record) : List Bytes :=
  (records.zip records.tail).map (fun pair =>
    encode (stored "chain_hash" pair.1 ++ stored "content_hash" pair.2))

def NoneLostBefore (calls : List Call) : Prop :=
  calls.Pairwise (fun call later => later.kept = true → call.kept = true)

theorem verifiable_iff {records : List Record} {kept : List (HexDigest H.size × HexDigest H.size)}
    (texts : records.map hashes = kept.map (fun record => (record.1.text, record.2.text))) :
    Verifiable H records ↔ Verifies H.hexdigest link none kept := by
  have onTexts : Verifiable H records ↔
      (∀ p ∈ (records.map hashes).head?, p.2 = p.1) ∧
        (records.map hashes).IsChain (fun p next =>
          next.2 = (H.hexdigest (encode (p.2 ++ next.1))).text) := by
    rw [List.isChain_map, List.head?_map]
    constructor
    · rintro ⟨first, later⟩
      exact ⟨by simpa [hashes] using first, later⟩
    · rintro ⟨first, later⟩
      exact ⟨by simpa [hashes] using first, later⟩
  rw [onTexts, texts, verifies_iff, List.isChain_map, List.head?_map]
  refine and_congr ?_ ?_
  · cases kept.head? with
    | none => simp
    | some record => simp [HexDigest.ext_iff]
  · simp only [HexDigest.ext_iff, link]

theorem verified_eq {records : List Record} {kept : List (HexDigest H.size × HexDigest H.size)}
    (texts : records.map hashes = kept.map (fun record => (record.1.text, record.2.text))) :
    verified records = checkedFrom link none kept := by
  have onTexts : verified records =
      ((records.map hashes).zip (records.map hashes).tail).map
        (fun pair => encode (pair.1.2 ++ pair.2.1)) := by
    rw [← List.map_tail, List.zip_map, List.map_map]
    rfl
  rw [onTexts, texts, checkedFrom_none, ← List.map_tail, List.zip_map, List.map_map]
  rfl

/-- The stored records form a verifiable chain in every run in which no record
is lost before one that is stored, and in no other, up to a collision. -/
theorem stored_chain_verifiable (publicKey : String) (calls : List Call) :
    (NoneLostBefore calls →
      Verifiable H (run S (AuditLogger.init H publicKey) calls).storage) ∧
    (Verifiable H (run S (AuditLogger.init H publicKey) calls).storage →
      NoneLostBefore calls ∨
        Collides H.hexdigest ((run S (AuditLogger.init H publicKey) calls).hashed ++
          verified (run S (AuditLogger.init H publicKey) calls).storage)) := by
  have texts := run_init_storage S (H := H) publicKey calls
  have gaps : NoGap (items S calls) ↔ NoneLostBefore calls := List.pairwise_map
  have added : (items S calls).map Prod.fst = calls.map (entryJson S) := by simp [items]
  have opens : ∀ e ∈ items S calls, OpensBrace e.1 := fun e member =>
    entryJson_opens S calls e.1 (added ▸ List.mem_map_of_mem member)
  constructor
  · intro noneLost
    exact (verifiable_iff texts).mpr (verifies_of_noGap _ _ _ _ (gaps.mpr noneLost))
  · intro verifiable
    have verifies := (verifiable_iff texts).mp verifiable
    rw [verified_eq texts, run_hashed, ← gaps, ← added]
    exact noGap_of_verifies H.hexdigest (separated H) [] (items S calls) (by simp) opens verifies

theorem lost_then_stored (publicKey : String) {lost kept : Call} (isLost : lost.kept = false)
    (isKept : kept.kept = true) :
    Verifiable H (run S (AuditLogger.init H publicKey) [lost, kept]).storage ↔
      H.hexdigest (link (H.hexdigest (entryJson S lost)) (H.hexdigest (entryJson S kept))) =
        H.hexdigest (entryJson S kept) := by
  rw [verifiable_iff (run_init_storage S publicKey [lost, kept])]
  simp [items, isLost, isKept, keptFrom, Verifies, extend, linked]

end Logger

def nibbles (size n : Nat) : List Char :=
  (List.range size).map (fun i =>
    hexDigits.get ⟨n / 16 ^ (size - 1 - i) % 16, Nat.lt_trans (Nat.mod_lt _ (by decide)) (by decide)⟩)

def HexDigest.ofNat (size n : Nat) : HexDigest size where
  text := String.ofList (nibbles size n)
  length := by simp [nibbles]
  digits := by
    intro c member
    rw [String.toList_ofList] at member
    obtain ⟨i, _, rfl⟩ := List.mem_map.mp member
    exact List.get_mem _ _

theorem HexDigest.ofNat_nibbles {size m n : Nat}
    (same : HexDigest.ofNat size m = HexDigest.ofNat size n) : nibbles size m = nibbles size n :=
  String.ofList_injective (congrArg HexDigest.text same)

def actionJson : Serializer where
  dumps d := encode ("\x7b\"action\": \"" ++ (stored "action" d ++ "\"\x7d"))
  opens _ := ⟨_, encode_append _ _⟩

def admin : AuditSubject where
  id := "user:admin-123"
  type := "user"
  role := "system-admin"
  ip := none
  geolocation := none
  nonempty := by decide
  shape := by decide

def sessionEntry (action : String) (bounded : 1 ≤ action.length ∧ action.length ≤ 128) :
    AuditEntry where
  timestamp := 1735689600000000
  action := action
  severity := .info
  subject := admin
  targets := []
  context := .empty
  correlationId := none
  sessionId := none
  chainHash := none
  bounded := bounded

def unsignedLogin : Call where
  entry := sessionEntry "login" (by decide)
  signature := .error ⟨.valueError, "Digest too large for key size."⟩
  persisted := .stored (.ok "r-1")

def storedLogout : Call where
  entry := sessionEntry "logout" (by decide)
  signature := .ok "5f1c"
  persisted := .stored (.ok "r-2")

def loginNumber : Nat :=
  0x62f57fe345d551843ec7d4240f4bf956aaf31a708af2cded0890300137ba6f5989755edebd233e4c033309d06a04ea46e98a844c761612381c188d3d6d19bcf6
def logoutNumber : Nat :=
  0x1dc0a4d3680a36adee1310e67b34b0a021797313ce09f0ef31cbdda8950fa04f69c0c9b14d21e2f91d786417b169c98f238a67266c8e665652722476ca126898
def linkNumber : Nat :=
  0xb95a2885ce147f26ee4a550f10fab47bc320af4582606a26f94b5b62df6c27d421680aaf2c010f004884b338315f0cdcd1f702d340c8953c7e3d504e9d28804e

def loginDigest : HexDigest 128 := .ofNat 128 loginNumber
def logoutDigest : HexDigest 128 := .ofNat 128 logoutNumber
def linkDigest : HexDigest 128 := .ofNat 128 linkNumber

def sha3Of (data : Bytes) : HexDigest 128 :=
  if data = entryJson actionJson unsignedLogin then loginDigest
  else if data = entryJson actionJson storedLogout then logoutDigest
  else linkDigest

def sha3Table : HexHash := ⟨128, by decide, sha3Of⟩

/-- The two calls end on one head when the signer fails for the first of them and
when it does not. -/
theorem signature_leaves_head :
    [unsignedLogin, storedLogout].map (entryJson actionJson) =
        [{ unsignedLogin with signature := .ok "5f1c" }, storedLogout].map (entryJson actionJson) ∨
      Collides sha3Table.hexdigest
        ((run actionJson (AuditLogger.init sha3Table "key-1")
            [unsignedLogin, storedLogout]).hashed ++
          (run actionJson (AuditLogger.init sha3Table "key-2")
            [{ unsignedLogin with signature := .ok "5f1c" }, storedLogout]).hashed) :=
  chain_hash_binding actionJson "key-1" "key-2" _ _ (by
    rw [run_chainHash, run_chainHash]
    exact congrArg (headFrom sha3Table.hexdigest link none) rfl)

theorem sha3Table_hexdigest (data : Bytes) : sha3Table.hexdigest data = sha3Of data := rfl

theorem sha3Table_link (head content : HexDigest sha3Table.size) :
    sha3Table.hexdigest (link head content) = linkDigest := by
  have entry : ∀ call, link head content ≠ entryJson actionJson call := by
    intro call same
    exact link_head head content (same ▸ actionJson.opens _)
  rw [sha3Table_hexdigest, sha3Of, if_neg (entry _), if_neg (entry _)]

theorem sha3Table_logout :
    sha3Table.hexdigest (entryJson actionJson storedLogout) = logoutDigest := by
  have other : entryJson actionJson storedLogout ≠ entryJson actionJson unsignedLogin := by decide
  rw [sha3Table_hexdigest, sha3Of, if_neg other, if_pos rfl]

/-- The entry whose signature failed stays in the head, so that the first stored
record is chained to a record that storage never received. -/
theorem unsigned_entry_breaks_chain :
    ¬ Verifiable sha3Table
      (run actionJson (AuditLogger.init sha3Table "key-1") [unsignedLogin, storedLogout]).storage := by
  intro verifiable
  have verifies := (lost_then_stored actionJson "key-1" rfl rfl).mp verifiable
  have same := (sha3Table_link _ _).symm.trans (verifies.trans sha3Table_logout)
  have digits := HexDigest.ofNat_nibbles same
  have differ : (nibbles 128 linkNumber).head? ≠ (nibbles 128 logoutNumber).head? := by
    decide +kernel
  exact differ (congrArg List.head? digits)

end KuvaAI.Audit
