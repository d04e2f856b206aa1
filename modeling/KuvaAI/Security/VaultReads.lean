import KuvaAI.Lib.StepGuarantee
import KuvaAI.Security.Vault

/-! Whether a read of the Vault client sees the writes that returned before it. A read
that missed the cache stores what it was told, however old that is by then. -/
namespace KuvaAI.Vault
open Coroutine

section Keys

theorem digit_of_mem_versionText {n : Int} {c : Char} (member : c ∈ (versionText (some n)).toList) :
    c.isDigit ∨ c = '-' := by
  have digit : ∀ {m : Nat} {c : Char}, c ∈ m.repr.toList → c.isDigit := by
    intro m c member
    rw [Nat.toList_repr] at member
    exact Nat.isDigit_of_mem_toDigits (by decide) (by decide) member
  cases n with
  | ofNat m => exact .inl (digit member)
  | negSucc m =>
    have split : (versionText (some (.negSucc m))).toList = '-' :: (m + 1).repr.toList := by
      simp [versionText, Int.repr]
    rw [split, List.mem_cons] at member
    exact member.symm.imp_left digit

theorem versionText_ne_nil (n : Int) : (versionText (some n)).toList ≠ [] := by
  cases n with
  | ofNat m => simp [versionText, Int.repr]
  | negSucc m => simp [versionText, Int.repr]

theorem cacheKey_none {path path' : String} {version : Option Int}
    (same : cacheKey path' version = cacheKey path none) : path' = path ∧ version = none := by
  have lists := congrArg String.toList same
  simp only [cacheKey, String.toList_append] at lists
  cases version with
  | none =>
    exact ⟨String.toList_inj.mp (List.append_cancel_right (List.append_cancel_right lists)), rfl⟩
  | some n =>
    have last := congrArg List.getLast? lists
    rw [List.getLast?_append, List.getLast?_append] at last
    obtain ⟨c, ends⟩ := Option.ne_none_iff_exists'.mp
      (List.getLast?_eq_none_iff.not.mpr (versionText_ne_nil n))
    have isE : c = 'e' := by
      rw [ends] at last
      simpa [versionText] using last
    rcases digit_of_mem_versionText (List.mem_of_getLast? ends) with digit | minus
    · exact absurd digit (by simp [isE])
    · exact absurd (isE.symm.trans minus) (by decide)

end Keys

variable {V : Type} {truthy : V → Bool} {config : VaultConfig} {secrets : String → List V}
  {g h : VaultEnterpriseClient V} {task : Nat} {secret path : String} {data : V} {version : Nat}

/-- No reply is stored when a write that the server handled after it has cleared the cache. -/
def timely (task : Nat) : (call : Call V) → Answer call → VaultEnterpriseClient V → Prop
  | .json, .ok (), g => ∀ secret version, g.fetched task = some (secret, version) → g.cleared secret ≤ version
  | _, _, _ => True

namespace VaultEnterpriseClient

/-- A read that began after a write had returned, and no other write to the secret was
issued, returned what was written. -/
def ReadYourWrites (g : VaultEnterpriseClient V) : Prop :=
  ∀ r ∈ g.reads, ∀ v ∈ r.settled, r.issued = [v] → r.result = v

def Holds (g : VaultEnterpriseClient V) (secret : String) (version : Nat) (data : V) : Prop :=
  0 < version ∧ (g.versions secret)[version - 1]? = some data

structure Sound (secrets : String → List V) (g : VaultEnterpriseClient V) : Prop where
  written : ∀ secret, ∃ new, g.versions secret = secrets secret ++ new ∧ ∀ v ∈ new, v ∈ g.issued secret
  cleared : ∀ secret, g.cleared secret ≤ (g.versions secret).length
  settled : ∀ secret, g.settled secret ≠ [] → (secrets secret).length < g.cleared secret
  fresh : ∀ path data, g.cache.get? (cacheKey path none) = some data →
    ∃ version, g.cleared (secretOf path) ≤ version ∧ g.Holds (secretOf path) version data
  reads : g.ReadYourWrites

structure Grows (task : Nat) (g h : VaultEnterpriseClient V) : Prop where
  versions : ∀ secret, g.versions secret <+: h.versions secret
  issued : ∀ secret, g.issued secret ⊆ h.issued secret
  cleared : ∀ secret, g.cleared secret ≤ h.cleared secret
  fetched : h.fetched task = g.fetched task

section Fields

variable (other : String)

@[simp] theorem issued_issues : (g.issues secret data).issued other =
    if other = secret then g.issued secret ++ [data] else g.issued other :=
  Function.update_apply g.issued secret _ other

@[simp] theorem versions_stores : (g.stores task secret data).versions other =
    if other = secret then g.versions secret ++ [data] else g.versions other :=
  Function.update_apply g.versions secret _ other

@[simp] theorem settled_clears : (g.clears secret data version).settled other =
    if other = secret then g.settled secret ++ [data] else g.settled other :=
  Function.update_apply g.settled secret _ other

@[simp] theorem cleared_clears : (g.clears secret data version).cleared other =
    if other = secret then max (g.cleared secret) version else g.cleared other :=
  Function.update_apply g.cleared secret _ other

end Fields

theorem Grows.refl : Grows task g g where
  versions _ := List.prefix_refl _
  issued _ := List.Subset.refl _
  cleared _ := Nat.le_refl _
  fetched := rfl

theorem Grows.trans {k : VaultEnterpriseClient V} (first : Grows task g h) (second : Grows task h k) :
    Grows task g k where
  versions secret := (first.versions secret).trans (second.versions secret)
  issued secret := List.Subset.trans (first.issued secret) (second.issued secret)
  cleared secret := Nat.le_trans (first.cleared secret) (second.cleared secret)
  fetched := second.fetched.trans first.fetched

theorem Holds.grows (holds : g.Holds secret version data) (grows : g.versions secret <+: h.versions secret) :
    h.Holds secret version data := by
  obtain ⟨rest, extended⟩ := grows
  refine ⟨holds.1, ?_⟩
  rw [← extended, List.getElem?_append_left (List.getElem?_eq_some_iff.mp holds.2).1]
  exact holds.2

namespace Sound

variable (sound : g.Sound secrets)

include sound

theorem issued_of_new (holds : g.Holds secret version data) (new : (secrets secret).length < version) :
    data ∈ g.issued secret := by
  obtain ⟨added, extends_, issued⟩ := sound.written secret
  have found := holds.2
  rw [extends_, List.getElem?_append_right (by omega)] at found
  exact issued data (List.mem_of_getElem? found)

theorem returns {settled : List V} {version? : Option Int} (holds : g.Holds (secretOf path) version data)
    (new : settled ≠ [] → (secrets (secretOf path)).length < version) :
    (g.returns settled path version? data).Sound secrets := by
  unfold VaultEnterpriseClient.returns
  split
  · refine ⟨sound.written, sound.cleared, sound.settled, sound.fresh, fun r member v was only => ?_⟩
    rcases List.mem_append.mp member with old | this
    · exact sound.reads r old v was only
    · cases List.mem_singleton.mp this
      have written := sound.issued_of_new holds (new (List.ne_nil_of_mem was))
      exact List.mem_singleton.mp (only ▸ written)
  · exact sound

theorem issues : (g.issues secret data).Sound secrets where
  written other := by
    obtain ⟨new, extends_, issued⟩ := sound.written other
    refine ⟨new, extends_, fun v member => ?_⟩
    by_cases same : other = secret
    · subst same
      simp [issued v member]
    · simp [same, issued v member]
  cleared := sound.cleared
  settled := sound.settled
  fresh := sound.fresh
  reads := sound.reads

theorem fetches {fetched : Option (String × Nat)} : (g.fetches task fetched).Sound secrets :=
  ⟨sound.written, sound.cleared, sound.settled, sound.fresh, sound.reads⟩

omit sound in
theorem prefix_stores (other : String) :
    g.versions other <+: (g.stores task secret data).versions other := by
  by_cases same : other = secret
  · subst same
    simp
  · simp [same]

theorem stores (issued : data ∈ g.issued secret) : (g.stores task secret data).Sound secrets where
  written other := by
    obtain ⟨new, extends_, known⟩ := sound.written other
    by_cases same : other = secret
    · subst same
      refine ⟨new ++ [data], by simp [extends_], fun v member => ?_⟩
      rcases List.mem_append.mp member with old | this
      · exact known v old
      · cases List.mem_singleton.mp this
        exact issued
    · exact ⟨new, by simp [same, extends_], known⟩
  cleared other := Nat.le_trans (sound.cleared other) (prefix_stores other).length_le
  settled := sound.settled
  fresh path data' cached := by
    obtain ⟨version, recent, holds⟩ := sound.fresh path data' cached
    exact ⟨version, recent, holds.grows (prefix_stores _)⟩
  reads := sound.reads

theorem clears (known : version ≤ (g.versions secret).length) (new : (secrets secret).length < version) :
    (g.clears secret data version).Sound secrets where
  written := sound.written
  cleared other := by
    change (g.clears secret data version).cleared other ≤ (g.versions other).length
    rw [cleared_clears]
    split
    · subst other
      exact Nat.max_le.mpr ⟨sound.cleared secret, known⟩
    · exact sound.cleared other
  settled other some := by
    by_cases same : other = secret
    · subst same
      rw [cleared_clears, if_pos rfl]
      omega
    · rw [settled_clears, if_neg same] at some
      simpa [same] using sound.settled other some
  fresh _ _ cached := nomatch cached
  reads := sound.reads

theorem caches {version? : Option Int} (recent : version? = none →
      ∃ version, g.cleared (secretOf path) ≤ version ∧ g.Holds (secretOf path) version data) :
    (g.caches (cacheKey path version?) data).Sound secrets where
  written := sound.written
  cleared := sound.cleared
  settled := sound.settled
  fresh path' data' cached := by
    change (g.cache.set (cacheKey path version?) data).get? _ = _ at cached
    rw [Dict.get?_set] at cached
    split at cached
    · rename_i same
      obtain ⟨rfl, unversioned⟩ := cacheKey_none same.symm
      cases cached
      exact recent unversioned
    · exact sound.fresh path' data' cached
  reads := sound.reads

end Sound

section Changes

variable {other : Nat}

theorem grows_issues : Grows other g (g.issues secret data) where
  versions _ := List.prefix_refl _
  issued s := by
    by_cases same : s = secret
    · subst same
      simp
    · simp [same]
  cleared _ := Nat.le_refl _
  fetched := rfl

theorem grows_fetches {fetched : Option (String × Nat)} (different : other ≠ task) :
    Grows other g (g.fetches task fetched) where
  versions _ := List.prefix_refl _
  issued _ := List.Subset.refl _
  cleared _ := Nat.le_refl _
  fetched := Function.update_of_ne different _ _

theorem grows_stores (different : other ≠ task) : Grows other g (g.stores task secret data) where
  versions := Sound.prefix_stores
  issued _ := List.Subset.refl _
  cleared _ := Nat.le_refl _
  fetched := Function.update_of_ne different _ _

theorem grows_clears : Grows other g (g.clears secret data version) where
  versions _ := List.prefix_refl _
  issued _ := List.Subset.refl _
  cleared s := by
    by_cases same : s = secret
    · subst same
      rw [cleared_clears, if_pos rfl]
      omega
    · simp [same]
  fetched := rfl

theorem grows_caches {key : String} : Grows other g (g.caches key data) :=
  ⟨fun _ => List.prefix_refl _, fun _ => List.Subset.refl _, fun _ => Nat.le_refl _, rfl⟩

theorem grows_returns {settled : List V} {version? : Option Int} :
    Grows other g (g.returns settled path version? data) := by
  unfold VaultEnterpriseClient.returns
  split
  · exact ⟨fun _ => List.prefix_refl _, fun _ => List.Subset.refl _, fun _ => Nat.le_refl _, rfl⟩
  · exact Grows.refl

end Changes

end VaultEnterpriseClient

section Discipline

open VaultEnterpriseClient

def coherent (secrets : String → List V) : Discipline (VaultEnterpriseClient V) (@Answer V) where
  allowed := timely
  inv := Sound secrets
  rely := Grows
  idle _ _ := True
  rely_refl _ _ := Grows.refl
  rely_trans _ _ _ _ first second := first.trans second
  idle_stable _ _ _ _ _ := trivial

structure Lasting (secrets : String → List V) (task : Nat) (P : VaultEnterpriseClient V → Prop) : Prop where
  sound : ∀ g, P g → Sound secrets g
  grows : ∀ g h, P g → Grows task g h → Sound secrets h → P h

variable {P Q : VaultEnterpriseClient V → Prop} {mid : Option (Reply V) → VaultEnterpriseClient V → Prop}
  {post : Reply V → VaultEnterpriseClient V → Prop} {request : Request V}

theorem Lasting.closed (lasting : Lasting secrets task P) :
    Closed fun {_} (x : Task V _) => Triple (coherent secrets) task P x (fun _ => P) fun _ => P :=
  Triple.closed lasting.sound lasting.grows

theorem triple_sendRequest (before : Lasting secrets task P)
    (after : ∀ reply, Lasting secrets task (mid reply)) (weaker : ∀ reply g, mid reply g → P g)
    (handles : Triple (coherent secrets) task P (handleRequest task request) mid fun _ => P) :
    Triple (coherent secrets) task P (sendRequest task request) mid fun _ => P := by
  refine Triple.bind (before.closed.wait _) fun handled =>
    Triple.bind (before.closed.ofExcept handled) fun _ => Triple.bind handles fun reply => ?_
  refine Triple.bind (((after reply).closed.wait _).conseq (fun _ known => known) (fun _ _ known => known)
    fun _ => weaker reply) fun response => ?_
  exact Triple.bind (((after reply).closed.ofExcept response).conseq (fun _ known => known)
    (fun _ _ known => known) fun _ => weaker reply) fun _ _ known => known

def Ended {α : Type} (good : α → VaultEnterpriseClient V → Prop) (bad : VaultEnterpriseClient V → Prop) :
    Except VaultExn α → VaultEnterpriseClient V → Prop
  | .ok a => good a
  | .error _ => bad

theorem triple_request (before : Lasting secrets task P) (after : ∀ reply, Lasting secrets task (mid reply))
    (weaker : ∀ reply g, mid reply g → P g)
    (handles : Triple (coherent secrets) task P (handleRequest task request) mid fun _ => P)
    (reads : ∀ reply, Triple (coherent secrets) task (mid reply) (readReply reply) post fun _ => P) :
    Triple (coherent secrets) task P (Vault.request config task request) post fun _ => P := by
  have attempts : ∀ {bound handler},
      (∀ bound e, Triple (coherent secrets) task P (handler bound e) post fun _ => P) →
      Triple (coherent secrets) task P (attemptRequest task request bound handler) post fun _ => P := by
    intro bound handler handled
    have sends : Triple (coherent secrets) task P (attempt (sendRequest task request)) (Ended mid P)
        fun _ => P := Triple.attempt (triple_sendRequest before after weaker handles)
    refine Triple.bind sends fun sent => ?_
    cases sent with
    | error e => exact handled bound e
    | ok reply =>
      have parses : Triple (coherent secrets) task (mid reply) (attempt (readReply reply)) (Ended post P)
          fun _ => P := Triple.attempt (reads reply)
      refine Triple.bind parses fun read => ?_
      cases read with
      | error e => exact handled true e
      | ok reply => exact fun _ known => known
  have fails : ∀ bound e, Triple (coherent secrets) task P (failed bound e : Task V (Reply V)) post
      fun _ => P := fun _ _ _ known => known
  have each : ∀ left bound, Triple (coherent secrets) task P (requestEach config task request bound left) post
      fun _ => P := by
    intro left
    induction left with
    | zero =>
      refine fun bound => attempts fun bound e => ?_
      split
      · exact fails _ _
      · exact fails _ _
    | succ left ih =>
      refine fun bound => attempts fun bound e => ?_
      split
      · refine Triple.bind (before.closed.wait _) fun slept => ?_
        split
        · exact fails _ _
        · exact Triple.ite (fun _ => ih true) fun _ _ known => known
      · exact fails _ _
  exact each config.retries false

theorem lasting_sound : Lasting secrets task (Sound secrets) :=
  ⟨fun _ sound => sound, fun _ _ _ _ sound => sound⟩

theorem reads_reply (lasting : Lasting secrets task P) (reply : Reply V) :
    Triple (coherent secrets) task P (readReply (some reply))
      (fun r g => r = reply ∧ P g ∧ ∀ secret version, g.fetched task = some (secret, version) →
        g.cleared secret ≤ version) fun _ => P := by
  intro g known
  refine And.intro (lasting.sound g known) fun (read : Except VaultExn Unit) h grows sound timely => ?_
  have later := lasting.grows g h known grows sound
  cases read with
  | error e => exact later
  | ok _ => exact ⟨rfl, later, timely⟩

section Reading

variable (secrets) (settled : List V) (secret)

structure Begun (g : VaultEnterpriseClient V) : Prop where
  sound : Sound secrets g
  new : settled ≠ [] → (secrets secret).length < g.cleared secret

structure Newer (reply : Reply V) (g : VaultEnterpriseClient V) : Prop where
  holds : g.Holds secret reply.version reply.data
  new : settled ≠ [] → (secrets secret).length < reply.version

structure Told (task : Nat) (reply : Option (Reply V)) (g : VaultEnterpriseClient V) : Prop where
  begun : Begun secrets secret settled g
  newer : ∀ r, reply = some r → Newer secrets secret settled r g
  fetched : ∀ r, reply = some r → g.fetched task = some (secret, r.version)

structure Timely (reply : Reply V) (g : VaultEnterpriseClient V) : Prop where
  sound : Sound secrets g
  newer : Newer secrets secret settled reply g
  recent : g.cleared secret ≤ reply.version

variable {secrets settled secret}

theorem Begun.lasting : Lasting secrets task (Begun secrets secret settled) where
  sound _ begun := begun.sound
  grows _ _ begun grows sound :=
    ⟨sound, fun some => Nat.lt_of_lt_of_le (begun.new some) (grows.cleared secret)⟩

theorem Told.lasting (reply : Option (Reply V)) :
    Lasting secrets task (Told secrets secret settled task reply) where
  sound _ told := told.begun.sound
  grows _ _ told grows sound :=
    { begun := Begun.lasting.grows _ _ told.begun grows sound
      newer := fun r is => ⟨(told.newer r is).holds.grows (grows.versions secret), (told.newer r is).new⟩
      fetched := fun r is => grows.fetched.trans (told.fetched r is) }

theorem handles_latest : Triple (coherent secrets) task (Begun secrets (secretOf path) settled)
    (handleRequest task (.get path none)) (Told secrets (secretOf path) settled task)
    fun _ => Begun secrets (secretOf path) settled := by
  intro g begun
  rw [handleRequest, wp_bind, wp_get]
  refine wp_modify_bind (fun other different => grows_fetches different) ?_
  refine ⟨⟨begun.sound.fetches, begun.new⟩, fun r is => ?_, fun r is => ?_⟩
  · obtain ⟨latest, last, rfl⟩ := Option.map_eq_some_iff.mp is
    rw [List.getLast?_eq_getElem?] at last
    have some : 0 < (g.versions (secretOf path)).length :=
      Nat.zero_lt_of_lt (List.getElem?_eq_some_iff.mp last).1
    exact ⟨⟨some, last⟩, fun was => Nat.lt_of_lt_of_le (begun.new was) (begun.sound.cleared _)⟩
  · obtain ⟨latest, last, rfl⟩ := Option.map_eq_some_iff.mp is
    exact Function.update_self _ _ _

theorem reads_latest (reply : Option (Reply V)) :
    Triple (coherent secrets) task (Told secrets secret settled task reply) (readReply reply)
      (Timely secrets secret settled) fun _ => Begun secrets secret settled := by
  cases reply with
  | none => exact fun _ told => told.begun
  | some reply =>
    refine (reads_reply (Told.lasting _) reply).conseq (fun _ told => told) ?_ fun _ _ told => told.begun
    rintro _ g ⟨rfl, told, timely⟩
    exact ⟨told.begun.sound, told.newer _ rfl, timely _ _ (told.fetched _ rfl)⟩

end Reading

section Writing

variable (secrets) (secret) (data)

structure Issued (g : VaultEnterpriseClient V) : Prop where
  sound : Sound secrets g
  issued : data ∈ g.issued secret

structure Written (reply : Reply V) (g : VaultEnterpriseClient V) : Prop where
  issued : Issued secrets secret data g
  known : reply.version ≤ (g.versions secret).length
  new : (secrets secret).length < reply.version

variable {secrets secret data}

theorem Issued.lasting : Lasting secrets task (Issued secrets secret data) where
  sound _ issued := issued.sound
  grows _ _ issued grows sound := ⟨sound, grows.issued secret issued.issued⟩

theorem Written.lasting (reply : Option (Reply V)) :
    Lasting secrets task fun g => ∃ r, reply = some r ∧ Written secrets secret data r g where
  sound := by
    rintro g ⟨_, _, written⟩
    exact written.issued.sound
  grows := by
    rintro g h ⟨r, is, written⟩ grows sound
    exact ⟨r, is, Issued.lasting.grows _ _ written.issued grows sound,
      Nat.le_trans written.known (grows.versions secret).length_le, written.new⟩

theorem handles_post (maxVersions : Int) :
    Triple (coherent secrets) task (Issued secrets (secretOf path) data)
      (handleRequest task (.post path data maxVersions))
      (fun reply g => ∃ r, reply = some r ∧ Written secrets (secretOf path) data r g)
      fun _ => Issued secrets (secretOf path) data := by
  intro g issued (metadata : V)
  change wp (coherent secrets) task _ _ (modify (fun g => g.stores task (secretOf path) data) >>= fun _ =>
    (pure (some (Reply.mk metadata ((g.versions (secretOf path)).length + 1))) : Task V _)) g
  refine wp_modify_bind (fun other different => grows_stores different) ⟨_, rfl, ⟨?_, ?_⟩, ?_, ?_⟩
  · exact issued.sound.stores issued.issued
  · exact issued.issued
  · simp
  · obtain ⟨new, extends_, _⟩ := issued.sound.written (secretOf path)
    change _ < (g.versions (secretOf path)).length + 1
    rw [extends_, List.length_append]
    omega

theorem reads_post (reply : Option (Reply V)) :
    Triple (coherent secrets) task (fun g => ∃ r, reply = some r ∧ Written secrets secret data r g)
      (readReply reply) (Written secrets secret data) fun _ => Issued secrets secret data := by
  cases reply with
  | none =>
    rintro g ⟨_, none, _⟩
    cases none
  | some reply =>
    refine (reads_reply (Written.lasting _) reply).conseq (fun _ known => known) ?_ ?_
    · rintro _ g ⟨rfl, ⟨r, is, written⟩, _⟩
      cases is
      exact written
    · rintro _ g ⟨r, _, written⟩
      exact written.issued

end Writing

theorem handles_version (n : Int) : Triple (coherent secrets) task (Sound secrets)
    (handleRequest task (.get path (some n))) (fun _ => Sound secrets) fun _ => Sound secrets := by
  have closed : Closed fun {_} (x : Task V _) =>
    Triple (coherent secrets) task (Sound secrets) x (fun _ => Sound secrets) fun _ => Sound secrets :=
    lasting_sound.closed
  have notes : ∀ fetched, Triple (coherent secrets) task (Sound secrets)
      (modify fun g => g.fetches task fetched : Task V PUnit) (fun _ => Sound secrets)
      fun _ => Sound secrets :=
    fun _ _ sound => ⟨fun _ different => grows_fetches different, sound.fetches⟩
  refine closed.bind closed.get fun g => closed.bind (notes _) fun _ => ?_
  split
  · exact closed.pure _
  · exact closed.pure _
  · exact closed.called fun kept => closed.pure _

theorem triple_getVersion (n : Int) : Triple (coherent secrets) task (Sound secrets)
    (Vault.request config task (.get path (some n))) (fun _ => Sound secrets) fun _ => Sound secrets := by
  refine triple_request lasting_sound (fun _ => lasting_sound) (fun _ _ sound => sound)
    (handles_version n) fun reply => ?_
  cases reply with
  | none => exact fun _ sound => sound
  | some reply =>
    exact (reads_reply lasting_sound reply).conseq (fun _ sound => sound) (fun _ _ read => read.2.1)
      fun _ _ sound => sound

theorem stores_result {settled : List V} {version? : Option Int} {result : V} (sound : Sound secrets g)
    (timely : version? = none → ∃ version, Timely secrets (secretOf path) settled ⟨result, version⟩ g) :
    Sound secrets ((g.caches (cacheKey path version?) result).returns settled path version? result) := by
  have cached : Sound secrets (g.caches (cacheKey path version?) result) := by
    refine sound.caches fun latest => ?_
    obtain ⟨version, timely⟩ := timely latest
    exact ⟨version, timely.recent, timely.newer.holds⟩
  cases version? with
  | none =>
    obtain ⟨version, timely⟩ := timely rfl
    exact cached.returns timely.newer.holds timely.newer.new
  | some n => exact cached

theorem triple_readSecret (version? : Option Int) : Triple (coherent secrets) task (Sound secrets)
    (readSecret truthy config task path version?) (fun _ => Sound secrets) fun _ => Sound secrets := by
  intro g sound
  rw [readSecret, wp_bind, wp_get]
  cases hit : (g.cache.get? (cacheKey path version?)).filter truthy with
  | some cached =>
    refine wp_modify_bind (fun other _ => grows_returns) ?_
    cases version? with
    | none =>
      have found := (Option.filter_eq_some_iff.mp hit).1
      obtain ⟨version, recent, holds⟩ := sound.fresh path cached found
      exact sound.returns holds fun some => Nat.lt_of_lt_of_le (sound.settled _ some) recent
    | some n => exact sound
  | none =>
    cases version? with
    | none =>
      have begun : Begun secrets (secretOf path) (g.settled (secretOf path)) g :=
        ⟨sound, sound.settled (secretOf path)⟩
      refine Triple.bind ((triple_request Begun.lasting Told.lasting (fun _ _ told => told.begun)
        handles_latest reads_latest).conseq (fun _ begun => begun) (fun _ _ timely => timely)
        fun _ _ begun => begun.sound) (fun result => ?_) g begun
      intro h timely
      exact wp_modify_bind (fun other _ => grows_caches.trans grows_returns)
        (stores_result timely.sound fun _ => ⟨result.version, timely⟩)
    | some n =>
      refine (triple_getVersion n).bind (fun result => ?_) g sound
      intro h sound
      exact wp_modify_bind (fun other _ => grows_caches.trans grows_returns)
        (stores_result sound fun latest => nomatch latest)

theorem triple_writeSecret (maxVersions : Int) : Triple (coherent secrets) task (Sound secrets)
    (writeSecret config task path data maxVersions) (fun _ => Sound secrets) fun _ => Sound secrets := by
  intro g sound
  refine wp_modify_bind (fun other _ => grows_issues) ?_
  have issued : Issued secrets (secretOf path) data (g.issues (secretOf path) data) := by
    exact ⟨sound.issues, by simp⟩
  refine Triple.bind ((triple_request Issued.lasting Written.lasting ?_ (handles_post maxVersions)
    reads_post).conseq (fun _ issued => issued) (fun _ _ written => written) fun _ _ issued => issued.sound)
    (fun result => ?_) _ issued
  · rintro _ _ ⟨_, _, written⟩
    exact written.issued
  · intro h written
    exact wp_modify_bind (fun other _ => grows_clears)
      (written.issued.sound.clears written.known written.new)

end Discipline

def IsOperation (truthy : V → Bool) (config : VaultConfig) (task : Nat) (x : Task V Unit) : Prop :=
  ∃ operation : Operation V, x = operation.run truthy config task

def Reaches (truthy : V → Bool) (config : VaultConfig) (secrets : String → List V)
    (c : Config (VaultEnterpriseClient V) (@Answer V) VaultExn Unit) : Prop :=
  Reachable (fun _ _ _ _ => True) (IsOperation truthy config) (.init secrets) c

open VaultEnterpriseClient in
/-- In a run in which no read stores what a write has overtaken, reads see the writes
that returned before them. -/
theorem reads_own_writes {c : Config (VaultEnterpriseClient V) (@Answer V) VaultExn Unit}
    (reached : Reachable timely (IsOperation truthy config) (.init secrets) c) : c.shared.ReadYourWrites := by
  have runs : ∀ task x, IsOperation truthy config task x →
      Triple (coherent secrets) task (Sound secrets) x (fun _ => Sound secrets) fun _ => Sound secrets := by
    rintro task x ⟨operation, rfl⟩
    cases operation with
    | readSecret path version => exact (triple_readSecret version).bind fun _ _ sound => sound
    | writeSecret path data maxVersions => exact (triple_writeSecret maxVersions).bind fun _ _ sound => sound
  have sound : Sound secrets (.init secrets) :=
    { written := fun _ => ⟨[], (List.append_nil _).symm, fun _ member => nomatch member⟩
      cleared := fun _ => Nat.zero_le _
      settled := fun _ some => absurd rfl some
      fresh := fun _ _ cached => nomatch cached
      reads := fun _ member => nomatch member }
  exact (reachable_inv (D := coherent secrets) runs (fun _ _ sound _ => sound)
    (fun _ _ sound => ⟨sound, trivial⟩) sound (fun _ => trivial) reached).reads

section Instance

def vaultAnswer (_ : Nat) : (call : Call String) → Answer call
  | .handled _ => .ok ()
  | .response => .ok ()
  | .json => .ok ()
  | .sleep _ => .ok ()
  | .keeps _ _ => true
  | .metadata _ => ""

def filled (text : String) : Bool := text != ""

def threeRetries : VaultConfig := ⟨3⟩

def mysqlSecrets (secret : String) : List String := if secret = "mysql" then ["old"] else []

theorem isOperation_run (task : Nat) (operation : Operation String) :
    IsOperation filled threeRetries task (operation.run filled threeRetries task) := ⟨operation, rfl⟩

/-- A read stores the old secret after the write has cleared the cache; the next one finds it. -/
theorem old_secret_stored : ∃ c, Reaches filled threeRetries mysqlSecrets c ∧ ¬ c.shared.ReadYourWrites := by
  have idle : Reaches filled threeRetries mysqlSecrets (.init (.init mysqlSecrets)) := .refl
  have asks := idle.spawn 0 vaultAnswer rfl (isOperation_run 0 (.readSecret "mysql" none))
  have told := asks.resume 0 (.handled (.get "mysql" none)) (.ok ()) vaultAnswer rfl trivial
  have writes := told.spawn 1 vaultAnswer rfl (isOperation_run 1 (.writeSecret "mysql" "new" 5))
  have written := writes.resume 1 (.handled (.post "mysql" "new" 5)) (.ok ()) vaultAnswer rfl trivial
  have answered := written.resume 1 .response (.ok ()) vaultAnswer rfl trivial
  have cleared := answered.resume 1 .json (.ok ()) vaultAnswer rfl trivial
  have arrives := cleared.resume 0 .response (.ok ()) vaultAnswer rfl trivial
  have stored := arrives.resume 0 .json (.ok ()) vaultAnswer rfl trivial
  have again := stored.spawn 2 vaultAnswer rfl (isOperation_run 2 (.readSecret "mysql" none))
  refine ⟨_, again, fun reads => ?_⟩
  have same := reads ⟨"mysql", ["new"], ["new"], "old"⟩ (by decide +kernel) "new" List.mem_cons_self rfl
  exact absurd same (by decide)

theorem new_secret_read : ∃ c,
    Reachable timely (IsOperation filled threeRetries) (.init mysqlSecrets) c ∧
      c.shared.reads = [⟨"mysql", ["new"], ["new"], "new"⟩] ∧ c.shared.ReadYourWrites := by
  have idle : Reachable timely (IsOperation filled threeRetries) (.init mysqlSecrets)
    (.init (.init mysqlSecrets)) := .refl
  have writes := idle.spawn 1 vaultAnswer rfl (isOperation_run 1 (.writeSecret "mysql" "new" 5))
  have written := writes.resume 1 (.handled (.post "mysql" "new" 5)) (.ok ()) vaultAnswer rfl trivial
  have answered := written.resume 1 .response (.ok ()) vaultAnswer rfl trivial
  have cleared := answered.resume 1 .json (.ok ()) vaultAnswer rfl (by
    intro _ _ none
    cases none)
  have asks := cleared.spawn 2 vaultAnswer rfl (isOperation_run 2 (.readSecret "mysql" none))
  have told := asks.resume 2 (.handled (.get "mysql" none)) (.ok ()) vaultAnswer rfl trivial
  have arrives := told.resume 2 .response (.ok ()) vaultAnswer rfl trivial
  have stored := arrives.resume 2 .json (.ok ()) vaultAnswer rfl (by
    intro secret version fetched
    cases fetched
    decide +kernel)
  exact ⟨_, stored, by decide +kernel, reads_own_writes stored⟩

end Instance

end KuvaAI.Vault
