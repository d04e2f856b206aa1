import KuvaAI.Security.KmipDeadlock

/-! The pool of a KMIP client over connections that can go down at any time: where each
connection is, and what becomes of a pool that has lost them all. -/
namespace KuvaAI.Kmip.Losses
open Coroutine KMIPConnectionPool

variable {config : KMIPConfig} {g h : KMIPConnectionPool} {task client : Nat} {phase : Phase}

def connectionLost (client : Nat) : Task Unit :=
  modify fun g => { g with connected := Function.update g.connected client false }

def IsEvent (config : KMIPConfig) (task : Nat) (x : Task Unit) : Prop :=
  IsOperation config task x ∨ ∃ client, x = connectionLost client

/-- Each connection is in the queue or with one call, unless it has gone down. -/
structure Accounted (config : KMIPConfig) (g : KMIPConnectionPool) : Prop where
  distinct : (g.queue ++ g.held.map Prod.snd).Nodup
  opened : ∀ client ∈ g.queue ++ g.held.map Prod.snd, client < config.maxConnections
  lost : ∀ client < config.maxConnections, client ∉ g.queue ++ g.held.map Prod.snd →
    g.connected client = false

structure Spent (g : KMIPConnectionPool) : Prop where
  queue : g.queue = []
  held : g.held = []

def Holds (task : Nat) (clients : List Nat) (g : KMIPConnectionPool) : Prop :=
  ∀ client, (task, client) ∈ g.held ↔ client ∈ clients

theorem Accounted.held_nodup (accounted : Accounted config g) : g.held.Nodup :=
  accounted.distinct.of_append_right.of_map

theorem Accounted.not_full (accounted : Accounted config g) (held : (task, client) ∈ g.held) :
    ¬ g.Full config := by
  have bounded := (List.subperm_of_subset accounted.distinct fun c member =>
    List.mem_range.mpr (accounted.opened c member)).length_le
  have some : 0 < g.held.length := List.length_pos_of_mem held
  simp only [List.length_append, List.length_map, List.length_range] at bounded
  unfold Full
  omega

theorem accounted_of_perm {queue : List Nat} {held : List (Nat × Nat)} {connected : Nat → Bool}
    {phases : Nat → Phase} (accounted : Accounted config g)
    (same : (queue ++ held.map Prod.snd).Perm (g.queue ++ g.held.map Prod.snd))
    (down : ∀ client, g.connected client = false → connected client = false) :
    Accounted config ⟨queue, connected, held, phases⟩ where
  distinct := same.nodup_iff.mpr accounted.distinct
  opened client member := accounted.opened client (same.mem_iff.mp member)
  lost client small absent :=
    down client (accounted.lost client small (same.mem_iff.not.mp absent))

theorem accounted_takes {rest : List Nat} (accounted : Accounted config g)
    (first : g.queue = client :: rest) : Accounted config (g.takes task phase client) := by
  refine accounted_of_perm accounted ?_ fun _ down => down
  rw [first, List.map_append, ← List.append_assoc]
  exact List.perm_append_singleton client _

theorem accounted_puts (accounted : Accounted config g) (held : (task, client) ∈ g.held) :
    Accounted config (g.puts task phase client) := by
  refine accounted_of_perm accounted ?_ fun _ down => down
  have back := (List.perm_cons_erase held).map Prod.snd
  rw [List.append_assoc]
  exact back.symm.append_left g.queue

theorem accounted_drops (accounted : Accounted config g) (held : (task, client) ∈ g.held)
    (down : g.connected client = false) : Accounted config (g.drops task phase client) := by
  have fewer : (g.queue ++ (g.held.erase (task, client)).map Prod.snd).Sublist
      (g.queue ++ g.held.map Prod.snd) :=
    (List.erase_sublist.map _).append_left _
  have back := (List.perm_cons_erase held).map Prod.snd
  constructor
  · exact fewer.nodup accounted.distinct
  · exact fun c member => accounted.opened c (fewer.subset member)
  · intro c small absent
    by_cases same : c = client
    · exact same ▸ down
    · refine accounted.lost c small ?_
      rw [List.mem_append, back.mem_iff]
      rintro (waits | member)
      · exact absent (List.mem_append_left _ waits)
      · rcases List.mem_cons.mp member with isClient | other
        · exact same isClient
        · exact absent (List.mem_append_right _ other)

structure Leaves (task : Nat) (g h : KMIPConnectionPool) : Prop where
  held : ∀ client, (task, client) ∈ h.held ↔ (task, client) ∈ g.held
  spent : Spent g → Spent h

def keeping (config : KMIPConfig) : Discipline KMIPConnectionPool Answer where
  allowed := served config
  inv := Accounted config
  rely := Leaves
  idle task := Holds task []
  rely_refl _ _ := ⟨fun _ => Iff.rfl, id⟩
  rely_trans _ _ _ _ first second :=
    ⟨fun client => (second.held client).trans (first.held client), second.spent ∘ first.spent⟩
  idle_stable _ _ _ leaves idle client := (leaves.held client).trans (idle client)

structure Has (config : KMIPConfig) (task : Nat) (clients : List Nat) (g : KMIPConnectionPool) :
    Prop where
  accounted : Accounted config g
  holds : Holds task clients g

abbrev Does {α : Type} (config : KMIPConfig) (task : Nat) (pre : KMIPConnectionPool → Prop)
    (x : Task α) (post : α → KMIPConnectionPool → Prop) (failed : KMIPConnectionPool → Prop) : Prop :=
  Triple (keeping config) task pre x post fun _ => failed

variable {clients : List Nat} {Q : KMIPConnectionPool → Prop}

theorem Has.later (has : Has config task clients g) (leaves : Leaves task g h)
    (accounted : Accounted config h) : Has config task clients h :=
  ⟨accounted, fun client => (leaves.held client).trans (has.holds client)⟩

theorem closed_has : Closed fun {_} (x : Task _) =>
    Does config task (Has config task clients) x (fun _ => Has config task clients)
      (Has config task clients) :=
  Triple.closed (fun _ has => has.accounted) fun _ _ has leaves accounted => has.later leaves accounted

theorem does_moves : Does config task (Has config task clients)
    (modify fun g => g.moves task phase : Task PUnit) (fun _ => Has config task clients) Q := by
  intro g has
  exact ⟨fun _ _ => ⟨fun _ => Iff.rfl, fun spent => ⟨spent.queue, spent.held⟩⟩,
    ⟨has.accounted.distinct, has.accounted.opened, has.accounted.lost⟩, has.holds⟩

def Gains (config : KMIPConfig) (task : Nat) (clients : List Nat) (client : Nat)
    (g : KMIPConnectionPool) : Prop :=
  Has config task (client :: clients) g ∧ client ∉ clients

theorem does_getNowait : Does config task (Has config task clients) (getNowait task phase)
    (Gains config task clients) (Has config task clients) := by
  intro g has
  rw [getNowait, wp_bind, wp_get]
  cases first : g.queue with
  | nil => exact has
  | cons client rest =>
    have fresh : client ∉ clients := by
      intro member
      have held := List.mem_map_of_mem (f := Prod.snd) ((has.holds client).mpr member)
      have apart := List.nodup_append.mp has.accounted.distinct
      exact apart.2.2 client (first ▸ List.mem_cons_self) client held rfl
    refine wp_modify_bind (fun other different => ⟨fun c => ?_, fun spent => ?_⟩)
      ⟨⟨accounted_takes has.accounted first, fun c => ?_⟩, fresh⟩
    · change (other, c) ∈ g.held ++ [(task, client)] ↔ _
      simp [different]
    · exact absurd spent.queue (first ▸ List.cons_ne_nil _ _)
    · change (task, c) ∈ g.held ++ [(task, client)] ↔ _
      simp [has.holds c, or_comm]

theorem does_pauseFor (pause : Pause) : Does config task (Has config task clients) (pauseFor pause)
    (fun _ => Has config task clients) (Has config task clients) :=
  closed_has.awaited fun wake => by
    cases wake with
    | woken => exact closed_has.pure _
    | cancelled => exact closed_has.throw _

theorem does_queueGet (before : Phase) : Does config task (Has config task clients)
    (queueGet task before phase) (Gains config task clients) (Has config task clients) := by
  have rethrows : ∀ e, Does config task (Has config task clients)
      (do
        modify fun g => g.moves task before
        throw e : Task Unit)
      (fun _ => Has config task clients) (Has config task clients) :=
    fun e => Triple.bind does_moves fun _ => closed_has.throw e
  refine Triple.bind (Triple.get fun g has => has) fun g₀ => ?_
  refine Triple.ite (fun _ => ?_) fun _ => does_getNowait
  refine Triple.bind does_moves fun _ => ?_
  exact Triple.bind (Triple.tryCatch (does_pauseFor .getter) rethrows) fun _ => does_getNowait

theorem does_acquire (before : Phase) : Does config task (Has config task clients)
    (acquire config task before phase) (Gains config task clients) (Has config task clients) := by
  rw [acquire]
  induction config.maxAttempts with
  | zero => exact fun _ has => has
  | succ attempts ih =>
    refine Triple.tryCatch (does_queueGet before) fun e => Triple.ite (fun _ => ?_) fun _ => ?_
    · exact Triple.bind (does_pauseFor .sleep) fun _ => ih
    · exact fun _ has => has

variable {rest : List Nat}

theorem holds_erase {held : List (Nat × Nat)} (has : Has config task clients g)
    (released : clients = client :: rest) (apart : client ∉ rest)
    (erased : held = g.held.erase (task, client)) (c : Nat) : (task, c) ∈ held ↔ c ∈ rest := by
  rw [erased, has.accounted.held_nodup.mem_erase_iff, has.holds c, released]
  grind

theorem others_erase {held : List (Nat × Nat)} {other : Nat} (different : other ≠ task)
    (erased : held = g.held.erase (task, client)) (c : Nat) :
    (other, c) ∈ held ↔ (other, c) ∈ g.held := by
  rw [erased]
  exact List.mem_erase_of_ne fun same => different (congrArg Prod.fst same)

theorem does_release (released : clients = client :: rest) (apart : client ∉ rest) :
    Does config task (Has config task clients) (release config task phase client)
      (fun _ => Has config task rest) Q := by
  intro g has
  have held : (task, client) ∈ g.held := (has.holds client).mpr (released ▸ List.mem_cons_self)
  have unspent : ¬ Spent g := fun spent => List.not_mem_nil (spent.held ▸ held)
  rw [release, wp_bind, wp_get, wp_ite]
  split
  · rw [queuePut, wp_bind, wp_get, if_neg (has.accounted.not_full held)]
    exact ⟨fun _ different => ⟨others_erase different rfl, fun spent => (unspent spent).elim⟩,
      accounted_puts has.accounted held, holds_erase has released apart rfl⟩
  · rename_i down
    exact ⟨fun _ different => ⟨others_erase different rfl, fun spent => (unspent spent).elim⟩,
      accounted_drops has.accounted held (Bool.eq_false_iff.mpr down),
      holds_erase has released apart rfl⟩

theorem does_send (request : Request) :
    Does config task (Has config task clients) (send client request)
      (fun _ => Has config task clients) (Has config task clients) :=
  closed_has.awaited fun _ => closed_has.ofExcept _

theorem does_addMetadata (keyId : String) (metadata : List (String × String)) :
    Does config task (Has config task clients) (addMetadata config task keyId metadata)
      (fun _ => Has config task clients) (Has config task clients) := by
  refine Triple.bind (does_acquire .creating) fun second => ?_
  rintro g ⟨has, apart⟩
  exact Triple.finallyDo (does_send _) (fun _ => does_release rfl apart)
    (fun _ => does_release rfl apart) g has

theorem does_withClient {α : Type} {replace : KMIPExn → KMIPExn} {use : Nat → Task α}
    (uses : ∀ client, Does config task (Has config task [client]) (use client)
      (fun _ => Has config task [client]) (Has config task [client])) :
    Does config task (Has config task []) (withClient config task phase replace use)
      (fun _ => Has config task []) (Has config task []) := by
  refine Triple.bind (does_acquire .idle) fun client => ?_
  rintro g ⟨has, apart⟩
  exact Triple.finallyDo (Triple.tryCatch (uses client) fun _ => closed_has.throw _)
    (fun _ => does_release rfl apart) (fun _ => does_release rfl apart) g has

theorem does_operation (operation : Operation) :
    Does config task (Has config task []) (operation.run config task)
      (fun _ => Has config task []) (Has config task []) := by
  have closed : Closed fun {_} (x : Task _) => Does config task (Has config task []) x
    (fun _ => Has config task []) (Has config task []) := closed_has
  cases operation with
  | generateSymmetricKey algorithm length usageMask metadata =>
    refine closed.bind (does_withClient fun client => ?_) fun _ => closed.pure _
    refine closed_has.bind (does_send _) fun keyId =>
      Triple.ite (fun _ => closed_has.pure _) fun _ => ?_
    exact closed_has.bind (does_addMetadata keyId _) fun _ => closed_has.pure _
  | registerExistingKey material algorithm usageMask =>
    refine closed.bind (does_withClient fun client => ?_) fun _ => closed.pure _
    exact closed_has.called fun made => closed_has.bind (closed_has.ofExcept made) fun _ => does_send _
  | encryptData keyId plaintext iv =>
    exact closed.bind (does_withClient fun client => does_send _) fun _ => closed.pure _
  | decryptData keyId ciphertext iv =>
    exact closed.bind (does_withClient fun client => does_send _) fun _ => closed.pure _
  | rotateKey keyId newAlgorithm =>
    exact closed.bind (does_withClient fun client => does_send _) fun _ => closed.pure _

theorem does_connectionLost (client : Nat) :
    Does config task (Has config task []) (connectionLost client) (fun _ => Has config task [])
      (Has config task []) := by
  intro g has
  refine ⟨fun _ _ => ⟨fun _ => Iff.rfl, fun spent => ⟨spent.queue, spent.held⟩⟩, ?_, has.holds⟩
  refine accounted_of_perm has.accounted (.refl _) fun c down => ?_
  rw [Function.update_apply]
  split
  · rfl
  · exact down

theorem keeps_event {x : Task Unit} (event : IsEvent config task x) :
    Keeps (keeping config) task x := by
  intro g accounted idle
  have ends : Does config task (Has config task []) x (fun _ => Has config task [])
      (Has config task []) := by
    rcases event with ⟨operation, rfl⟩ | ⟨client, rfl⟩
    · exact does_operation operation
    · exact does_connectionLost client
  exact wp_mono (ends g ⟨accounted, idle⟩) (fun _ _ has => ⟨has.accounted, has.holds⟩)
    fun _ _ has => ⟨has.accounted, has.holds⟩

def Reaches (config : KMIPConfig) (c : Config KMIPConnectionPool Answer KMIPExn Unit) : Prop :=
  Reachable (served config) (IsEvent config) (.init config) c

theorem reaches_kept {c : Config KMIPConnectionPool Answer KMIPExn Unit}
    (reached : Reaches config c) : Kept (keeping config) c := by
  apply reachable_kept (fun _ _ event => keeps_event event) ?_ ?_ reached
  · constructor
    · simpa [KMIPConnectionPool.init] using List.nodup_range
    · simp [KMIPConnectionPool.init]
    · intro client small absent
      simp [KMIPConnectionPool.init, small] at absent
  · intro task client
    simp [KMIPConnectionPool.init]

/-- No connection is ever with two calls or twice in the pool, none is missing that has not
gone down, a call that is over has none, and one that comes back finds room. -/
theorem connections_accounted (config : KMIPConfig)
    (c : Config KMIPConnectionPool Answer KMIPExn Unit) (reached : Reaches config c) :
    Accounted config c.shared ∧
      (∀ task, c.tasks task = none → ∀ client, (task, client) ∉ c.shared.held) ∧
      (c.shared.held ≠ [] → ¬ c.shared.Full config) := by
  have kept := reaches_kept reached
  refine ⟨kept.inv, fun task ended client held => ?_, fun some => ?_⟩
  · exact List.not_mem_nil ((kept.idle task ended client).mp held)
  · obtain ⟨⟨task, client⟩, member⟩ := List.exists_mem_of_ne_nil _ some
    exact kept.inv.not_full member

/-- A pool that has lost all its connections never gives one to a call again. -/
theorem spent_stays (config : KMIPConfig) (c d : Config KMIPConnectionPool Answer KMIPExn Unit)
    (reached : Reaches config c) (spent : Spent c.shared)
    (later : Relation.ReflTransGen (Step (served config) (IsEvent config)) c d) :
    Spent d.shared :=
  kept_stays (fun _ _ event => keeps_event event) (fun _ _ _ leaves => leaves.spent)
    (reaches_kept reached) spent later

section Instance

def encryption : Operation := .encryptData "key-1" [1, 2, 3] none

theorem reaches_spent : ∃ c : Config KMIPConnectionPool Answer KMIPExn Unit,
    Reaches (connections 1) c ∧ Spent c.shared ∧ c.tasks 0 = none := by
  have idle : Reaches (connections 1) (.init (.init (connections 1))) := .refl
  have sent := idle.spawn 0 (x := encryption.run (connections 1) 0) serverAnswer rfl
    (.inl ⟨encryption, rfl⟩)
  have lost := sent.spawn 1 (x := connectionLost 0) serverAnswer rfl (.inr ⟨0, rfl⟩)
  have answered := lost.resume 0 (.send 0 (.encrypt [1, 2, 3] "key-1" none "AES" "GCM"))
    (.ok []) serverAnswer rfl trivial
  exact ⟨_, answered, ⟨rfl, rfl⟩, rfl⟩

theorem spent_accounted : ∃ c : Config KMIPConnectionPool Answer KMIPExn Unit,
    Spent c.shared ∧ Accounted (connections 1) c.shared := by
  obtain ⟨c, reached, spent, _⟩ := reaches_spent
  exact ⟨c, spent, (connections_accounted (connections 1) c reached).1⟩

theorem spent_call : ∃ c d : Config KMIPConnectionPool Answer KMIPExn Unit,
    Step (served (connections 1)) (IsEvent (connections 1)) c d ∧ Spent d.shared := by
  obtain ⟨c, reached, spent, ended⟩ := reaches_spent
  have next : Step (served (connections 1)) (IsEvent (connections 1)) c _ :=
    .spawn serverAnswer ended (.inl ⟨encryption, rfl⟩)
  exact ⟨c, _, next, spent_stays (connections 1) c _ reached spent (.single next)⟩

end Instance

end KuvaAI.Kmip.Losses
