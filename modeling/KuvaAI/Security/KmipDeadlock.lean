import KuvaAI.Lib.StepGuarantee
import KuvaAI.Security.Kmip
import Mathlib.Data.List.Nodup
import Mathlib.Data.List.Perm.Basic

/-! Whether the calls of a KMIP client can come to wait for each other: a connection is
held by a call that waits for another one only while metadata is added to a key. -/
namespace KuvaAI.Kmip
open Coroutine

variable {config : KMIPConfig} {g : KMIPConnectionPool} {task client : Nat} {phase : Phase}

namespace KMIPConnectionPool

/-- Each connection is in the queue or with one call, and all are up. -/
structure Sound (config : KMIPConfig) (g : KMIPConnectionPool) : Prop where
  stock : (g.queue ++ g.held.map Prod.snd).Perm (List.range config.maxConnections)
  up : ∀ client, g.connected client = true

def Spare (g : KMIPConnectionPool) : Prop :=
  g.queue = [] → ∃ p ∈ g.held, g.phases p.1 ≠ .blocked

def SpareBeside (g : KMIPConnectionPool) (task : Nat) : Prop :=
  g.queue = [] → ∃ p ∈ g.held, p.1 ≠ task ∧ g.phases p.1 ≠ .blocked

structure Stands (g : KMIPConnectionPool) (task : Nat) (phase : Phase) (clients : List Nat) : Prop where
  phase : g.phases task = phase
  held : ∀ client, (task, client) ∈ g.held ↔ client ∈ clients

@[simp] theorem phases_moves (other : Nat) :
    (g.moves task phase).phases other = if other = task then phase else g.phases other :=
  Function.update_apply g.phases task phase other

@[simp] theorem phases_takes (other : Nat) :
    (g.takes task phase client).phases other = if other = task then phase else g.phases other :=
  Function.update_apply g.phases task phase other

@[simp] theorem phases_puts (other : Nat) :
    (g.puts task phase client).phases other = if other = task then phase else g.phases other :=
  Function.update_apply g.phases task phase other

namespace Sound

variable (sound : g.Sound config)

include sound

theorem distinct : (g.queue ++ g.held.map Prod.snd).Nodup :=
  sound.stock.nodup_iff.mpr List.nodup_range

theorem held_nodup : g.held.Nodup :=
  (sound.distinct.of_append_right).of_map

theorem not_full (held : (task, client) ∈ g.held) : ¬ g.Full config := by
  have counted := sound.stock.length_eq
  have some : 0 < g.held.length := List.length_pos_of_mem held
  simp only [List.length_append, List.length_map, List.length_range] at counted
  unfold Full
  omega

theorem takes {rest : List Nat} (first : g.queue = client :: rest) :
    (g.takes task phase client).Sound config where
  stock := by
    refine .trans ?_ sound.stock
    change (g.queue.tail ++ (g.held ++ [(task, client)]).map Prod.snd).Perm _
    rw [first, List.map_append, ← List.append_assoc]
    exact List.perm_append_singleton client _
  up := sound.up

theorem puts (held : (task, client) ∈ g.held) : (g.puts task phase client).Sound config where
  stock := by
    refine .trans ?_ sound.stock
    have back := (List.perm_cons_erase held).map Prod.snd
    change (g.queue ++ [client] ++ (g.held.erase (task, client)).map Prod.snd).Perm _
    rw [List.append_assoc]
    exact back.symm.append_left g.queue
  up := sound.up

theorem moves : (g.moves task phase).Sound config := ⟨sound.stock, sound.up⟩

end Sound

theorem Spare.takes (working : phase ≠ .blocked) : (g.takes task phase client).Spare := by
  refine fun _ => ⟨(task, client), List.mem_append_right _ List.mem_cons_self, ?_⟩
  simpa using working

theorem Spare.puts : (g.puts task phase client).Spare := by
  intro empty
  exact absurd empty (List.append_ne_nil_of_right_ne_nil _ (List.cons_ne_nil client []))

theorem Spare.moves (spare : g.Spare) (working : phase ≠ .blocked) : (g.moves task phase).Spare := by
  intro empty
  obtain ⟨p, member, goes⟩ := spare empty
  refine ⟨p, member, ?_⟩
  rw [phases_moves]
  split
  · exact working
  · exact goes

theorem SpareBeside.blocks (spare : g.SpareBeside task) : (g.moves task .blocked).Spare := by
  intro empty
  obtain ⟨p, member, other, goes⟩ := spare empty
  refine ⟨p, member, ?_⟩
  rw [phases_moves, if_neg other]
  exact goes

theorem Spare.beside (spare : g.Spare) (stands : g.Stands task phase []) : g.SpareBeside task := by
  intro empty
  obtain ⟨⟨other, client⟩, member, goes⟩ := spare empty
  refine ⟨(other, client), member, ?_, goes⟩
  rintro rfl
  exact List.not_mem_nil ((stands.held client).mp member)

structure Alike (task : Nat) (g h : KMIPConnectionPool) : Prop where
  phase : h.phases task = g.phases task
  held : ∀ client, (task, client) ∈ h.held ↔ (task, client) ∈ g.held

theorem Stands.of_alike {h : KMIPConnectionPool} {clients : List Nat} (stands : g.Stands task phase clients)
    (alike : Alike task g h) : h.Stands task phase clients :=
  ⟨alike.phase.trans stands.phase, fun client => (alike.held client).trans (stands.held client)⟩

section Changes

variable {other : Nat} (different : other ≠ task)

include different

theorem alike_moves : Alike other g (g.moves task phase) where
  phase := by simp [different]
  held _ := Iff.rfl

theorem alike_takes : Alike other g (g.takes task phase client) where
  phase := by simp [different]
  held client' := by
    change (other, client') ∈ g.held ++ [(task, client)] ↔ _
    simp [different]

theorem alike_puts : Alike other g (g.puts task phase client) where
  phase := by simp [different]
  held client' := List.mem_erase_of_ne fun same => different (congrArg Prod.fst same)

end Changes

namespace Stands

variable {before : Phase} {clients : List Nat} (stands : g.Stands task before clients)

include stands

theorem moves : (g.moves task phase).Stands task phase clients := ⟨by simp, stands.held⟩

theorem takes : (g.takes task phase client).Stands task phase (client :: clients) where
  phase := by simp
  held client' := by
    change (task, client') ∈ g.held ++ [(task, client)] ↔ _
    simp [stands.held, or_comm]

theorem puts (sound : g.Sound config) {rest : List Nat} (released : clients = client :: rest)
    (apart : client ∉ rest) : (g.puts task phase client).Stands task phase rest where
  phase := by simp
  held client' := by
    refine sound.held_nodup.mem_erase_iff.trans ?_
    rw [stands.held, released]
    grind

end Stands

end KMIPConnectionPool

def served (config : KMIPConfig) (_ : Nat) : (call : Call) → Answer call → KMIPConnectionPool → Prop
  | .pause .getter, .woken, g => g.queue ≠ []
  | .pause .putter, .woken, g => ¬ g.Full config
  | _, _, _ => True

/-- Whenever a key is made that metadata is to be added to, a connection is free, or
another call that goes on has one. -/
def sparing (config : KMIPConfig) (task : Nat) :
    (call : Call) → Answer call → KMIPConnectionPool → Prop
  | .send _ (.create ..), .ok _, g => g.phases task = .creating → g.SpareBeside task
  | call, answer, g => served config task call answer g

section Discipline

open KMIPConnectionPool

structure Flows (config : KMIPConfig) (g : KMIPConnectionPool) : Prop where
  sound : g.Sound config
  spare : g.Spare

def flowing (config : KMIPConfig) : Discipline KMIPConnectionPool Answer where
  allowed := sparing config
  inv := Flows config
  rely := Alike
  idle task g := g.Stands task .idle []
  rely_refl _ _ := ⟨rfl, fun _ => Iff.rfl⟩
  rely_trans _ _ _ _ first second :=
    ⟨second.phase.trans first.phase, fun client => (second.held client).trans (first.held client)⟩
  idle_stable _ _ _ alike idle := idle.of_alike alike

structure Has (config : KMIPConfig) (task : Nat) (phase : Phase) (clients : List Nat)
    (g : KMIPConnectionPool) : Prop where
  flows : Flows config g
  stands : g.Stands task phase clients

abbrev Does {α : Type} (config : KMIPConfig) (task : Nat) (pre : KMIPConnectionPool → Prop) (x : Task α)
    (post : α → KMIPConnectionPool → Prop) (failed : KMIPConnectionPool → Prop) : Prop :=
  Triple (flowing config) task pre x post fun _ => failed

variable {before : Phase} {clients : List Nat} {Q : KMIPConnectionPool → Prop}

theorem closed_has : Closed fun {_} (x : Task _) =>
    Does config task (Has config task phase clients) x (fun _ => Has config task phase clients)
      (Has config task phase clients) :=
  Triple.closed (fun _ has => has.flows) fun _ _ has alike flows => ⟨flows, has.stands.of_alike alike⟩

theorem Has.moves (has : Has config task before clients g) (working : phase ≠ .blocked) :
    Has config task phase clients (g.moves task phase) :=
  ⟨⟨has.flows.sound.moves, has.flows.spare.moves working⟩, has.stands.moves⟩

theorem does_puts {rest : List Nat} (released : clients = client :: rest) (apart : client ∉ rest) :
    Does config task (Has config task before clients)
      (modify fun g => g.puts task phase client : Task PUnit) (fun _ => Has config task phase rest) Q := by
  intro g has
  have held : (task, client) ∈ g.held := (has.stands.held client).mpr (released ▸ List.mem_cons_self)
  exact ⟨fun _ other => alike_puts other,
    ⟨⟨has.flows.sound.puts held, Spare.puts⟩, has.stands.puts has.flows.sound released apart⟩⟩

def Gains (config : KMIPConfig) (task : Nat) (phase : Phase) (clients : List Nat) (client : Nat)
    (g : KMIPConnectionPool) : Prop :=
  Has config task phase (client :: clients) g ∧ client ∉ clients

theorem wp_getNowait {exn : KMIPExn → KMIPConnectionPool → Prop} (working : phase ≠ .blocked)
    (has : Has config task before clients g) (stocked : g.queue ≠ []) :
    wp (flowing config) task (Gains config task phase clients) exn (getNowait task phase) g := by
  rw [getNowait, wp_bind, wp_get]
  cases first : g.queue with
  | nil => exact absurd first stocked
  | cons client rest =>
    have fresh : client ∉ clients := by
      intro member
      have held := List.mem_map_of_mem (f := Prod.snd) ((has.stands.held client).mpr member)
      have apart := List.nodup_append.mp has.flows.sound.distinct
      exact apart.2.2 client (first ▸ List.mem_cons_self) client held rfl
    refine wp_modify_bind (fun _ other => alike_takes other) ⟨⟨⟨?_, ?_⟩, ?_⟩, fresh⟩
    · exact has.flows.sound.takes first
    · exact Spare.takes working
    · exact has.stands.takes

theorem wp_pauseFor {pause : Pause} {post : Unit → KMIPConnectionPool → Prop}
    {exn : KMIPExn → KMIPConnectionPool → Prop} (has : Has config task phase clients g)
    (woken : ∀ h, Has config task phase clients h → served config task (.pause pause) .woken h → post () h)
    (cancelled : ∀ h, Has config task phase clients h → exn .cancelled h) :
    wp (flowing config) task post exn (pauseFor pause) g := by
  refine And.intro has.flows fun (wake : Wake) h alike flows answered => ?_
  have later : Has config task phase clients h := ⟨flows, has.stands.of_alike alike⟩
  cases wake with
  | woken => exact woken h later answered
  | cancelled => exact cancelled h later

theorem spec_queueGet (goes : before ≠ .blocked) (working : phase ≠ .blocked) :
    Triple (flowing config) task (fun g => Has config task before clients g ∧ g.SpareBeside task)
      (queueGet task before phase) (Gains config task phase clients)
      fun e g => e = .cancelled ∧ Has config task before clients g := by
  rintro g ⟨has, spare⟩
  rw [queueGet, wp_bind, wp_get]
  split
  · refine wp_modify_bind (fun _ other => alike_moves other) ?_
    have waits : Has config task .blocked clients (g.moves task .blocked) :=
      ⟨⟨has.flows.sound.moves, spare.blocks⟩, has.stands.moves⟩
    rw [wp_bind, wp_tryCatch]
    refine wp_pauseFor waits (fun h woken stocked => wp_getNowait working woken stocked) fun h woken => ?_
    exact wp_modify_bind (fun _ other => alike_moves other) ⟨rfl, woken.moves goes⟩
  · exact wp_getNowait working has ‹_›

theorem spec_acquire (goes : before ≠ .blocked) (working : phase ≠ .blocked) :
    Does config task (fun g => Has config task before clients g ∧ g.SpareBeside task)
      (acquire config task before phase) (Gains config task phase clients)
      (Has config task before clients) := by
  rw [acquire]
  cases config.maxAttempts with
  | zero => exact fun _ ready => ready.1
  | succ attempts =>
    refine Triple.tryCatch (spec_queueGet goes working) fun e => ?_
    rintro h ⟨rfl, has⟩
    exact has

theorem spec_release {rest : List Nat} (released : clients = client :: rest) (apart : client ∉ rest) :
    Does config task (Has config task before clients) (release config task phase client)
      (fun _ => Has config task phase rest) Q := by
  intro g has
  have held : (task, client) ∈ g.held := (has.stands.held client).mpr (released ▸ List.mem_cons_self)
  rw [release, wp_bind, wp_get, if_pos (has.flows.sound.up client), queuePut, wp_bind, wp_get,
    if_neg (has.flows.sound.not_full held)]
  exact does_puts released apart g has

theorem does_send (request : Request) :
    Does config task (Has config task phase clients) (send client request)
      (fun _ => Has config task phase clients) (Has config task phase clients) :=
  closed_has.awaited fun _ => closed_has.ofExcept _

theorem does_create {objectType algorithm policy : String} {length : Int} {usageMask : List EnumName} :
    Does config task (Has config task .creating clients)
      (send client (.create objectType algorithm length usageMask policy))
      (fun _ g => Has config task .creating clients g ∧ g.SpareBeside task)
      (Has config task .creating clients) := by
  intro g has
  refine And.intro has.flows fun (reply : Except KMIPExn String) h alike flows answered => ?_
  have later : Has config task .creating clients h := ⟨flows, has.stands.of_alike alike⟩
  cases reply with
  | ok keyId => exact ⟨later, answered later.stands.phase⟩
  | error e => exact later

theorem does_addMetadata (keyId : String) (metadata : List (String × String)) :
    Does config task (fun g => Has config task .creating [client] g ∧ g.SpareBeside task)
      (addMetadata config task keyId metadata) (fun _ => Has config task .working [client])
      fun g => Has config task .creating [client] g ∨ Has config task .working [client] g := by
  refine Triple.bind ((spec_acquire (by decide) (by decide)).conseq (fun _ ready => ready)
    (fun _ _ gained => gained) fun _ _ failed => .inl failed) fun second => ?_
  rintro g ⟨has, apart⟩
  refine Triple.finallyDo (does_send _) (fun _ => spec_release rfl apart) (fun _ => ?_) g has
  exact (spec_release (Q := fun _ => False) rfl apart).conseq (fun _ has => has)
    (fun _ _ released => .inr released) fun _ _ never => never.elim

theorem does_withClient {α : Type} {replace : KMIPExn → KMIPExn} {use : Nat → Task α}
    (working : phase ≠ .blocked) (runs : ∀ client, Does config task (Has config task phase [client])
      (use client) (fun _ g => ∃ after, Has config task after [client] g)
      fun g => ∃ after, Has config task after [client] g) :
    Does config task (Has config task .idle []) (withClient config task phase replace use)
      (fun _ => Has config task .idle []) (Has config task .idle []) := by
  refine Triple.bind ((spec_acquire (by decide) working).conseq
    (fun _ has => ⟨has, has.flows.spare.beside has.stands⟩) (fun _ _ gained => gained)
    fun _ _ failed => failed) fun client => ?_
  have released : ∀ {Q}, Does config task (fun g => ∃ after, Has config task after [client] g)
      (release config task .idle client) (fun _ => Has config task .idle []) Q := by
    rintro Q g ⟨after, has⟩
    exact spec_release rfl List.not_mem_nil g has
  rintro g ⟨has, _⟩
  refine Triple.finallyDo (Triple.tryCatch (runs client) fun e => ?_) (fun _ => released)
    (fun _ => released) g has
  exact fun _ failed => failed

theorem does_use {α : Type} {x : Task α} (uses : Does config task (Has config task .working [client]) x
      (fun _ => Has config task .working [client]) (Has config task .working [client])) :
    Does config task (Has config task .working [client]) x
      (fun _ g => ∃ after, Has config task after [client] g)
      fun g => ∃ after, Has config task after [client] g :=
  uses.conseq (fun _ has => has) (fun _ _ has => ⟨_, has⟩) fun _ _ has => ⟨_, has⟩

theorem does_generateSymmetricKey (algorithm : EnumName) (length : Int) (usageMask : List EnumName)
    (metadata : Option (List (String × String))) :
    Does config task (Has config task .idle [])
      (generateSymmetricKey config task algorithm length usageMask metadata)
      (fun _ => Has config task .idle []) (Has config task .idle []) := by
  rw [generateSymmetricKey]
  by_cases plain : metadata.getD [] = []
  · simp only [plain, if_true]
    exact does_withClient (by decide) fun client => (does_use (does_send _)).bind fun _ _ has => has
  · simp only [plain, if_false]
    refine does_withClient (by decide) fun client => ?_
    refine Triple.bind (does_create.conseq (fun _ has => has) (fun _ _ has => has)
      fun _ _ has => ⟨_, has⟩) fun keyId => ?_
    refine Triple.bind ((does_addMetadata keyId _).conseq (fun _ has => has) (fun _ _ has => has) ?_)
      fun _ _ has => ⟨_, has⟩
    rintro _ h (has | has)
    · exact ⟨_, has⟩
    · exact ⟨_, has⟩

theorem does_operation (operation : Operation) :
    Does config task (Has config task .idle []) (operation.run config task)
      (fun _ => Has config task .idle []) (Has config task .idle []) := by
  have closed : Closed fun {_} (x : Task _) => Does config task (Has config task .idle []) x
    (fun _ => Has config task .idle []) (Has config task .idle []) := closed_has
  cases operation with
  | generateSymmetricKey algorithm length usageMask metadata =>
    exact closed.bind (does_generateSymmetricKey algorithm length usageMask metadata) fun _ => closed.pure _
  | registerExistingKey material algorithm usageMask =>
    refine closed.bind (does_withClient (by decide) fun client => does_use ?_) fun _ => closed.pure _
    exact closed_has.called fun made => closed_has.bind (closed_has.ofExcept made) fun _ => does_send _
  | encryptData keyId plaintext iv =>
    exact closed.bind (does_withClient (by decide) fun client => does_use (does_send _)) fun _ =>
      closed.pure _
  | decryptData keyId ciphertext iv =>
    exact closed.bind (does_withClient (by decide) fun client => does_use (does_send _)) fun _ =>
      closed.pure _
  | rotateKey keyId newAlgorithm =>
    exact closed.bind (does_withClient (by decide) fun client => does_use (does_send _)) fun _ =>
      closed.pure _

end Discipline

def IsOperation (config : KMIPConfig) (task : Nat) (x : Task Unit) : Prop :=
  ∃ operation : Operation, x = operation.run config task

def Reaches (config : KMIPConfig) (c : Config KMIPConnectionPool Answer KMIPExn Unit) : Prop :=
  Reachable (served config) (IsOperation config) (.init config) c

/-- All calls wait in `acquire`, nothing is in the queue, and only waiting calls have
connections. -/
structure Deadlock (c : Config KMIPConnectionPool Answer KMIPExn Unit) : Prop where
  pending : ∃ task x, c.tasks task = some x
  empty : c.shared.queue = []
  blocked : ∀ task x, c.tasks task = some x → c.shared.phases task = .blocked
  holders : ∀ task client, (task, client) ∈ c.shared.held → c.shared.phases task = .blocked

theorem flows_init (some : 0 < config.maxConnections) : Flows config (.init config) where
  sound := ⟨by simp [KMIPConnectionPool.init], fun _ => rfl⟩
  spare empty := by
    have none : config.maxConnections = 0 := by simpa [KMIPConnectionPool.init] using empty
    omega

/-- A run in which a connection is there whenever a key needs one for its metadata comes
to no deadlock. -/
theorem no_deadlock (some : 0 < config.maxConnections)
    {c : Config KMIPConnectionPool Answer KMIPExn Unit}
    (reached : Reachable (sparing config) (IsOperation config) (.init config) c) : ¬ Deadlock c := by
  intro deadlock
  have runs : ∀ task x, IsOperation config task x → Does config task (Has config task .idle []) x
      (fun _ => Has config task .idle []) (Has config task .idle []) := by
    rintro task x ⟨operation, rfl⟩
    exact does_operation operation
  have idle : ∀ task, (KMIPConnectionPool.init config).Stands task .idle [] :=
    fun _ => ⟨rfl, fun _ => by simp [KMIPConnectionPool.init]⟩
  have flows := reachable_inv (D := flowing config) runs (fun _ _ flows idle => ⟨flows, idle⟩)
    (fun _ _ has => ⟨has.flows, has.stands⟩) (flows_init some) idle reached
  obtain ⟨⟨task, client⟩, member, goes⟩ := flows.spare deadlock.empty
  exact goes (deadlock.holders task client member)

section Instance

def serverAnswer (_ : Nat) : (call : Call) → Answer call
  | .pause _ => Wake.woken
  | .send _ request => match request with
    | .create .. | .register _ | .rekey .. => Except.ok "key-1"
    | .encrypt .. | .decrypt .. => Except.ok ([] : List UInt8)
    | .setAttribute .. => Except.ok ()
  | .symmetricKey _ => Except.ok ()

def connections (n : Nat) : KMIPConfig := ⟨n, 3⟩

def keyWithPurpose : Operation :=
  .generateSymmetricKey "AES" 256 ["ENCRYPT", "DECRYPT"] (some [("purpose", "data-at-rest")])

def creating (n : Nat) : Config KMIPConnectionPool Answer KMIPExn Unit :=
  (Config.init (.init (connections n))).put 0
    (advance (keyWithPurpose.run (connections n) 0) serverAnswer 0 (.init (connections n)))

theorem reaches_creating (n : Nat) (allowed : Nat → (call : Call) → Answer call → KMIPConnectionPool → Prop) :
    Reachable allowed (IsOperation (connections n)) (.init (connections n)) (creating n) := by
  have idle : Reachable allowed (IsOperation (connections n)) (.init (connections n))
    (.init (.init (connections n))) := .refl
  exact idle.spawn 0 serverAnswer rfl ⟨keyWithPurpose, rfl⟩

/-- The only connection is with a call that waits for another one. -/
theorem key_waits_for_itself : ∃ c, Reaches (connections 1) c ∧ Deadlock c := by
  have made := (reaches_creating 1 (served (connections 1))).resume 0
    (.send 0 (.create "SYMMETRIC_KEY" "AES" 256 ["ENCRYPT", "DECRYPT"] "kuva-policy"))
    (.ok "key-1") serverAnswer rfl trivial
  refine ⟨_, made, ⟨0, _, rfl⟩, rfl, ?_, ?_⟩
  · rintro (_ | task) x present
    · rfl
    · cases present
  · intro task client member
    cases List.mem_singleton.mp member
    rfl

theorem key_gets_both_connections : ∃ c,
    Reachable (sparing (connections 2)) (IsOperation (connections 2)) (.init (connections 2)) c ∧
      c.shared.held = [(0, 0), (0, 1)] ∧ ¬ Deadlock c := by
  have made := (reaches_creating 2 (sparing (connections 2))).resume 0
    (.send 0 (.create "SYMMETRIC_KEY" "AES" 256 ["ENCRYPT", "DECRYPT"] "kuva-policy"))
    (.ok "key-1") serverAnswer rfl (fun _ empty => nomatch empty)
  exact ⟨_, made, rfl, no_deadlock Nat.two_pos made⟩

end Instance

end KuvaAI.Kmip
