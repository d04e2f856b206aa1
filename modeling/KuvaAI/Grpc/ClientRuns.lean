import KuvaAI.Grpc.ClientSteps

/-! The channels of a pool over every interleaving of its tasks. -/
namespace KuvaAI.GrpcClient
open Python Coroutine

def served (_ : Nat) : (call : Call) → Answer call → ClientPool → Prop
  | .acquirePermit, .ok (), g => 0 < g.permits
  | _, _, _ => True

def Reaches (config : ClientConfig) (c : Config ClientPool Answer Interrupt Unit) : Prop :=
  Reachable served (fun task x => ∃ operation : Operation, x = operation.run config task) (.init config) c

section Discipline

def custody (config : ClientConfig) : Discipline ClientPool Answer where
  allowed := served
  inv g := g.Sound config
  rely task g h := h.hands task = g.hands task
  idle task g := g.hands task = none
  rely_refl := (keeping served (ClientPool.Sound config)).rely_refl
  rely_trans := (keeping served (ClientPool.Sound config)).rely_trans
  idle_stable := (keeping served (ClientPool.Sound config)).idle_stable

variable {α : Type}

structure Has (config : ClientConfig) (task : Nat) (hand : Option (Purpose × Nat)) (g : ClientPool) :
    Prop where
  sound : g.Sound config
  hands : g.hands task = hand

abbrev Does (config : ClientConfig) (task : Nat) (pre : ClientPool → Prop) (x : Task α)
    (post : α → ClientPool → Prop) (failed : ClientPool → Prop) : Prop :=
  Triple (custody config) task pre x post fun _ => failed

abbrev Steady (config : ClientConfig) (task : Nat) (hand : Option (Purpose × Nat)) (x : Task α) : Prop :=
  Does config task (Has config task hand) x (fun _ => Has config task hand) (Has config task hand)

end Discipline

section Tasks

variable {config : ClientConfig} {task : Nat}

theorem upholds_sound (config : ClientConfig) :
    Upholds config served (ClientPool.Sound config) fun _ _ => True where
  sound _ sound := sound
  books _ _ _ _ sound := ⟨sound.ledger, sound.keyed⟩
  setHealth _ _ _ sound := ⟨sound.ledger, sound.keyed⟩
  probed _ _ _ _ _ _ := trivial
  create _ _ _ sound idle := sound.create idle
  popleft _ _ _ _ _ _ sound found first idle := ⟨sound.popleft found first idle, trivial⟩
  handOut _ _ _ sound held healthy _ := sound.handOut held healthy
  forget _ _ _ _ sound held lapse := sound.forget lapse held
  close _ _ _ _ sound held := sound.close held
  append _ _ _ _ _ _ sound found held _ := sound.append found held
  giveBack _ _ _ sound member idle := sound.giveBack member idle
  keep _ _ _ sound held := sound.keep held
  evict _ _ _ sound found := sound.evict found
  drain _ _ _ sound found := sound.drain found

theorem steady_operation (operation : Operation) :
    Steady config task none (operation.run config task) :=
  (maintains_operation (upholds_sound config) operation).conseq (fun _ has => ⟨has.sound, has.hands⟩)
    (fun _ _ ended => ⟨ended.inv, ended.hands⟩) fun _ _ failed => ⟨failed.inv, failed.hands⟩

theorem sound_init (config : ClientConfig) : (ClientPool.init config).Sound config := by
  have pooled : (ClientPool.init config).pooled = [] := Dict.collect_fill rfl rfl _
  refine ⟨?_, fun endpoint => (Dict.mem_keys_fill _ _ _ _).trans (or_iff_left List.not_mem_nil)⟩
  rw [ClientPool.resting, pooled]
  exact ledger_nothing

theorem sound_reached {c : Config ClientPool Answer Interrupt Unit} (reached : Reaches config c) :
    c.shared.Sound config := by
  refine reachable_inv (D := custody config) (P := fun task => Has config task none) ?_
    (fun _ _ sound idle => ⟨sound, idle⟩) (fun _ _ has => ⟨has.sound, has.hands⟩) (sound_init config)
    (fun _ => rfl) reached
  rintro task x ⟨operation, rfl⟩
  exact steady_operation operation

end Tasks

section Examples

def endpointAnswer (_ : Nat) : (call : Call) → Answer call
  | .choice => (0 : Nat)
  | .acquirePermit => .ok ()
  | .createChannel _ => .ok ()
  | .check _ => .ok .serving
  | .service _ => .ok ()
  | .sleep => .ok ()
  | .gather => .ok ()
  | .joinHealthTask => .ok ()

def oneEndpoint : ClientConfig := ⟨["edge-1:443"], 1, 1, 1, "round_robin"⟩

def acquiring : Config ClientPool Answer Interrupt Unit :=
  (Config.init (.init oneEndpoint)).put 0
    (advance (Operation.acquire.run oneEndpoint 0) endpointAnswer 0 (.init oneEndpoint))

theorem reaches_acquiring : Reaches oneEndpoint acquiring := by
  have idle : Reaches oneEndpoint (.init (.init oneEndpoint)) := .refl
  exact idle.spawn 0 endpointAnswer rfl ⟨.acquire, rfl⟩

end Examples

def ClientPool.Returns (g : ClientPool) (task channel : Nat) : Prop :=
  g.hands task = some (.returning, channel)

def ClientPool.Probes (g : ClientPool) (task channel : Nat) : Prop :=
  g.hands task = some (.opening, channel)

def ClientPool.HeldByCaller (g : ClientPool) (channel : Nat) : Prop :=
  channel ∈ g.held ∨ ∃ task, g.Returns task channel

variable {config : ClientConfig} {c : Config ClientPool Answer Interrupt Unit}

theorem accounted_iff_placed {g : ClientPool} {channel : Nat} :
    ((∀ task, ¬ g.Probes task channel) →
      channel ∈ g.pooled ∨ g.HeldByCaller channel ∨ channel ∈ g.closed) ↔
    Custody.Placed g.resting g.holder channel := by
  rw [Custody.Placed, ClientPool.resting, List.mem_append, List.mem_append]
  constructor
  · intro accounted
    by_cases probed : ∃ task, g.Probes task channel
    · obtain ⟨task, probes⟩ := probed
      exact .inr ⟨task, ClientPool.holder_eq_some probes⟩
    · rcases accounted (not_exists.mp probed) with pooled | (held | ⟨task, returns⟩) | closed
      · exact .inl (.inl pooled)
      · exact .inl (.inr (.inl held))
      · exact .inr ⟨task, ClientPool.holder_eq_some returns⟩
      · exact .inl (.inr (.inr closed))
  · rintro ((pooled | held | closed) | ⟨task, holds⟩) unprobed
    · exact .inl pooled
    · exact .inr (.inl (.inl held))
    · exact .inr (.inr closed)
    · obtain ⟨⟨purpose, _⟩, hand, rfl⟩ := Option.map_eq_some_iff.mp holds
      cases purpose with
      | opening => exact (unprobed task hand).elim
      | returning => exact .inr (.inl (.inr ⟨task, hand⟩))

/-- Every channel is in one deque or with one caller, the pool has closed none of these,
and `acquire` hands out only channels that serve. -/
theorem channels_owned_once (reached : Reaches config c) :
    (c.shared.pooled ++ c.shared.held).Nodup ∧
    (∀ task channel, c.shared.Returns task channel → channel ∉ c.shared.pooled ++ c.shared.held ∧
      ∀ other, c.shared.Returns other channel → other = task) ∧
    (∀ channel, channel ∈ c.shared.pooled ∨ c.shared.HeldByCaller channel →
      channel ∉ c.shared.closed) ∧
    ∀ channel status, .handedOut channel status ∈ c.shared.history → status = .serving := by
  have ledger := (sound_reached reached).ledger
  have distinct := ledger.exclusive.distinct
  have apart : ∀ task channel, c.shared.Returns task channel → channel ∉ c.shared.resting :=
    fun task channel returns => ledger.exclusive.apart task channel (ClientPool.holder_eq_some returns)
  rw [ClientPool.resting, ← List.append_assoc] at distinct apart
  obtain ⟨owned, _, unclosed⟩ := List.nodup_append.mp distinct
  refine ⟨owned, fun task channel returns => ⟨fun member => ?_, fun other holds => ?_⟩, ?_, ledger.serving⟩
  · exact apart task channel returns (List.mem_append_left _ member)
  · exact ledger.exclusive.single other task channel (ClientPool.holder_eq_some holds)
      (ClientPool.holder_eq_some returns)
  · rintro channel (pooled | held | ⟨task, returns⟩) closed
    · exact unclosed channel (List.mem_append_left _ pooled) channel closed rfl
    · exact unclosed channel (List.mem_append_right _ held) channel closed rfl
    · exact apart task channel returns (List.mem_append_right _ closed)

theorem one_channel_owned : ∃ c, Reaches oneEndpoint c ∧ c.shared.held = [0] ∧
    (c.shared.pooled ++ c.shared.held).Nodup ∧
    (∀ task channel, c.shared.Returns task channel → channel ∉ c.shared.pooled ++ c.shared.held ∧
      ∀ other, c.shared.Returns other channel → other = task) ∧
    (∀ channel, channel ∈ c.shared.pooled ∨ c.shared.HeldByCaller channel →
      channel ∉ c.shared.closed) ∧
    ∀ channel status, .handedOut channel status ∈ c.shared.history → status = .serving := by
  have probing := reaches_acquiring.resume 0 .acquirePermit (.ok ()) endpointAnswer rfl Nat.one_pos
  have acquired := probing.resume 0 (.check 0) (.ok .serving) endpointAnswer rfl trivial
  exact ⟨_, acquired, rfl, channels_owned_once acquired⟩

/-- Every channel that is not being probed is in a pool, with a caller or closed, just
when nothing has happened that the pool does not provide for. -/
theorem channels_accounted_iff (reached : Reaches config c) :
    (∀ channel < c.shared.created, (∀ task, ¬ c.shared.Probes task channel) →
      channel ∈ c.shared.pooled ∨ c.shared.HeldByCaller channel ∨ channel ∈ c.shared.closed) ↔
    ∀ event ∈ c.shared.history, ¬ event.isLapse := by
  rw [← (sound_reached reached).ledger.accounted]
  exact forall_congr' fun channel => imp_congr_right fun _ => accounted_iff_placed

/-- The new channel does not serve, and nobody closes it. -/
theorem unhealthy_channel_lost : ∃ c, Reaches oneEndpoint c ∧
    ¬ ∀ channel < c.shared.created, (∀ task, ¬ c.shared.Probes task channel) →
      channel ∈ c.shared.pooled ∨ c.shared.HeldByCaller channel ∨ channel ∈ c.shared.closed := by
  have probing := reaches_acquiring.resume 0 .acquirePermit (.ok ()) endpointAnswer rfl Nat.one_pos
  have probed := probing.resume 0 (.check 0) (.ok .notServing) endpointAnswer rfl trivial
  refine ⟨_, probed, fun accounted => ?_⟩
  have idle : ∀ task, (Function.update (Function.update (fun _ => none) 0 (some (.opening, 0))) 0 none :
      Nat → Option (Purpose × Nat)) task = none := by simp
  rcases accounted 0 Nat.one_pos fun task probes => nomatch (idle task).symm.trans probes with
    pooled | (held | ⟨task, returns⟩) | closed
  · exact List.not_mem_nil pooled
  · exact List.not_mem_nil held
  · exact nomatch (idle task).symm.trans returns
  · exact List.not_mem_nil closed

theorem one_channel_accounted : ∃ c, Reaches oneEndpoint c ∧
    ((∀ channel < c.shared.created, (∀ task, ¬ c.shared.Probes task channel) →
      channel ∈ c.shared.pooled ∨ c.shared.HeldByCaller channel ∨ channel ∈ c.shared.closed) ↔
    ∀ event ∈ c.shared.history, ¬ event.isLapse) ∧ ∀ event ∈ c.shared.history, ¬ event.isLapse := by
  have probing := reaches_acquiring.resume 0 .acquirePermit (.ok ()) endpointAnswer rfl Nat.one_pos
  have acquired := probing.resume 0 (.check 0) (.ok .serving) endpointAnswer rfl trivial
  refine ⟨_, acquired, channels_accounted_iff acquired, fun event member => ?_⟩
  cases List.mem_singleton.mp member
  exact id

end KuvaAI.GrpcClient
