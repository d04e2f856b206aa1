import KuvaAI.Grpc.ClientRuns
import Mathlib.Data.Set.Card

/-! How many channels of an endpoint are in use: pooled, or with a caller. Nothing in the
pool counts those that callers have. -/
namespace KuvaAI.GrpcClient
open Python Coroutine

namespace ClientPool

variable {config : ClientConfig} {g h : ClientPool} {task channel : Nat} {endpoint : Endpoint}
  {purpose : Purpose}

def InUse (g : ClientPool) (channel : Nat) : Prop := channel ∈ g.pooled ∨ g.HeldByCaller channel

def inUse (g : ClientPool) (endpoint : Endpoint) : Set Nat :=
  {channel | (g.channels channel).endpoint = endpoint ∧ g.InUse channel}

def Capped (config : ClientConfig) (g : ClientPool) : Prop :=
  ∀ endpoint, (g.inUse endpoint).encard ≤ config.maxConnPerEndpoint

def Room (config : ClientConfig) (g : ClientPool) (channel : Nat) : Prop :=
  (g.inUse (g.channels channel).endpoint).encard < config.maxConnPerEndpoint

def Within (g h : ClientPool) (added : Nat → Prop) : Prop :=
  ∀ channel, h.InUse channel →
    (h.channels channel).endpoint = (g.channels channel).endpoint ∧ (g.InUse channel ∨ added channel)

theorem Capped.within (capped : g.Capped config) (fewer : Within g h fun _ => False) : h.Capped config := by
  intro endpoint
  refine (Set.encard_le_encard fun channel used => ?_).trans (capped endpoint)
  obtain ⟨same, was | never⟩ := fewer channel used.2
  · exact ⟨same.symm.trans used.1, was⟩
  · exact never.elim

theorem Capped.added (capped : g.Capped config) (room : g.Room config channel)
    (more : Within g h fun other => other = channel) : h.Capped config := by
  intro endpoint
  by_cases same : endpoint = (g.channels channel).endpoint
  · have inserted : h.inUse endpoint ⊆ insert channel (g.inUse endpoint) := by
      intro other used
      obtain ⟨kept, was | rfl⟩ := more other used.2
      · exact .inr ⟨kept.symm.trans used.1, was⟩
      · exact .inl rfl
    refine (Set.encard_le_encard inserted).trans ((Set.encard_insert_le _ _).trans ?_)
    rw [same]
    exact Order.add_one_le_of_lt room
  · refine (Set.encard_le_encard fun other used => ?_).trans (capped endpoint)
    obtain ⟨kept, was | rfl⟩ := more other used.2
    · exact ⟨kept.symm.trans used.1, was⟩
    · exact (same (used.1.symm.trans kept)).elim

section Parts

variable {added : Nat → Prop} {hand : Option (Purpose × Nat)} {pool pool' : BoundedDeque Nat}

theorem mem_pooled_setPool (found : g.pools.get? endpoint = some pool) {other : Nat}
    (member : other ∈ (g.setPool endpoint pool').pooled) : other ∈ pool'.items ∨ other ∈ g.pooled := by
  obtain ⟨others, before, after⟩ := pooled_setPool found
  rcases List.mem_append.mp ((after pool').mem_iff.mp member) with new | old
  · exact .inl new
  · exact .inr (before.mem_iff.mpr (List.mem_append_right _ old))

theorem mem_pooled (found : g.pools.get? endpoint = some pool) {other : Nat} (member : other ∈ pool.items) :
    other ∈ g.pooled := by
  obtain ⟨others, before, _⟩ := pooled_setPool found
  exact before.mem_iff.mpr (List.mem_append_left _ member)

theorem within_parts (channels : h.channels = g.channels)
    (pooled : ∀ other ∈ h.pooled, other ∈ g.pooled ∨ added other)
    (held : ∀ other ∈ h.held, g.HeldByCaller other ∨ added other)
    (returns : ∀ i other, h.Returns i other → g.HeldByCaller other) : Within g h added := by
  rintro other (member | member | ⟨i, gives⟩)
  · exact ⟨by rw [channels], (pooled other member).imp_left .inl⟩
  · exact ⟨by rw [channels], (held other member).imp_left .inr⟩
  · exact ⟨by rw [channels], .inl (.inr (returns i other gives))⟩

theorem returns_of_update (hands : h.hands = Function.update g.hands task hand)
    (given : ∀ other, hand = some (.returning, other) → g.HeldByCaller other) (i other : Nat)
    (returns : h.Returns i other) : g.HeldByCaller other := by
  rw [Returns, hands] at returns
  by_cases same : i = task
  · subst same
    rw [Function.update_self] at returns
    exact given other returns
  · rw [Function.update_of_ne same] at returns
    exact .inr ⟨i, returns⟩

theorem within_popleft (found : g.pools.get? endpoint = some pool) :
    Within g (g.popleft task endpoint pool channel) added := by
  refine within_parts rfl (fun other member => .inl ?_) (fun _ held => .inl (.inl held))
    (returns_of_update rfl fun _ opens => nomatch opens)
  rcases mem_pooled_setPool found member with left | old
  · exact mem_pooled found (List.mem_of_mem_tail left)
  · exact old

theorem within_handOut : Within g (g.handOut task channel) fun other => other = channel := by
  refine within_parts rfl (fun _ member => .inl member) (fun other member => ?_)
    (returns_of_update rfl fun _ none => nomatch none)
  rcases List.mem_append.mp member with old | new
  · exact .inl (.inl old)
  · exact .inr (List.mem_singleton.mp new)

theorem within_empties (channels : h.channels = g.channels) (pools : h.pools = g.pools)
    (held : h.held = g.held) (hands : h.hands = Function.update g.hands task none) : Within g h added := by
  refine within_parts channels (fun other member => .inl ?_) (fun other member => .inl (.inl (held ▸ member)))
    (returns_of_update hands fun _ none => nomatch none)
  rwa [pooled, pools] at member

theorem within_append (found : g.pools.get? endpoint = some pool) (may : added channel) :
    Within g (g.append task endpoint pool channel) added := by
  refine within_parts rfl (fun other member => ?_) (fun _ held => .inl (.inl held))
    (returns_of_update rfl fun _ none => nomatch none)
  rcases mem_pooled_setPool found member with new | old
  · rw [BoundedDeque.items_push] at new
    rcases List.mem_append.mp (List.mem_of_mem_drop new) with old | this
    · exact .inl (mem_pooled found old)
    · exact .inr (List.mem_singleton.mp this ▸ may)
  · exact .inl old

theorem within_giveBack (member : channel ∈ g.held) : Within g (g.giveBack task channel) added := by
  refine within_parts rfl (fun _ pooled => .inl pooled)
    (fun _ held => .inl (.inl (List.mem_of_mem_erase held))) (returns_of_update rfl ?_)
  rintro other given
  cases given
  exact .inl member

theorem within_keep (returns : g.Returns task channel) : Within g (g.keep task channel) added := by
  refine within_parts rfl (fun _ member => .inl member) (fun other member => .inl ?_)
    (returns_of_update rfl fun _ none => nomatch none)
  rcases List.mem_append.mp member with old | new
  · exact .inl old
  · exact List.mem_singleton.mp new ▸ .inr ⟨task, returns⟩

theorem within_setPool (found : g.pools.get? endpoint = some pool) (closed : List Nat)
    (fewer : ∀ other ∈ pool'.items, other ∈ pool.items) :
    Within g ({ g with closed := closed }.setPool endpoint pool') added := by
  refine within_parts rfl (fun other member => .inl ?_) (fun _ held => .inl (.inl held))
    fun i _ returns => .inr ⟨i, returns⟩
  rcases mem_pooled_setPool found member with left | old
  · exact mem_pooled found (fewer other left)
  · exact old

end Parts

theorem Sound.not_inUse (sound : g.Sound config) (probes : g.Probes task channel) : ¬ g.InUse channel := by
  have exclusive := sound.ledger.exclusive
  have apart := exclusive.apart task channel (holder_eq_some probes)
  rintro (pooled | held | ⟨other, returns⟩)
  · exact apart (List.mem_append_left _ pooled)
  · exact apart (List.mem_append_right _ (List.mem_append_left _ held))
  · cases exclusive.single other task channel (holder_eq_some returns) (holder_eq_some probes)
    exact nomatch returns.symm.trans probes

theorem Sound.numbered (sound : g.Sound config) (used : g.InUse channel) : channel < g.created := by
  refine sound.ledger.numbered channel ?_
  rcases used with pooled | held | ⟨task, returns⟩
  · exact .inl (List.mem_append_left _ pooled)
  · exact .inl (List.mem_append_right _ (List.mem_append_left _ held))
  · exact .inr ⟨task, holder_eq_some returns⟩

theorem Sound.within_create (sound : g.Sound config) {added : Nat → Prop} :
    Within g (g.create task endpoint) added := by
  intro other used
  have hands : (g.create task endpoint).hands =
      Function.update g.hands task (some (.opening, g.created)) := rfl
  have was : g.InUse other := by
    rcases used with pooled | held | ⟨i, returns⟩
    · exact .inl pooled
    · exact .inr (.inl held)
    · exact .inr (returns_of_update hands (fun _ opens => nomatch opens) i other returns)
  refine ⟨?_, .inl was⟩
  change (Function.update g.channels g.created _ other).endpoint = _
  rw [Function.update_of_ne (Nat.ne_of_lt (sound.numbered was))]

theorem within_setHealth {status : HealthStatus} {added : Nat → Prop} :
    Within g (g.setHealth channel status) added := by
  refine fun other used => ⟨?_, .inl used⟩
  change (Function.update g.channels channel _ other).endpoint = _
  by_cases same : other = channel
  · rw [same, Function.update_self]
  · rw [Function.update_of_ne same]

theorem Within.of_inUse (more : Within g h fun other => other = channel) (used : g.InUse channel) :
    Within g h fun _ => False := by
  intro other now
  obtain ⟨same, was | rfl⟩ := more other now
  · exact ⟨same, .inl was⟩
  · exact ⟨same, .inl used⟩

theorem Capped.room (capped : g.Capped config) (fewer : Within g h fun _ => False) (used : g.InUse channel)
    (unused : ¬ h.InUse channel) (same : (h.channels channel).endpoint = (g.channels channel).endpoint) :
    h.Room config channel := by
  have less : insert channel (h.inUse (h.channels channel).endpoint) ⊆
      g.inUse (g.channels channel).endpoint := by
    rintro other (rfl | used')
    · exact ⟨rfl, used⟩
    · obtain ⟨kept, was | never⟩ := fewer other used'.2
      · exact ⟨kept.symm.trans (used'.1.trans same), was⟩
      · exact never.elim
  have counted := (Set.encard_le_encard less).trans (capped _)
  rw [Set.encard_insert_of_notMem fun member => unused member.2] at counted
  exact (ENat.add_one_le_iff' (ENat.natCast_ne_top _)).mp counted

end ClientPool

section Cap

open ClientPool

/-- A channel that is being opened is found to serve only while fewer channels of its
endpoint are in use than may be. -/
def roomy (config : ClientConfig) (task : Nat) : (call : Call) → Answer call → ClientPool → Prop
  | .check channel, .ok .serving, g => g.Probes task channel → g.Room config channel
  | call, answer, g => served task call answer g

structure Counted (config : ClientConfig) (g : ClientPool) : Prop where
  sound : g.Sound config
  capped : g.Capped config

theorem upholds_counted (config : ClientConfig) :
    Upholds config (roomy config) (Counted config) fun channel g => g.Room config channel where
  sound _ counted := counted.sound
  books g _ _ _ counted :=
    ⟨⟨counted.sound.ledger, counted.sound.keyed⟩, counted.capped.within fun _ used => ⟨rfl, .inl used⟩⟩
  setHealth g channel status counted :=
    ⟨⟨counted.sound.ledger, counted.sound.keyed⟩, counted.capped.within within_setHealth⟩
  probed g task channel counted opened answered := by
    have room : g.Room config channel := answered opened
    refine lt_of_le_of_lt (Set.encard_le_encard fun other used => ?_) room
    have within : Within g (g.setHealth channel .serving) fun _ => False := within_setHealth
    obtain ⟨same, was | never⟩ := within other used.2
    · exact ⟨same.symm.trans (used.1.trans (by simp [setHealth])), was⟩
    · exact never.elim
  create g task endpoint counted idle :=
    ⟨counted.sound.create idle, counted.capped.within counted.sound.within_create⟩
  popleft g task endpoint pool channel rest counted found first idle := by
    have sound := counted.sound.popleft found first idle
    have fewer : Within g (g.popleft task endpoint pool channel) fun _ => False := within_popleft found
    have used : g.InUse channel := .inl (mem_pooled found (first ▸ List.mem_cons_self))
    have probes : (g.popleft task endpoint pool channel).Probes task channel := Function.update_self _ _ _
    exact ⟨⟨sound, counted.capped.within fewer⟩,
      counted.capped.room fewer used (sound.not_inUse probes) rfl⟩
  handOut g task channel counted held healthy room :=
    ⟨counted.sound.handOut held healthy, counted.capped.added room within_handOut⟩
  forget g task channel event counted held lapse :=
    ⟨counted.sound.forget lapse held, counted.capped.within (within_empties rfl rfl rfl rfl)⟩
  close g task purpose channel counted held :=
    ⟨counted.sound.close held, counted.capped.within (within_empties rfl rfl rfl rfl)⟩
  append g task endpoint pool purpose channel counted found held room := by
    refine ⟨counted.sound.append found held, ?_⟩
    have more : Within g (g.append task endpoint pool channel) fun other => other = channel :=
      within_append found rfl
    cases purpose with
    | opening => exact counted.capped.added (room rfl) more
    | returning => exact counted.capped.within (more.of_inUse (.inr (.inr ⟨task, held⟩)))
  giveBack g task channel counted member idle :=
    ⟨counted.sound.giveBack member idle, counted.capped.within (within_giveBack member)⟩
  keep g task channel counted returns :=
    ⟨counted.sound.keep returns, counted.capped.within (within_keep returns)⟩
  evict g endpoint pool counted found := by
    refine ⟨counted.sound.evict found, counted.capped.within (within_setPool found _ fun other member => ?_)⟩
    rw [BoundedDeque.items_refill] at member
    exact List.mem_of_mem_filter member
  drain g endpoint pool counted found :=
    ⟨counted.sound.drain found, counted.capped.within (within_setPool found _ fun _ none => nomatch none)⟩

theorem inUse_eq_empty {g : ClientPool} (pooled : g.pooled = []) (held : g.held = [])
    (returns : ∀ task channel, ¬ g.Returns task channel) (endpoint : Endpoint) : g.inUse endpoint = ∅ := by
  refine Set.eq_empty_of_forall_notMem fun channel used => ?_
  rcases used.2 with member | member | ⟨task, gives⟩
  · exact List.not_mem_nil (pooled ▸ member)
  · exact List.not_mem_nil (held ▸ member)
  · exact returns task channel gives

theorem capped_init (config : ClientConfig) : (ClientPool.init config).Capped config := by
  intro endpoint
  have pooled : (ClientPool.init config).pooled = [] := Dict.collect_fill rfl rfl _
  rw [inUse_eq_empty pooled rfl (fun _ _ returns => nomatch returns), Set.encard_empty]
  exact zero_le

/-- In a run in which new channels are found to serve only while there is room for them,
no endpoint ever has more channels in use than it may have. -/
theorem connections_capped {config : ClientConfig} {c : Config ClientPool Answer Interrupt Unit}
    (reached : Reachable (roomy config)
      (fun task x => ∃ operation : Operation, x = operation.run config task) (.init config) c)
    (endpoint : Endpoint) : (c.shared.inUse endpoint).encard ≤ config.maxConnPerEndpoint :=
  (upheld (upholds_counted config) ⟨sound_init config, capped_init config⟩ (fun _ => rfl) reached).capped
    endpoint

end Cap

section Instance

variable {config : ClientConfig} {g : ClientPool}

theorem two_in_use {endpoint : Endpoint} (held : g.held = [0, 1]) (first : (g.channels 0).endpoint = endpoint)
    (second : (g.channels 1).endpoint = endpoint) : 2 ≤ (g.inUse endpoint).encard := by
  rw [← Set.encard_pair Nat.zero_ne_one]
  refine Set.encard_le_encard ?_
  rintro channel (rfl | rfl)
  · exact ⟨first, .inr (.inl (by simp [held]))⟩
  · exact ⟨second, .inr (.inl (by simp [held]))⟩

theorem room_of_unused (some : 0 < config.maxConnPerEndpoint) (pooled : g.pooled = []) (held : g.held = [])
    (returns : ∀ task channel, ¬ g.Returns task channel) (channel : Nat) : g.Room config channel := by
  rw [ClientPool.Room, inUse_eq_empty pooled held returns, Set.encard_empty]
  exact_mod_cast some

/-- Two callers have a channel each, of an endpoint that may have one. -/
theorem second_channel_in_use : ∃ c, Reaches oneEndpoint c ∧
    ¬ (c.shared.inUse (some "edge-1:443")).encard ≤ oneEndpoint.maxConnPerEndpoint := by
  have probing := reaches_acquiring.resume 0 .acquirePermit (.ok ()) endpointAnswer rfl Nat.one_pos
  have acquired := probing.resume 0 (.check 0) (.ok .serving) endpointAnswer rfl trivial
  have waits := acquired.spawn 1 endpointAnswer rfl ⟨.acquire, rfl⟩
  have probing' := waits.resume 1 .acquirePermit (.ok ()) endpointAnswer rfl Nat.one_pos
  have acquired' := probing'.resume 1 (.check 1) (.ok .serving) endpointAnswer rfl trivial
  exact ⟨_, acquired', fun capped => absurd ((two_in_use rfl rfl rfl).trans capped) (by decide)⟩

theorem first_channel_in_use : ∃ c, Reachable (roomy oneEndpoint)
    (fun task x => ∃ operation : Operation, x = operation.run oneEndpoint task) (.init oneEndpoint) c ∧
    c.shared.held = [0] ∧
    (c.shared.inUse (some "edge-1:443")).encard ≤ oneEndpoint.maxConnPerEndpoint := by
  have idle : Reachable (roomy oneEndpoint)
      (fun task x => ∃ operation : Operation, x = operation.run oneEndpoint task) (.init oneEndpoint)
      (.init (.init oneEndpoint)) := .refl
  have opened : ∀ task channel, (Function.update (fun _ => none) 0 (some (.opening, 0)) :
      Nat → Option (Purpose × Nat)) task ≠ some (.returning, channel) := by
    intro task channel
    by_cases same : task = 0
    · simp [same]
    · simp [same]
  have waits := idle.spawn 0 endpointAnswer rfl ⟨.acquire, rfl⟩
  have probing := waits.resume 0 .acquirePermit (.ok ()) endpointAnswer rfl Nat.one_pos
  have acquired := probing.resume 0 (.check 0) (.ok .serving) endpointAnswer rfl (by
    intro _
    refine room_of_unused Nat.one_pos ?_ ?_ ?_ 0
    · rfl
    · rfl
    · exact opened)
  exact ⟨_, acquired, rfl, connections_capped acquired (some "edge-1:443")⟩

end Instance

end KuvaAI.GrpcClient
