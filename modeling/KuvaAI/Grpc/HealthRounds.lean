import KuvaAI.Grpc.ConnectionCap
import KuvaAI.Lib.Transcript

/-! What a check of an endpoint leaves in its pool. It evicts by the status of the last
probe, and probes only the channels that it opens. -/
namespace KuvaAI.GrpcClient
open Python Coroutine

/-- A permit is there when it is handed out, and asking for one raises nothing. -/
def unbroken : (call : Call) → Answer call → ClientPool → Prop
  | .acquirePermit, .ok (), g => 0 < g.permits
  | .acquirePermit, .error (.raised _), _ => False
  | _, _, _ => True

/-- The channel was probed and answered that it serves. -/
def Served (told : Transcript Answer) (channel : Nat) : Prop := ⟨Call.check channel, .ok .serving⟩ ∈ told

structure ClientPool.Stocked (config : ClientConfig) (endpoint : Endpoint) (pool : BoundedDeque Nat)
    (g : ClientPool) : Prop where
  found : g.pools.get? endpoint = some pool
  limit : pool.limit = config.maxConnPerEndpoint
  created : ∀ channel ∈ pool.items, channel < g.created

section Pass

variable {config : ClientConfig} {endpoint : Endpoint} {task start : Nat} {kept : List Nat}
  {told : Transcript Answer} {g : ClientPool}

/-- In the pool are the channels that were kept, and new ones that were probed. -/
structure Warmed (config : ClientConfig) (endpoint : Endpoint) (kept : List Nat) (start : Nat)
    (told : Transcript Answer) (g : ClientPool) : Prop where
  stocked : ∃ pool new, g.pools.get? endpoint = some pool ∧ pool.limit = config.maxConnPerEndpoint ∧
    pool.items = kept ++ new ∧ ∀ channel ∈ new, Served told channel
  probed : ∀ channel response, ⟨Call.check channel, response⟩ ∈ told → start ≤ channel
  created : start ≤ g.created

namespace Warmed

variable (warmed : Warmed config endpoint kept start told g)

include warmed

theorem of_pools {h : ClientPool} (pools : h.pools = g.pools) (created : g.created ≤ h.created) :
    Warmed config endpoint kept start told h := by
  refine ⟨?_, warmed.probed, warmed.created.trans created⟩
  rw [pools]
  exact warmed.stocked

theorem tells {call : Call} {answer : Answer call}
    (fresh : ∀ channel response, (⟨call, answer⟩ : Σ call, Answer call) = ⟨.check channel, response⟩ →
      start ≤ channel) : Warmed config endpoint kept start (told ++ [⟨call, answer⟩]) g where
  stocked := by
    obtain ⟨pool, new, found, limit, items, served⟩ := warmed.stocked
    refine ⟨pool, new, found, limit, items, fun channel member => ?_⟩
    exact List.mem_append_left _ (served channel member)
  probed channel response member := by
    rcases List.mem_append.mp member with old | this
    · exact warmed.probed channel response old
    · exact fresh channel response (List.mem_singleton.mp this).symm
  created := warmed.created

theorem append {pool : BoundedDeque Nat} {channel : Nat} (found : g.pools.get? endpoint = some pool)
    (room : pool.items.length < config.maxConnPerEndpoint) (served : Served told channel) :
    Warmed config endpoint kept start told (g.append task endpoint pool channel) where
  stocked := by
    obtain ⟨pool', new, found', limit, items, served'⟩ := warmed.stocked
    cases found.symm.trans found'
    have notFull : ¬ pool.Full := by
      unfold BoundedDeque.Full
      omega
    refine ⟨pool.push channel, new ++ [channel], Dict.get?_set_same _ _ _, limit, ?_, ?_⟩
    · rw [BoundedDeque.push_of_room notFull, items, List.append_assoc]
    · intro other member
      rcases List.mem_append.mp member with old | this
      · exact served' other old
      · exact List.mem_singleton.mp this ▸ served
  probed := warmed.probed
  created := warmed.created

end Warmed

theorem twp_poolOf {post : BoundedDeque Nat → Transcript Answer → ClientPool → Prop}
    {exn : Interrupt → Transcript Answer → ClientPool → Prop} {pool : BoundedDeque Nat}
    (found : g.pools.get? endpoint = some pool) (rest : post pool told g) :
    twp unbroken post exn (poolOf endpoint) told g := by
  rw [poolOf, twp_bind, twp_get, found]
  exact rest

structure Opened (config : ClientConfig) (endpoint : Endpoint) (kept : List Nat) (start : Nat)
    (pools : Dict Endpoint (BoundedDeque Nat)) (channel : Nat) (told : Transcript Answer) (g : ClientPool) :
    Prop where
  warmed : Warmed config endpoint kept start told g
  pools : g.pools = pools
  served : g.isHealthy channel = true → Served told channel

theorem twp_checkHealth {channel : Nat} (warmed : Warmed config endpoint kept start told g)
    (new : start ≤ channel) :
    twp unbroken (fun _ => Opened config endpoint kept start g.pools channel)
      (fun _ => Warmed config endpoint kept start) (checkHealth channel) told g := by
  refine (twp_bind _ _).mpr fun (response : Except Interrupt HealthStatus) _ => ?_
  have later : Warmed config endpoint kept start (told ++ [⟨.check channel, response⟩]) g :=
    warmed.tells fun other _ same => by
      cases same
      exact new
  have sets : ∀ status, (status = .serving → response = .ok .serving) →
      Opened config endpoint kept start g.pools channel (told ++ [⟨.check channel, response⟩])
        (g.setHealth channel status) := by
    refine fun status serves => ⟨later.of_pools rfl (Nat.le_refl _), rfl, fun healthy => ?_⟩
    obtain rfl := serves (isHealthy_setHealth.mp healthy)
    exact List.mem_append_right _ List.mem_cons_self
  rcases response with (e | _) | status
  · exact sets .notServing fun serves => nomatch serves
  · exact later
  · exact sets status fun serves => by rw [serves]

theorem twp_openChannel (warmed : Warmed config endpoint kept start told g) :
    twp unbroken (fun channel => Opened config endpoint kept start g.pools channel)
      (fun _ => Warmed config endpoint kept start) (openChannel task endpoint) told g := by
  refine (twp_bind _ _).mpr fun (made : Except Exn Unit) => ?_
  cases made with
  | error e => exact warmed
  | ok _ =>
    change twp unbroken _ _ (tryCatch (checkHealth g.created) (fun e => do
      modify fun h => h.forget task (.probeCancelled g.created)
      throw e) >>= fun _ => pure g.created) told (g.create task endpoint)
    have created := warmed.of_pools (h := g.create task endpoint) rfl (Nat.le_succ _)
    rw [twp_bind, twp_tryCatch]
    refine twp_mono (twp_checkHealth created warmed.created) (fun _ _ _ opened => opened)
      fun e told h later => ?_
    exact later.of_pools rfl (Nat.le_refl _)

theorem twp_warmPool (rounds : Nat) (warmed : Warmed config endpoint kept start told g) :
    twp unbroken (fun _ => Warmed config endpoint kept start)
      (fun _ => Warmed config endpoint kept start) (warmPool config task endpoint rounds) told g := by
  induction rounds generalizing told g with
  | zero => exact warmed
  | succ rounds ih =>
    obtain ⟨pool, _, found, _⟩ := warmed.stocked
    refine (twp_bind _ _).mpr (twp_poolOf found ?_)
    split
    · rename_i room
      refine (twp_bind _ _).mpr (twp_mono (twp_openChannel warmed) (fun channel told h opened => ?_)
        fun _ _ _ failed => failed)
      have found' : h.pools.get? endpoint = some pool := opened.pools ▸ found
      rw [twp_bind, twp_get]
      split
      · refine (twp_bind _ _).mpr (twp_poolOf found' ?_)
        exact (twp_bind _ _).mpr (ih (opened.warmed.append found' room (opened.served ‹_›)))
      · exact (twp_bind _ _).mpr (ih (opened.warmed.of_pools rfl (Nat.le_refl _)))
    · exact warmed

theorem warmed_evict {pool : BoundedDeque Nat} (stocked : g.Stocked config endpoint pool)
    (unprobed : ∀ channel response, ⟨Call.check channel, response⟩ ∉ told) :
    Warmed config endpoint (pool.items.filter g.isHealthy) g.created told (g.evict endpoint pool) where
  stocked := by
    refine ⟨_, [], Dict.get?_set_same _ _ _, ?_, ?_, fun _ none => nomatch none⟩
    · simp [stocked.limit]
    · rw [List.append_nil]
      exact BoundedDeque.items_refill _
  probed channel response member := (unprobed channel response member).elim
  created := Nat.le_refl _

theorem twp_withPermit {body : Task Unit}
    (holds : twp unbroken (fun _ => Warmed config endpoint kept start)
      (fun _ => Warmed config endpoint kept start) body [⟨.acquirePermit, .ok ()⟩]
      { g with permits := g.permits - 1 }) :
    twp unbroken (fun _ => Warmed config endpoint kept start)
      (fun e told h => e = .cancelled ∨ Warmed config endpoint kept start told h) (withPermit body) [] g := by
  unfold withPermit
  rw [twp_bind, twp_wait]
  rintro ((e | _) | _) permitted
  · exact permitted.elim
  · exact .inl rfl
  · refine twp_finallyDo (twp_mono holds (fun _ told h warmed => ?_) fun e told h warmed => ?_)
    · exact warmed.of_pools rfl (Nat.le_refl _)
    · exact .inr (warmed.of_pools rfl (Nat.le_refl _))

theorem twp_checkEndpointHealth {pool : BoundedDeque Nat} (rounds : Nat)
    (stocked : g.Stocked config endpoint pool) :
    twp unbroken (fun _ => Warmed config endpoint (pool.items.filter g.isHealthy) g.created)
      (fun _ _ _ => True) (checkEndpointHealth config task rounds endpoint) [] g := by
  have revised : twp unbroken (fun _ => Warmed config endpoint (pool.items.filter g.isHealthy) g.created)
      (fun _ => Warmed config endpoint (pool.items.filter g.isHealthy) g.created) (do
        evictUnhealthyConnections endpoint
        warmPool config task endpoint rounds) [⟨.acquirePermit, .ok ()⟩]
      { g with permits := g.permits - 1 } := by
    unfold evictUnhealthyConnections
    rw [twp_bind, twp_bind]
    refine twp_poolOf stocked.found (twp_warmPool rounds ?_)
    have entered : ClientPool.Stocked config endpoint pool { g with permits := g.permits - 1 } :=
      ⟨stocked.found, stocked.limit, stocked.created⟩
    exact warmed_evict entered fun _ _ member => nomatch List.mem_singleton.mp member
  unfold checkEndpointHealth exceptException
  rw [twp_tryCatch]
  refine twp_mono (twp_withPermit revised) (fun _ _ _ warmed => warmed) fun e told h failed => ?_
  cases e with
  | cancelled => trivial
  | raised e => exact failed.resolve_left (by simp)

/-- A pass that ends has probed all channels that it leaves in the pool just when none of
those that it found there served, by the last probe of each. -/
theorem pool_revalidated_iff {rounds : Nat} {pool : BoundedDeque Nat} {t : ClientPool}
    (stocked : g.Stocked config endpoint pool)
    (passes : Passes unbroken (checkEndpointHealth config task rounds endpoint) g told (done ()) t) :
    (∀ pool', t.pools.get? endpoint = some pool' → ∀ channel ∈ pool'.items, Served told channel) ↔
      ∀ channel ∈ pool.items, g.isHealthy channel = false := by
  have warmed := passes_ended (twp_checkEndpointHealth rounds stocked) passes
  obtain ⟨pool', new, found, _, items, served⟩ := warmed.stocked
  constructor
  · intro revalidated channel member
    by_contra healthy
    have kept : channel ∈ pool'.items := by
      rw [items]
      exact List.mem_append_left _ (List.mem_filter.mpr ⟨member, Bool.of_not_eq_false healthy⟩)
    have later := warmed.probed channel _ (revalidated pool' found channel kept)
    exact absurd (stocked.created channel member) (Nat.not_lt.mpr later)
  · intro unhealthy pool'' found' channel member
    cases found.symm.trans found'
    have none : pool.items.filter g.isHealthy = [] :=
      List.filter_eq_nil_iff.mpr fun channel member => by simp [unhealthy channel member]
    rw [items, none] at member
    exact served channel member

end Pass

section Reached

variable {config : ClientConfig} {g : ClientPool} {task channel : Nat} {endpoint : Endpoint}
  {pool : BoundedDeque Nat}

structure Leveled (config : ClientConfig) (g : ClientPool) : Prop where
  sound : g.Sound config
  limits : ∀ endpoint pool, g.pools.get? endpoint = some pool → pool.limit = config.maxConnPerEndpoint

theorem Leveled.set (leveled : Leveled config g) (found : g.pools.get? endpoint = some pool)
    {pool' : BoundedDeque Nat} (limit : pool'.limit = pool.limit) (key : Endpoint) (other : BoundedDeque Nat)
    (present : (g.pools.set endpoint pool').get? key = some other) :
    other.limit = config.maxConnPerEndpoint := by
  rw [Dict.get?_set] at present
  split at present
  · cases present
    exact limit.trans (leveled.limits endpoint pool found)
  · exact leveled.limits key other present

theorem upholds_leveled (config : ClientConfig) :
    Upholds config served (Leveled config) fun _ _ => True where
  sound _ leveled := leveled.sound
  books _ _ _ _ leveled := ⟨⟨leveled.sound.ledger, leveled.sound.keyed⟩, leveled.limits⟩
  setHealth _ _ _ leveled := ⟨⟨leveled.sound.ledger, leveled.sound.keyed⟩, leveled.limits⟩
  probed _ _ _ _ _ _ := trivial
  create _ _ _ leveled idle := ⟨leveled.sound.create idle, leveled.limits⟩
  popleft _ _ _ _ _ _ leveled found first idle :=
    ⟨⟨leveled.sound.popleft found first idle, leveled.set found rfl⟩, trivial⟩
  handOut _ _ _ leveled held healthy _ := ⟨leveled.sound.handOut held healthy, leveled.limits⟩
  forget _ _ _ _ leveled held lapse := ⟨leveled.sound.forget lapse held, leveled.limits⟩
  close _ _ _ _ leveled held := ⟨leveled.sound.close held, leveled.limits⟩
  append _ _ _ _ _ _ leveled found held _ := ⟨leveled.sound.append found held, leveled.set found rfl⟩
  giveBack _ _ _ leveled member idle := ⟨leveled.sound.giveBack member idle, leveled.limits⟩
  keep _ _ _ leveled held := ⟨leveled.sound.keep held, leveled.limits⟩
  evict _ _ _ leveled found :=
    ⟨leveled.sound.evict found, leveled.set found (BoundedDeque.limit_extend _)⟩
  drain _ _ _ leveled found := ⟨leveled.sound.drain found, leveled.set found rfl⟩

theorem leveled_init (config : ClientConfig) : Leveled config (.init config) := by
  refine ⟨sound_init config, fun endpoint pool found => ?_⟩
  rcases Dict.get?_fill found with rfl | none
  · rfl
  · cases none

theorem stocked_reached {c : Config ClientPool Answer Interrupt Unit} (reached : Reaches config c)
    (known : endpoint ∈ config.keys) : ∃ pool, c.shared.Stocked config endpoint pool := by
  have leveled := upheld (upholds_leveled config) (leveled_init config) (fun _ => rfl) reached
  obtain ⟨pool, found⟩ := (Dict.mem_keys_iff _ _).mp ((leveled.sound.keyed endpoint).mpr known)
  refine ⟨pool, found, leveled.limits endpoint pool found, fun channel member => ?_⟩
  refine leveled.sound.ledger.numbered channel (.inl ?_)
  exact List.mem_append_left _ (ClientPool.mem_pooled found member)

end Reached

section Examples

theorem passes_waiting (g : ClientPool) (endpoint : Endpoint) :
    Passes unbroken (checkEndpointHealth oneEndpoint 0 2 endpoint) g []
      (advance (checkEndpointHealth oneEndpoint 0 2 endpoint) endpointAnswer 0 g).1 g :=
  .start endpointAnswer

theorem new_channel_revalidated : ∃ g told t,
    Passes unbroken (checkEndpointHealth oneEndpoint 0 2 (some "edge-1:443")) g told (done ()) t ∧
    g.Stocked oneEndpoint (some "edge-1:443") (.empty 1) ∧
    ((∀ pool', t.pools.get? (some "edge-1:443") = some pool' → ∀ channel ∈ pool'.items, Served told channel) ↔
      ∀ channel ∈ (BoundedDeque.empty 1 : BoundedDeque Nat).items, g.isHealthy channel = false) := by
  have stocked : (ClientPool.init oneEndpoint).Stocked oneEndpoint (some "edge-1:443") (.empty 1) :=
    ⟨rfl, rfl, fun _ none => nomatch none⟩
  have probes := (passes_waiting (.init oneEndpoint) (some "edge-1:443")).resume (q := .acquirePermit)
    (.ok ()) endpointAnswer Nat.one_pos
  have ends := probes.resume (q := .check 0) (.ok .serving) endpointAnswer trivial
  exact ⟨_, _, _, ends, stocked, pool_revalidated_iff stocked ends⟩

/-- A caller has given its channel back, and the pass leaves it there without a probe. -/
theorem old_channel_unprobed : ∃ c told t, Reaches oneEndpoint c ∧
    Passes unbroken (checkEndpointHealth oneEndpoint 0 2 (some "edge-1:443")) c.shared told (done ()) t ∧
    ¬ ∀ pool', t.pools.get? (some "edge-1:443") = some pool' →
      ∀ channel ∈ pool'.items, Served told channel := by
  have probing := reaches_acquiring.resume 0 .acquirePermit (.ok ()) endpointAnswer rfl Nat.one_pos
  have acquired := probing.resume 0 (.check 0) (.ok .serving) endpointAnswer rfl trivial
  have releasing := acquired.spawn 1 endpointAnswer rfl ⟨.release 0, rfl⟩
  have released := releasing.resume 1 .acquirePermit (.ok ()) endpointAnswer rfl Nat.one_pos
  refine ⟨_, _, _, released, (passes_waiting _ (some "edge-1:443")).resume (q := .acquirePermit)
    (.ok ()) endpointAnswer Nat.one_pos, fun revalidated => ?_⟩
  have served := revalidated _ rfl 0 List.mem_cons_self
  exact nomatch List.mem_singleton.mp served

end Examples

end KuvaAI.GrpcClient
