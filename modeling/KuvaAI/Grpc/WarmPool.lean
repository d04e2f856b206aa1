import KuvaAI.Grpc.HealthRounds
import KuvaAI.Lib.Solo

/-! When the warming of a pool comes to an end. `acquire` bounds its attempts by the retry
count; the loop of `_warm_pool` has no bound, and only a probe that serves brings its end
nearer. -/
namespace KuvaAI.GrpcClient
open Python Coroutine

abbrev Probes := Nat → Except Exn HealthStatus

/-- Channels are made and permits handed out; the probes answer in turn. A probe follows
the construction of its channel, so that each takes two questions. -/
def probing (probes : Probes) (asked : Nat) : (call : Call) → Answer call
  | .choice => (0 : Nat)
  | .acquirePermit => .ok ()
  | .createChannel _ => .ok ()
  | .check _ =>
    match probes ((asked - 1) / 2) with
    | .ok status => .ok status
    | .error e => .error (.raised e)
  | .service _ => .ok ()
  | .sleep => .ok ()
  | .gather => .ok ()
  | .joinHealthTask => .ok ()

def servings (probes : Probes) (start window : Nat) : Nat :=
  (List.range' start window).countP fun n =>
    match probes n with
    | .ok status => status = .serving
    | .error _ => false

/-- Run by itself, it returns: it neither fails nor is still at it. -/
abbrev Finishes (probes : Probes) (x : Task Unit) (w : Solo ClientPool Answer) : Prop :=
  ends (probing probes) (fun _ _ => True) (fun _ _ => False) x w

def WarmFinishes (config : ClientConfig) (probes : Probes) (g : ClientPool) (endpoint : Endpoint) : Prop :=
  ∃ rounds, Finishes probes (warmPool config 0 endpoint rounds) (.start g)

/-- A pass waits for its checks, each of a pool of its own, and each needs a permit. -/
def PassFinishes (config : ClientConfig) (probes : Endpoint → Probes) (g : ClientPool) : Prop :=
  ∀ endpoint ∈ config.keys, 0 < g.permits ∧
    ∃ rounds, Finishes (probes endpoint) (checkEndpointHealth config 0 rounds endpoint) (.start g)

section Loop

variable {config : ClientConfig} {probes : Probes} {endpoint : Endpoint} {task start : Nat}
  {pool : BoundedDeque Nat} {w : Solo ClientPool Answer}

theorem servings_succ (probes : Probes) (start window : Nat) :
    servings probes start (window + 1) =
      servings probes (start + 1) window + if probes start = .ok .serving then 1 else 0 := by
  rw [servings, List.range'_succ, List.countP_cons, ← servings]
  cases probes start with
  | ok status => simp
  | error e => simp

theorem window_succ {room : Nat} (positive : 0 < room) (rounds : Nat) :
    (∃ window < rounds + 1, room ≤ servings probes start window) ↔
      ∃ window < rounds,
        room - (if probes start = .ok .serving then 1 else 0) ≤ servings probes (start + 1) window := by
  constructor
  · rintro ⟨window, less, enough⟩
    cases window with
    | zero =>
      have none : servings probes start 0 = 0 := rfl
      omega
    | succ window =>
      rw [servings_succ] at enough
      exact ⟨window, by omega, by omega⟩
  · rintro ⟨window, less, enough⟩
    refine ⟨window + 1, by omega, ?_⟩
    rw [servings_succ]
    omega

theorem solo_poolOf (found : w.state.pools.get? endpoint = some pool) :
    solo (probing probes) (poolOf endpoint) w = (.ok pool, w) := by
  simp only [poolOf, solo_get_bind, found]
  rfl

theorem ends_checkHealth {channel : Nat} (turn : (w.asked - 1) / 2 = start) :
    ends (probing probes) (fun _ v => v.asked = w.asked + 1 ∧ v.state.pools = w.state.pools ∧
        (v.state.isHealthy channel = true ↔ probes start = .ok .serving))
      (fun _ _ => False) (checkHealth channel) w := by
  subst turn
  refine (ends_bind _ _ _).mpr ((ends_wait _).mpr ?_)
  rw [probing]
  cases probes ((w.asked - 1) / 2) with
  | ok status => exact ⟨rfl, rfl, by simp [isHealthy_setHealth]⟩
  | error e => exact ⟨rfl, rfl, by simp [isHealthy_setHealth]⟩

theorem ends_openChannel (turn : w.asked / 2 = start) :
    ends (probing probes) (fun channel v => v.asked / 2 = start + 1 ∧ v.state.pools = w.state.pools ∧
        (v.state.isHealthy channel = true ↔ probes start = .ok .serving))
      (fun _ _ => False) (openChannel task endpoint) w := by
  refine (ends_bind _ _ _).mpr ((ends_call _).mpr ?_)
  change ends _ _ _ (tryCatch (checkHealth w.state.created) (fun e => do
      modify fun h => h.forget task (.probeCancelled w.state.created)
      throw e) >>= fun _ => pure w.state.created)
    { w with asked := w.asked + 1, state := w.state.create task endpoint }
  rw [ends_bind, ends_tryCatch]
  have probed : (w.asked + 1 - 1) / 2 = start := turn
  refine Effect.wp_mono (ends_checkHealth probed) ?_ fun _ _ failed => failed.elim
  rintro _ v ⟨asked, pools, healthy⟩
  refine (ends_pure _ _).mpr ⟨?_, pools, healthy⟩
  rw [asked]
  change (w.asked + 2) / 2 = start + 1
  omega

/-- The loop ends when as many probes have served as there was room in the pool, and it
raises nothing. -/
theorem ends_warmPool_iff {failed : Interrupt → Prop} (uncancelled : ¬ failed .cancelled) (rounds : Nat)
    (found : w.state.pools.get? endpoint = some pool)
    (limit : pool.limit = config.maxConnPerEndpoint) (turn : w.asked / 2 = start) :
    ends (probing probes) (fun _ _ => True) (fun e _ => failed e) (warmPool config task endpoint rounds) w ↔
      ∃ window < rounds, config.maxConnPerEndpoint - pool.items.length ≤ servings probes start window := by
  induction rounds generalizing w pool start with
  | zero =>
    constructor
    · exact fun cancelled => (uncancelled cancelled).elim
    · rintro ⟨window, less, _⟩
      exact (Nat.not_lt_zero window less).elim
  | succ rounds ih =>
    rw [warmPool, ends_bind]
    refine (Effect.wp_of_ok (solo_poolOf found)).trans ?_
    by_cases room : pool.items.length < config.maxConnPerEndpoint
    · rw [if_pos room]
      obtain ⟨channel, v, ⟨turn', pools, healthy⟩, next⟩ := ends_first _ (ends_openChannel turn) _ _ _
      have found' : v.state.pools.get? endpoint = some pool := pools ▸ found
      rw [window_succ (by omega)]
      refine next.trans ?_
      rw [ends_bind, ends_get]
      by_cases served : probes start = .ok .serving
      · have notFull : ¬ pool.Full := by
          unfold BoundedDeque.Full
          omega
        rw [if_pos (healthy.mpr served), if_pos served, ends_bind]
        refine (Effect.wp_of_ok (solo_poolOf found')).trans ?_
        rw [ends_bind, ends_modify]
        have filled : (pool.push channel).items.length = pool.items.length + 1 := by
          rw [BoundedDeque.push_of_room notFull, List.length_append, List.length_singleton]
        refine (ih (w := { v with state := v.state.append task endpoint pool channel })
          (Dict.get?_set_same _ _ _) limit turn').trans ?_
        rw [filled, Nat.sub_sub]
      · rw [if_neg fun isHealthy => served (healthy.mp isHealthy), if_neg served, ends_bind, ends_modify]
        exact ih found' limit turn'
    · rw [if_neg room]
      refine iff_of_true trivial ⟨0, Nat.succ_pos rounds, ?_⟩
      omega

variable {g : ClientPool}

theorem ends_withPermit {body : Task Unit} (failed : Interrupt → Prop) :
    ends (probing probes) (fun _ _ => True) (fun e _ => failed e) (withPermit body) (.start g) ↔
      ends (probing probes) (fun _ _ => True) (fun e _ => failed e) body
        ⟨1, [⟨.acquirePermit, .ok ()⟩], { g with permits := g.permits - 1 }⟩ := by
  unfold withPermit
  rw [ends_bind, ends_wait, ends_bind]
  change ends (probing probes) _ _
    (modify (fun g : ClientPool => { g with permits := g.permits - 1 }) >>= fun _ => finallyDo _ _) _ ↔ _
  rw [ends_bind, ends_modify, ends_finallyDo]
  rfl

/-- A check finishes unless it is cut off: its handler catches whatever else it raises. -/
theorem ends_caught {body : Task Unit} {w : Solo ClientPool Answer} :
    Finishes probes (exceptException body fun _ => return ()) w ↔
      ends (probing probes) (fun _ _ => True) (fun e _ => e ≠ .cancelled) body w := by
  rw [Finishes, exceptException, ends_tryCatch]
  constructor
  · intro caught
    refine Effect.wp_mono caught (fun _ _ _ => trivial) fun e _ handled => ?_
    rintro rfl
    exact handled
  · intro uncancelled
    refine Effect.wp_mono uncancelled (fun _ _ _ => trivial) fun e _ other => ?_
    cases e with
    | raised e => exact trivial
    | cancelled => exact other rfl

theorem finishes_check_iff (rounds : Nat) (found : g.pools.get? endpoint = some pool)
    (limit : pool.limit = config.maxConnPerEndpoint) :
    Finishes probes (checkEndpointHealth config task rounds endpoint) (.start g) ↔
      ∃ window < rounds,
        config.maxConnPerEndpoint - (pool.items.filter g.isHealthy).length ≤ servings probes 0 window := by
  let entered : ClientPool := { g with permits := g.permits - 1 }
  have evicted : (entered.evict endpoint pool).pools.get? endpoint =
      some ((BoundedDeque.empty pool.limit).extend (pool.items.filter g.isHealthy)) :=
    Dict.get?_set_same _ _ _
  have found' : entered.pools.get? endpoint = some pool := found
  rw [checkEndpointHealth, ends_caught, ends_withPermit, ends_bind, evictUnhealthyConnections, ends_bind]
  refine (Effect.wp_of_ok (solo_poolOf found')).trans ?_
  refine (ends_warmPool_iff (w := ⟨1, _, entered.evict endpoint pool⟩) (fun uncancelled => uncancelled rfl)
    rounds evicted ((BoundedDeque.limit_extend _).trans limit) (Nat.div_eq_of_lt Nat.one_lt_two)).trans ?_
  rw [BoundedDeque.items_refill]

theorem finishes_warm_iff (rounds : Nat) (found : g.pools.get? endpoint = some pool)
    (limit : pool.limit = config.maxConnPerEndpoint) :
    Finishes probes (warmPool config task endpoint rounds) (.start g) ↔
      ∃ window < rounds, config.maxConnPerEndpoint - pool.items.length ≤ servings probes 0 window := by
  have never : ¬ (fun _ : Interrupt => False) .cancelled := id
  exact ends_warmPool_iff (w := .start g) never rounds found limit (Nat.zero_div 2)

end Loop

/-- A warming finishes exactly if as many of its probes serve as there is room in the pool,
and a pass exactly if there is a permit and this is so of every endpoint, counting as room
what the eviction leaves. -/
theorem warming_finishes_iff (config : ClientConfig) (probes : Endpoint → Probes) (g : ClientPool)
    (stocked : ∀ endpoint ∈ config.keys, ∃ pool, g.Stocked config endpoint pool) :
    (∀ endpoint ∈ config.keys, ∀ pool, g.pools.get? endpoint = some pool →
      (WarmFinishes config (probes endpoint) g endpoint ↔
        ∃ window, config.maxConnPerEndpoint - pool.items.length ≤ servings (probes endpoint) 0 window)) ∧
    (PassFinishes config probes g ↔
      ∀ endpoint ∈ config.keys, 0 < g.permits ∧ ∀ pool, g.pools.get? endpoint = some pool → ∃ window,
        config.maxConnPerEndpoint - (pool.items.filter g.isHealthy).length ≤
          servings (probes endpoint) 0 window) := by
  have enough : ∀ (room : Nat) (probes : Probes),
      (∃ rounds, ∃ window < rounds, room ≤ servings probes 0 window) ↔
        ∃ window, room ≤ servings probes 0 window := by
    refine fun room probes => ⟨?_, ?_⟩
    · rintro ⟨_, window, _, filled⟩
      exact ⟨window, filled⟩
    · rintro ⟨window, filled⟩
      exact ⟨window + 1, window, Nat.lt_succ_self window, filled⟩
  have limits : ∀ endpoint ∈ config.keys, ∀ pool, g.pools.get? endpoint = some pool →
      pool.limit = config.maxConnPerEndpoint := by
    intro endpoint known pool found
    obtain ⟨pool', stocked⟩ := stocked endpoint known
    cases found.symm.trans stocked.found
    exact stocked.limit
  constructor
  · intro endpoint known pool found
    rw [WarmFinishes, ← enough]
    exact exists_congr fun rounds => finishes_warm_iff rounds found (limits endpoint known pool found)
  · refine forall_congr' fun endpoint => forall_congr' fun known => and_congr_right fun _ => ?_
    obtain ⟨pool, here⟩ := stocked endpoint known
    refine (exists_congr fun rounds => finishes_check_iff rounds here.found here.limit).trans ?_
    rw [enough]
    constructor
    · intro filled pool' found
      cases here.found.symm.trans found
      exact filled
    · exact fun filled => filled pool here.found

section Examples

theorem stocked_init : ∀ endpoint ∈ oneEndpoint.keys,
    (ClientPool.init oneEndpoint).Stocked oneEndpoint endpoint (.empty 1) := by
  intro endpoint known
  cases List.mem_singleton.mp known
  exact ⟨rfl, rfl, fun _ none => nomatch none⟩

def recovering (n : Nat) : Except Exn HealthStatus :=
  if n = 0 then .error ⟨.other, "unavailable"⟩ else .ok .serving

theorem recovering_finishes : (∀ endpoint ∈ oneEndpoint.keys,
      ∃ pool, (ClientPool.init oneEndpoint).Stocked oneEndpoint endpoint pool) ∧
    PassFinishes oneEndpoint (fun _ => recovering) (.init oneEndpoint) := by
  have stocked : ∀ endpoint ∈ oneEndpoint.keys,
      ∃ pool, (ClientPool.init oneEndpoint).Stocked oneEndpoint endpoint pool :=
    fun endpoint known => ⟨_, stocked_init endpoint known⟩
  refine ⟨stocked, ?_⟩
  have exact_ := (warming_finishes_iff oneEndpoint (fun _ => recovering) (.init oneEndpoint) stocked).2
  refine exact_.mpr fun endpoint known => ⟨Nat.one_pos, fun pool found => ⟨2, ?_⟩⟩
  cases (stocked_init endpoint known).found.symm.trans found
  decide

def silent (_ : Nat) : Except Exn HealthStatus := .error ⟨.other, "unavailable"⟩

/-- No probe is ever answered: the one permit is never given back. -/
theorem silent_unfinished :
    ¬ WarmFinishes oneEndpoint silent (.init oneEndpoint) (some "edge-1:443") ∧
    ¬ PassFinishes oneEndpoint (fun _ => silent) (.init oneEndpoint) := by
  have here := stocked_init (some "edge-1:443") List.mem_cons_self
  have none : ∀ window, servings silent 0 window = 0 := fun window => by simp [servings, silent]
  constructor
  · rintro ⟨rounds, finishes⟩
    obtain ⟨window, _, filled⟩ := (finishes_warm_iff rounds here.found here.limit).mp finishes
    rw [none] at filled
    exact absurd filled (by decide)
  · intro finishes
    obtain ⟨_, rounds, finishes⟩ := finishes (some "edge-1:443") List.mem_cons_self
    obtain ⟨window, _, filled⟩ := (finishes_check_iff rounds here.found here.limit).mp finishes
    rw [none] at filled
    exact absurd filled (by decide)

end Examples

end KuvaAI.GrpcClient
