import KuvaAI.Grpc.Ownership

/-! What the tasks of a pool keep, whatever invariant it is: one condition for each
change that they make to the pool. -/
namespace KuvaAI.GrpcClient
open Python Coroutine

/-- Each change of the pool keeps `inv`. A channel that is taken from a deque, or found
to serve when it is opened, is `ready` to be in use. -/
structure Upholds (config : ClientConfig) (allowed : Nat → (call : Call) → Answer call → ClientPool → Prop)
    (inv : ClientPool → Prop) (ready : Nat → ClientPool → Prop) : Prop where
  sound : ∀ g, inv g → g.Sound config
  books : ∀ g index permits scheduled, inv g →
    inv { g with roundRobinIndex := index, permits := permits, scheduled := scheduled }
  setHealth : ∀ g channel status, inv g → inv (g.setHealth channel status)
  probed : ∀ g task channel, inv g → g.hands task = some (.opening, channel) →
    allowed task (.check channel) (.ok .serving) g → ready channel (g.setHealth channel .serving)
  create : ∀ g task endpoint, inv g → g.hands task = none → inv (g.create task endpoint)
  popleft : ∀ g task endpoint pool channel rest, inv g → g.pools.get? endpoint = some pool →
    pool.items = channel :: rest → g.hands task = none →
    inv (g.popleft task endpoint pool channel) ∧ ready channel (g.popleft task endpoint pool channel)
  handOut : ∀ g task channel, inv g → g.hands task = some (.opening, channel) →
    g.isHealthy channel = true → ready channel g → inv (g.handOut task channel)
  forget : ∀ g task channel event, inv g → g.hands task = some (.opening, channel) → event.isLapse →
    inv (g.forget task event)
  close : ∀ g task purpose channel, inv g → g.hands task = some (purpose, channel) →
    inv (g.close task channel)
  append : ∀ g task endpoint pool purpose channel, inv g → g.pools.get? endpoint = some pool →
    g.hands task = some (purpose, channel) → (purpose = .opening → ready channel g) →
    inv (g.append task endpoint pool channel)
  giveBack : ∀ g task channel, inv g → channel ∈ g.held → g.hands task = none →
    inv (g.giveBack task channel)
  keep : ∀ g task channel, inv g → g.hands task = some (.returning, channel) → inv (g.keep task channel)
  evict : ∀ g endpoint pool, inv g → g.pools.get? endpoint = some pool → inv (g.evict endpoint pool)
  drain : ∀ g endpoint pool, inv g → g.pools.get? endpoint = some pool → inv (g.drain endpoint pool)

section Discipline

variable (allowed : Nat → (call : Call) → Answer call → ClientPool → Prop) (inv : ClientPool → Prop)

def keeping : Discipline ClientPool Answer where
  allowed := allowed
  inv := inv
  rely task g h := h.hands task = g.hands task
  idle task g := g.hands task = none
  rely_refl _ _ := rfl
  rely_trans _ _ _ _ first second := second.trans first
  idle_stable _ _ _ moved idle := moved.trans idle

structure Carries (task : Nat) (hand : Option (Purpose × Nat)) (g : ClientPool) : Prop where
  inv : inv g
  hands : g.hands task = hand

abbrev Takes {α : Type} (task : Nat) (pre : ClientPool → Prop) (x : Task α)
    (post : α → ClientPool → Prop) (failed : ClientPool → Prop) : Prop :=
  Triple (keeping allowed inv) task pre x post fun _ => failed

abbrev Maintains {α : Type} (task : Nat) (hand : Option (Purpose × Nat)) (x : Task α) : Prop :=
  Takes allowed inv task (Carries inv task hand) x (fun _ => Carries inv task hand) (Carries inv task hand)

end Discipline

section Changes

variable {allowed : Nat → (call : Call) → Answer call → ClientPool → Prop} {inv : ClientPool → Prop}
  {task : Nat} {hand : Option (Purpose × Nat)} {P Q : ClientPool → Prop} {α : Type}

theorem closed_maintains : Closed fun {_} (x : Task _) => Maintains allowed inv task hand x :=
  Triple.closed (fun _ carries => carries.inv) fun _ _ carries moved inv => ⟨inv, moved.trans carries.hands⟩

theorem takes_note {f : ClientPool → ClientPool} (same : ∀ g, (f g).hands = g.hands)
    (kept : ∀ g, inv g → inv (f g)) :
    Takes allowed inv task (Carries inv task hand) (modify f : Task PUnit)
      (fun _ => Carries inv task hand) Q :=
  fun g carries => ⟨fun other _ => congrFun (same g) other, kept g carries.inv,
    (congrFun (same g) task).trans carries.hands⟩

theorem hand_changed {g h : ClientPool} (same : h.hands = Function.update g.hands task hand) (kept : inv h) :
    (∀ other, other ≠ task → (keeping allowed inv).rely other g h) ∧ Carries inv task hand h := by
  refine ⟨fun other different => ?_, kept, ?_⟩
  · exact (congrFun same other).trans (Function.update_of_ne different _ _)
  · exact (congrFun same task).trans (Function.update_self _ _ _)

theorem takes_modify {f : ClientPool → ClientPool}
    (same : ∀ g, P g → (f g).hands = Function.update g.hands task hand) (kept : ∀ g, P g → inv (f g)) :
    Takes allowed inv task P (modify f : Task PUnit) (fun _ => Carries inv task hand) Q :=
  fun g holds => hand_changed (same g holds) (kept g holds)

theorem wp_modify_hand {f : ClientPool → ClientPool} {g : ClientPool} {k : PUnit → Task α}
    {post : α → ClientPool → Prop} (same : (f g).hands = Function.update g.hands task hand)
    (kept : inv (f g)) (rest : Carries inv task hand (f g) →
      wp (keeping allowed inv) task post (fun _ => Q) (k ⟨⟩) (f g)) :
    wp (keeping allowed inv) task post (fun _ => Q) (modify f >>= k) g := by
  obtain ⟨moved, carries⟩ := hand_changed same kept
  exact wp_modify_bind moved (rest carries)

end Changes

section Tasks

variable {config : ClientConfig} {allowed : Nat → (call : Call) → Answer call → ClientPool → Prop}
  {inv : ClientPool → Prop} {ready : Nat → ClientPool → Prop} (upholds : Upholds config allowed inv ready)
  {task channel : Nat} {endpoint : Endpoint} {hand : Option (Purpose × Nat)} {purpose : Purpose}
  {P Q : ClientPool → Prop} {α : Type}

include upholds

theorem takes_poolOf (endpoint : Endpoint)
    (absent : endpoint ∉ config.keys → ∀ g, P g → Carries inv task hand g → Q g)
    (carries : ∀ g, P g → Carries inv task hand g) :
    Takes allowed inv task P (poolOf endpoint)
      (fun pool g => P g ∧ g.pools.get? endpoint = some pool) Q := by
  intro g holds
  rw [poolOf, wp_bind, wp_get]
  cases found : g.pools.get? endpoint with
  | some pool => exact ⟨holds, found⟩
  | none =>
    refine absent (fun known => ?_) g holds (carries g holds)
    have sound := upholds.sound g (carries g holds).inv
    exact (Dict.get?_eq_none_iff _ _).mp found ((sound.keyed endpoint).mpr known)

theorem maintains_poolOf (endpoint : Endpoint) :
    Takes allowed inv task (Carries inv task hand) (poolOf endpoint)
      (fun pool g => Carries inv task hand g ∧ g.pools.get? endpoint = some pool) (Carries inv task hand) :=
  takes_poolOf upholds endpoint (fun _ _ _ carries => carries) fun _ carries => carries

theorem takes_permits {f : ClientPool → Nat} :
    Takes allowed inv task (Carries inv task hand) (modify fun g => { g with permits := f g } : Task PUnit)
      (fun _ => Carries inv task hand) Q :=
  takes_note (fun _ => rfl) fun g => upholds.books g _ _ _

theorem takes_withPermit {body : Task α} {last : α → Option (Purpose × Nat)}
    (runs : Takes allowed inv task (Carries inv task hand) body (fun a => Carries inv task (last a))
      (Carries inv task hand)) :
    Takes allowed inv task (Carries inv task hand) (withPermit body) (fun a => Carries inv task (last a))
      (Carries inv task hand) := by
  have closed : Closed fun {_} (x : Task _) => Maintains allowed inv task hand x := closed_maintains
  refine Triple.bind (closed.wait _) fun answer => Triple.bind (closed_outcome closed answer) fun _ =>
    (takes_permits upholds).bind fun _ => runs.finallyDo (fun _ => takes_permits upholds)
      fun _ => takes_permits upholds

theorem maintains_selectEndpoint : Maintains allowed inv task hand (selectEndpoint config) := by
  have closed : Closed fun {_} (x : Task _) => Maintains allowed inv task hand x := closed_maintains
  unfold selectEndpoint
  split
  · refine closed.bind (closed_raiseIf closed _ _) fun _ => closed.bind closed.get fun g =>
      closed.bind (takes_note (fun _ => rfl) fun g => upholds.books g _ _ _) fun _ => closed.pure _
  · exact closed.bind (closed_raiseIf closed _ _) fun _ => closed.called fun _ => closed.pure _
  · exact closed.pure _
  · exact closed.pure _

theorem maintains_setHealth (channel : Nat) (status : HealthStatus) :
    Maintains allowed inv task hand (modify fun g => g.setHealth channel status : Task PUnit) :=
  takes_note (fun _ => rfl) fun g => upholds.setHealth g channel status

theorem maintains_checkHealth (channel : Nat) : Maintains allowed inv task hand (checkHealth channel) := by
  have closed : Closed fun {_} (x : Task _) => Maintains allowed inv task hand x := closed_maintains
  refine closed.awaited fun response => ?_
  split
  · exact maintains_setHealth upholds channel _
  · exact maintains_setHealth upholds channel _
  · exact closed.throw _

structure AtHand (inv : ClientPool → Prop) (ready : Nat → ClientPool → Prop) (task channel : Nat)
    (g : ClientPool) : Prop where
  carries : Carries inv task (some (.opening, channel)) g
  ready : g.isHealthy channel = true → ready channel g

omit upholds in
theorem isHealthy_setHealth {g : ClientPool} {status : HealthStatus} :
    (g.setHealth channel status).isHealthy channel = true ↔ status = .serving := by
  simp [ClientPool.isHealthy, ClientPool.setHealth]

/-- Only a probe that is answered makes a new channel healthy. -/
theorem takes_probe : Takes allowed inv task (Carries inv task (some (.opening, channel)))
    (checkHealth channel) (fun _ => AtHand inv ready task channel)
    (Carries inv task (some (.opening, channel))) := by
  intro g opened
  refine And.intro opened.inv fun (response : Except Interrupt HealthStatus) h moved kept answered => ?_
  have later : Carries inv task (some (.opening, channel)) h := ⟨kept, moved.trans opened.hands⟩
  have sets : ∀ status, (status = .serving → ready channel (h.setHealth channel status)) →
      (∀ other, other ≠ task → (keeping allowed inv).rely other h (h.setHealth channel status)) ∧
        AtHand inv ready task channel (h.setHealth channel status) := by
    refine fun status serves => ⟨fun _ _ => rfl, ⟨?_, later.hands⟩, fun healthy => ?_⟩
    · exact upholds.setHealth h channel status later.inv
    · exact serves (isHealthy_setHealth.mp healthy)
  rcases response with (e | _) | status
  · exact sets .notServing fun serves => nomatch serves
  · exact later
  · refine sets status fun serves => ?_
    subst serves
    exact upholds.probed h task channel later.inv later.hands answered

theorem takes_openChannel :
    Takes allowed inv task (Carries inv task none) (openChannel task endpoint)
      (fun channel => AtHand inv ready task channel) (Carries inv task none) := by
  have closed : Closed fun {_} (x : Task _) => Maintains allowed inv task none x := closed_maintains
  refine Triple.bind (closed.call _) fun answer => Triple.bind (closed_orRaise closed answer) fun _ => ?_
  intro g idle
  rw [wp_bind, wp_get]
  refine wp_modify_hand rfl (upholds.create g task endpoint idle.inv idle.hands) fun opened => ?_
  have forgets : ∀ e, Takes allowed inv task (Carries inv task (some (.opening, g.created))) (do
      modify fun h => h.forget task (.probeCancelled g.created)
      throw e) (fun _ : Unit => AtHand inv ready task g.created) (Carries inv task none) := by
    intro e
    refine Triple.bind (takes_modify (fun _ _ => rfl) fun h hand => ?_) fun _ _ idle => idle
    exact upholds.forget h task _ _ hand.inv hand.hands (by trivial)
  refine Triple.bind (Triple.tryCatch (takes_probe upholds) forgets) (fun _ => ?_) _ opened
  exact fun _ atHand => atHand

theorem takes_handOut :
    Takes allowed inv task (fun g => AtHand inv ready task channel g ∧ g.isHealthy channel = true)
      (handOut task channel) (fun _ => Carries inv task none) (Carries inv task none) := by
  refine Triple.bind (fun g holds _ => holds) fun made => ?_
  cases made with
  | ok _ =>
    refine takes_modify (fun _ _ => rfl) fun g holds => ?_
    obtain ⟨⟨opened, serves⟩, healthy⟩ := holds
    exact upholds.handOut g task channel opened.inv opened.hands healthy (serves healthy)
  | error e =>
    refine Triple.bind (takes_modify (fun _ _ => rfl) fun g holds => ?_) fun _ _ idle => idle
    exact upholds.forget g task _ _ holds.1.carries.inv holds.1.carries.hands (by trivial)

theorem takes_close :
    Takes allowed inv task (Carries inv task (some (purpose, channel)))
      (modify fun g => g.close task channel : Task PUnit) (fun _ => Carries inv task none) Q :=
  takes_modify (fun _ _ => rfl) fun g hand => upholds.close g task purpose channel hand.inv hand.hands

theorem maintains_acquirePooled : Maintains allowed inv task none (acquirePooled task endpoint) := by
  have idles : ∀ found, Maintains allowed inv task none (pure found : Task (Option Nat)) :=
    fun _ _ idle => idle
  refine takes_withPermit upholds ((maintains_poolOf upholds endpoint).bind fun pool => ?_)
  cases first : pool.items with
  | nil => exact fun _ found => found.1
  | cons channel rest =>
    rintro g ⟨idle, found⟩
    obtain ⟨kept, serves⟩ :=
      upholds.popleft g task endpoint pool channel rest idle.inv found first idle.hands
    refine wp_modify_hand rfl kept fun opened => ?_
    rw [wp_bind, wp_get]
    split
    · exact (takes_handOut upholds).bind (fun _ => idles (some channel)) _ ⟨⟨opened, fun _ => serves⟩, ‹_›⟩
    · exact (takes_close upholds).bind (fun _ => idles none) _ opened

theorem maintains_acquireNew : Maintains allowed inv task none (acquireNew task endpoint) := by
  have idles : ∀ found, Maintains allowed inv task none (pure found : Task (Option Nat)) :=
    fun _ _ idle => idle
  refine (takes_openChannel upholds).bind fun channel => ?_
  intro g atHand
  rw [wp_bind, wp_get]
  split
  · exact (takes_handOut upholds).bind (fun _ => idles (some channel)) _ ⟨atHand, ‹_›⟩
  · refine Triple.bind (takes_modify (fun _ _ => rfl) fun h hand => ?_) (fun _ => idles none) _
      atHand.carries
    exact upholds.forget h task channel _ hand.inv hand.hands (by trivial)

theorem maintains_acquire : Maintains allowed inv task none (acquire config task) := by
  have closed : Closed fun {_} (x : Task _) => Maintains allowed inv task none x := closed_maintains
  have each : ∀ attempts, Maintains allowed inv task none (acquireEach config task attempts) := by
    intro attempts
    induction attempts with
    | zero => exact closed_raise closed _
    | succ attempts ih =>
      refine closed.bind (maintains_selectEndpoint upholds) fun endpoint =>
        closed.bind (maintains_acquirePooled upholds) fun pooled => ?_
      split
      · exact closed.pure _
      · refine closed.bind (closed_exceptException closed (maintains_acquireNew upholds) fun _ =>
          closed.awaited fun _ => closed.bind (closed_outcome closed _) fun _ =>
            closed.pure _) fun opened => ?_
        split
        · exact closed.pure _
        · exact ih
  exact each config.retryCount

theorem takes_putBack :
    Takes allowed inv task (Carries inv task (some (.returning, channel))) (putBack config task channel)
      (fun _ => Carries inv task none) (Carries inv task (some (.returning, channel))) := by
  intro g hand
  rw [putBack, wp_bind, wp_get]
  refine (maintains_poolOf upholds _).bind (fun pool => Triple.ite (fun _ => ?_) fun _ => ?_) _ hand
  · refine takes_modify (fun _ _ => rfl) fun h found => ?_
    exact upholds.append h task _ pool _ channel found.1.inv found.2 found.1.hands fun opens => nomatch opens
  · exact takes_modify (fun _ _ => rfl) fun h found =>
      upholds.close h task _ channel found.1.inv found.1.hands

theorem maintains_release : Maintains allowed inv task none (release config task channel) := by
  intro g idle
  rw [release, wp_bind, wp_get]
  split
  · refine wp_modify_hand rfl (upholds.giveBack g task channel idle.inv ‹_› idle.hands) fun given => ?_
    refine Triple.tryCatch (takes_withPermit upholds (takes_putBack upholds)) (fun e => ?_) _ given
    refine Triple.bind (takes_modify (fun _ _ => rfl) fun h hand => ?_) fun _ _ idle => idle
    exact upholds.keep h task channel hand.inv hand.hands
  · exact idle

theorem maintains_evict : Maintains allowed inv task none (evictUnhealthyConnections endpoint) := by
  refine (maintains_poolOf upholds endpoint).bind fun pool g found => ?_
  exact ⟨fun _ _ => rfl, upholds.evict g endpoint pool found.1.inv found.2, found.1.hands⟩

theorem maintains_warmPool (rounds : Nat) :
    Maintains allowed inv task none (warmPool config task endpoint rounds) := by
  have closed : Closed fun {_} (x : Task _) => Maintains allowed inv task none x := closed_maintains
  induction rounds with
  | zero => exact closed.throw _
  | succ rounds ih =>
    refine (maintains_poolOf upholds endpoint).bind fun pool =>
      Triple.ite (fun _ => ?_) fun _ _ found => found.1
    rintro g ⟨idle, found⟩
    have known : endpoint ∈ config.keys :=
      ((upholds.sound g idle.inv).keyed endpoint).mp ((Dict.mem_keys_iff _ _).mpr ⟨pool, found⟩)
    refine (takes_openChannel upholds).bind (fun channel => ?_) g idle
    intro h atHand
    rw [wp_bind, wp_get]
    split
    · rename_i healthy
      have present := takes_poolOf (Q := Carries inv task none) upholds
        (P := fun g => AtHand inv ready task channel g ∧ g.isHealthy channel = true) endpoint
        (fun absent => (absent known).elim) fun _ holds => holds.1.carries
      refine present.bind (fun pool => Triple.bind (takes_modify (fun _ _ => rfl) fun h found => ?_)
        fun _ => ih) h ⟨atHand, healthy⟩
      obtain ⟨⟨⟨opened, serves⟩, healthy⟩, found⟩ := found
      exact upholds.append h task endpoint pool _ channel opened.inv found opened.hands
        fun _ => serves healthy
    · exact (takes_close upholds).bind (fun _ => ih) h atHand.carries

theorem maintains_checkEndpointHealth (rounds : Nat) :
    Maintains allowed inv task none (checkEndpointHealth config task rounds endpoint) := by
  have closed : Closed fun {_} (x : Task _) => Maintains allowed inv task none x := closed_maintains
  refine closed_exceptException closed (takes_withPermit upholds ?_) fun _ => closed.pure _
  exact closed.bind (maintains_evict upholds) fun _ => maintains_warmPool upholds rounds

theorem maintains_schedule {f : ClientPool → List Endpoint} :
    Maintains allowed inv task none (modify fun g => { g with scheduled := f g } : Task PUnit) :=
  takes_note (fun _ => rfl) fun g => upholds.books g _ _ _

theorem maintains_healthCheckLoop (rounds : Nat) :
    Maintains allowed inv task none (healthCheckLoop config rounds) := by
  have closed : Closed fun {_} (x : Task _) => Maintains allowed inv task none x := closed_maintains
  induction rounds with
  | zero => exact closed.throw _
  | succ rounds ih =>
    refine closed.bind (maintains_schedule upholds) fun _ => closed.bind (closed_exceptException closed
      (closed.awaited fun _ => closed_outcome closed _) fun _ => closed.pure _) fun _ => ?_
    exact closed.awaited fun _ => closed.bind (closed_outcome closed _) fun _ => ih

theorem maintains_shutdown : Maintains allowed inv task none (shutdown config) := by
  have closed : Closed fun {_} (x : Task _) => Maintains allowed inv task none x := closed_maintains
  have drains : Maintains allowed inv task none (config.keys.forM fun endpoint => do
      let pool ← poolOf endpoint
      modify fun g => g.drain endpoint pool) := by
    refine closed.forM fun endpoint _ => (maintains_poolOf upholds endpoint).bind fun pool g found => ?_
    exact ⟨fun _ _ => rfl, upholds.drain g endpoint pool found.1.inv found.2, found.1.hands⟩
  refine closed.awaited fun joined => ?_
  split
  · exact closed_raise closed _
  · exact drains
  · exact drains

theorem maintains_operation (operation : Operation) :
    Maintains allowed inv task none (operation.run config task) := by
  have closed : Closed fun {_} (x : Task _) => Maintains allowed inv task none x := closed_maintains
  cases operation with
  | acquire => exact closed.bind (maintains_acquire upholds) fun _ => closed.pure _
  | release channel => exact maintains_release upholds
  | checkHealth channel =>
    refine closed.bind closed.get fun g => ?_
    split
    · exact maintains_checkHealth upholds channel
    · exact closed.pure _
  | healthCheckLoop rounds => exact maintains_healthCheckLoop upholds rounds
  | check index rounds =>
    refine closed.bind closed.get fun g => ?_
    split
    · exact closed.pure _
    · exact closed.bind (maintains_schedule upholds) fun _ => maintains_checkEndpointHealth upholds rounds
  | shutdown => exact maintains_shutdown upholds

theorem upheld {s : ClientPool} (inv_init : inv s) (idle : ∀ task, s.hands task = none)
    {c : Config ClientPool Answer Interrupt Unit} (reached : Reachable allowed
      (fun task x => ∃ operation : Operation, x = operation.run config task) s c) : inv c.shared := by
  refine reachable_inv (D := keeping allowed inv) (P := fun task => Carries inv task none) ?_
    (fun _ _ inv idle => ⟨inv, idle⟩) (fun _ _ carries => ⟨carries.inv, carries.hands⟩) inv_init idle reached
  rintro task x ⟨operation, rfl⟩
  exact maintains_operation upholds operation

end Tasks

end KuvaAI.GrpcClient
