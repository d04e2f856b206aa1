import KuvaAI.Infrastructure.Operator

/-! Whether two operators of a namespace can be in their control loops at once. A lease
runs out, and its holder neither renews it nor leaves. -/
namespace KuvaAI.Operator
open Python Coroutine

def served (operator : Nat) : (call : Call) → Answer call → Cluster → Prop
  | .leaderLock, .ok (), s => s.locked operator = false
  | _, _, _ => True

/-- Whenever the service handles a request after a lease has expired, no operator that
was granted one is in the control loop or on its way there. -/
def succeeding (operator : Nat) : (call : Call) → Answer call → Cluster → Prop
  | .post _, .ok (), s => ∀ expiry, s.lease = some expiry → expiry ≤ s.now → ∀ other, s.stage other = .out
  | call, answer, s => served operator call answer s

def IsProcess (operator : Nat) (x : Task Unit) : Prop :=
  (∃ spec rounds, spec.leaderElection = true ∧ x = runForever spec operator rounds) ∨
    ∃ seconds, 0 ≤ seconds ∧ x = elapse seconds

def Reaches (c : Config Cluster Answer Interrupt Unit) : Prop := Reachable served IsProcess .init c

section Discipline

/-- At most one operator has the lead or is about to take it, and a lease was granted for it. -/
structure Led (s : Cluster) : Prop where
  single : ∀ i j, s.stage i ≠ .out → s.stage j ≠ .out → i = j
  leased : ∀ i, s.stage i ≠ .out → s.lease ≠ none

def leading : Discipline Cluster Answer where
  allowed := succeeding
  inv := Led
  rely operator s t := t.stage operator = s.stage operator
  idle operator s := s.stage operator = .out
  rely_refl _ _ := rfl
  rely_trans _ _ _ _ first second := second.trans first
  idle_stable _ _ _ same out := same.trans out

variable {operator : Nat} {stage : Stage} {s : Cluster}

structure At (operator : Nat) (stage : Stage) (s : Cluster) : Prop where
  led : Led s
  stage : s.stage operator = stage

abbrev Does {α : Type} (operator : Nat) (pre : Cluster → Prop) (x : Task α) (post : α → Cluster → Prop)
    (failed : Cluster → Prop) : Prop :=
  Triple leading operator pre x post fun _ => failed

abbrev Stays {α : Type} (operator : Nat) (stage : Stage) (x : Task α) : Prop :=
  Does operator (At operator stage) x (fun _ => At operator stage) (At operator stage)

theorem closed_stays : Closed fun {_} (x : Task _) => Stays operator stage x :=
  Triple.closed (fun _ at_ => at_.led) fun _ _ at_ same led => ⟨led, same.trans at_.stage⟩

@[simp] theorem stage_stands (i : Nat) :
    (s.stands operator stage).stage i = if i = operator then stage else s.stage i :=
  Function.update_apply s.stage operator stage i

theorem stays_setLock (locked : Bool) :
    Stays operator stage (modify fun s => s.setLock operator locked : Task PUnit) :=
  fun _ at_ => ⟨fun _ _ => rfl, ⟨at_.led.single, at_.led.leased⟩, at_.stage⟩

theorem does_stands {before after : Stage} {Q : Cluster → Prop} (leads : after ≠ .out → before ≠ .out) :
    Does operator (At operator before) (modify fun s => s.stands operator after : Task PUnit)
      (fun _ => At operator after) Q := by
  rintro s ⟨led, here⟩
  have fewer : ∀ i, (s.stands operator after).stage i ≠ .out → s.stage i ≠ .out := by
    intro i stands
    rw [stage_stands] at stands
    split at stands
    · rename_i same
      rw [same, here]
      exact leads stands
    · exact stands
  refine ⟨fun other different => ?_, ⟨?_, ?_⟩, by simp⟩
  · change (s.stands operator after).stage other = s.stage other
    simp [different]
  · exact fun i j first second => led.single i j (fewer i first) (fewer j second)
  · exact fun i stands => led.leased i (fewer i stands)

theorem does_leaves {Q : Cluster → Prop} :
    Does operator (fun s => ∃ before, At operator before s)
      (modify fun s => s.stands operator .out : Task PUnit) (fun _ => At operator .out) Q := by
  rintro s ⟨before, at_⟩
  exact does_stands (fun leads => absurd rfl leads) s at_

theorem all_out (led : Led s) (vacant : s.Vacant)
    (succeeds : ∀ expiry, s.lease = some expiry → expiry ≤ s.now → ∀ other, s.stage other = .out)
    (other : Nat) : s.stage other = .out := by
  cases granted : s.lease with
  | none =>
    by_contra leads
    exact led.leased other leads granted
  | some expiry => exact succeeds expiry granted (vacant expiry granted) other

theorem wp_handle {α : Type} {ttl : Rat} {k : PUnit → Task α} {post : α → Cluster → Prop}
    {exn : Interrupt → Cluster → Prop} (at_ : At operator .out s)
    (succeeds : ∀ expiry, s.lease = some expiry → expiry ≤ s.now → ∀ other, s.stage other = .out)
    (rest : ∀ t, At operator (if s.Vacant then .granted else .out) t →
      wp leading operator post exn (k ⟨⟩) t) :
    wp leading operator post exn (modify (fun s => s.handle operator ttl) >>= k) s := by
  by_cases vacant : s.Vacant
  · have out := all_out at_.led vacant succeeds
    have alone : ∀ i, (s.handle operator ttl).stage i ≠ .out → i = operator := by
      intro i leads
      by_contra different
      rw [Cluster.handle, if_pos vacant, stage_stands, if_neg different] at leads
      exact leads (out i)
    have granted : (s.handle operator ttl).lease = some (s.now + ttl) ∧
        (s.handle operator ttl).stage operator = .granted := by
      simp [Cluster.handle, vacant, Cluster.stands]
    refine wp_modify_bind (fun other different => ?_) (rest _ ⟨⟨?_, ?_⟩, ?_⟩)
    · change (s.handle operator ttl).stage other = s.stage other
      simp [Cluster.handle, vacant, different]
    · exact fun i j first second => (alone i first).trans (alone j second).symm
    · exact fun i _ none => nomatch granted.1.symm.trans none
    · rw [if_pos vacant]
      exact granted.2
  · have same : s.handle operator ttl = s := if_neg vacant
    refine wp_modify_bind (fun other _ => ?_) (rest _ ?_)
    · exact congrArg (Cluster.stage · other) same
    · rw [same, if_neg vacant]
      exact at_

/-- An operator is told that it leads exactly if it has been granted a lease. -/
theorem does_postLease (ttl : Rat) :
    Does operator (At operator .out) (postLease operator ttl)
      (fun status => At operator (if status = 201 then .granted else .out))
      fun s => ∃ before, At operator before s := by
  intro s out
  refine And.intro out.led fun (handled : Except Interrupt Unit) t same led succeeds => ?_
  have here : At operator .out t := ⟨led, same.trans out.stage⟩
  cases handled with
  | error e => exact ⟨.out, here⟩
  | ok _ =>
    refine (wp_bind _ _ t).mpr (wp_handle here succeeds fun u told => ?_)
    refine And.intro told.led fun (answered : Except Interrupt Unit) v later led _ => ?_
    have still := At.mk led (later.trans told.stage)
    cases answered with
    | error e => exact ⟨_, still⟩
    | ok _ =>
      change At operator (if (if t.Vacant then 201 else 409) = 201 then .granted else .out) v
      by_cases vacant : t.Vacant
      · simpa [vacant] using still
      · simpa [vacant] using still

theorem stays_controlLoop (spec : OperatorSpec) (rounds : Nat) :
    Stays operator stage (controlLoop spec rounds) := by
  have closed : Closed fun {_} (x : Task _) => Stays operator stage x := closed_stays
  induction rounds with
  | zero => exact closed.throw _
  | succ rounds ih =>
    have listed : Stays operator stage listManagedResources :=
      closed_exceptException closed (closed.awaited fun _ => closed_outcome closed _) fun _ => closed.pure _
    refine closed.bind (closed_exceptException closed (closed_asyncWith closed ?_ ?_ ?_) fun _ => ?_)
      fun _ => ih
    · exact closed.awaited fun _ => closed_outcome closed _
    · exact closed.awaited fun _ => closed_outcome closed _
    · refine closed.bind (closed.bind listed fun _ => closed.awaited fun _ => closed_outcome closed _)
        fun _ => ?_
      exact closed.awaited fun _ => closed_outcome closed _
    · exact closed.awaited fun _ => closed_outcome closed _

theorem does_withLeaderLock {α : Type} {body : Task α}
    (runs : Does operator (At operator .out) body (fun _ => At operator .out) (At operator .out)) :
    Stays operator .out (withLeaderLock operator body) := by
  have closed : Closed fun {_} (x : Task _) => Stays operator .out x := closed_stays
  refine closed.bind closed.get fun s => ?_
  have locks : Stays operator .out (do
      modify fun s => s.setLock operator true
      finallyDo body (modify fun s => s.setLock operator false)) :=
    closed.bind (stays_setLock true) fun _ => closed.finallyDo runs (stays_setLock false)
  split
  · exact closed.awaited fun _ => closed.bind (closed_outcome closed _) fun _ => locks
  · exact locks

theorem stays_runForever {spec : OperatorSpec} (elects : spec.leaderElection = true) (rounds : Nat) :
    Stays operator .out (runForever spec operator rounds) := by
  have closed : Closed fun {_} (x : Task _) => Stays operator .out x := closed_stays
  rw [runForever, leaderElection, if_pos elects]
  refine closed.bind (does_withLeaderLock ?_) fun yielded => closed_raiseIf closed _ _
  refine Triple.finallyDo (Triple.bind (does_postLease 30) fun status => ?_) (fun _ => does_leaves)
    fun _ => does_leaves
  refine Triple.ite (fun created => ?_) fun refused => ?_
  · simp only [created, if_true]
    refine Triple.bind (Triple.bind (does_stands (by decide)) fun _ => ?_) fun _ _ ended => ended
    refine Triple.finallyDo (stays_controlLoop spec rounds) (fun _ => ?_) fun _ => ?_
    · exact does_leaves.conseq (fun _ at_ => ⟨_, at_⟩) (fun _ _ out => ⟨_, out⟩) fun _ _ out => out
    · exact does_leaves.conseq (fun _ at_ => ⟨_, at_⟩) (fun _ _ out => ⟨_, out⟩) fun _ _ out => out
  · exact fun _ at_ => ⟨_, at_⟩

theorem stays_process {x : Task Unit} (process : IsProcess operator x) : Stays operator .out x := by
  rcases process with ⟨spec, rounds, elects, rfl⟩ | ⟨seconds, _, rfl⟩
  · exact stays_runForever elects rounds
  · exact fun s at_ => ⟨fun _ _ => rfl, ⟨at_.led.single, at_.led.leased⟩, at_.stage⟩

end Discipline

/-- A run in which every leader is gone when its lease has expired and the next request
is handled has at most one operator in its control loop. -/
theorem single_leader {c : Config Cluster Answer Interrupt Unit}
    (reached : Reachable succeeding IsProcess .init c) (i j : Nat) (first : c.shared.stage i = .inside)
    (second : c.shared.stage j = .inside) : i = j := by
  have led : Led .init := ⟨fun _ _ leads => absurd rfl leads, fun _ leads => absurd rfl leads⟩
  have led := reachable_inv (D := leading) (fun _ _ process => stays_process process)
    (fun _ _ led out => ⟨led, out⟩) (fun _ _ at_ => ⟨at_.led, at_.stage⟩) led (fun _ => rfl) reached
  refine led.single i j ?_ ?_
  · simp [first]
  · simp [second]

section Instance

def clusterAnswer (_ : Nat) : (call : Call) → Answer call
  | .leaderLock => .ok ()
  | .post _ => .ok ()
  | .response => .ok ()
  | .protect => .ok ()
  | .unprotect => .ok false
  | .listing => .ok []
  | .gather _ => .ok ()
  | .sleep _ => .ok ()
  | .backoff => .ok ()

def defaultSpec : OperatorSpec := ⟨5, true⟩

theorem isProcess_runForever (operator : Nat) :
    IsProcess operator (runForever defaultSpec operator 1) := .inl ⟨defaultSpec, 1, rfl, rfl⟩

/-- The second operator asks for the lease a second after that of the first has expired. -/
theorem two_leaders : ∃ c, Reaches c ∧ c.shared.stage 0 = .inside ∧ c.shared.stage 1 = .inside := by
  have idle : Reaches (.init .init) := .refl
  have asks := idle.spawn 0 clusterAnswer rfl (isProcess_runForever 0)
  have granted := asks.resume 0 (.post 30) (.ok ()) clusterAnswer rfl trivial
  have leads := granted.resume 0 .response (.ok ()) clusterAnswer rfl trivial
  have late := leads.spawn 2 clusterAnswer rfl (.inr ⟨31, by decide, rfl⟩)
  have asks' := late.spawn 1 clusterAnswer rfl (isProcess_runForever 1)
  have granted' := asks'.resume 1 (.post 30) (.ok ()) clusterAnswer rfl trivial
  have leads' := granted'.resume 1 .response (.ok ()) clusterAnswer rfl trivial
  exact ⟨_, leads', by decide +kernel, by decide +kernel⟩

theorem leaders_in_turn : ∃ c, Reachable succeeding IsProcess .init c ∧ c.shared.stage 1 = .inside ∧
    ∀ i j, c.shared.stage i = .inside → c.shared.stage j = .inside → i = j := by
  have idle : Reachable succeeding IsProcess .init (.init .init) := .refl
  have asks := idle.spawn 0 clusterAnswer rfl (isProcess_runForever 0)
  have granted := asks.resume 0 (.post 30) (.ok ()) clusterAnswer rfl (fun _ none => nomatch none)
  have leads := granted.resume 0 .response (.ok ()) clusterAnswer rfl trivial
  have gone := leads.resume 0 .protect (.error .cancelled) clusterAnswer rfl trivial
  have late := gone.spawn 2 clusterAnswer rfl (.inr ⟨31, by decide, rfl⟩)
  have asks' := late.spawn 1 clusterAnswer rfl (isProcess_runForever 1)
  have nobody : ∀ other, (Function.update (Function.update (Function.update (Function.update
      (fun _ => Stage.out) 0 .granted) 0 .inside) 0 .out) 0 .out) other = .out := by simp
  have granted' := asks'.resume 1 (.post 30) (.ok ()) clusterAnswer rfl (fun _ _ _ => nobody)
  have leads' := granted'.resume 1 .response (.ok ()) clusterAnswer rfl trivial
  exact ⟨_, leads', by decide +kernel, single_leader leads'⟩

end Instance

end KuvaAI.Operator
