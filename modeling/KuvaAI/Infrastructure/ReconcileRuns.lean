import KuvaAI.Infrastructure.Reconcile

/-! Reconciliations among each other: how many there are at a time, and what they have done
to the agents by then. -/
namespace KuvaAI.Reconcile
open Python Coroutine

variable {Spec : Type} {env : Env Spec} {want : String → Fields} {g h : Operator Spec}
  {tries : Tries} {task object : Nat} {resource : String}

/-- An action is the one that is desired of its resource, or the restart after three network
errors or a `RetryError` that none of them led to. -/
def Proper (env : Env Spec) (want : String → Fields) (done : Done Spec) : Prop :=
  match done.action with
  | .restart => (done.failures = 3 ∨ done.retryError = true) ∧ env.selfHealing = .ok true
  | action => done.failures < 3 ∧ desiredAction env (want done.resource) = .ok action

def Operator.desiredOf (g : Operator Spec) (object : Nat) : Option Fields :=
  g.objects[object]?.map ResourceState.desired

structure Sound (env : Env Spec) (want : String → Fields) (g : Operator Spec) : Prop where
  semaphore : g.semaphore.Sound env.maxConcurrentReconciles
  stored : ∀ resource object, g.store resource = some object →
    g.desiredOf object = some (want resource)
  missing : ∀ resource, g.store resource = none → want resource = []
  actions : ∀ done ∈ g.actions, Proper env want done

structure Leaves (task : Nat) (g h : Operator Spec) : Prop where
  semaphore : task ∈ h.semaphore.holders ↔ task ∈ g.semaphore.holders
  tries : h.tries task = g.tries task
  desired : ∀ object fields, g.desiredOf object = some fields → h.desiredOf object = some fields

def orderly (env : Env Spec) (want : String → Fields) :
    Discipline (Operator Spec) (Answer Spec) where
  allowed := served
  inv := Sound env want
  rely := Leaves
  idle task g := task ∉ g.semaphore.holders
  rely_refl _ _ := ⟨Iff.rfl, rfl, fun _ _ same => same⟩
  rely_trans _ _ _ _ first second :=
    ⟨second.semaphore.trans first.semaphore, second.tries.trans first.tries,
      fun o fields same => second.desired o fields (first.desired o fields same)⟩
  idle_stable _ _ _ leaves idle := leaves.semaphore.not.mpr idle

/-- A task with a permit, of which so much has failed, and what it knows to be desired by some
objects. -/
structure Holds (env : Env Spec) (want : String → Fields) (task : Nat) (tries : Tries)
    (known : List (Nat × Fields)) (g : Operator Spec) : Prop where
  sound : Sound env want g
  permit : task ∈ g.semaphore.holders
  tries : g.tries task = tries
  desired : ∀ p ∈ known, g.desiredOf p.1 = some p.2

variable {known : List (Nat × Fields)}

theorem Holds.later (holds : Holds env want task tries known g) (leaves : Leaves task g h)
    (sound : Sound env want h) : Holds env want task tries known h :=
  ⟨sound, leaves.semaphore.mpr holds.permit, leaves.tries.trans holds.tries,
    fun p member => leaves.desired _ _ (holds.desired p member)⟩

abbrev Does {α : Type} (env : Env Spec) (want : String → Fields) (task : Nat)
    (pre : Operator Spec → Prop) (x : Task Spec α) (post : α → Operator Spec → Prop)
    (failed : Operator Spec → Prop) : Prop :=
  Triple (orderly env want) task pre x post fun _ => failed

theorem Holds.closed : Closed fun {_} (x : Task Spec _) =>
    Does env want task (Holds env want task tries known) x (fun _ => Holds env want task tries known)
      (Holds env want task tries known) :=
  Triple.closed (fun _ holds => holds.sound) fun _ _ holds leaves sound => holds.later leaves sound

section Changes

theorem does_change (more : List (Nat × Fields)) {f : Operator Spec → Operator Spec}
    {exn : Failure → Operator Spec → Prop} (holds : Holds env want task tries known g)
    (semaphore : (f g).semaphore = g.semaphore) (kept : (f g).tries = g.tries)
    (desired : ∀ o fields, g.desiredOf o = some fields → (f g).desiredOf o = some fields)
    (sound : Sound env want (f g)) (learnt : ∀ p ∈ more, (f g).desiredOf p.1 = some p.2) :
    wp (orderly env want) task (fun _ => Holds env want task tries (more ++ known)) exn
      (modify f : Task Spec PUnit) g := by
  have leaves (t : Nat) : Leaves t g (f g) := ⟨by rw [semaphore], by rw [kept], desired⟩
  have later := holds.later (leaves task) sound
  refine ⟨fun other _ => leaves other, { later with desired := fun p member => ?_ }⟩
  rcases List.mem_append.mp member with new | old
  · exact learnt p new
  · exact later.desired p old

theorem desiredOf_allocate {fields : Fields} (here : g.desiredOf object = some fields) :
    g.allocate.desiredOf object = some fields := by
  obtain ⟨state, found, rfl⟩ := Option.map_eq_some_iff.mp here
  have within := (List.getElem?_eq_some_iff.mp found).1
  rw [Operator.desiredOf, Operator.allocate, List.getElem?_append_left within, found]
  rfl

theorem desiredOf_setCurrent (o : Nat) (status : AgentStatus) :
    (g.setCurrent o status).desiredOf object = g.desiredOf object := by
  rw [Operator.desiredOf, Operator.setCurrent, List.getElem?_modify]
  by_cases same : o = object <;> cases found : g.objects[object]? <;>
    simp [Operator.desiredOf, same, found]

/-- An object that is new desires nothing, as what is missing does. -/
theorem does_lookup : Does env want task (Holds env want task tries known) (lookup resource)
    (fun object => Holds env want task tries ((object, want resource) :: known))
    (Holds env want task tries known) := by
  intro g holds
  have sound := holds.sound
  rw [lookup, wp_bind, wp_get]
  cases stored : g.store resource with
  | some object =>
    exact { holds with
      desired := List.forall_mem_cons.mpr ⟨sound.stored resource object stored, holds.desired⟩ }
  | none =>
    refine (wp_bind _ _ _).mpr (does_change [(g.objects.length, want resource)] holds rfl rfl
      (fun _ _ => desiredOf_allocate) { sound with stored := fun r o found => ?_ } ?_)
    · exact desiredOf_allocate (sound.stored r o found)
    · simp [Operator.desiredOf, Operator.allocate, sound.missing resource stored]

theorem does_setCurrent (status : AgentStatus) :
    Does env want task (Holds env want task tries known)
      (modify fun g => g.setCurrent object status : Task Spec PUnit)
      (fun _ => Holds env want task tries known) (Holds env want task tries known) := by
  intro g holds
  have sound := holds.sound
  have same (o : Nat) : (g.setCurrent object status).desiredOf o = g.desiredOf o :=
    desiredOf_setCurrent object status
  refine does_change [] holds rfl rfl (fun o fields found => (same o).trans found)
    { sound with stored := fun r o found => ?_ } (by simp)
  exact (same o).trans (sound.stored r o found)

theorem does_setStore (looked : (object, want resource) ∈ known) :
    Does env want task (Holds env want task tries known)
      (modify fun g => g.setStore resource object : Task Spec PUnit)
      (fun _ => Holds env want task tries known) (Holds env want task tries known) := by
  intro g holds
  have sound := holds.sound
  refine does_change [] holds rfl rfl (fun o fields found => found)
    { sound with stored := ?_, missing := ?_ } (by simp)
  · intro r o found
    simp only [Operator.setStore, Function.update_apply] at found
    split at found
    · rename_i same
      cases found
      exact same ▸ holds.desired _ looked
    · exact sound.stored r o found
  · intro r absent
    simp only [Operator.setStore, Function.update_apply] at absent
    split at absent
    · cases absent
    · exact sound.missing r absent

theorem does_act {action : Action Spec} (proper : Proper env want ⟨tries, resource, action⟩) :
    Does env want task (Holds env want task tries known) (act task resource action)
      (fun _ => Holds env want task tries known) (Holds env want task tries known) := by
  refine Triple.bind (fun g holds => ?_) fun _ => Holds.closed.awaited fun answered =>
    Holds.closed.ofExcept _
  have sound := holds.sound
  refine does_change [] holds rfl rfl (fun o fields found => found)
    { sound with actions := ?_ } (by simp)
  intro done member
  rcases List.mem_append.mp member with before | now
  · exact sound.actions done before
  · cases List.mem_singleton.mp now
    rw [holds.tries]
    exact proper

end Changes

section Reconciliation

theorem desiredAction_proper {action : Action Spec} (few : tries.failures < 3)
    (asked : desiredAction env (want resource) = .ok action) :
    Proper env want ⟨tries, resource, action⟩ := by
  cases action with
  | restart =>
    simp only [desiredAction] at asked
    split at asked
    · cases asked
    · obtain ⟨agentSpec, _, asked⟩ := bind_eq_ok asked
      unfold targetAction at asked
      split_ifs at asked <;> cases asked
  | start spec => exact ⟨few, asked⟩
  | stop => exact ⟨few, asked⟩
  | terminate => exact ⟨few, asked⟩

theorem does_ask (call : Call Spec) (answered : Answer Spec call → Except Failure Unit) :
    Does env want task (Holds env want task tries known) (ask call answered)
      (fun _ => Holds env want task tries known) (Holds env want task tries known) :=
  Holds.closed.awaited fun _ => Holds.closed.ofExcept _

theorem does_applyStateChange (few : tries.failures < 3) :
    Does env want task (Holds env want task tries known)
      (applyStateChange env task resource (want resource)) (fun _ => Holds env want task tries known)
      (Holds env want task tries known) := by
  have acts : Does env want task (Holds env want task tries known) (do
      let action ← MonadExcept.ofExcept (desiredAction env (want resource))
      act task resource action) (fun _ => Holds env want task tries known)
      (Holds env want task tries known) := by
    cases asked : desiredAction env (want resource) with
    | error e => exact fun _ holds => holds
    | ok action => exact does_act (desiredAction_proper few asked)
  refine Triple.bind (does_ask _ _) fun _ => ?_
  refine Holds.closed.bind (Holds.closed.attempt acts) fun result => ?_
  refine Holds.closed.awaited fun (exited : Except Failure Bool) => ?_
  refine Holds.closed.bind (Holds.closed.ofExcept exited) fun swallowed => ?_
  cases result with
  | ok _ => exact Holds.closed.pure _
  | error e => exact Triple.ite (fun _ => Holds.closed.pure _) fun _ => Holds.closed.throw _

theorem does_attemptReconciliation (few : tries.failures < 3) (looked : (object, want resource) ∈ known) :
    Does env want task (Holds env want task tries known)
      (attemptReconciliation env task resource object (want resource))
      (fun _ => Holds env want task tries known) (Holds env want task tries known) := by
  refine Holds.closed.awaited fun (answered : Except Failure AgentStatus) => ?_
  refine Holds.closed.bind (Holds.closed.ofExcept answered) fun status => ?_
  refine Holds.closed.bind (does_setCurrent status) fun _ => ?_
  refine Holds.closed.bind ?_ fun _ => Holds.closed.bind ?_ fun _ => does_ask _ _
  · exact Triple.ite (fun _ => Holds.closed.pure _) fun _ => does_applyStateChange few
  · exact Holds.closed.bind (does_setStore looked) fun _ => does_ask _ _

theorem forgets {object : Nat} {fields : Fields}
    (holds : Holds env want task tries ((object, fields) :: known) g) : Holds env want task tries known g :=
  { holds with desired := (List.forall_mem_cons.mp holds.desired).2 }

theorem does_onFailure (e : Failure) : Does env want task (Holds env want task tries known)
    (onFailure e) (fun _ => Holds env want task tries known) (Holds env want task tries known) := by
  cases e with
  | validation text => exact does_ask _ _
  | client text => exact Holds.closed.throw _
  | cancelled => exact Holds.closed.throw _
  | _ => exact Holds.closed.bind (does_ask _ _) fun _ => Holds.closed.throw _

theorem does_performReconciliation (few : tries.failures < 3) :
    Does env want task (Holds env want task tries []) (performReconciliation env task resource)
      (fun _ => Holds env want task tries []) (Holds env want task tries []) := by
  refine Triple.bind does_lookup fun object g holds => ?_
  have read : (g.objects[object]?.map ResourceState.desired).getD [] = want resource := by
    rw [show g.objects[object]?.map ResourceState.desired = some (want resource) from
      holds.desired _ List.mem_cons_self]
    rfl
  rw [wp_bind, wp_get]
  simp only [read]
  have attempts : Does env want task (Holds env want task tries [(object, want resource)])
      (tryCatch (attemptReconciliation env task resource object (want resource)) onFailure)
      (fun _ => Holds env want task tries [(object, want resource)])
      (Holds env want task tries [(object, want resource)]) :=
    Triple.tryCatch (does_attemptReconciliation few List.mem_cons_self) does_onFailure
  exact (attempts.conseq (fun _ holds => holds) (fun _ _ holds => forgets holds)
    fun _ _ holds => forgets holds) g holds

def Permitted (env : Env Spec) (want : String → Fields) (task : Nat) (g : Operator Spec) : Prop :=
  ∃ tries, Holds env want task tries [] g

def Tries.Exhausted (tries : Tries) : Prop := tries.failures = 3 ∨ tries.retryError = true

def Ended (env : Env Spec) (want : String → Fields) (task : Nat) (e : Failure) (g : Operator Spec) :
    Prop :=
  ∃ tries, Holds env want task tries [] g ∧ (e = .retryError → tries.Exhausted)

theorem does_setTries (later : Tries) {Q : Operator Spec → Prop} :
    Does env want task (Holds env want task tries [])
      (modify fun g => g.setTries task later : Task Spec PUnit)
      (fun _ => Holds env want task later []) Q := by
  intro g holds
  have sound := holds.sound
  refine ⟨fun other different => ⟨Iff.rfl, ?_, fun _ _ found => found⟩, { sound with }, holds.permit,
    ?_, by simp⟩
  · exact Function.update_of_ne different _ _
  · exact Function.update_self _ _ _

theorem does_pause (seconds : Nat) : Triple (orderly env want) task (Holds env want task tries [])
    (pause seconds) (fun _ => Holds env want task tries []) (Ended env want task) := by
  intro g holds
  refine (wp_bind _ _ _).mpr ⟨holds.sound, fun (wake : Wake) h leaves sound _ => ?_⟩
  have later := holds.later leaves sound
  cases wake with
  | woken => exact later
  | cancelled => exact ⟨tries, later, by simp⟩

theorem AsyncRetrying.client_of_after {retrying : AsyncRetrying} {number : Nat} {e : Failure}
    {decision : Decision} (decided : retrying.after number e = decision) (other : decision ≠ .reraise) :
    ∃ text, e = .client text := by
  by_contra different
  have reraised := retrying.reraised number e fun text same => different ⟨text, same⟩
  exact other (decided.symm.trans reraised)

/-- Each attempt that is tried again has failed with a network error, and the third is the
last. -/
theorem does_retrying (attempts number : Nat) (count : number + attempts = 4)
    (failed : tries.failures + 1 = number) :
    Triple (orderly env want) task (Holds env want task tries [])
      (retrying env task resource attempts number) (fun _ => Permitted env want task)
      (Ended env want task) := by
  induction attempts generalizing number tries with
  | zero => exact fun g holds => ⟨tries, holds, by simp⟩
  | succ attempts ih =>
    have attempted : Does env want task (Holds env want task tries [])
        (attempt (performReconciliation env task resource)) (fun _ => Holds env want task tries [])
        fun _ => False := Triple.attempt (does_performReconciliation (by omega))
    refine (attempted.conseq (fun _ holds => holds) (fun _ _ holds => holds)
      fun _ _ never => never.elim).bind fun result => ?_
    cases result with
    | ok _ => exact fun _ holds => ⟨tries, holds⟩
    | error e =>
      intro g holds
      have noted := does_setTries ((g.tries task).fail e) (Q := fun _ => False) g holds
      refine (wp_bind _ _ _).mpr (wp_mono noted (fun _ h noted => ?_) fun _ _ never => never.elim)
      rw [holds.tries] at noted
      cases decided : env.retrying.after number e with
      | again seconds =>
        obtain ⟨text, rfl⟩ := AsyncRetrying.client_of_after decided (by simp)
        have counted : (tries.fail (.client text)).failures + 1 = number + 1 := by
          rw [← failed]
          rfl
        exact (does_pause seconds).bind (fun _ => ih (number + 1) (by omega) counted) h noted
      | retryError =>
        obtain ⟨text, rfl⟩ := AsyncRetrying.client_of_after decided (by simp)
        have last : ¬ number < 3 := fun early => by
          obtain ⟨seconds, again⟩ := env.retrying.retried number text early
          cases again.symm.trans decided
        have third : tries.failures + 1 = 3 := by omega
        exact ⟨_, noted, fun _ => .inl third⟩
      | reraise =>
        refine ⟨_, noted, fun same => ?_⟩
        subst same
        exact .inr rfl

theorem does_handle (exhausted : tries.Exhausted) : Does env want task (Holds env want task tries [])
    (handleReconciliationFailure env task resource) (fun _ => Holds env want task tries [])
    (Holds env want task tries []) := by
  refine Holds.closed.bind (does_ask _ _) fun _ => ?_
  cases healing : env.selfHealing with
  | error e => exact fun _ holds => holds
  | ok healing' =>
    cases healing' with
    | false => exact fun _ holds => holds
    | true => exact does_act ⟨exhausted, healing⟩

theorem does_onExhausted (e : Failure) : Does env want task (Ended env want task e)
    (onExhausted env task resource e) (fun _ => Permitted env want task) (Permitted env want task) := by
  rintro g ⟨tries, holds, told⟩
  cases e with
  | retryError =>
    exact wp_mono (does_handle (told rfl) g holds) (fun _ _ holds => ⟨_, holds⟩) fun _ _ holds => ⟨_, holds⟩
  | _ => exact ⟨tries, holds⟩

structure Idle (env : Env Spec) (want : String → Fields) (task : Nat) (g : Operator Spec) : Prop where
  sound : Sound env want g
  free : task ∉ g.semaphore.holders

theorem wp_takePermit {exn : Failure → Operator Spec → Prop} (idle : Idle env want task g)
    (free : 0 < g.semaphore.free) :
    wp (orderly env want) task (fun _ => Permitted env want task) exn (takePermit task) g := by
  have sound := idle.sound
  refine ⟨fun other different => ⟨?_, rfl, fun _ _ found => found⟩, g.tries task, ?_⟩
  · simp [different]
  · refine ⟨{ sound with semaphore := sound.semaphore.take free idle.free }, ?_, rfl, by simp⟩
    exact Permits.mem_take.mpr (.inl rfl)

theorem does_acquire : Does env want task (Idle env want task) (acquire task)
    (fun _ => Permitted env want task) (Idle env want task) := by
  intro g idle
  rw [acquire, wp_bind, wp_get, wp_ite]
  split
  · refine And.intro idle.sound fun (wake : Wake) h leaves sound answered => ?_
    have later : Idle env want task h := ⟨sound, leaves.semaphore.not.mpr idle.free⟩
    cases wake with
    | woken => exact wp_takePermit later answered
    | cancelled => exact later
  · exact wp_takePermit idle (Nat.pos_of_ne_zero ‹_›)

theorem does_givePermit {Q : Operator Spec → Prop} : Does env want task (Permitted env want task)
    (modify fun g => { g with semaphore := g.semaphore.give task } : Task Spec Unit)
    (fun _ => Idle env want task) Q := by
  rintro g ⟨tries, holds⟩
  have sound := holds.sound
  refine ⟨fun other different => ⟨?_, rfl, fun _ _ found => found⟩, ?_, ?_⟩
  · exact Permits.mem_give_of_ne different
  · exact { sound with semaphore := sound.semaphore.give holds.permit }
  · exact sound.semaphore.not_mem_give

theorem does_reconcile : Does env want task (Idle env want task) (reconcile env task resource)
    (fun _ => Idle env want task) (Idle env want task) := by
  have attempts : Does env want task (Holds env want task ⟨0, false⟩ [])
      (tryCatch (retrying env task resource 3 1) (onExhausted env task resource))
      (fun _ => Permitted env want task) (Permitted env want task) :=
    Triple.tryCatch (does_retrying 3 1 rfl rfl) does_onExhausted
  have body : Does env want task (Permitted env want task) (do
      modify fun g => g.setTries task ⟨0, false⟩
      tryCatch (retrying env task resource 3 1) (onExhausted env task resource))
      (fun _ => Permitted env want task) (Permitted env want task) := by
    rintro g ⟨tries, holds⟩
    exact Triple.bind (does_setTries _) (fun _ => attempts) g holds
  exact Triple.bind does_acquire fun _ =>
    Triple.finallyDo body (fun _ => does_givePermit) fun _ => does_givePermit

end Reconciliation

structure Fresh (env : Env Spec) (start : Operator Spec) : Prop where
  semaphore : start.semaphore = .full env.maxConcurrentReconciles
  stored : ∀ resource object, start.store resource = some object → object < start.objects.length
  actions : start.actions = []

theorem Fresh.sound {start : Operator Spec} (fresh : Fresh env start) :
    Sound env start.desired start where
  semaphore := fresh.semaphore ▸ Permits.sound_full _
  stored resource object found := by
    have within := fresh.stored resource object found
    simp [Operator.desiredOf, Operator.desired, found, within]
  missing resource absent := by simp [Operator.desired, absent]
  actions done member := by
    rw [fresh.actions] at member
    cases member

theorem Sound.desired (sound : Sound env want g) (resource : String) :
    g.desired resource = want resource := by
  unfold Operator.desired
  cases found : g.store resource with
  | none => exact (sound.missing resource found).symm
  | some object =>
    have stored : g.objects[object]?.map ResourceState.desired = some (want resource) :=
      sound.stored resource object found
    simp [stored]

theorem reaches_sound {start : Operator Spec} (fresh : Fresh env start)
    {c : Config (Operator Spec) (Answer Spec) Failure Unit}
    (reached : Reaches env start c) : Sound env start.desired c.shared := by
  have runs : ∀ task x, IsReconciliation env task x →
      Does env start.desired task (Idle env start.desired task) x
        (fun _ => Idle env start.desired task) (Idle env start.desired task) := by
    rintro task x ⟨resource, rfl⟩
    exact does_reconcile
  refine reachable_inv (D := orderly env start.desired) runs (fun _ _ sound free => ⟨sound, free⟩)
    (fun _ _ idle => ⟨idle.sound, idle.free⟩) fresh.sound (fun task => ?_) reached
  change task ∉ start.semaphore.holders
  rw [fresh.semaphore]
  exact List.not_mem_nil

/-- No reconciliation changes what is desired, no more of them are under way than the
operator allows, and each action on an agent is the one its desired state asks for, or a
restart after three network errors or a `RetryError`. -/
theorem actions_desired (env : Env Spec) (start : Operator Spec) (fresh : Fresh env start)
    (c : Config (Operator Spec) (Answer Spec) Failure Unit)
    (reached : Reaches env start c) :
    (∀ resource, c.shared.desired resource = start.desired resource) ∧
      c.shared.semaphore.free + c.shared.semaphore.holders.length = env.maxConcurrentReconciles ∧
      ∀ done ∈ c.shared.actions, Proper env start.desired done := by
  have sound := reaches_sound fresh reached
  exact ⟨sound.desired, sound.semaphore.count, sound.actions⟩

/-- Nothing ever enters the store that desires anything: an operator that is left as it is
made only restarts agents. -/
theorem only_restarts (env : Env Spec)
    (c : Config (Operator Spec) (Answer Spec) Failure Unit)
    (reached : Reaches env (.init env) c) :
    ∀ done ∈ c.shared.actions, done.action = .restart ∧
      (done.failures = 3 ∨ done.retryError = true) ∧ env.selfHealing = .ok true := by
  have fresh : Fresh env (.init env) := ⟨rfl, nofun, rfl⟩
  intro done member
  have proper := (reaches_sound fresh reached).actions done member
  obtain ⟨tries, resource, action⟩ := done
  cases action with
  | restart => exact ⟨rfl, proper⟩
  | start spec => cases proper.2
  | stop => cases proper.2
  | terminate => cases proper.2

section Instance

def exponential : AsyncRetrying where
  after
    | number, .client _ => if number < 3 then .again (Nat.pow 2 (number - 1)) else .retryError
    | _, _ => .reraise
  retried _ _ early := ⟨_, if_pos early⟩
  stopped _ := rfl
  reraised _ e other := by
    cases e with
    | client text => exact (other text rfl).elim
    | _ => rfl

def defaults : Env Unit where
  parse _ := .ok ()
  text _ := ""
  retrying := exponential
  maxConcurrentReconciles := 5
  selfHealing := .ok true

def asked : Operator Unit where
  store resource := if resource = "agent-1" then some 0 else none
  objects := [⟨[("targetState", .str "RUNNING")], []⟩]
  semaphore := .full 5
  tries _ := ⟨0, false⟩
  actions := []

def unreachable (_ : Nat) : (call : Call Unit) → Answer Unit call
  | .permit | .sleep _ => Wake.woken
  | .getStatus _ => Except.error (.client "Cannot connect to host")
  | .exit _ => Except.ok false
  | .enter _ | .act .. | .recordMetric _ | .trigger => Except.ok ()

theorem agent_started : ∃ c : Config (Operator Unit) (Answer Unit) Failure Unit,
    c.shared.actions.length = 1 ∧ ∀ done ∈ c.shared.actions, Proper defaults asked.desired done := by
  have idle : Reaches defaults asked (.init asked) := .refl
  have waits := idle.spawn 0 (x := reconcile defaults 0 "agent-1") unreachable rfl ⟨"agent-1", rfl⟩
  have stopped := waits.resume 0 (.getStatus "agent-1") (.ok ⟨.str "STOPPED", []⟩) unreachable rfl trivial
  have entered := stopped.resume 0 (.enter "agent-1") (.ok ()) unreachable rfl trivial
  have fresh : Fresh defaults asked := by
    refine ⟨rfl, fun resource object found => ?_, rfl⟩
    simp only [asked] at found
    split at found
    · cases found
      decide
    · cases found
  exact ⟨_, rfl, (actions_desired defaults asked fresh _ entered).2.2⟩

theorem agent_restarted : ∃ c : Config (Operator Unit) (Answer Unit) Failure Unit,
    c.shared.actions.length = 1 ∧ ∀ done ∈ c.shared.actions, done.action = .restart ∧
      (done.failures = 3 ∨ done.retryError = true) ∧ defaults.selfHealing = .ok true := by
  have idle : Reaches defaults (.init defaults) (.init (.init defaults)) := .refl
  have first := idle.spawn 0 (x := reconcile defaults 0 "agent-1") unreachable rfl ⟨"agent-1", rfl⟩
  have waits := first.resume 0 (.getStatus "agent-1") (.error (.client "")) unreachable rfl trivial
  have second := waits.resume 0 (.sleep 1) Wake.woken unreachable rfl trivial
  have waits' := second.resume 0 (.getStatus "agent-1") (.error (.client "")) unreachable rfl trivial
  have third := waits'.resume 0 (.sleep 2) Wake.woken unreachable rfl trivial
  have failed := third.resume 0 (.getStatus "agent-1") (.error (.client "")) unreachable rfl trivial
  have counted := failed.resume 0 (.recordMetric "reconcile_failure_total") (.ok ()) unreachable rfl trivial
  exact ⟨_, rfl, only_restarts defaults _ counted⟩

end Instance

end KuvaAI.Reconcile
