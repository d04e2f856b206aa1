import KuvaAI.Security.ZtaEngine
import KuvaAI.Lib.Effect
import KuvaAI.Lib.Runs

/-! Sessions of zta_engine.py and their monitoring. `SessionCache` has a constructor
and nothing else in the repository, so the three methods that the engine calls on it
are taken with what a faithful store owes. -/
namespace KuvaAI.Zta
open Python

/-- The fields `principal` and `context` are only handed to the risk engine, whose
scores are inputs here. -/
structure Session where
  id : String
  riskScore : Flt
  constraints : Value

structure SessionCache (Store : Type) where
  /-- The store with the new session, and the id that the session has in it. -/
  createSession : Store → String → Flt → Value → Store × String
  get : Store → String → Option Session
  update : Store → Session → Store
  get_created : ∀ s user score constraints,
    get (createSession s user score constraints).1 (createSession s user score constraints).2 =
      some ⟨(createSession s user score constraints).2, score, constraints⟩
  get_update : ∀ s session id,
    get (update s session) id = if id = session.id then some session else get s id
  get_id : ∀ s id session, get s id = some session → session.id = id

structure Engine (Store : Type) where
  sessions : Store
  authAttempts : Nat

inductive Failure where
  | authenticationError (text : String)
  | raised (e : Exn)
  deriving DecidableEq, Repr

section Sessions

variable {Store P C : Type} (cache : SessionCache Store)

variable (matchRule : Rule → P → C → Bool)

/-- `verified` is the outcome of `_verify_credential`, and `riskScore` the answer of
the risk engine. -/
def authenticate (policy : ZTAPolicy) (userId : P → String) (verified : Except Failure P)
    (riskScore : Flt) (context : C) : Effect (Engine Store) Failure Decision := fun e =>
  match verified with
  | .error (.authenticationError text) =>
    (.error (.authenticationError text), { e with authAttempts := e.authAttempts + 1 })
  | .error failure => (.error failure, e)
  | .ok principal =>
    match makeAuthorizationDecision matchRule policy principal riskScore context with
    | .error exn => (.error (.raised exn), e)
    | .ok (.denied reason) => (.ok (.denied reason), e)
    | .ok (.granted constraints score) =>
      (.ok (.granted constraints score), { e with sessions :=
        (cache.createSession e.sessions (userId principal) riskScore constraints).1 })

def monitorSession (sessionId : String) (newRisk : Flt) : Effect Store Exn Bool := fun s =>
  match cache.get s sessionId with
  | none => (.ok false, s)
  | some session =>
    if newRisk.eq session.riskScore then
      (.ok (Value.Cmp.le.onFlt newRisk riskThreshold), s)
    else
      match applyRiskConstraints session.constraints newRisk with
      | .error e => (.error e, s)
      | .ok constraints =>
        (.ok (Value.Cmp.le.onFlt newRisk riskThreshold),
          cache.update s { session with constraints := constraints, riskScore := newRisk })

/-- One call, which leaves its store behind even when it raises. -/
def monitor (s : Store) (call : String × Flt) : Store := (monitorSession cache call.1 call.2 s).2

end Sessions

def exceeds (score : Flt) : Bool := riskThreshold.lt score

/-- `min(base["max_duration"], 900)`, or what that comparison raises. -/
def leastDuration (base : List (String × Value)) : Except Exn Value :=
  Value.min ((base.lookup "max_duration").getD (.int 3600)) (.int 900)

/-- The constraints as they stand after a history of scores: only whether one of them
was too high matters. -/
def constraintsAfter (base : List (String × Value)) (least : Value) (scores : List Flt) : Value :=
  if scores.any exceeds then
    .dict (putEntry "require_reauth" (.bool true) (putEntry "max_duration" least base))
  else .dict base

theorem min_cases {a b m : Value} (least : Value.min a b = .ok m) :
    m = b ∨ (m = a ∧ Value.compare .lt b a = .ok false) := by
  unfold Value.min at least
  obtain ⟨smaller, compared, least⟩ := bind_eq_ok least
  cases smaller with
  | false =>
    cases least
    exact .inr ⟨rfl, compared⟩
  | true =>
    cases least
    exact .inl rfl

theorem min_again {a m : Value} {n : Int} (least : Value.min a (.int n) = .ok m) :
    Value.min m (.int n) = .ok m := by
  have irrefl : Value.compare .lt (.int n) (.int n) = .ok false := by
    simp [Value.compare, Value.compare.onNumbers, Value.number?, Value.Cmp.onFlt, Flt.lt, Flt.ofInt]
  rcases min_cases least with rfl | ⟨rfl, kept⟩
  · simp [Value.min, irrefl]
  · exact least

theorem applyRiskConstraints_low {score : Flt} (low : exceeds score = false)
    (entries : List (String × Value)) :
    applyRiskConstraints (.dict entries) score = .ok (.dict entries) := by
  unfold exceeds at low
  simp [applyRiskConstraints, copyConstraints, low]

theorem applyRiskConstraints_high {score : Flt} (high : exceeds score = true)
    (entries : List (String × Value)) :
    applyRiskConstraints (.dict entries) score = (leastDuration entries).map fun least =>
      .dict (putEntry "require_reauth" (.bool true) (putEntry "max_duration" least entries)) := by
  unfold exceeds at high
  unfold leastDuration
  simp only [applyRiskConstraints, copyConstraints, bind_ok, high, if_true]
  cases Value.min ((entries.lookup "max_duration").getD (.int 3600)) (.int 900) <;> rfl

section ClosedForm

variable {base : List (String × Value)} {least : Value}

theorem leastDuration_adjusted (fits : leastDuration base = .ok least) :
    leastDuration (putEntry "require_reauth" (.bool true) (putEntry "max_duration" least base)) =
      .ok least := by
  unfold leastDuration at fits ⊢
  simpa [Dict.lookup_putEntry] using min_again fits

theorem adjusted_again :
    putEntry "require_reauth" (.bool true) (putEntry "max_duration" least
      (putEntry "require_reauth" (.bool true) (putEntry "max_duration" least base))) =
      putEntry "require_reauth" (.bool true) (putEntry "max_duration" least base) := by
  have duration : putEntry "max_duration" least
      (putEntry "require_reauth" (.bool true) (putEntry "max_duration" least base)) =
        putEntry "require_reauth" (.bool true) (putEntry "max_duration" least base) :=
    Dict.putEntry_of_lookup (by simp [Dict.lookup_putEntry])
  rw [duration]
  exact Dict.putEntry_of_lookup (by simp [Dict.lookup_putEntry])

theorem constraintsAfter_append (scores : List Flt) (score : Flt) :
    constraintsAfter base least (scores ++ [score]) =
      if exceeds score then constraintsAfter base least [score]
      else constraintsAfter base least scores := by
  unfold constraintsAfter
  cases height : exceeds score <;> simp [height]

theorem applyRiskConstraints_after (fits : leastDuration base = .ok least) (scores : List Flt)
    (score : Flt) : applyRiskConstraints (constraintsAfter base least scores) score =
      .ok (constraintsAfter base least (scores ++ [score])) := by
  rw [constraintsAfter_append]
  cases height : exceeds score with
  | false =>
    unfold constraintsAfter
    split <;> simp [applyRiskConstraints_low height]
  | true =>
    unfold constraintsAfter
    split
    · simp [applyRiskConstraints_high height, leastDuration_adjusted fits, adjusted_again, height,
        Except.map]
    · simp [applyRiskConstraints_high height, fits, height, Except.map]

end ClosedForm

theorem eq_of_flt_eq {a b : Flt} (same : a.eq b = true) : a = b := by
  cases a <;> cases b <;> simp_all [Flt.eq]

def scoresOf (id : String) (calls : List (String × Flt)) : List Flt :=
  (calls.filter fun call => call.1 = id).map Prod.snd

section Monitoring

variable {Store : Type} (cache : SessionCache Store) {base : List (String × Value)}

theorem monitor_other {s : Store} {call : String × Flt} {id : String} (other : call.1 ≠ id) :
    cache.get (monitor cache s call) id = cache.get s id := by
  unfold monitor monitorSession
  cases found : cache.get s call.1 with
  | none => rfl
  | some session =>
    have named := cache.get_id s call.1 session found
    dsimp only
    split
    · rfl
    · cases applyRiskConstraints session.constraints call.2 with
      | error e => rfl
      | ok constraints =>
        have off : id ≠ session.id := fun same => other (named ▸ same.symm)
        simp [cache.get_update, off]

/-- What the store holds of a session whose scores so far are `history`. A score that
was too high is never forgotten by the one that is stored. -/
def Held (base : List (String × Value)) (least : Value) (s : Store) (id : String)
    (history : List Flt) : Prop :=
  ∃ last, cache.get s id = some ⟨id, last, constraintsAfter base least history⟩ ∧
    (exceeds last = true → history.any exceeds = true)

variable {least : Value}

theorem held_other {s : Store} {call : String × Flt} {id : String} {history : List Flt}
    (held : Held cache base least s id history) (other : call.1 ≠ id) :
    Held cache base least (monitor cache s call) id history := by
  unfold Held
  rw [monitor_other cache other]
  exact held

theorem monitorSession_held (fits : leastDuration base = .ok least) {s : Store} {id : String}
    {history : List Flt} (held : Held cache base least s id history) (score : Flt) :
    (monitorSession cache id score s).1 = .ok (Value.Cmp.le.onFlt score riskThreshold) ∧
      Held cache base least (monitorSession cache id score s).2 id (history ++ [score]) := by
  obtain ⟨last, stored, remembered⟩ := held
  unfold monitorSession
  simp only [stored]
  split
  · -- The score is the stored one, so that it adds nothing to the history.
    rename_i same
    have same := eq_of_flt_eq same
    subst same
    refine ⟨rfl, score, ?_, fun high => by simp [high]⟩
    rw [stored, constraintsAfter_append]
    split
    · rename_i high
      simp [constraintsAfter, high, remembered high]
    · rfl
  · simp only [applyRiskConstraints_after fits]
    exact ⟨trivial, score, by simp [cache.get_update], fun high => by simp [high]⟩

theorem run_held (fits : leastDuration base = .ok least) (calls : List (String × Flt)) {s : Store}
    {id : String} {history : List Flt} (held : Held cache base least s id history) :
    Held cache base least (Runs.run (monitor cache) s calls) id (history ++ scoresOf id calls) := by
  induction calls generalizing s history with
  | nil => simpa [scoresOf] using held
  | cons call rest ih =>
    rw [Runs.run_cons]
    by_cases ours : call.1 = id
    · obtain ⟨i, score⟩ := call
      subst ours
      have next := ih (monitorSession_held cache fits held score).2
      simpa [scoresOf, monitor] using next
    · simpa [scoresOf, ours] using ih (held_other cache held ours)

def Unadjusted (base : List (String × Value)) (s : Store) (id : String) : Prop :=
  ∃ last, cache.get s id = some ⟨id, last, .dict base⟩ ∧ exceeds last = false

theorem monitorSession_unordered {e : Exn} (unordered : leastDuration base = .error e) {s : Store}
    {id : String} (held : Unadjusted cache base s id) {score : Flt} (high : exceeds score = true) :
    monitorSession cache id score s = (.error e, s) := by
  obtain ⟨last, stored, low⟩ := held
  have differs : score.eq last = false := by
    rw [Bool.eq_false_iff]
    intro same
    rw [eq_of_flt_eq same, low] at high
    cases high
  unfold monitorSession
  simp [stored, differs, applyRiskConstraints_high high, unordered, Except.map]

theorem monitor_unadjusted {e : Exn} (unordered : leastDuration base = .error e) {id : String}
    (s : Store) (call : String × Flt) (held : Unadjusted cache base s id) :
    Unadjusted cache base (monitor cache s call) id := by
  by_cases ours : call.1 = id
  · cases height : exceeds call.2 with
    | true =>
      subst ours
      simpa [monitor, monitorSession_unordered cache unordered held height] using held
    | false =>
      obtain ⟨last, stored, low⟩ := held
      unfold monitor monitorSession
      simp only [ours, stored, applyRiskConstraints_low height]
      split
      · exact ⟨last, stored, low⟩
      · exact ⟨call.2, by simp [cache.get_update], height⟩
  · unfold Unadjusted
    rw [monitor_other cache ours]
    exact held

end Monitoring

section ClosedFormOfASession

variable {Store P C : Type} (cache : SessionCache Store)

/-- From `s` on, whatever is called, the session's constraints are the closed form of
its scores, no call raises, and a skipped update would have changed nothing. -/
def FollowsClosedForm (base : List (String × Value)) (least : Value) (initial : Flt) (id : String)
    (s : Store) : Prop :=
  ∀ calls, ∃ session, cache.get (Runs.run (monitor cache) s calls) id = some session ∧
    session.constraints = constraintsAfter base least (initial :: scoresOf id calls) ∧
    ∀ score, (monitorSession cache id score (Runs.run (monitor cache) s calls)).1 =
        .ok (Value.Cmp.le.onFlt score riskThreshold) ∧
      (score.eq session.riskScore = true →
        applyRiskConstraints session.constraints score = .ok session.constraints)

def StaysAtBase (base : List (String × Value)) (e : Exn) (id : String) (s : Store) : Prop :=
  ∀ calls, ∃ session, cache.get (Runs.run (monitor cache) s calls) id = some session ∧
    session.constraints = .dict base ∧
    ∀ score, exceeds score = true →
      monitorSession cache id score (Runs.run (monitor cache) s calls) =
        (.error e, Runs.run (monitor cache) s calls)

theorem followsClosedForm_of_held {base : List (String × Value)} {least : Value} {initial : Flt}
    {id : String} {s : Store} (fits : leastDuration base = .ok least)
    (held : Held cache base least s id [initial]) :
    FollowsClosedForm cache base least initial id s := by
  intro calls
  have reached := run_held cache fits calls held
  have returns := fun score => (monitorSession_held cache fits reached score).1
  obtain ⟨last, stored, remembered⟩ := reached
  refine ⟨_, stored, rfl, fun score => ⟨returns score, ?_⟩⟩
  intro same
  dsimp only at same ⊢
  rw [applyRiskConstraints_after fits, eq_of_flt_eq same, constraintsAfter_append]
  split
  · rename_i high
    have before := remembered high
    unfold constraintsAfter
    rw [before]
    simp [high]
  · rfl

theorem staysAtBase_of_unadjusted {base : List (String × Value)} {e : Exn} {id : String} {s : Store}
    (unordered : leastDuration base = .error e) (held : Unadjusted cache base s id) :
    StaysAtBase cache base e id s := by
  intro calls
  have reached := Runs.invariant (monitor_unadjusted cache unordered) s calls held
  have raises : ∀ score, exceeds score = true →
      monitorSession cache id score (Runs.run (monitor cache) s calls) =
        (.error e, Runs.run (monitor cache) s calls) :=
    fun _ high => monitorSession_unordered cache unordered reached high
  obtain ⟨last, stored, _⟩ := reached
  exact ⟨_, stored, rfl, raises⟩

variable (matchRule : Rule → P → C → Bool)

theorem authenticate_granted (policy : ZTAPolicy) (userId : P → String) {principal : P}
    {context : C} {rule : Rule} {base : List (String × Value)} (initial : Flt)
    (engine : Engine Store)
    (noDeny : matchesDenyRules matchRule policy.rules principal context = false)
    (found : findMatchingRule matchRule policy.rules principal context = .ok rule)
    (carries : (rule.get? "constraints").getD (.dict []) = .dict base) {constraints : Value}
    (applied : applyRiskConstraints (.dict base) initial = .ok constraints) :
    authenticate cache matchRule policy userId (.ok principal) initial context engine =
      (.ok (.granted constraints initial), { engine with sessions :=
        (cache.createSession engine.sessions (userId principal) initial constraints).1 }) := by
  unfold authenticate makeAuthorizationDecision
  simp [noDeny, found, carries, applied]

/-- Either the base duration compares with 900, and then the constraints of the session
are the closed form of all its scores; or it does not, and then every score that is too
high raises before anything is changed. -/
theorem constraints_never_loosen (policy : ZTAPolicy) (userId : P → String) (principal : P)
    (context : C) (rule : Rule) (base : List (String × Value)) (initial : Flt)
    (engine : Engine Store)
    (noDeny : matchesDenyRules matchRule policy.rules principal context = false)
    (found : findMatchingRule matchRule policy.rules principal context = .ok rule)
    (carries : (rule.get? "constraints").getD (.dict []) = .dict base) :
    (∀ least, leastDuration base = .ok least →
      let created := cache.createSession engine.sessions (userId principal) initial
        (constraintsAfter base least [initial])
      authenticate cache matchRule policy userId (.ok principal) initial context engine =
          (.ok (.granted (constraintsAfter base least [initial]) initial),
            { engine with sessions := created.1 }) ∧
        FollowsClosedForm cache base least initial created.2 created.1) ∧
    (∀ e, leastDuration base = .error e →
      let created := cache.createSession engine.sessions (userId principal) initial (.dict base)
      (exceeds initial = true →
        authenticate cache matchRule policy userId (.ok principal) initial context engine =
          (.error (.raised e), engine)) ∧
      (exceeds initial = false →
        authenticate cache matchRule policy userId (.ok principal) initial context engine =
            (.ok (.granted (.dict base) initial), { engine with sessions := created.1 }) ∧
          StaysAtBase cache base e created.2 created.1)) := by
  constructor
  · intro least fits created
    have applied : applyRiskConstraints (.dict base) initial =
        .ok (constraintsAfter base least [initial]) := applyRiskConstraints_after fits [] initial
    have held : Held cache base least created.1 created.2 [initial] :=
      ⟨initial, cache.get_created _ _ _ _, fun high => by simp [high]⟩
    exact ⟨authenticate_granted cache matchRule policy userId initial engine noDeny found carries
      applied, followsClosedForm_of_held cache fits held⟩
  · intro e unordered created
    constructor
    · intro high
      unfold authenticate makeAuthorizationDecision
      simp [noDeny, found, carries, applyRiskConstraints_high high, unordered, Except.map]
    · intro low
      have held : Unadjusted cache base created.1 created.2 :=
        ⟨initial, cache.get_created _ _ _ _, low⟩
      exact ⟨authenticate_granted cache matchRule policy userId initial engine noDeny found carries
        (applyRiskConstraints_low low base), staysAtBase_of_unadjusted cache unordered held⟩

end ClosedFormOfASession

def userSessions : SessionCache (Dict String (Flt × Value)) where
  createSession s user score constraints := (s.set user (score, constraints), user)
  get s id := (s.get? id).map fun held => ⟨id, held.1, held.2⟩
  update s session := s.set session.id (session.riskScore, session.constraints)
  get_created s user score constraints := by simp
  get_update s session id := by
    rw [Dict.get?_set]
    split
    · rename_i same
      simp [same]
    · rfl
  get_id s id session found := by
    obtain ⟨held, _, rfl⟩ := Option.map_eq_some_iff.mp found
    rfl

def shiftRule : Rule :=
  ⟨[("principal", .str "analyst"), ("resource", .str "reports"), ("action", .str "allow"),
    ("conditions", .dict []), ("constraints", .dict [("max_duration", .int 1200)])], by decide⟩

def shiftPolicy : ZTAPolicy where
  defaultAction := .deny
  rules := [shiftRule]
  nonempty := by decide
  complete := by decide

theorem constraints_never_loosen_shift :
    ∃ session, userSessions.get (Runs.run (monitor userSessions)
        (Dict.empty.set "analyst-1" (.finite 0, .dict [("max_duration", .int 1200)]))
        [("analyst-1", .finite 1), ("analyst-1", .finite 1), ("analyst-1", .finite 0)])
        "analyst-1" = some session ∧
      session.constraints = .dict [("max_duration", .int 900), ("require_reauth", .bool true)] := by
  have least : leastDuration [("max_duration", .int 1200)] = .ok (.int 900) := by rfl
  have closed := constraints_never_loosen userSessions (fun _ _ _ => true) shiftPolicy (fun p => p)
    "analyst-1" "reports" shiftRule [("max_duration", .int 1200)] (.finite 0) ⟨Dict.empty, 0⟩
    (by decide) (by rfl) (by rfl)
  have low : exceeds (.finite 0) = false := by decide +kernel
  have high : exceeds (.finite 1) = true := by decide +kernel
  have start : constraintsAfter [("max_duration", .int 1200)] (.int 900) [.finite 0] =
      .dict [("max_duration", .int 1200)] := by simp [constraintsAfter, low]
  have follows : FollowsClosedForm userSessions [("max_duration", .int 1200)] (.int 900) (.finite 0)
      "analyst-1" (Dict.empty.set "analyst-1" (.finite 0, .dict [("max_duration", .int 1200)])) := by
    rw [← start]
    exact (closed.1 _ least).2
  obtain ⟨session, stored, held, _⟩ := follows
    [("analyst-1", .finite 1), ("analyst-1", .finite 1), ("analyst-1", .finite 0)]
  exact ⟨session, stored, held.trans (by simp [constraintsAfter, scoresOf, low, high, putEntry])⟩

end KuvaAI.Zta
