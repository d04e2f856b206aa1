import KuvaAI.Security.PolicyEnforcer

/-! When the evaluation loop grants access, and which of its exits return at all. -/
namespace KuvaAI.Enforcer
open Python

section Loop

variable {V : Type} (py : DataModel V)

def stops (resolved : Dict String V) (policy : EnforcementPolicy V) : Bool :=
  match evaluateConditions py policy resolved with
  | .ok false => false
  | _ => true

def outcome (resolved context : Dict String V) (policy : EnforcementPolicy V) :
    Except Raised DecisionResult := do
  let _ ← evaluateConditions py policy resolved
  matched py policy context

theorem stops_eq_false_iff (resolved : Dict String V) (policy : EnforcementPolicy V) :
    stops py resolved policy = false ↔ evaluateConditions py policy resolved = .ok false := by
  unfold stops
  split
  · rename_i passed
    simp [passed]
  · rename_i other
    simpa using other

theorem stops_of_true {resolved : Dict String V} {policy : EnforcementPolicy V}
    (hold : evaluateConditions py policy resolved = .ok true) : stops py resolved policy = true := by
  simp [stops, hold]

theorem evaluatePolicies_eq (resolved context : Dict String V) (policies : List (EnforcementPolicy V)) :
    evaluatePolicies py resolved context policies =
      match policies.find? (stops py resolved) with
      | none => defaultDeny
      | some policy => outcome py resolved context policy := by
  induction policies with
  | nil => rfl
  | cons policy rest ih =>
    cases verdict : evaluateConditions py policy resolved with
    | error e =>
      have stop : stops py resolved policy = true := by simp [stops, verdict]
      simp [evaluatePolicies, verdict, stop, outcome]
    | ok b =>
      cases b with
      | false =>
        have pass := (stops_eq_false_iff py resolved policy).mpr verdict
        simp [evaluatePolicies, verdict, pass, ih]
      | true =>
        simp [evaluatePolicies, verdict, stops_of_true py verdict, outcome]

def Grants (r : Except Raised DecisionResult) : Prop := ∃ d, r = .ok d ∧ d.allowed = true

theorem defaultDeny_raises :
    defaultDeny = .error (.builtin ⟨.validationError,
      "policy_id: Field required\nobligations: Field required"⟩) := rfl

theorem evaluationFailed_raises (text : String) :
    evaluationFailed text = .error (.builtin ⟨.validationError,
      "policy_id: Field required\nobligations: Field required"⟩) := rfl

theorem handled_eq_ok (r : Except Raised DecisionResult) (d : DecisionResult) :
    handled r = .ok d ↔ r = .ok d := by
  cases r with
  | ok _ => exact Iff.rfl
  | error e =>
    cases e with
    | policyEvaluationError text => simp [handled, evaluationFailed_raises]
    | builtin e => simp [handled]

theorem grants_handled (r : Except Raised DecisionResult) : Grants (handled r) ↔ Grants r := by
  simp only [Grants, handled_eq_ok]

theorem grants_outcome (resolved context : Dict String V) (policy : EnforcementPolicy V)
    (stop : stops py resolved policy = true) :
    Grants (outcome py resolved context policy) ↔
      policy.effect = "allow" ∧ evaluateConditions py policy resolved = .ok true := by
  cases verdict : evaluateConditions py policy resolved with
  | error e => simp [Grants, outcome, verdict]
  | ok b =>
    cases b with
    | false => simp [(stops_eq_false_iff py resolved policy).mpr verdict] at stop
    | true =>
      have same : outcome py resolved context policy = matched py policy context := by
        simp [outcome, verdict]
      rw [same]
      constructor
      · rintro ⟨d, decided, allowed⟩
        exact ⟨by simpa [(matched_ok py policy context d decided).1] using allowed, rfl⟩
      · rintro ⟨allow, _⟩
        exact ⟨_, matched_allow py policy context allow, rfl⟩

/-- The policy the sorted loop stops at, described on the candidates as listed. -/
abbrev Decides (resolved : Dict String V) (candidates : List (EnforcementPolicy V))
    (policy : EnforcementPolicy V) : Prop :=
  StableSelect.Leads (fun p => -p.priority) (fun p => stops py resolved p = true) candidates policy

theorem grants_iff_decides (candidates : List (EnforcementPolicy V)) (resolved context : Dict String V) :
    Grants (evaluateCandidates py candidates resolved context) ↔
      ∃ policy, Decides py resolved candidates policy ∧ policy.effect = "allow" ∧
        evaluateConditions py policy resolved = .ok true := by
  rw [evaluateCandidates, grants_handled, evaluatePolicies_eq, byPriority]
  constructor
  · intro grant
    cases found : (StableSelect.sortOn (fun p => -p.priority) candidates).find? (stops py resolved) with
    | none => simp [found, defaultDeny_raises, Grants] at grant
    | some policy =>
      have lead := (StableSelect.find?_sortOn_eq_some _ _ _ _).mp found
      rw [found] at grant
      exact ⟨policy, lead, (grants_outcome py resolved context policy lead.least.2.1).mp grant⟩
  · rintro ⟨policy, lead, allow, hold⟩
    rw [(StableSelect.find?_sortOn_eq_some _ _ _ _).mpr lead]
    exact (grants_outcome py resolved context policy lead.least.2.1).mpr ⟨allow, hold⟩

theorem evaluateCandidates_of_raising (candidates : List (EnforcementPolicy V))
    (resolved context : Dict String V) (policy : EnforcementPolicy V) (e : Raised)
    (lead : Decides py resolved candidates policy)
    (raised : evaluateConditions py policy resolved = .error e) :
    evaluateCandidates py candidates resolved context = evaluationFailed e.text := by
  obtain ⟨e', _, rfl⟩ := (evaluateConditions_error py policy resolved e).mp raised
  rw [evaluateCandidates, evaluatePolicies_eq, byPriority,
    (StableSelect.find?_sortOn_eq_some _ _ _ _).mpr lead]
  simp [outcome, raised, handled, Raised.text]

def EarlierFalse (resolved : Dict String V) (before : List (EnforcementPolicy V))
    (policy : EnforcementPolicy V) (after : List (EnforcementPolicy V)) : Prop :=
  (∀ q ∈ before, policy.priority ≤ q.priority → evaluateConditions py q resolved = .ok false) ∧
  (∀ q ∈ after, policy.priority < q.priority → evaluateConditions py q resolved = .ok false)

theorem decides_iff (resolved : Dict String V) (candidates : List (EnforcementPolicy V))
    (policy : EnforcementPolicy V) :
    Decides py resolved candidates policy ↔
      ∃ before after, candidates = before ++ policy :: after ∧
        stops py resolved policy = true ∧ EarlierFalse py resolved before policy after := by
  simp only [StableSelect.Leads, EarlierFalse, neg_le_neg_iff, neg_lt_neg_iff,
    Bool.not_eq_true, stops_eq_false_iff]

/-- The decision rule of the evaluation loop, with the order in which conditions
are read and what an exception in one of them does. -/
theorem evaluation_loop_decision (candidates : List (EnforcementPolicy V))
    (resolved context : Dict String V) :
    (Grants (evaluateCandidates py candidates resolved context) ↔
      ∃ before policy after, candidates = before ++ policy :: after ∧ policy.effect = "allow" ∧
        (∀ c ∈ policy.conditions, holds py resolved c = .ok true) ∧
        EarlierFalse py resolved before policy after) ∧
    (∀ policy : EnforcementPolicy V, evaluateConditions py policy resolved = .ok false ↔
      ∃ before c after, policy.conditions = before ++ c :: after ∧
        (∀ d ∈ before, holds py resolved d = .ok true) ∧ holds py resolved c = .ok false) ∧
    (∀ policy : EnforcementPolicy V, (∃ e, evaluateConditions py policy resolved = .error e) ↔
      ∃ before c after e, policy.conditions = before ++ c :: after ∧
        (∀ d ∈ before, holds py resolved d = .ok true) ∧ holds py resolved c = .error e) ∧
    (∀ before policy after e, candidates = before ++ policy :: after →
      evaluateConditions py policy resolved = .error e → EarlierFalse py resolved before policy after →
      evaluateCandidates py candidates resolved context = evaluationFailed e.text ∧
      ¬ Grants (evaluateCandidates py candidates resolved context)) := by
  refine ⟨?_, ?_, ?_, ?_⟩
  · rw [grants_iff_decides]
    constructor
    · rintro ⟨policy, lead, allow, hold⟩
      obtain ⟨before, after, split, _, earlier⟩ := (decides_iff py resolved candidates policy).mp lead
      exact ⟨before, policy, after, split, allow, (allHold_true_iff py resolved _).mp
        ((evaluateConditions_eq_ok py policy resolved true).mp hold), earlier⟩
    · rintro ⟨before, policy, after, split, allow, each, earlier⟩
      have hold := (evaluateConditions_eq_ok py policy resolved true).mpr
        ((allHold_true_iff py resolved _).mpr each)
      exact ⟨policy, (decides_iff py resolved candidates policy).mpr
        ⟨before, after, split, stops_of_true py hold, earlier⟩, allow, hold⟩
  · intro policy
    rw [evaluateConditions_eq_ok, allHold_stops_iff py resolved _ _ (by simp)]
  · intro policy
    simp only [evaluateConditions_error]
    constructor
    · rintro ⟨_, e, raised, _⟩
      obtain ⟨before, c, after, split, prior, stop⟩ :=
        (allHold_stops_iff py resolved _ _ (by simp)).mp raised
      exact ⟨before, c, after, e, split, prior, stop⟩
    · rintro ⟨before, c, after, e, split, prior, stop⟩
      exact ⟨_, e, (allHold_stops_iff py resolved _ _ (by simp)).mpr
        ⟨before, c, after, split, prior, stop⟩, rfl⟩
  · intro before policy after e split raised earlier
    have lead := (decides_iff py resolved candidates policy).mpr
      ⟨before, after, split, by simp [stops, raised], earlier⟩
    have failed := evaluateCandidates_of_raising py candidates resolved context policy e lead raised
    refine ⟨failed, ?_⟩
    rw [failed, evaluationFailed_raises]
    rintro ⟨d, returned, _⟩
    cases returned

end Loop

section Access

variable {V : Type} (py : DataModel V)

/-- A schema-valid policy never matches a target: a `subjects` or `resources`
entry is a list and raises at `.items()`, and without both nothing matches. -/
theorem policyTargetMatches_cases (policy : EnforcementPolicy V) (subject resource : Dict String V)
    (action : String) :
    policyTargetMatches py policy subject resource action = .ok false ∨
    policyTargetMatches py policy subject resource action =
      .error (.builtin ⟨.attributeError, "'list' object has no attribute 'items'"⟩) := by
  unfold policyTargetMatches matchesDimension targetMap
  cases policy.targets.get? "subjects" with
  | some ids => exact .inr rfl
  | none =>
    cases policy.targets.get? "resources" with
    | some ids => exact .inr rfl
    | none => exact .inl rfl

theorem matchCandidatePolicies_cases (subject resource : Dict String V) (action : String)
    (policies : List (EnforcementPolicy V)) :
    matchCandidatePolicies py subject resource action policies = .ok [] ∨
    matchCandidatePolicies py subject resource action policies =
      .error (.builtin ⟨.attributeError, "'list' object has no attribute 'items'"⟩) := by
  induction policies with
  | nil => exact .inl rfl
  | cons policy rest ih =>
    rcases policyTargetMatches_cases py policy subject resource action with miss | raised
    · rcases ih with empty | raised
      · exact .inl (by simp [matchCandidatePolicies, miss, empty])
      · exact .inr (by simp [matchCandidatePolicies, miss, raised])
    · exact .inr (by simp [matchCandidatePolicies, raised])

/-- The evaluator returns a result, and one that does not allow whenever no
candidate's conditions hold or the evaluation of the candidates fails. -/
def FailsClosed (policies : List (EnforcementPolicy V)) (subject resource : Dict String V)
    (action : String) (resolved context : Dict String V) : Prop :=
  ∃ d, evaluateAccess py policies subject resource action resolved context = .ok d ∧
    ∀ candidates, matchCandidatePolicies py subject resource action policies = .ok candidates →
      ((∀ p ∈ candidates, evaluateConditions py p resolved ≠ .ok true) ∨
        ∃ e, evaluatePolicies py resolved context (byPriority candidates) = .error e) →
      d.allowed = false

/-- On every input an exception leaves the evaluator: the targets raise, or the
default denial fails its own schema. -/
theorem never_failsClosed (policies : List (EnforcementPolicy V)) (subject resource : Dict String V)
    (action : String) (resolved context : Dict String V) :
    ¬ FailsClosed py policies subject resource action resolved context := by
  rintro ⟨d, returned, _⟩
  rw [evaluateAccess, handled_eq_ok] at returned
  rcases matchCandidatePolicies_cases py subject resource action policies with empty | raised
  · simp [empty, evaluatePolicies_eq, byPriority, StableSelect.sortOn,
      defaultDeny_raises] at returned
  · simp [raised] at returned

end Access

theorem default_denial_raises :
    ¬ FailsClosed (Value.dataModel (fun _ _ => .ok (.bool false))) []
      ⟨[("type", .str "user"), ("id", .str "u-1")], by decide⟩
      ⟨[("type", .str "db"), ("id", .str "d-1")], by decide⟩ "read" Dict.empty Dict.empty := by
  rintro ⟨d, returned, _⟩
  cases returned

end KuvaAI.Enforcer
