import KuvaAI.Lib.StableSelect
import KuvaAI.Python.Value

/-! The evaluator of policy_enforcer.py. Attribute values are objects of any
class, so the operators applied to them are those of an arbitrary data model.
`_get_cached_policies` and `_resolve_attributes` are called but defined nowhere
in the repository: the cached policies and the resolved context are inputs. -/
namespace KuvaAI.Enforcer
open Python

abbrev Uuid := BitVec 128

inductive Raised where
  | policyEvaluationError (text : String)
  | builtin (e : Exn)
  deriving DecidableEq, Repr

def Raised.text : Raised → String
  | .policyEvaluationError text => text
  | .builtin e => e.text

structure PolicyCondition (V : Type) where
  «attribute» : String
  operator : String
  value : V

/-- The schema's fields, less the description, which is read by nothing. -/
structure EnforcementPolicy (V : Type) where
  id : Uuid
  name : String
  priority : Int
  targets : Dict String (List String)
  conditions : List (PolicyCondition V)
  effect : String

structure DecisionResult where
  allowed : Bool
  policyId : Option Uuid
  obligations : Dict String Value
  rationale : String

/-- The schema's constructor. No field has a default, so each one that the call
leaves out is an error; `Optional` only admits `None` as the value. -/
def DecisionResult.validate (allowed : Option Bool) (policyId : Option (Option Uuid))
    (obligations : Option (Dict String Value)) (rationale : Option String) :
    Except Raised DecisionResult :=
  match allowed, policyId, obligations, rationale with
  | some a, some p, some o, some r => .ok ⟨a, p, o, r⟩
  | a, p, o, r =>
    let missing := [("allowed", a.isNone), ("policy_id", p.isNone), ("obligations", o.isNone),
      ("rationale", r.isNone)].filter (fun field => field.2)
    .error (.builtin ⟨.validationError,
      String.intercalate "\n" (missing.map (fun field => field.1 ++ ": Field required"))⟩)

section Evaluation

variable {V : Type} (py : DataModel V)

/-- `b[0] <= a <= b[1]`: the upper bound is read only when the lower one holds. -/
def inRange (a b : V) : Except Exn V := do
  let low ← py.compare .le (← py.item b 0) a
  if ← py.truth low then
    py.compare .le a (← py.item b 1)
  else
    return low

def ops : List (String × (V → V → Except Exn V)) :=
  [("eq", py.eq), ("gt", py.compare .gt), ("in", py.contains), ("range", inRange py),
    ("regex", fun a b => py.reMatch b a)]

def evaluateCondition (condition : PolicyCondition V) (context : Dict String V) :
    Except Raised V :=
  let value := (context.get? condition.«attribute»).getD py.none
  match (ops py).lookup condition.operator with
  | none => .error (.policyEvaluationError ("Invalid operator " ++ condition.operator))
  | some op =>
    match op value condition.value with
    | .ok v => .ok v
    | .error e =>
      if e.cls = .typeError then
        .error (.policyEvaluationError ("Type error in condition: " ++ e.text))
      else .error (.builtin e)

def holds (context : Dict String V) (condition : PolicyCondition V) : Except Raised Bool :=
  match evaluateCondition py condition context with
  | .error e => .error e
  | .ok v => (py.truth v).mapError .builtin

def allHold (context : Dict String V) : List (PolicyCondition V) → Except Raised Bool
  | [] => .ok true
  | c :: rest =>
    match holds py context c with
    | .error e => .error e
    | .ok false => .ok false
    | .ok true => allHold context rest

def evaluateConditions (policy : EnforcementPolicy V) (context : Dict String V) :
    Except Raised Bool :=
  match allHold py context policy.conditions with
  | .ok b => .ok b
  | .error e => .error (.policyEvaluationError ("Condition evaluation failed: " ++ e.text))

def requiredAuth : Dict String Value :=
  Dict.empty.set "required_auth"
    (.dict [("methods", .list [.str "biometric", .str "hardware_key"])])

def generateObligations (policy : EnforcementPolicy V) (context : Dict String V) :
    Except Raised (Dict String Value) :=
  if policy.effect = "require_2fa" then
    let strength := (context.get? "auth_strength").getD py.none
    match py.compare .lt strength (py.ofInt 2) >>= py.truth with
    | .error e => .error (.builtin e)
    | .ok true => .ok requiredAuth
    | .ok false => .ok Dict.empty
  else .ok Dict.empty

def matched (policy : EnforcementPolicy V) (context : Dict String V) :
    Except Raised DecisionResult := do
  let obligations ← generateObligations py policy context
  DecisionResult.validate (some (policy.effect = "allow")) (some (some policy.id))
    (some obligations) (some ("Matched policy " ++ policy.name))

def defaultDeny : Except Raised DecisionResult :=
  DecisionResult.validate (some false) none none (some "No matching policies allow this action")

/-- The loop over the sorted candidates. Conditions read the resolved context,
obligations the one of the call. -/
def evaluatePolicies (resolved context : Dict String V) :
    List (EnforcementPolicy V) → Except Raised DecisionResult
  | [] => defaultDeny
  | policy :: rest => do
    if ← evaluateConditions py policy resolved then
      matched py policy context
    else
      evaluatePolicies resolved context rest

def byPriority (candidates : List (EnforcementPolicy V)) : List (EnforcementPolicy V) :=
  StableSelect.sortOn (fun p => -p.priority) candidates

def evaluationFailed (text : String) : Except Raised DecisionResult :=
  DecisionResult.validate (some false) none none (some ("Policy evaluation error: " ++ text))

/-- `except PolicyEvaluationError`; any other exception leaves the evaluator. -/
def handled : Except Raised DecisionResult → Except Raised DecisionResult
  | .error (.policyEvaluationError text) => evaluationFailed text
  | outcome => outcome

def evaluateCandidates (candidates : List (EnforcementPolicy V)) (resolved context : Dict String V) :
    Except Raised DecisionResult :=
  handled (evaluatePolicies py resolved context (byPriority candidates))

/-- What `targets.get(dimension, {})` gives: the schema's list of identifiers, or
the default dictionary. -/
inductive TargetMap where
  | listed (identifiers : List String)
  | mapped (entries : List (String × List String))

def targetMap (targets : Dict String (List String)) (dimension : String) : TargetMap :=
  match targets.get? dimension with
  | some identifiers => .listed identifiers
  | none => .mapped []

def TargetMap.items : TargetMap → Except Raised (List (String × List String))
  | .mapped entries => .ok entries
  | .listed _ => .error (.builtin ⟨.attributeError, "'list' object has no attribute 'items'"⟩)

def memberOf (x : V) : List String → Except Exn Bool
  | [] => .ok false
  | s :: rest => do
    if ← py.truth (← py.eq (py.ofStr s) x) then return true
    memberOf x rest

def matchesEntity (entity : Dict String V) : List (String × List String) → Except Exn Bool
  | [] => .ok false
  | (t, ids) :: rest => do
    if ← py.truth (← py.eq ((entity.get? "type").getD py.none) (py.ofStr t)) then
      if ← memberOf py ((entity.get? "id").getD py.none) ids then return true
    matchesEntity entity rest

def matchesDimension (policy : EnforcementPolicy V) (dimension : String) (entity : Dict String V) :
    Except Raised Bool := do
  let entries ← (targetMap policy.targets dimension).items
  (matchesEntity py entity entries).mapError .builtin

/-- All three dimensions are computed before they are combined. -/
def policyTargetMatches (policy : EnforcementPolicy V) (subject resource : Dict String V)
    (action : String) : Except Raised Bool := do
  let subMatch ← matchesDimension py policy "subjects" subject
  let resMatch ← matchesDimension py policy "resources" resource
  let actMatch := decide (action ∈ (policy.targets.get? "actions").getD [])
  return subMatch && resMatch && actMatch

def matchCandidatePolicies (subject resource : Dict String V) (action : String) :
    List (EnforcementPolicy V) → Except Raised (List (EnforcementPolicy V))
  | [] => .ok []
  | policy :: rest => do
    let hit ← policyTargetMatches py policy subject resource action
    let others ← matchCandidatePolicies subject resource action rest
    return if hit then policy :: others else others

def evaluateAccess (policies : List (EnforcementPolicy V)) (subject resource : Dict String V)
    (action : String) (resolved context : Dict String V) : Except Raised DecisionResult :=
  handled do
    let candidates ← matchCandidatePolicies py subject resource action policies
    evaluatePolicies py resolved context (byPriority candidates)

/-! ### One specification lemma per function -/

theorem evaluateConditions_eq_ok (policy : EnforcementPolicy V) (context : Dict String V) (b : Bool) :
    evaluateConditions py policy context = .ok b ↔ allHold py context policy.conditions = .ok b := by
  unfold evaluateConditions
  cases allHold py context policy.conditions <;> simp

theorem evaluateConditions_error (policy : EnforcementPolicy V) (context : Dict String V) (e : Raised) :
    evaluateConditions py policy context = .error e ↔
      ∃ e', allHold py context policy.conditions = .error e' ∧
        e = .policyEvaluationError ("Condition evaluation failed: " ++ e'.text) := by
  unfold evaluateConditions
  cases allHold py context policy.conditions <;> simp [eq_comm]

theorem allHold_append (context : Dict String V) (before rest : List (PolicyCondition V))
    (true_before : ∀ c ∈ before, holds py context c = .ok true) :
    allHold py context (before ++ rest) = allHold py context rest := by
  induction before with
  | nil => rfl
  | cons c before ih =>
    simp only [List.cons_append, allHold, true_before c List.mem_cons_self]
    exact ih (fun d hd => true_before d (List.mem_cons_of_mem _ hd))

theorem allHold_cases (context : Dict String V) (conditions : List (PolicyCondition V)) :
    (allHold py context conditions = .ok true ∧ ∀ c ∈ conditions, holds py context c = .ok true) ∨
    ∃ before c after, conditions = before ++ c :: after ∧
      (∀ d ∈ before, holds py context d = .ok true) ∧ holds py context c ≠ .ok true ∧
      allHold py context conditions = holds py context c := by
  induction conditions with
  | nil => exact .inl ⟨rfl, by simp⟩
  | cons c rest ih =>
    cases verdict : holds py context c with
    | error e => exact .inr ⟨[], c, rest, rfl, by simp, by simp [verdict], by simp [allHold, verdict]⟩
    | ok b =>
      cases b with
      | false => exact .inr ⟨[], c, rest, rfl, by simp, by simp [verdict], by simp [allHold, verdict]⟩
      | true =>
        have tail : allHold py context (c :: rest) = allHold py context rest := by
          simp only [allHold, verdict]
        rw [tail]
        rcases ih with ⟨all, each⟩ | ⟨before, d, after, rfl, prior, stop, out⟩
        · exact .inl ⟨all, by simpa [verdict] using each⟩
        · exact .inr ⟨c :: before, d, after, rfl, by simpa [verdict] using prior, stop, out⟩

theorem allHold_true_iff (context : Dict String V) (conditions : List (PolicyCondition V)) :
    allHold py context conditions = .ok true ↔ ∀ c ∈ conditions, holds py context c = .ok true := by
  rcases allHold_cases py context conditions with ⟨all, each⟩ | ⟨before, c, after, rfl, _, stop, out⟩
  · exact ⟨fun _ => each, fun _ => all⟩
  · exact ⟨fun all => absurd (out ▸ all) stop, fun each => absurd (each c (by simp)) stop⟩

theorem allHold_stops_iff (context : Dict String V) (conditions : List (PolicyCondition V))
    (r : Except Raised Bool) (stop : r ≠ .ok true) :
    allHold py context conditions = r ↔
      ∃ before c after, conditions = before ++ c :: after ∧
        (∀ d ∈ before, holds py context d = .ok true) ∧ holds py context c = r := by
  constructor
  · intro out
    rcases allHold_cases py context conditions with
      ⟨all, _⟩ | ⟨before, c, after, split, prior, _, same⟩
    · exact absurd (out.symm.trans all) stop
    · exact ⟨before, c, after, split, prior, same.symm.trans out⟩
  · rintro ⟨before, c, after, rfl, prior, out⟩
    rw [allHold_append py context before _ prior]
    unfold allHold
    rw [out]
    match r, stop with
    | .error e, _ => rfl
    | .ok false, _ => rfl
    | .ok true, stop => exact absurd rfl stop

theorem matched_allow (policy : EnforcementPolicy V) (context : Dict String V)
    (allow : policy.effect = "allow") :
    matched py policy context =
      .ok ⟨true, some policy.id, Dict.empty, "Matched policy " ++ policy.name⟩ := by
  simp [matched, generateObligations, allow, DecisionResult.validate]

theorem matched_ok (policy : EnforcementPolicy V) (context : Dict String V) (d : DecisionResult)
    (decided : matched py policy context = .ok d) :
    d.allowed = decide (policy.effect = "allow") ∧ d.policyId = some policy.id := by
  unfold matched at decided
  obtain ⟨o, obliged, decided⟩ := bind_eq_ok decided
  simp only [DecisionResult.validate, Except.ok.injEq] at decided
  exact ⟨decided ▸ rfl, decided ▸ rfl⟩

end Evaluation

end KuvaAI.Enforcer
