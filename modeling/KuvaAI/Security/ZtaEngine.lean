import KuvaAI.Python.Value

/-! The authorization decision of zta_engine.py. `_match_rule` is called by the
engine but defined nowhere in the repository, so it stays an arbitrary predicate
on rule, principal and context. -/
namespace KuvaAI.Zta
open Python

inductive DefaultAction where
  | deny
  | allow
  deriving DecidableEq, Repr

abbrev Rule := Dict String Value

def requiredFields : List String := ["principal", "resource", "action", "conditions"]

/-- A loaded policy. The fields `version` and `exceptions` are read by nothing. -/
structure ZTAPolicy where
  defaultAction : DefaultAction
  rules : List Rule
  nonempty : rules ≠ []
  complete : ∀ rule ∈ rules, ∀ field ∈ requiredFields, field ∈ rule.keys

/-- The model's own validation: `min_items=1`, then `validate_rules`. -/
def ZTAPolicy.validate (defaultAction : DefaultAction) (rules : List Rule) :
    Except Exn ZTAPolicy :=
  if nonempty : rules = [] then
    .error ⟨.validationError, "rules: ensure this value has at least 1 items"⟩
  else if complete : ∀ rule ∈ rules, ∀ field ∈ requiredFields, field ∈ rule.keys then
    .ok ⟨defaultAction, rules, nonempty, complete⟩
  else
    .error ⟨.validationError, "rules: Missing required policy fields"⟩

inductive Decision where
  | denied (reason : String)
  | granted (constraints : Value) (riskScore : Flt)

def Decision.allowed : Decision → Bool
  | .denied _ => false
  | .granted _ _ => true

/-- The double nearest to 0.7. -/
def riskThreshold : Flt := .finite (6305039478318694 / 2 ^ 53)

def subscript (rule : Rule) (key : String) : Except Exn Value :=
  match rule.get? key with
  | some v => .ok v
  | none => .error ⟨.keyError, "'" ++ key ++ "'"⟩

def hasAction (rule : Rule) (action : String) : Bool :=
  ((rule.get? "action").getD .none).eq (.str action)

section Engine

variable {P C : Type} (matchRule : Rule → P → C → Bool)

def matchesDenyRules (rules : List Rule) (principal : P) (context : C) : Bool :=
  (rules.filter (fun rule => hasAction rule "deny")).any
    (fun rule => matchRule rule principal context)

def findMatchingRule (rules : List Rule) (principal : P) (context : C) : Except Exn Rule :=
  match rules with
  | [] => .ok Dict.empty
  | rule :: rest => do
    let action ← subscript rule "action"
    if action.eq (.str "allow") && matchRule rule principal context then
      return rule
    findMatchingRule rest principal context

/-- `base_constraints.copy()`; only dictionaries and lists have the method. -/
def copyConstraints : Value → Except Exn Value
  | .dict entries => .ok (.dict entries)
  | .list xs => .ok (.list xs)
  | v => .error ⟨.attributeError, "'" ++ v.typeName ++ "' object has no attribute 'copy'"⟩

def applyRiskConstraints (baseConstraints : Value) (riskScore : Flt) : Except Exn Value := do
  let constraints ← copyConstraints baseConstraints
  if riskThreshold.lt riskScore then
    match constraints with
    | .dict entries =>
      let maxDuration ← Value.min ((entries.lookup "max_duration").getD (.int 3600)) (.int 900)
      return .dict (putEntry "require_reauth" (.bool true)
        (putEntry "max_duration" maxDuration entries))
    | v => .error ⟨.attributeError, "'" ++ v.typeName ++ "' object has no attribute 'get'"⟩
  else
    return constraints

def makeAuthorizationDecision (policy : ZTAPolicy) (principal : P) (riskScore : Flt)
    (context : C) : Except Exn Decision := do
  if matchesDenyRules matchRule policy.rules principal context then
    return .denied "Explicit deny"
  let matchedRule ← findMatchingRule matchRule policy.rules principal context
  let constraints ← applyRiskConstraints ((matchedRule.get? "constraints").getD (.dict [])) riskScore
  return .granted constraints riskScore

def Matches (policy : ZTAPolicy) (principal : P) (context : C) (action : String) : Prop :=
  ∃ rule ∈ policy.rules, hasAction rule action = true ∧ matchRule rule principal context = true

theorem matchesDenyRules_iff (policy : ZTAPolicy) (principal : P) (context : C) :
    matchesDenyRules matchRule policy.rules principal context = true ↔
      Matches matchRule policy principal context "deny" := by
  simp [matchesDenyRules, Matches]

theorem subscript_action (policy : ZTAPolicy) {rule : Rule} (member : rule ∈ policy.rules) :
    ∃ v, subscript rule "action" = .ok v ∧ v.eq (.str "allow") = hasAction rule "allow" := by
  have present := policy.complete rule member "action" (by decide)
  obtain ⟨v, found⟩ := (Dict.mem_keys_iff rule "action").mp present
  exact ⟨v, by simp [subscript, found], by simp [hasAction, found]⟩

theorem findMatchingRule_none (rules : List Rule) (principal : P) (context : C)
    (total : ∀ rule ∈ rules, ∃ v, subscript rule "action" = .ok v ∧
      v.eq (.str "allow") = hasAction rule "allow")
    (unmatched : ∀ rule ∈ rules,
      hasAction rule "allow" = true → matchRule rule principal context = false) :
    findMatchingRule matchRule rules principal context = .ok Dict.empty := by
  induction rules with
  | nil => rfl
  | cons rule rest ih =>
    obtain ⟨v, read, same⟩ := total rule List.mem_cons_self
    have miss : (v.eq (.str "allow") && matchRule rule principal context) = false := by
      cases allow : hasAction rule "allow" with
      | false => simp [same, allow]
      | true => simp [unmatched rule List.mem_cons_self allow]
    simp only [findMatchingRule, read, bind_ok, miss]
    exact ih (fun r hr => total r (List.mem_cons_of_mem _ hr))
      (fun r hr => unmatched r (List.mem_cons_of_mem _ hr))

theorem applyRiskConstraints_empty (riskScore : Flt) :
    ∃ constraints, applyRiskConstraints (.dict []) riskScore = .ok constraints := by
  by_cases risky : riskThreshold.lt riskScore = true
  · exact ⟨.dict [("max_duration", .int 900), ("require_reauth", .bool true)], by
      simp only [applyRiskConstraints, copyConstraints, bind_ok, risky, if_true]
      rfl⟩
  · exact ⟨.dict [], by simp [applyRiskConstraints, copyConstraints, risky]⟩

theorem decision_of_deny (policy : ZTAPolicy) (principal : P) (riskScore : Flt) (context : C)
    (deny : Matches matchRule policy principal context "deny") :
    makeAuthorizationDecision matchRule policy principal riskScore context =
      .ok (.denied "Explicit deny") := by
  simp [makeAuthorizationDecision, (matchesDenyRules_iff matchRule policy principal context).mpr deny]

theorem decision_of_no_match (policy : ZTAPolicy) (principal : P) (riskScore : Flt) (context : C)
    (noDeny : ¬ Matches matchRule policy principal context "deny")
    (noAllow : ¬ Matches matchRule policy principal context "allow") :
    ∃ constraints, makeAuthorizationDecision matchRule policy principal riskScore context =
      .ok (.granted constraints riskScore) := by
  have scan : matchesDenyRules matchRule policy.rules principal context = false :=
    Bool.eq_false_iff.mpr
      (fun hit => noDeny ((matchesDenyRules_iff matchRule policy principal context).mp hit))
  have unmatched : ∀ rule ∈ policy.rules,
      hasAction rule "allow" = true → matchRule rule principal context = false :=
    fun rule member allow => Bool.eq_false_iff.mpr (fun hit => noAllow ⟨rule, member, allow, hit⟩)
  have empty := findMatchingRule_none matchRule policy.rules principal context
    (fun rule member => subscript_action policy member) unmatched
  obtain ⟨constraints, adjusted⟩ := applyRiskConstraints_empty riskScore
  exact ⟨constraints, by
    simp [makeAuthorizationDecision, scan, empty, adjusted]⟩

/-- What an allowed answer is expected to say about the rules: no deny rule
matches, and an allow rule or the default action allows. -/
def AllowedByPolicy (policy : ZTAPolicy) (principal : P) (riskScore : Flt) (context : C) : Prop :=
  ∀ decision, makeAuthorizationDecision matchRule policy principal riskScore context = .ok decision →
    decision.allowed = true →
      ¬ Matches matchRule policy principal context "deny" ∧
      (Matches matchRule policy principal context "allow" ∨ policy.defaultAction = .allow)

/-- The engine never reads `default_action`: its allowed answers follow the
policy exactly where some rule matches or the default is to allow. -/
theorem allowedByPolicy_iff (policy : ZTAPolicy) (principal : P) (riskScore : Flt) (context : C) :
    AllowedByPolicy matchRule policy principal riskScore context ↔
      Matches matchRule policy principal context "deny" ∨
      Matches matchRule policy principal context "allow" ∨ policy.defaultAction = .allow := by
  by_cases deny : Matches matchRule policy principal context "deny"
  · refine ⟨fun _ => .inl deny, fun _ decision decided allowed => ?_⟩
    rw [decision_of_deny matchRule policy principal riskScore context deny] at decided
    cases decided
    cases allowed
  · by_cases allow : Matches matchRule policy principal context "allow" ∨
        policy.defaultAction = .allow
    · exact ⟨fun _ => .inr allow, fun _ _ _ _ => ⟨deny, allow⟩⟩
    · constructor
      · intro follows
        obtain ⟨constraints, decided⟩ := decision_of_no_match matchRule policy principal riskScore
          context deny (fun hit => allow (.inl hit))
        exact absurd (follows _ decided rfl).2 allow
      · rintro (hit | hit)
        · exact absurd hit deny
        · exact absurd hit allow

end Engine

def reportsPolicy : ZTAPolicy where
  defaultAction := .deny
  rules := [⟨[("principal", .str "analyst"), ("resource", .str "reports"),
    ("action", .str "allow"), ("conditions", .dict [])], by decide⟩]
  nonempty := by decide
  complete := by decide

theorem unmatched_request_allowed :
    ¬ AllowedByPolicy (fun _ _ _ => false) reportsPolicy "guest" (.finite 0) "payroll" := by
  have noMatch : ∀ action, ¬ Matches (fun _ _ _ => false) reportsPolicy "guest" "payroll" action := by
    rintro action ⟨rule, _, _, hit⟩
    cases hit
  obtain ⟨constraints, decided⟩ := decision_of_no_match (fun _ _ _ => false) reportsPolicy "guest"
    (.finite 0) "payroll" (noMatch "deny") (noMatch "allow")
  intro follows
  rcases (follows _ decided rfl).2 with hit | default
  · exact noMatch "allow" hit
  · cases default

end KuvaAI.Zta
