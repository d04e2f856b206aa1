import KuvaAI.Security.PolicyDecision

/-! How far a grant depends on the order in which policies and conditions are
listed. Ties in priority go to the earlier policy, and a condition that raises
is harmless after one that is false; both are visible in the order alone. -/
namespace KuvaAI.Enforcer
open Python

section Order

variable {V : Type} (py : DataModel V)

def SameUpToConditionOrder (p q : EnforcementPolicy V) : Prop :=
  q = { p with conditions := q.conditions } ∧ p.conditions.Perm q.conditions

def Reordered (candidates others : List (EnforcementPolicy V)) : Prop :=
  ∃ permuted, candidates.Perm permuted ∧ List.Forall₂ SameUpToConditionOrder permuted others

def OrderIndependent (candidates : List (EnforcementPolicy V)) (resolved context : Dict String V) :
    Prop :=
  ∀ others, Reordered candidates others →
    (Grants (evaluateCandidates py others resolved context) ↔
      Grants (evaluateCandidates py candidates resolved context))

def AllTrue (resolved : Dict String V) (p : EnforcementPolicy V) : Prop :=
  ∀ c ∈ p.conditions, holds py resolved c = .ok true

def HasFalse (resolved : Dict String V) (p : EnforcementPolicy V) : Prop :=
  ∃ c ∈ p.conditions, holds py resolved c = .ok false

def HasRaise (resolved : Dict String V) (p : EnforcementPolicy V) : Prop :=
  ∃ c ∈ p.conditions, ∃ e, holds py resolved c = .error e

/-- `p` can grant in some order, and `q` can stop the loop before it in another:
by raising, or by a tie with an effect other than allow. -/
def Contested (resolved : Dict String V) (candidates : List (EnforcementPolicy V)) : Prop :=
  ∃ p ∈ candidates, ∃ q ∈ candidates, p.effect = "allow" ∧ AllTrue py resolved p ∧
    (∀ r ∈ candidates, p.priority < r.priority → HasFalse py resolved r) ∧
    p.priority ≤ q.priority ∧
    (HasRaise py resolved q ∨ (AllTrue py resolved q ∧ q.effect ≠ "allow"))

def Settled (resolved : Dict String V) (candidates : List (EnforcementPolicy V)) : Prop :=
  ∃ p ∈ candidates, p.effect = "allow" ∧ AllTrue py resolved p ∧
    ∀ q ∈ candidates, p.priority ≤ q.priority →
      ¬ HasRaise py resolved q ∧ (AllTrue py resolved q → q.effect = "allow") ∧
      (p.priority < q.priority → HasFalse py resolved q)

theorem evaluateConditions_true_iff (resolved : Dict String V) (p : EnforcementPolicy V) :
    evaluateConditions py p resolved = .ok true ↔ AllTrue py resolved p := by
  rw [evaluateConditions_eq_ok, allHold_true_iff, AllTrue]

theorem hasFalse_of_evaluates {resolved : Dict String V} {p : EnforcementPolicy V}
    (evaluates : evaluateConditions py p resolved = .ok false) : HasFalse py resolved p := by
  rw [evaluateConditions_eq_ok, allHold_stops_iff py resolved _ _ (by simp)] at evaluates
  obtain ⟨before, c, after, split, _, stop⟩ := evaluates
  exact ⟨c, by simp [split], stop⟩

theorem hasRaise_of_evaluates {resolved : Dict String V} {p : EnforcementPolicy V} {e : Raised}
    (evaluates : evaluateConditions py p resolved = .error e) : HasRaise py resolved p := by
  obtain ⟨e', raised, _⟩ := (evaluateConditions_error py p resolved e).mp evaluates
  obtain ⟨before, c, after, split, _, stop⟩ :=
    (allHold_stops_iff py resolved _ _ (by simp)).mp raised
  exact ⟨c, by simp [split], e', stop⟩

/-! ### Reordering preserves what the conditions say -/

theorem SameUpToConditionOrder.symm {p q : EnforcementPolicy V} (same : SameUpToConditionOrder p q) :
    SameUpToConditionOrder q p := by
  obtain ⟨fields, perm⟩ := same
  exact ⟨by rw [fields], perm.symm⟩

namespace SameUpToConditionOrder

variable {p q : EnforcementPolicy V} (same : SameUpToConditionOrder p q)
include same

theorem priority_eq : q.priority = p.priority := by
  rw [same.1]

theorem effect_eq : q.effect = p.effect := by
  rw [same.1]

theorem mem_conditions (c : PolicyCondition V) : c ∈ q.conditions ↔ c ∈ p.conditions :=
  same.2.symm.mem_iff

theorem allTrue_iff (resolved : Dict String V) :
    AllTrue py resolved q ↔ AllTrue py resolved p := by
  simp only [AllTrue, same.mem_conditions]

theorem hasFalse_iff (resolved : Dict String V) :
    HasFalse py resolved q ↔ HasFalse py resolved p := by
  simp only [HasFalse, same.mem_conditions]

theorem hasRaise_iff (resolved : Dict String V) :
    HasRaise py resolved q ↔ HasRaise py resolved p := by
  simp only [HasRaise, same.mem_conditions]

end SameUpToConditionOrder

theorem forall₂_mem {α β : Type} {R : α → β → Prop} {xs : List α} {ys : List β}
    (related : List.Forall₂ R xs ys) :
    (∀ x ∈ xs, ∃ y ∈ ys, R x y) ∧ (∀ y ∈ ys, ∃ x ∈ xs, R x y) := by
  induction related with
  | nil => simp
  | cons head _ ih =>
    constructor
    · intro x member
      rcases List.mem_cons.mp member with rfl | member
      · exact ⟨_, List.mem_cons_self, head⟩
      · obtain ⟨y, hy, related⟩ := ih.1 x member
        exact ⟨y, List.mem_cons_of_mem _ hy, related⟩
    · intro y member
      rcases List.mem_cons.mp member with rfl | member
      · exact ⟨_, List.mem_cons_self, head⟩
      · obtain ⟨x, hx, related⟩ := ih.2 y member
        exact ⟨x, List.mem_cons_of_mem _ hx, related⟩

def Counterparts (candidates others : List (EnforcementPolicy V)) : Prop :=
  (∀ p ∈ candidates, ∃ q ∈ others, SameUpToConditionOrder p q) ∧
  (∀ q ∈ others, ∃ p ∈ candidates, SameUpToConditionOrder p q)

theorem Reordered.counterparts {candidates others : List (EnforcementPolicy V)}
    (reordered : Reordered candidates others) : Counterparts candidates others := by
  obtain ⟨permuted, perm, related⟩ := reordered
  have sides := forall₂_mem related
  exact ⟨fun p hp => sides.1 p (perm.mem_iff.mp hp), fun q hq => by
    obtain ⟨p, hp, same⟩ := sides.2 q hq
    exact ⟨p, perm.mem_iff.mpr hp, same⟩⟩

theorem Counterparts.symm {candidates others : List (EnforcementPolicy V)}
    (sides : Counterparts candidates others) : Counterparts others candidates := by
  constructor
  · intro q hq
    obtain ⟨p, hp, same⟩ := sides.2 q hq
    exact ⟨p, hp, same.symm⟩
  · intro p hp
    obtain ⟨q, hq, same⟩ := sides.1 p hp
    exact ⟨q, hq, same.symm⟩

theorem Settled.transfer {resolved : Dict String V} {candidates others : List (EnforcementPolicy V)}
    (sides : Counterparts candidates others) (settled : Settled py resolved candidates) :
    Settled py resolved others := by
  obtain ⟨p, hp, allow, all, rest⟩ := settled
  obtain ⟨p', hp', same⟩ := sides.1 p hp
  refine ⟨p', hp', same.effect_eq.trans allow, (same.allTrue_iff py resolved).mpr all, ?_⟩
  intro q' hq' le
  obtain ⟨q, hq, alike⟩ := sides.2 q' hq'
  rw [same.priority_eq, alike.priority_eq] at le
  obtain ⟨noRaise, sameEffect, higher⟩ := rest q hq le
  rw [same.priority_eq, alike.priority_eq, alike.effect_eq, alike.allTrue_iff, alike.hasFalse_iff,
    alike.hasRaise_iff]
  exact ⟨noRaise, sameEffect, higher⟩

theorem Contested.transfer {resolved : Dict String V} {candidates others : List (EnforcementPolicy V)}
    (sides : Counterparts candidates others) (contested : Contested py resolved candidates) :
    Contested py resolved others := by
  obtain ⟨p, hp, q, hq, allow, all, higher, le, stop⟩ := contested
  obtain ⟨p', hp', same⟩ := sides.1 p hp
  obtain ⟨q', hq', alike⟩ := sides.1 q hq
  refine ⟨p', hp', q', hq', same.effect_eq.trans allow, (same.allTrue_iff py resolved).mpr all,
    ?_, ?_, ?_⟩
  · intro r' hr' lt
    obtain ⟨r, hr, like⟩ := sides.2 r' hr'
    rw [same.priority_eq, like.priority_eq] at lt
    exact (like.hasFalse_iff py resolved).mpr (higher r hr lt)
  · rw [same.priority_eq, alike.priority_eq]
    exact le
  · rw [alike.hasRaise_iff, alike.allTrue_iff, alike.effect_eq]
    exact stop

/-! ### A settled grant, and its converse -/

theorem grants_of_settled (candidates : List (EnforcementPolicy V)) (resolved context : Dict String V)
    (settled : Settled py resolved candidates) :
    Grants (evaluateCandidates py candidates resolved context) := by
  obtain ⟨p, hp, allow, all, rest⟩ := settled
  have stop := stops_of_true py ((evaluateConditions_true_iff py resolved p).mpr all)
  rw [grants_iff_decides]
  cases found : (StableSelect.sortOn (fun p => -p.priority) candidates).find? (stops py resolved) with
  | none =>
    have pass := (StableSelect.find?_sortOn_eq_none _ _ _).mp found p hp
    simp [stop] at pass
  | some a =>
    have lead := (StableSelect.find?_sortOn_eq_some _ _ _ _).mp found
    obtain ⟨member, stopped, least⟩ := lead.least
    have le : p.priority ≤ a.priority := by
      have := least p hp stop
      omega
    obtain ⟨noRaise, sameEffect, higher⟩ := rest a member le
    refine ⟨a, lead, ?_⟩
    cases verdict : evaluateConditions py a resolved with
    | error e => exact absurd (hasRaise_of_evaluates py verdict) noRaise
    | ok b =>
      cases b with
      | false => simp [(stops_eq_false_iff py resolved a).mpr verdict] at stopped
      | true => exact ⟨sameEffect ((evaluateConditions_true_iff py resolved a).mp verdict), rfl⟩

theorem settled_of_grants (candidates : List (EnforcementPolicy V)) (resolved context : Dict String V)
    (grant : Grants (evaluateCandidates py candidates resolved context))
    (calm : ¬ Contested py resolved candidates) : Settled py resolved candidates := by
  obtain ⟨p, lead, allow, hold⟩ := (grants_iff_decides py candidates resolved context).mp grant
  obtain ⟨member, _, least⟩ := lead.least
  have all := (evaluateConditions_true_iff py resolved p).mp hold
  have higher : ∀ r ∈ candidates, p.priority < r.priority → HasFalse py resolved r := by
    intro r hr lt
    cases stop : stops py resolved r with
    | false => exact hasFalse_of_evaluates py ((stops_eq_false_iff py resolved r).mp stop)
    | true =>
      have := least r hr stop
      omega
  refine ⟨p, member, allow, all, fun q hq le => ⟨fun raises => ?_, fun true_ => ?_, higher q hq⟩⟩
  · exact calm ⟨p, member, q, hq, allow, all, higher, le, .inl raises⟩
  · by_contra other
    exact calm ⟨p, member, q, hq, allow, all, higher, le, .inr ⟨true_, other⟩⟩

/-! ### Two orders that disagree on a contested list -/

def front (f : PolicyCondition V → Bool) (p : EnforcementPolicy V) : EnforcementPolicy V :=
  { p with conditions := p.conditions.filter f ++ p.conditions.filter (fun c => !f c) }

theorem front_same (f : PolicyCondition V → Bool) (p : EnforcementPolicy V) :
    SameUpToConditionOrder p (front f p) :=
  ⟨rfl, (List.filter_append_perm f p.conditions).symm⟩

theorem reordered_front (f : PolicyCondition V → Bool) {candidates permuted : List (EnforcementPolicy V)}
    (perm : candidates.Perm permuted) : Reordered candidates (permuted.map (front f)) := by
  refine ⟨permuted, perm, ?_⟩
  rw [List.forall₂_map_right_iff]
  exact List.forall₂_same.mpr (fun p _ => front_same f p)

theorem evaluates_front (resolved : Dict String V) (f : PolicyCondition V → Bool)
    (p : EnforcementPolicy V) (picked : ∃ c ∈ p.conditions, f c = true)
    (blocking : ∀ c, f c = true → holds py resolved c ≠ .ok true) :
    ∃ c, f c = true ∧ allHold py resolved (front f p).conditions = holds py resolved c := by
  obtain ⟨c, member, hit⟩ := picked
  cases first : p.conditions.filter f with
  | nil =>
    have kept := List.mem_filter.mpr ⟨member, hit⟩
    simp [first] at kept
  | cons d rest =>
    have inFront : d ∈ p.conditions.filter f := by simp [first]
    have hd := (List.mem_filter.mp inFront).2
    refine ⟨d, hd, (allHold_stops_iff py resolved _ _ (blocking d hd)).mpr
      ⟨[], d, rest ++ p.conditions.filter (fun c => !f c), ?_, by simp, rfl⟩⟩
    simp [front, first]

def isFalse (resolved : Dict String V) (c : PolicyCondition V) : Bool :=
  match holds py resolved c with
  | .ok false => true
  | _ => false

def isRaise (resolved : Dict String V) (c : PolicyCondition V) : Bool :=
  match holds py resolved c with
  | .error _ => true
  | _ => false

theorem isFalse_iff (resolved : Dict String V) (c : PolicyCondition V) :
    isFalse py resolved c = true ↔ holds py resolved c = .ok false := by
  unfold isFalse
  split
  · rename_i off
    simp [off]
  · rename_i other
    simpa using other

theorem isRaise_iff (resolved : Dict String V) (c : PolicyCondition V) :
    isRaise py resolved c = true ↔ ∃ e, holds py resolved c = .error e := by
  unfold isRaise
  split
  · rename_i e raised
    simp [raised]
  · rename_i other
    simpa using other

theorem passes_falseFirst (resolved : Dict String V) (p : EnforcementPolicy V)
    (hasFalse : HasFalse py resolved p) :
    stops py resolved (front (isFalse py resolved) p) = false := by
  obtain ⟨c, member, off⟩ := hasFalse
  obtain ⟨d, hd, out⟩ := evaluates_front py resolved (isFalse py resolved) p
    ⟨c, member, (isFalse_iff py resolved c).mpr off⟩
    (fun c hc => by simp [(isFalse_iff py resolved c).mp hc])
  rw [stops_eq_false_iff, evaluateConditions_eq_ok, out]
  exact (isFalse_iff py resolved d).mp hd

theorem raises_raiseFirst (resolved : Dict String V) (p : EnforcementPolicy V)
    (hasRaise : HasRaise py resolved p) :
    ∃ e, evaluateConditions py (front (isRaise py resolved) p) resolved = .error e := by
  obtain ⟨c, member, raised⟩ := hasRaise
  obtain ⟨d, hd, out⟩ := evaluates_front py resolved (isRaise py resolved) p
    ⟨c, member, (isRaise_iff py resolved c).mpr raised⟩
    (fun c hc => by
      obtain ⟨e, raised⟩ := (isRaise_iff py resolved c).mp hc
      simp [raised])
  obtain ⟨e, raised⟩ := (isRaise_iff py resolved d).mp hd
  exact ⟨_, (evaluateConditions_error py _ resolved _).mpr ⟨e, out.trans raised, rfl⟩⟩

theorem allTrue_front (resolved : Dict String V) (f : PolicyCondition V → Bool)
    (p : EnforcementPolicy V) : AllTrue py resolved (front f p) ↔ AllTrue py resolved p :=
  (front_same f p).allTrue_iff py resolved

theorem grants_in_some_order (candidates : List (EnforcementPolicy V))
    (resolved context : Dict String V) (p : EnforcementPolicy V) (member : p ∈ candidates)
    (allow : p.effect = "allow") (all : AllTrue py resolved p)
    (higher : ∀ r ∈ candidates, p.priority < r.priority → HasFalse py resolved r) :
    ∃ others, Reordered candidates others ∧ Grants (evaluateCandidates py others resolved context) := by
  obtain ⟨before, after, split⟩ := List.append_of_mem member
  have perm : candidates.Perm (p :: (before ++ after)) := split ▸ List.perm_middle
  refine ⟨_, reordered_front (isFalse py resolved) perm, ?_⟩
  have hold : evaluateConditions py (front (isFalse py resolved) p) resolved = .ok true :=
    (evaluateConditions_true_iff py resolved _).mpr ((allTrue_front py resolved _ p).mpr all)
  refine (grants_iff_decides py _ resolved context).mpr
    ⟨front (isFalse py resolved) p, ?_, allow, hold⟩
  apply StableSelect.leads_head _ (fun s => stops py resolved s = true)
  · exact stops_of_true py hold
  intro b hb stop
  obtain ⟨r, hr, rfl⟩ := List.mem_map.mp hb
  have listed : r ∈ candidates := perm.mem_iff.mpr (List.mem_cons_of_mem _ hr)
  have le : r.priority ≤ p.priority := by
    by_contra above
    have pass := passes_falseFirst py resolved r (higher r listed (by omega))
    rw [pass] at stop
    cases stop
  change -p.priority ≤ -r.priority
  omega

theorem denies_in_some_order (candidates : List (EnforcementPolicy V))
    (resolved context : Dict String V) (p q : EnforcementPolicy V) (member : q ∈ candidates)
    (higher : ∀ r ∈ candidates, p.priority < r.priority → HasFalse py resolved r)
    (le : p.priority ≤ q.priority)
    (stop : HasRaise py resolved q ∨ (AllTrue py resolved q ∧ q.effect ≠ "allow")) :
    ∃ others, Reordered candidates others ∧ ¬ Grants (evaluateCandidates py others resolved context) := by
  obtain ⟨before, after, split⟩ := List.append_of_mem member
  have perm : candidates.Perm (q :: (before ++ after)) := split ▸ List.perm_middle
  refine ⟨_, reordered_front (isRaise py resolved) perm, ?_⟩
  have head : stops py resolved (front (isRaise py resolved) q) = true ∧
      ¬ ((front (isRaise py resolved) q).effect = "allow" ∧
        evaluateConditions py (front (isRaise py resolved) q) resolved = .ok true) := by
    rcases stop with raises | ⟨true_, other⟩
    · obtain ⟨e, raised⟩ := raises_raiseFirst py resolved q raises
      exact ⟨by simp [stops, raised], by simp [raised]⟩
    · have hold := (evaluateConditions_true_iff py resolved _).mpr
        ((allTrue_front py resolved (isRaise py resolved) q).mpr true_)
      exact ⟨stops_of_true py hold, fun granted => other granted.1⟩
  intro grant
  obtain ⟨a, lead, allow, hold⟩ := (grants_iff_decides py _ resolved context).mp grant
  obtain ⟨memberA, _, least⟩ := lead.least
  obtain ⟨r, hr, rfl⟩ := List.mem_map.mp memberA
  have allR := (allTrue_front py resolved _ r).mp ((evaluateConditions_true_iff py resolved _).mp hold)
  have below : r.priority ≤ p.priority := by
    by_contra above
    obtain ⟨c, hc, off⟩ := higher r (perm.mem_iff.mpr hr) (by omega)
    simp [allR c hc] at off
  have leadHead := StableSelect.leads_head (fun s : EnforcementPolicy V => -s.priority)
    (fun s => stops py resolved s = true) ((before ++ after).map (front (isRaise py resolved))) head.1 (by
      intro b hb stopB
      have up := least b (List.mem_cons_of_mem _ hb) stopB
      change -r.priority ≤ -b.priority at up
      change -q.priority ≤ -b.priority
      omega)
  -- a list has one leader, and this one does not grant
  have same := ((StableSelect.find?_sortOn_eq_some _ _ _ _).mpr leadHead).symm.trans
    ((StableSelect.find?_sortOn_eq_some _ _ _ _).mpr lead)
  exact head.2 (Option.some.inj same ▸ ⟨allow, hold⟩)

/-- The grant is the same in every listing order of policies and conditions
exactly when no granting policy is contested. -/
theorem orderIndependent_iff (candidates : List (EnforcementPolicy V)) (resolved context : Dict String V) :
    OrderIndependent py candidates resolved context ↔ ¬ Contested py resolved candidates := by
  constructor
  · rintro independent ⟨p, hp, q, hq, allow, all, higher, le, stop⟩
    obtain ⟨granting, reorderedG, grant⟩ :=
      grants_in_some_order py candidates resolved context p hp allow all higher
    obtain ⟨denying, reorderedD, deny⟩ :=
      denies_in_some_order py candidates resolved context p q hq higher le stop
    have listed := (independent granting reorderedG).mp grant
    exact deny ((independent denying reorderedD).mpr listed)
  · intro calm others reordered
    have sides := reordered.counterparts
    have calmOthers : ¬ Contested py resolved others := fun h => calm (h.transfer py sides.symm)
    constructor
    · intro grant
      exact grants_of_settled py _ resolved context
        ((settled_of_grants py _ resolved context grant calmOthers).transfer py sides.symm)
    · intro grant
      exact grants_of_settled py _ resolved context
        ((settled_of_grants py _ resolved context grant calm).transfer py sides)

end Order

def tiedPolicy (effect : String) : EnforcementPolicy Value where
  id := 0
  name := effect
  priority := 100
  targets := Dict.empty
  conditions := []
  effect := effect

theorem tie_depends_on_order :
    ¬ OrderIndependent (Value.dataModel (fun _ _ => .ok (.bool false)))
      [tiedPolicy "allow", tiedPolicy "deny"] Dict.empty Dict.empty := by
  intro independent
  have swapped : Reordered [tiedPolicy "allow", tiedPolicy "deny"]
      [tiedPolicy "deny", tiedPolicy "allow"] :=
    ⟨_, List.Perm.swap _ _ _, List.forall₂_same.mpr (fun p _ => ⟨rfl, List.Perm.refl _⟩)⟩
  obtain ⟨d, decided, allowed⟩ := (independent _ swapped).mpr ⟨_, rfl, rfl⟩
  cases decided
  cases allowed

end KuvaAI.Enforcer
