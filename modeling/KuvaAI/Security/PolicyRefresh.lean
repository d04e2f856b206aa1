import KuvaAI.Lib.HashChain
import KuvaAI.Python.Uuid
import KuvaAI.Security.PolicyEnforcer
import Mathlib.Data.List.Perm.Basic
import Mathlib.Data.String.Basic

/-! The refresh of the policy cache. The check that a fetched list has to pass
hashes the sorted ids; what is installed is the last policy of each id. -/
namespace KuvaAI.Enforcer
open Python HashChain

section Refresh

variable {V : Type} (sha256 : Bytes → Bytes)

abbrev PolicyCache (V : Type) := Dict Uuid (EnforcementPolicy V)

structure PolicyRepository (V : Type) where
  fetchActive : Except Exn (List (EnforcementPolicy V))
  getCurrentHash : Except Exn String

/-- `"".join(sorted(str(p.id) for p in policies))`. -/
def versionText (policies : List (EnforcementPolicy V)) : String :=
  String.join (StableSelect.sortOn (fun text => text) (policies.map fun p => uuidText p.id))

def validatePolicyConsistency (getCurrentHash : Except Exn String)
    (policies : List (EnforcementPolicy V)) : Except Exn Bool := do
  let versionHash := hex (sha256 (encode (versionText policies)))
  return versionHash = (← getCurrentHash)

def byId (policies : List (EnforcementPolicy V)) : PolicyCache V :=
  policies.foldl (fun cache p => cache.set p.id p) Dict.empty

/-- The cache after the refresh. One that raises leaves the cache as it was. -/
def refreshPolicies (source : PolicyRepository V) (cache : PolicyCache V) :
    Except Exn (PolicyCache V) := do
  let newPolicies ← source.fetchActive
  if ← validatePolicyConsistency sha256 source.getCurrentHash newPolicies then
    return byId newPolicies
  else
    return cache

def Final (policies : List (EnforcementPolicy V)) (p : EnforcementPolicy V) : Prop :=
  ∃ before after, policies = before ++ p :: after ∧ ∀ q ∈ after, q.id ≠ p.id

theorem final_snoc (policies : List (EnforcementPolicy V)) (p q : EnforcementPolicy V) :
    Final (policies ++ [p]) q ↔ q = p ∨ (Final policies q ∧ q.id ≠ p.id) := by
  constructor
  · rintro ⟨before, after, split, last⟩
    cases after using List.reverseRecOn with
    | nil =>
      have ends := List.append_inj' split rfl
      exact .inl (List.cons.inj ends.2).1.symm
    | append_singleton after r =>
      rw [← List.cons_append, ← List.append_assoc] at split
      obtain ⟨rest, same⟩ := List.append_inj' split rfl
      cases same
      exact .inr ⟨⟨before, after, rest, fun s hs => last s (List.mem_append_left _ hs)⟩,
        Ne.symm (last p (List.mem_append_right _ List.mem_cons_self))⟩
  · rintro (rfl | ⟨⟨before, after, rfl, last⟩, other⟩)
    · exact ⟨policies, [], rfl, by simp⟩
    · refine ⟨before, after ++ [p], by simp, ?_⟩
      intro r hr
      rcases List.mem_append.mp hr with old | new
      · exact last r old
      · rw [List.mem_singleton.mp new]
        exact Ne.symm other

theorem get?_byId (policies : List (EnforcementPolicy V)) (id : Uuid) (p : EnforcementPolicy V) :
    (byId policies).get? id = some p ↔ p.id = id ∧ Final policies p := by
  induction policies using List.reverseRecOn with
  | nil =>
    constructor
    · intro found
      cases found
    · rintro ⟨_, before, after, split, _⟩
      simp at split
  | append_singleton policies q ih =>
    rw [byId, List.foldl_append, List.foldl_cons, List.foldl_nil, Dict.get?_set, final_snoc]
    by_cases here : id = q.id
    · rw [if_pos here]
      constructor
      · intro same
        cases same
        exact ⟨here.symm, .inl rfl⟩
      · rintro ⟨named, rfl | ⟨_, other⟩⟩
        · rfl
        · exact absurd (named.trans here) other
    · rw [if_neg here, show List.foldl _ _ policies = byId policies from rfl, ih]
      constructor
      · rintro ⟨named, final⟩
        exact ⟨named, .inr ⟨final, fun same => here (named.symm.trans same)⟩⟩
      · rintro ⟨named, rfl | ⟨final, _⟩⟩
        · exact absurd named.symm here
        · exact ⟨named, final⟩

theorem mem_keys_byId (policies : List (EnforcementPolicy V)) (id : Uuid) :
    id ∈ (byId policies).keys ↔ id ∈ policies.map EnforcementPolicy.id := by
  induction policies using List.reverseRecOn with
  | nil => simp [byId, Dict.empty, Dict.keys]
  | append_singleton policies q ih =>
    rw [byId, List.foldl_append, List.foldl_cons, List.foldl_nil, Dict.mem_keys_set,
      show List.foldl _ _ policies = byId policies from rfl, ih]
    simp [or_comm]

theorem join_injective {size : Nat} (positive : 0 < size) {xs ys : List String}
    (lengthX : ∀ x ∈ xs, x.toList.length = size) (lengthY : ∀ y ∈ ys, y.toList.length = size)
    (same : String.join xs = String.join ys) : xs = ys := by
  have chars := congrArg String.toList same
  simp only [String.toList_join] at chars
  clear same
  induction xs generalizing ys with
  | nil =>
    cases ys with
    | nil => rfl
    | cons y ys =>
      have empty := (List.append_eq_nil_iff.mp chars.symm).1
      have long := lengthY y List.mem_cons_self
      rw [empty, List.length_nil] at long
      omega
  | cons x xs ih =>
    cases ys with
    | nil =>
      have empty := (List.append_eq_nil_iff.mp chars).1
      have long := lengthX x List.mem_cons_self
      rw [empty, List.length_nil] at long
      omega
    | cons y ys =>
      have equal := (lengthX x List.mem_cons_self).trans (lengthY y List.mem_cons_self).symm
      obtain ⟨heads, tails⟩ := List.append_inj chars equal
      rw [String.toList_injective heads,
        ih (fun a ha => lengthX a (List.mem_cons_of_mem _ ha))
          (fun a ha => lengthY a (List.mem_cons_of_mem _ ha)) tails]

theorem ids_perm_of_versionText {xs ys : List (EnforcementPolicy V)}
    (same : versionText xs = versionText ys) :
    (xs.map EnforcementPolicy.id).Perm (ys.map EnforcementPolicy.id) := by
  have sizes : ∀ zs : List (EnforcementPolicy V),
      ∀ text ∈ StableSelect.sortOn (fun text => text) (zs.map fun p => uuidText p.id),
        text.toList.length = 36 := by
    intro zs text member
    rw [StableSelect.mem_sortOn] at member
    obtain ⟨p, _, rfl⟩ := List.mem_map.mp member
    exact length_uuidText p.id
  have sorted := join_injective (by decide) (sizes xs) (sizes ys) same
  have texts : (xs.map fun p => uuidText p.id).Perm (ys.map fun p => uuidText p.id) := by
    have permX := StableSelect.sortOn_perm (fun text => text) (xs.map fun p => uuidText p.id)
    rw [sorted] at permX
    exact permX.symm.trans (StableSelect.sortOn_perm _ _)
  rw [← List.map_perm_map_iff uuidText_injective, List.map_map, List.map_map]
  exact texts

def SameContent (p q : EnforcementPolicy V) : Prop :=
  p.priority = q.priority ∧ (∀ subject, p.targets.get? subject = q.targets.get? subject) ∧
    p.conditions = q.conditions ∧ p.effect = q.effect

structure Accepts (source : PolicyRepository V) (policies : List (EnforcementPolicy V)) : Prop where
  fetched : source.fetchActive = .ok policies
  consistent : validatePolicyConsistency sha256 source.getCurrentHash policies = .ok true

/-- Every id is bound in both caches, or in neither, and to policies of one content. -/
def SameBindings (first second : PolicyCache V) : Prop :=
  ∀ id, Option.Rel SameContent (first.get? id) (second.get? id)

/-- Where both lists end on a policy of one id, it has the same content. -/
def SameFinalContent (xs ys : List (EnforcementPolicy V)) : Prop :=
  ∀ p q, Final xs p → Final ys q → p.id = q.id → SameContent p q

variable {sha256}

theorem Accepts.refreshes {source : PolicyRepository V} {policies : List (EnforcementPolicy V)}
    (accepts : Accepts sha256 source policies) (cache : PolicyCache V) :
    refreshPolicies sha256 source cache = .ok (byId policies) := by
  simp only [refreshPolicies, accepts.fetched, accepts.consistent, bind_ok, if_true, pure_eq_ok]

theorem Accepts.hash {source : PolicyRepository V} {policies : List (EnforcementPolicy V)}
    (accepts : Accepts sha256 source policies) :
    source.getCurrentHash = .ok (hex (sha256 (encode (versionText policies)))) := by
  have consistent := accepts.consistent
  unfold validatePolicyConsistency at consistent
  obtain ⟨hash, current, consistent⟩ := bind_eq_ok consistent
  simp only [pure_eq_ok, Except.ok.injEq, decide_eq_true_eq] at consistent
  rw [current, consistent]

theorem Accepts.digest {first second : PolicyRepository V} {xs ys : List (EnforcementPolicy V)}
    (one : Accepts sha256 first xs) (other : Accepts sha256 second ys)
    (hash : first.getCurrentHash = second.getCurrentHash) :
    sha256 (encode (versionText xs)) = sha256 (encode (versionText ys)) := by
  rw [one.hash, other.hash, Except.ok.injEq] at hash
  exact hex_injective hash

theorem collides_iff {xs ys : List (EnforcementPolicy V)}
    (digest : sha256 (encode (versionText xs)) = sha256 (encode (versionText ys))) :
    Collides sha256 [encode (versionText xs), encode (versionText ys)] ↔
      versionText xs ≠ versionText ys := by
  constructor
  · intro collides same
    rw [same] at collides
    have one : ∀ a ∈ [encode (versionText ys), encode (versionText ys)], a = encode (versionText ys) := by
      simp
    exact not_collides_of_eq one collides
  · intro differ
    exact ⟨_, List.mem_cons_self, _, List.mem_cons_of_mem _ List.mem_cons_self,
      fun same => differ (encode_injective same), digest⟩

theorem sameBindings_iff {xs ys : List (EnforcementPolicy V)}
    (same : versionText xs = versionText ys) :
    SameBindings (byId xs) (byId ys) ↔ SameFinalContent xs ys := by
  constructor
  · intro bindings p q finalP finalQ named
    have here := bindings q.id
    rw [(get?_byId xs q.id p).mpr ⟨named, finalP⟩, (get?_byId ys q.id q).mpr ⟨rfl, finalQ⟩] at here
    cases here with
    | some content => exact content
  · intro content id
    cases boundX : (byId xs).get? id with
    | none =>
      have absent := (Dict.get?_eq_none_iff _ _).mp boundX
      rw [mem_keys_byId, (ids_perm_of_versionText same).mem_iff, ← mem_keys_byId] at absent
      rw [(Dict.get?_eq_none_iff _ _).mpr absent]
      exact .none
    | some p =>
      have member := (Dict.mem_keys_iff _ _).mpr ⟨p, boundX⟩
      rw [mem_keys_byId, (ids_perm_of_versionText same).mem_iff, ← mem_keys_byId] at member
      obtain ⟨q, boundY⟩ := (Dict.mem_keys_iff _ _).mp member
      rw [boundY]
      obtain ⟨namedP, finalP⟩ := (get?_byId xs id p).mp boundX
      obtain ⟨namedQ, finalQ⟩ := (get?_byId ys id q).mp boundY
      exact .some (content p q finalP finalQ (namedP.trans namedQ.symm))

/-- The hash settles which ids are bound, and nothing of the policies' content. -/
theorem refresh_content_iff {first second : PolicyRepository V}
    {xs ys : List (EnforcementPolicy V)} (hash : first.getCurrentHash = second.getCurrentHash)
    (one : Accepts sha256 first xs) (other : Accepts sha256 second ys)
    {cache cache' installed installed' : PolicyCache V}
    (ran : refreshPolicies sha256 first cache = .ok installed)
    (ran' : refreshPolicies sha256 second cache' = .ok installed') :
    SameBindings installed installed' ∨
        Collides sha256 [encode (versionText xs), encode (versionText ys)] ↔
      versionText xs ≠ versionText ys ∨ SameFinalContent xs ys := by
  rw [one.refreshes, Except.ok.injEq] at ran
  rw [other.refreshes, Except.ok.injEq] at ran'
  subst ran ran'
  rw [collides_iff (one.digest other hash)]
  by_cases same : versionText xs = versionText ys
  · rw [sameBindings_iff same]
    simp only [ne_eq, same, not_true_eq_false, or_false, false_or]
  · exact ⟨fun _ => .inl same, fun _ => .inr same⟩

end Refresh

section Instance

def deskId : Uuid := 0x0f6d3c5ab0e14c2f9d8e7a6b5c4d3e2f

def deskText : String := "0f6d3c5a-b0e1-4c2f-9d8e-7a6b5c4d3e2f"

def deskHash : String := "4d6c606b6f5264d78cd2873237640b7fe9dd17d24071b1f093bb16b8a51992bc"

def sha256Table (data : Bytes) : Bytes :=
  if data = encode deskText then
    [77, 108, 96, 107, 111, 82, 100, 215, 140, 210, 135, 50, 55, 100, 11, 127, 233, 221, 23, 210,
      64, 113, 177, 240, 147, 187, 22, 184, 165, 25, 146, 188]
  else []

def desk (effect : String) : EnforcementPolicy Value where
  id := deskId
  name := "desk"
  priority := 10
  targets := Dict.empty
  conditions := [⟨"mfa", "eq", .bool true⟩]
  effect := effect

def repository (policies : List (EnforcementPolicy Value)) : PolicyRepository Value where
  fetchActive := .ok policies
  getCurrentHash := .ok deskHash

theorem versionText_desk (effect : String) : versionText [desk effect] = deskText := by
  have text : uuidText deskId = deskText := by decide +kernel
  rw [← text]
  simp [versionText, StableSelect.sortOn, desk, String.join]

theorem accepts_desk (effect : String) : Accepts sha256Table (repository [desk effect]) [desk effect] where
  fetched := rfl
  consistent := by
    have digest : hex (sha256Table (encode deskText)) = deskHash := by decide +kernel
    rw [validatePolicyConsistency, versionText_desk, digest]
    exact congrArg Except.ok (decide_eq_true rfl)

theorem refresh_content_desk :
    SameBindings (byId [desk "allow"]) (byId [desk "allow"]) ∨
        Collides sha256Table [encode (versionText [desk "allow"]), encode (versionText [desk "allow"])] ↔
      versionText [desk "allow"] ≠ versionText [desk "allow"] ∨
        SameFinalContent [desk "allow"] [desk "allow"] :=
  refresh_content_iff rfl (accepts_desk "allow") (accepts_desk "allow")
    ((accepts_desk "allow").refreshes Dict.empty) ((accepts_desk "allow").refreshes Dict.empty)

/-- The repository turns the one policy from deny to allow and reports the same hash. -/
theorem refresh_content_edited :
    ∃ (first second : PolicyRepository Value) (xs ys : List (EnforcementPolicy Value))
      (installed installed' : PolicyCache Value),
      first.getCurrentHash = second.getCurrentHash ∧
      Accepts sha256Table first xs ∧ Accepts sha256Table second ys ∧
      refreshPolicies sha256Table first Dict.empty = .ok installed ∧
      refreshPolicies sha256Table second Dict.empty = .ok installed' ∧
      ¬ (SameBindings installed installed' ∨
        Collides sha256Table [encode (versionText xs), encode (versionText ys)]) := by
  refine ⟨repository [desk "deny"], repository [desk "allow"], _, _, _, _, rfl,
    accepts_desk "deny", accepts_desk "allow", (accepts_desk "deny").refreshes _,
    (accepts_desk "allow").refreshes _, ?_⟩
  rintro (bindings | collides)
  · have here := bindings deskId
    simp only [byId, List.foldl_cons, List.foldl_nil] at here
    cases here with
    | some content => exact absurd content.2.2.2 (by decide)
  · rw [versionText_desk, versionText_desk] at collides
    have one : ∀ a ∈ [encode deskText, encode deskText], a = encode deskText := by simp
    exact not_collides_of_eq one collides

end Instance

end KuvaAI.Enforcer
