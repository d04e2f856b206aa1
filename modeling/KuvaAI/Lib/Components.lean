import KuvaAI.Lib.Acyclic

/-! Strongly connected components: two points are in one component when a path leads
from each to the other. -/

open Relation

def Mutual {α : Type} (edge : α → α → Prop) (a b : α) : Prop :=
  ReflTransGen edge a b ∧ ReflTransGen edge b a

namespace Mutual

variable {α : Type} {edge : α → α → Prop} {a b c : α}

theorem refl (a : α) : Mutual edge a a := ⟨.refl, .refl⟩

theorem symm (both : Mutual edge a b) : Mutual edge b a := ⟨both.2, both.1⟩

theorem trans (first : Mutual edge a b) (second : Mutual edge b c) : Mutual edge a c :=
  ⟨first.1.trans second.1, second.2.trans first.2⟩

/-- What leaves `inside` goes to `done`, and nothing leaves `done`. -/
structure Sealed (edge : α → α → Prop) (inside done : α → Prop) : Prop where
  exits : ∀ a, inside a → ∀ b, edge a b → inside b ∨ done b
  stays : ∀ a, done a → ∀ b, edge a b → done b

variable {inside done : α → Prop}

theorem Sealed.done_of_path (shut : Sealed edge inside done) (start : done a)
    (path : ReflTransGen edge a b) : done b := by
  induction path with
  | refl => exact start
  | tail _ step ih => exact shut.stays _ ih _ step

theorem Sealed.of_path (shut : Sealed edge inside done) (start : inside a)
    (path : ReflTransGen edge a b) : inside b ∨ done b := by
  induction path with
  | refl => exact .inl start
  | tail _ step ih =>
    rcases ih with within | beyond
    · exact shut.exits _ within _ step
    · exact .inr (shut.stays _ beyond _ step)

/-- Points that are mutual with a root and sealed off are the root's component. -/
theorem Sealed.component (shut : Sealed edge inside done) {root : α} (rooted : inside root)
    (apart : ∀ v, inside v → ¬ done v) (connected : ∀ v, inside v → Mutual edge root v) (v : α) :
    inside v ↔ Mutual edge root v := by
  constructor
  · exact connected v
  · intro both
    rcases shut.of_path rooted both.1 with within | beyond
    · exact within
    · exact absurd (shut.done_of_path beyond both.2) (apart root rooted)

theorem acyclic_iff : Acyclic edge ↔
    (∀ a, ¬ edge a a) ∧ ∀ a b, Mutual edge a b → a = b := by
  constructor
  · intro acyclic
    refine ⟨fun a loop => acyclic a (.single loop), fun a b both => ?_⟩
    obtain same | ⟨c, step, rest⟩ := ReflTransGen.cases_head both.1
    · exact same
    · exact absurd (TransGen.head' step (rest.trans both.2)) (acyclic a)
  · rintro ⟨noLoop, alone⟩ a cycle
    obtain ⟨b, step, back⟩ := TransGen.head'_iff.mp cycle
    have same := alone a b ⟨.single step, back⟩
    exact noLoop a (same ▸ step)

end Mutual
