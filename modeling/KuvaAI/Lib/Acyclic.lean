import Mathlib.Logic.Relation
import Mathlib.Data.Fintype.EquivFin

/-! Acyclic relations: no path of one step or more leads back to its start. -/

open Relation

def Acyclic {α : Type} (edge : α → α → Prop) : Prop := ∀ a, ¬ TransGen edge a a

namespace Acyclic

variable {α : Type} {edge : α → α → Prop}

theorem mono {more : α → α → Prop} (acyclic : Acyclic more) (sub : ∀ a b, edge a b → more a b) :
    Acyclic edge :=
  fun a cycle => acyclic a (TransGen.mono sub a a cycle)

theorem of_rank (rank : α → Nat) (rises : ∀ a b, edge a b → rank a < rank b) : Acyclic edge := by
  have climbs : ∀ {a b}, TransGen edge a b → rank a < rank b := by
    intro a b path
    induction path with
    | single step => exact rises _ _ step
    | tail _ step ih => exact Nat.lt_trans ih (rises _ _ step)
  intro a cycle
  exact absurd (climbs cycle) (Nat.lt_irrefl _)

theorem of_continued {more : α → α → Prop} (acyclic : Acyclic edge)
    (lift : ∀ a b c, more a b → more b c → edge a b) : Acyclic more := by
  have lifted : ∀ {a b c}, TransGen more a b → more b c → TransGen edge a b := by
    intro a b c path
    induction path generalizing c with
    | single step => exact fun next => .single (lift _ _ _ step next)
    | tail _ step ih => exact fun next => (ih step).tail (lift _ _ _ step next)
  intro a cycle
  obtain ⟨b, edge, _⟩ := TransGen.head'_iff.mp cycle
  exact acyclic a (lifted cycle edge)

def AddInto (edge : α → α → Prop) (sources : α → Prop) (target : α) (a b : α) : Prop :=
  edge a b ∨ sources a ∧ b = target

theorem through_target {sources : α → Prop} {target : α} {a b : α}
    (path : TransGen (AddInto edge sources target) a b) :
    TransGen edge a b ∨ ReflTransGen (AddInto edge sources target) a target ∧
      ReflTransGen (AddInto edge sources target) target b := by
  induction path with
  | single step =>
    rcases step with old | ⟨source, rfl⟩
    · exact .inl (.single old)
    · exact .inr ⟨.single (.inr ⟨source, rfl⟩), .refl⟩
  | tail before step ih =>
    rcases step with old | ⟨source, rfl⟩
    · rcases ih with path | ⟨front, back⟩
      · exact .inl (path.tail old)
      · exact .inr ⟨front, back.tail (.inl old)⟩
    · exact .inr ⟨before.to_reflTransGen.tail (.inr ⟨source, rfl⟩), .refl⟩

theorem through_source {more : α → α → Prop} {source : α}
    (leaves : ∀ a b, more a b → edge a b ∨ a = source) {a b : α} (path : TransGen more a b) :
    TransGen edge a b ∨ ReflTransGen more a source ∧ TransGen more source b := by
  induction path with
  | single step =>
    rcases leaves _ _ step with old | rfl
    · exact .inl (.single old)
    · exact .inr ⟨.refl, .single step⟩
  | tail before step ih =>
    rcases leaves _ _ step with old | rfl
    · rcases ih with path | ⟨front, back⟩
      · exact .inl (path.tail old)
      · exact .inr ⟨front, back.tail step⟩
    · exact .inr ⟨before.to_reflTransGen, .single step⟩

theorem path_addInto {sources : α → Prop} {target : α}
    (open_ : ∀ a, sources a → ¬ ReflTransGen edge target a) {a b : α}
    (path : TransGen (AddInto edge sources target) a b) :
    TransGen edge a b ∨ ∃ s, sources s ∧ ReflTransGen edge a s ∧ ReflTransGen edge target b := by
  induction path with
  | single step =>
    rcases step with old | ⟨source, rfl⟩
    · exact .inl (.single old)
    · exact .inr ⟨a, source, .refl, .refl⟩
  | tail _ step ih =>
    rcases step with old | ⟨source, rfl⟩
    · rcases ih with path | ⟨s, source, front, back⟩
      · exact .inl (path.tail old)
      · exact .inr ⟨s, source, front, back.tail old⟩
    · rcases ih with path | ⟨_, _, _, back⟩
      · exact .inr ⟨_, source, path.to_reflTransGen, .refl⟩
      · exact absurd back (open_ _ source)

/-- New edges into one node close a cycle exactly when that node reaches one of
their sources already. -/
theorem addInto_iff (sources : α → Prop) (target : α) :
    Acyclic (AddInto edge sources target) ↔
      Acyclic edge ∧ ∀ a, sources a → ¬ ReflTransGen edge target a := by
  constructor
  · intro acyclic
    refine ⟨acyclic.mono fun _ _ old => .inl old, ?_⟩
    intro a source reaches
    have lifted : ReflTransGen (AddInto edge sources target) target a :=
      ReflTransGen.mono (fun _ _ old => .inl old) _ _ reaches
    exact acyclic target (TransGen.tail' lifted (.inr ⟨source, rfl⟩))
  · rintro ⟨acyclic, open_⟩ a cycle
    rcases path_addInto open_ cycle with old | ⟨s, source, front, back⟩
    · exact acyclic a old
    · exact open_ s source (back.trans front)

theorem exists_source (acyclic : Acyclic edge) (nodes : Finset α)
    (inside : ∀ a b, edge a b → a ∈ nodes) {b : α} (member : b ∈ nodes) :
    ∃ source ∈ nodes, (∀ a, ¬ edge a source) ∧ ReflTransGen edge source b := by
  have : IsTrans nodes fun a b => TransGen edge a.1 b.1 := ⟨fun _ _ _ => TransGen.trans⟩
  have : Std.Irrefl fun a b : nodes => TransGen edge a.1 b.1 := ⟨fun a => acyclic a.1⟩
  have founded := Finite.wellFounded_of_trans_of_irrefl fun a b : nodes => TransGen edge a.1 b.1
  refine founded.induction (C := fun b : nodes =>
    ∃ source ∈ nodes, (∀ a, ¬ edge a source) ∧ ReflTransGen edge source b.1) ⟨b, member⟩ ?_
  intro b ih
  by_cases enters : ∃ a, edge a b
  · obtain ⟨a, step⟩ := enters
    obtain ⟨source, listed, first, path⟩ := ih ⟨a, inside a b step⟩ (.single step)
    exact ⟨source, listed, first, path.tail step⟩
  · exact ⟨b, b.2, not_exists.mp enters, .refl⟩

end Acyclic

theorem not_self_of_acc {α : Type} {r : α → α → Prop} {a : α} (acc : Acc r a) : ¬ r a a := by
  induction acc with
  | intro a _ ih => exact fun self => ih a self self

theorem no_cycle_of_acc {α : Type} {edge : α → α → Prop} {a b : α}
    (acc : Acc (Function.swap edge) a) (reaches : ReflTransGen edge a b) : ¬ TransGen edge b b := by
  have accEnd : Acc (Function.swap edge) b := by
    induction reaches with
    | refl => exact acc
    | tail _ step ih => exact ih.inv step
  intro cycle
  exact not_self_of_acc accEnd.transGen (transGen_swap.mpr cycle)
