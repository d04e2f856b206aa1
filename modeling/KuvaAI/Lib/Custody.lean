import Mathlib.Data.List.Nodup
import Mathlib.Data.List.Perm.Basic
import Mathlib.Logic.Function.Basic

/-! Custody of items: each waits in one place of a queue or is held by one task. -/
namespace Custody

variable {ι : Type}

structure Exclusive (waiting : List ι) (holder : Nat → Option ι) : Prop where
  distinct : waiting.Nodup
  apart : ∀ i a, holder i = some a → a ∉ waiting
  single : ∀ i j a, holder i = some a → holder j = some a → i = j

variable {waiting others : List ι} {holder : Nat → Option ι} {a : ι}

theorem exclusive_nothing : Exclusive ([] : List ι) fun _ => none where
  distinct := List.nodup_nil
  apart _ _ held := nomatch held
  single _ _ _ held := nomatch held

namespace Exclusive

variable (exclusive : Exclusive waiting holder)

include exclusive

theorem perm (same : waiting.Perm others) : Exclusive others holder :=
  ⟨same.nodup exclusive.distinct, fun i a held => same.mem_iff.not.mp (exclusive.apart i a held),
    exclusive.single⟩

theorem arrive (absent : a ∉ waiting) (unheld : ∀ i, holder i ≠ some a) :
    Exclusive (a :: waiting) holder := by
  refine ⟨List.nodup_cons.mpr ⟨absent, exclusive.distinct⟩, fun i b held => ?_, exclusive.single⟩
  rintro (_ | ⟨_, member⟩)
  · exact unheld i held
  · exact exclusive.apart i b held member

theorem clear (i : Nat) : Exclusive waiting (Function.update holder i none) := by
  have kept : ∀ j b, Function.update holder i none j = some b → holder j = some b := by
    intro j b held
    by_cases same : j = i
    · simp [same] at held
    · simpa [same] using held
  exact ⟨exclusive.distinct, fun j b held => exclusive.apart j b (kept j b held),
    fun j k b first second => exclusive.single j k b (kept j b first) (kept k b second)⟩

theorem give (i : Nat) (held : holder i = some a) :
    Exclusive (a :: waiting) (Function.update holder i none) := by
  refine (exclusive.clear i).arrive (exclusive.apart i a held) fun j now => ?_
  by_cases same : j = i
  · simp [same] at now
  · rw [Function.update_of_ne same] at now
    exact same (exclusive.single j i a now held)

omit exclusive in
theorem take (exclusive : Exclusive (a :: waiting) holder) (i : Nat) :
    Exclusive waiting (Function.update holder i (some a)) := by
  have unheld : ∀ j, holder j ≠ some a := fun j held => exclusive.apart j a held List.mem_cons_self
  have kept : ∀ j b, Function.update holder i (some a) j = some b →
      (j = i ∧ b = a) ∨ (j ≠ i ∧ holder j = some b) := by
    intro j b held
    by_cases same : j = i
    · subst same
      rw [Function.update_self] at held
      exact .inl ⟨rfl, (Option.some.inj held).symm⟩
    · rw [Function.update_of_ne same] at held
      exact .inr ⟨same, held⟩
  obtain ⟨absent, distinct⟩ := List.nodup_cons.mp exclusive.distinct
  refine ⟨distinct, fun j b held => ?_, fun j k b first second => ?_⟩
  · rcases kept j b held with ⟨_, rfl⟩ | ⟨_, held⟩
    · exact absent
    · exact fun member => exclusive.apart j b held (List.mem_cons_of_mem _ member)
  · rcases kept j b first with ⟨here, same⟩ | ⟨_, before⟩
    · rcases kept k b second with ⟨there, _⟩ | ⟨_, before⟩
      · exact here.trans there.symm
      · exact (unheld k (same ▸ before)).elim
    · rcases kept k b second with ⟨_, same⟩ | ⟨_, before'⟩
      · exact (unheld j (same ▸ before)).elim
      · exact exclusive.single j k b before before'

theorem sublist (fewer : others.Sublist waiting) : Exclusive others holder :=
  ⟨fewer.nodup exclusive.distinct, fun i a held member => exclusive.apart i a held (fewer.subset member),
    exclusive.single⟩

end Exclusive

def Placed (waiting : List ι) (holder : Nat → Option ι) (a : ι) : Prop :=
  a ∈ waiting ∨ ∃ i, holder i = some a

theorem not_placed_nothing : ¬ Placed [] (fun _ => none) a := by
  rintro (member | ⟨_, held⟩)
  · exact List.not_mem_nil member
  · cases held

section Placing

variable {b : ι} {i : Nat}

theorem placed_perm (same : waiting.Perm others) : Placed others holder b ↔ Placed waiting holder b :=
  or_congr same.mem_iff.symm Iff.rfl

theorem placed_arrive : Placed (a :: waiting) holder b ↔ b = a ∨ Placed waiting holder b := by
  rw [Placed, List.mem_cons, or_assoc, Placed]

theorem exists_update (x : Option ι) : (∃ j, Function.update holder i x j = some b) ↔
    x = some b ∨ ∃ j, j ≠ i ∧ holder j = some b := by
  constructor
  · rintro ⟨j, held⟩
    by_cases same : j = i
    · exact .inl (by simpa [same] using held)
    · exact .inr ⟨j, same, by simpa [same] using held⟩
  · rintro (taken | ⟨j, other, held⟩)
    · exact ⟨i, by simpa using taken⟩
    · exact ⟨j, by simpa [other] using held⟩

theorem exists_held (held : holder i = some a) : (∃ j, holder j = some b) ↔
    b = a ∨ ∃ j, j ≠ i ∧ holder j = some b := by
  constructor
  · rintro ⟨j, holds⟩
    by_cases same : j = i
    · subst same
      exact .inl (Option.some.inj (holds.symm.trans held))
    · exact .inr ⟨j, same, holds⟩
  · rintro (rfl | ⟨j, _, holds⟩)
    · exact ⟨i, held⟩
    · exact ⟨j, holds⟩

theorem exists_idle (idle : holder i = none) : (∃ j, holder j = some b) ↔
    ∃ j, j ≠ i ∧ holder j = some b := by
  refine exists_congr fun j => ⟨fun holds => ⟨?_, holds⟩, And.right⟩
  rintro rfl
  rw [idle] at holds
  cases holds

theorem placed_take (idle : holder i = none) :
    Placed waiting (Function.update holder i (some a)) b ↔ Placed (a :: waiting) holder b := by
  rw [Placed, exists_update, Placed, exists_idle idle, List.mem_cons, Option.some.injEq]
  tauto

theorem placed_give (held : holder i = some a) :
    Placed (a :: waiting) (Function.update holder i none) b ↔ Placed waiting holder b := by
  rw [Placed, exists_update, Placed, exists_held held, List.mem_cons]
  simp only [reduceCtorEq, false_or]
  tauto

theorem Exclusive.placed_drop (exclusive : Exclusive (a :: waiting) holder) :
    Placed waiting holder b ↔ Placed (a :: waiting) holder b ∧ b ≠ a := by
  have apart := (List.nodup_cons.mp exclusive.distinct).1
  have unheld : ∀ j, holder j ≠ some a := fun j holds => exclusive.apart j a holds List.mem_cons_self
  rw [placed_arrive]
  constructor
  · rintro (waits | ⟨j, holds⟩)
    · exact ⟨.inr (.inl waits), fun same => apart (same ▸ waits)⟩
    · exact ⟨.inr (.inr ⟨j, holds⟩), fun same => unheld j (same ▸ holds)⟩
  · rintro ⟨same | placed, different⟩
    · exact (different same).elim
    · exact placed

end Placing

end Custody
