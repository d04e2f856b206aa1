import Mathlib.Data.List.Rotate

/-! Lists up to rotation. The rotation that begins with the least element stands for all
rotations of a list without repetitions. -/
namespace Rotation

variable {α : Type}

theorem eq_of_head? {xs ys : List α} (nodup : xs.Nodup) (rotated : xs.IsRotated ys)
    (first : xs.head? = ys.head?) : xs = ys := by
  obtain ⟨n, rfl⟩ := rotated
  cases xs with
  | nil => simp
  | cons x xs =>
    have positive : 0 < (x :: xs).length := Nat.succ_pos _
    have small := Nat.mod_lt n positive
    rw [← List.rotate_mod, List.head?_rotate small, List.getElem?_eq_getElem small] at first
    have here : (x :: xs)[0] = (x :: xs)[n % (x :: xs).length] := Option.some.inj first
    rw [← List.rotate_mod, ← nodup.getElem_inj_iff.mp here, List.rotate_zero]

section Order

variable [LE α] [Min α] [Std.IsLinearOrder α] [Std.LawfulOrderMin α]

theorem min?_eq_of_perm {xs ys : List α} (perm : xs.Perm ys) : xs.min? = ys.min? := by
  cases least : ys.min? with
  | none =>
    rw [List.min?_eq_none_iff] at least ⊢
    exact List.perm_nil.mp (least ▸ perm)
  | some a =>
    obtain ⟨member, below⟩ := List.min?_eq_some_iff.mp least
    exact List.min?_eq_some_iff.mpr
      ⟨perm.mem_iff.mpr member, fun b listed => below b (perm.mem_iff.mp listed)⟩

end Order

variable [DecidableEq α] [Min α]

def leastFirst (xs : List α) : List α :=
  match xs.min? with
  | none => xs
  | some least => xs.rotate (xs.idxOf least)

theorem leastFirst_isRotated (xs : List α) : (leastFirst xs).IsRotated xs := by
  unfold leastFirst
  split
  · exact .refl xs
  · exact List.IsRotated.forall xs _

variable [LE α] [Std.IsLinearOrder α] [Std.LawfulOrderMin α]

theorem head?_leastFirst (xs : List α) : (leastFirst xs).head? = xs.min? := by
  unfold leastFirst
  split
  · rename_i none
    rw [none, List.min?_eq_none_iff.mp none]
    rfl
  · rename_i least found
    have small := List.idxOf_lt_length_of_mem (List.min?_mem found)
    rw [List.head?_rotate small, List.getElem?_eq_getElem small, List.getElem_idxOf, found]

theorem leastFirst_eq_iff {xs ys : List α} (nodup : xs.Nodup) :
    leastFirst xs = leastFirst ys ↔ xs.IsRotated ys := by
  constructor
  · intro same
    exact (leastFirst_isRotated xs).symm.trans (same ▸ leastFirst_isRotated ys)
  · intro rotated
    have turned : (leastFirst xs).IsRotated (leastFirst ys) :=
      (leastFirst_isRotated xs).trans (rotated.trans (leastFirst_isRotated ys).symm)
    refine eq_of_head? ((leastFirst_isRotated xs).nodup_iff.mpr nodup) turned ?_
    rw [head?_leastFirst, head?_leastFirst, min?_eq_of_perm rotated.perm]

end Rotation
