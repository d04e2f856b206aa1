import Mathlib.Algebra.GroupWithZero.Nat
import Mathlib.Data.List.Lex
import Mathlib.Data.List.Sort
import Mathlib.Data.Char

/-! The dictionary order of texts that are put together from parts, and of numbers that are
written in decimal with a fixed width. -/
namespace Lexical

section Parts

variable {α : Type} [LinearOrder α] {a b c d : List α}

theorem append_lt_append_iff (same : a.length = c.length) :
    a ++ b < c ++ d ↔ a < c ∨ a = c ∧ b < d := by
  induction a generalizing c with
  | nil =>
    obtain rfl : c = [] := List.length_eq_zero_iff.mp same.symm
    simp
  | cons x a ih =>
    cases c with
    | nil => simp at same
    | cons y c =>
      have tails := ih (c := c) (by simpa using same)
      simp only [List.cons_append, List.cons_lt_cons_iff, tails, List.cons.injEq]
      tauto

/-- A mark below all that stands in the first parts ends them, so their lengths do not
matter. -/
theorem append_mark_lt_iff {mark : α} (above : ∀ x ∈ a, mark < x) (aboveToo : ∀ x ∈ c, mark < x) :
    a ++ mark :: b < c ++ mark :: d ↔ a < c ∨ a = c ∧ b < d := by
  induction a generalizing c with
  | nil =>
    cases c with
    | nil => simp
    | cons y c => simp [List.cons_lt_cons_iff, aboveToo y]
  | cons x a ih =>
    have below : mark < x := above x List.mem_cons_self
    cases c with
    | nil => simp [List.cons_lt_cons_iff, below.not_gt, below.ne']
    | cons y c =>
      have tails := ih (c := c) (fun z member => above z (List.mem_cons_of_mem _ member))
        (fun z member => aboveToo z (List.mem_cons_of_mem _ member))
      simp only [List.cons_append, List.cons_lt_cons_iff, tails, List.cons.injEq]
      tauto

theorem head?_sorted_iff {xs : List α} {x : α} :
    (xs.insertionSort (· ≥ ·)).head? = some x ↔ x ∈ xs ∧ ∀ y ∈ xs, y ≤ x := by
  have ordered := List.pairwise_insertionSort (· ≥ ·) xs
  have same : ∀ y, y ∈ xs.insertionSort (· ≥ ·) ↔ y ∈ xs := fun y => List.mem_insertionSort _
  cases sorted : xs.insertionSort (· ≥ ·) with
  | nil =>
    have nothing : ¬ x ∈ xs := by simp [← same, sorted]
    simp [nothing]
  | cons y ys =>
    rw [sorted] at ordered same
    have greatest : ∀ z ∈ xs, z ≤ y := by
      intro z member
      rcases List.mem_cons.mp ((same z).mpr member) with rfl | later
      · exact le_refl z
      · exact (List.pairwise_cons.mp ordered).1 z later
    simp only [List.head?_cons, Option.some.injEq]
    constructor
    · rintro rfl
      exact ⟨(same y).mp List.mem_cons_self, greatest⟩
    · rintro ⟨member, bound⟩
      exact le_antisymm (bound y ((same y).mp List.mem_cons_self)) (greatest x member)

end Parts

section Decimal

theorem digitChar_lt_iff {m n : Nat} (hm : m < 10) (hn : n < 10) :
    Nat.digitChar m < Nat.digitChar n ↔ m < n := by
  have all : ∀ m < 10, ∀ n < 10, (Nat.digitChar m < Nat.digitChar n ↔ m < n) := by decide
  exact all m hm n hn

def padded : Nat → Nat → List Char
  | 0, _ => []
  | width + 1, n => padded width (n / 10) ++ [Nat.digitChar (n % 10)]

@[simp] theorem length_padded (width n : Nat) : (padded width n).length = width := by
  induction width generalizing n with
  | zero => rfl
  | succ width ih => simp [padded, ih]

theorem padded_injective {width m n : Nat} (hm : m < 10 ^ width) (hn : n < 10 ^ width)
    (same : padded width m = padded width n) : m = n := by
  induction width generalizing m n with
  | zero => omega
  | succ width ih =>
    obtain ⟨front, last⟩ := List.append_inj' same rfl
    have quotients : m / 10 = n / 10 := ih (by omega) (by omega) front
    have digits : ∀ i < 10, ∀ j < 10, Nat.digitChar i = Nat.digitChar j → i = j := by decide
    have remainders := digits _ (Nat.mod_lt m (by decide)) _ (Nat.mod_lt n (by decide))
      (List.cons.inj last).1
    omega

theorem padded_eq_iff {width m n : Nat} (hm : m < 10 ^ width) (hn : n < 10 ^ width) :
    padded width m = padded width n ↔ m = n :=
  ⟨padded_injective hm hn, fun equal => by rw [equal]⟩

theorem padded_lt_iff {width m n : Nat} (hm : m < 10 ^ width) (hn : n < 10 ^ width) :
    padded width m < padded width n ↔ m < n := by
  induction width generalizing m n with
  | zero => simp [padded]; omega
  | succ width ih =>
    have fronts := ih (m := m / 10) (n := n / 10) (by omega) (by omega)
    have same : padded width (m / 10) = padded width (n / 10) ↔ m / 10 = n / 10 :=
      padded_eq_iff (by omega) (by omega)
    have digits := digitChar_lt_iff (Nat.mod_lt m (by decide)) (Nat.mod_lt n (by decide))
    rw [padded, padded, append_lt_append_iff (by simp), fronts, same]
    simp only [List.cons_lt_cons_iff, digits, List.not_lt_nil, and_false, or_false]
    omega

theorem lt_of_isDigit {mark c : Char} (low : mark < '0') (digit : c.isDigit) : mark < c := by
  simp only [Char.isDigit, Bool.and_eq_true, decide_eq_true_eq] at digit
  exact low.trans_le digit.1

theorem isDigit_of_mem_padded {width n : Nat} {c : Char} (member : c ∈ padded width n) :
    c.isDigit := by
  induction width generalizing n with
  | zero => simp [padded] at member
  | succ width ih =>
    have digits : ∀ i < 10, (Nat.digitChar i).isDigit := by decide
    rw [padded, List.mem_append, List.mem_singleton] at member
    rcases member with front | rfl
    · exact ih front
    · exact digits _ (Nat.mod_lt n (by decide))

theorem toDigits_eq_padded (width : Nat) {n : Nat} (low : 10 ^ width ≤ n)
    (high : n < 10 ^ (width + 1)) : Nat.toDigits 10 n = padded (width + 1) n := by
  induction width generalizing n with
  | zero =>
    have digit : n < 10 := by simpa using high
    rw [Nat.toDigits_of_lt_base digit, padded, padded, Nat.mod_eq_of_lt digit, List.nil_append]
  | succ width ih =>
    have fronts := ih (n := n / 10) (by omega) (by omega)
    rw [Nat.toDigits_of_base_le (by decide) (by omega), fronts]
    rfl

end Decimal

end Lexical
