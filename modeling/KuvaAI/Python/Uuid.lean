import KuvaAI.Python.Bytes
import Mathlib.Data.List.GetD
import Mathlib.Data.Nat.ModEq

/-! The text of numbers in base sixteen, digests and UUIDs: `hexdigest()` and
`str(uuid.UUID)`. Each determines what it was made from. -/
namespace KuvaAI.Python

theorem hexDigit_injective {a b : Nat} (ha : a < 16) (hb : b < 16)
    (same : hexDigit a = hexDigit b) : a = b := by
  have table : ∀ a < 16, ∀ b < 16, hexDigit a = hexDigit b → a = b := by decide
  exact table a ha b hb same

theorem hex_injective {x y : Bytes} (same : hex x = hex y) : x = y := by
  have digits := String.ofList_injective same
  clear same
  induction x generalizing y with
  | nil =>
    cases y with
    | nil => rfl
    | cons b y => cases digits
  | cons a x ih =>
    cases y with
    | nil => cases digits
    | cons b y =>
      simp only [List.flatMap_cons, List.cons_append, List.nil_append, List.cons.injEq] at digits
      obtain ⟨high, low, rest⟩ := digits
      have highs := hexDigit_injective (by have := a.toNat_lt; omega)
        (by have := b.toNat_lt; omega) high
      have lows := hexDigit_injective (by omega) (by omega) low
      have heads : a = b := UInt8.toNat_inj.mp (by omega)
      rw [heads, ih rest]

/-- `'%0*x' % (size, n)`, the leading digits first. -/
def hexNumber (size n : Nat) : List Char :=
  (List.range size).map (fun i => hexDigit (n / 16 ^ (size - 1 - i) % 16))

@[simp] theorem length_hexNumber (size n : Nat) : (hexNumber size n).length = size := by
  simp [hexNumber]

theorem mod_pow_eq_of_digits {size m n : Nat}
    (digits : ∀ i < size, m / 16 ^ i % 16 = n / 16 ^ i % 16) : m % 16 ^ size = n % 16 ^ size := by
  induction size with
  | zero => simp [Nat.mod_one]
  | succ size ih =>
    rw [Nat.mod_pow_succ, Nat.mod_pow_succ, ih (fun i hi => digits i (Nat.lt_succ_of_lt hi)),
      digits size (Nat.lt_succ_self size)]

theorem hexNumber_injective {size m n : Nat} (hm : m < 16 ^ size) (hn : n < 16 ^ size)
    (same : hexNumber size m = hexNumber size n) : m = n := by
  have digits : ∀ i < size, m / 16 ^ i % 16 = n / 16 ^ i % 16 := by
    intro i hi
    have at_ := congrArg (fun cs => cs[size - 1 - i]?) same
    have inside : size - 1 - i < size := by omega
    simp only [hexNumber, List.getElem?_map, List.getElem?_range inside, Option.map_some,
      Option.some.injEq] at at_
    rw [show size - 1 - (size - 1 - i) = i by omega] at at_
    exact hexDigit_injective (Nat.mod_lt _ (by decide)) (Nat.mod_lt _ (by decide)) at_
  have residues := mod_pow_eq_of_digits digits
  rwa [Nat.mod_eq_of_lt hm, Nat.mod_eq_of_lt hn] at residues

def uuidText (id : BitVec 128) : String :=
  let digits := hexNumber 32 id.toNat
  String.ofList (digits.take 8 ++ '-' :: (digits.drop 8).take 4 ++ '-' :: (digits.drop 12).take 4 ++
    '-' :: (digits.drop 16).take 4 ++ '-' :: digits.drop 20)

example : uuidText 0x0f6d3c5ab0e14c2f9d8e7a6b5c4d3e2f = "0f6d3c5a-b0e1-4c2f-9d8e-7a6b5c4d3e2f" := by
  decide +kernel

theorem length_uuidText (id : BitVec 128) : (uuidText id).toList.length = 36 := by
  simp [uuidText]

theorem uuidText_injective : Function.Injective uuidText := by
  intro a b same
  have text := String.ofList_injective same
  have groups : ∀ digits : List Char, digits.length = 32 →
      digits = digits.take 8 ++ ((digits.drop 8).take 4 ++ ((digits.drop 12).take 4 ++
        ((digits.drop 16).take 4 ++ digits.drop 20))) := by
    intro digits _
    have later : ∀ n m : Nat, (digits.drop n).take m ++ digits.drop (n + m) = digits.drop n := by
      intro n m
      rw [← List.drop_drop, List.take_append_drop]
    rw [later 16 4, later 12 4, later 8 4, List.take_append_drop]
  simp only [List.append_assoc, List.cons_append] at text
  obtain ⟨first, text⟩ := List.append_inj text (by simp)
  obtain ⟨second, text⟩ := List.append_inj (List.cons.inj text).2 (by simp)
  obtain ⟨third, text⟩ := List.append_inj (List.cons.inj text).2 (by simp)
  obtain ⟨fourth, text⟩ := List.append_inj (List.cons.inj text).2 (by simp)
  have fifth := (List.cons.inj text).2
  have digits : hexNumber 32 a.toNat = hexNumber 32 b.toNat := by
    rw [groups _ (length_hexNumber 32 a.toNat), groups _ (length_hexNumber 32 b.toNat), first,
      second, third, fourth, fifth]
  exact BitVec.eq_of_toNat_eq (hexNumber_injective a.isLt b.isLt digits)

end KuvaAI.Python
