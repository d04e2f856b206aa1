import Mathlib.Order.Lattice

/-! How floats compare: the numbers linearly, and what is not a number with nothing, not
even with itself. -/

class FloatOrder (F : Type) [LE F] [LT F] : Prop where
  lt_iff : ∀ {a b : F}, a < b ↔ a ≤ b ∧ ¬ b ≤ a
  trans : ∀ {a b c : F}, a ≤ b → b ≤ c → a ≤ c
  left : ∀ {a b : F}, a ≤ b → a ≤ a
  right : ∀ {a b : F}, a ≤ b → b ≤ b
  total : ∀ {a b : F}, a ≤ a → b ≤ b → a ≤ b ∨ b ≤ a

instance {F : Type} [LinearOrder F] : FloatOrder F where
  lt_iff := lt_iff_le_not_ge
  trans := le_trans
  left _ := le_rfl
  right _ := le_rfl
  total _ _ := le_total _ _

namespace FloatOrder

variable {F α : Type} [LE F] [LT F]

omit [LT F] in
def IsNaN (a : F) : Prop := ¬ a ≤ a

section Comparisons

variable [FloatOrder F] {a b c : F}

theorem lt_irrefl : ¬ a < a := fun less => (lt_iff.mp less).2 (lt_iff.mp less).1

theorem lt_of_le_of_lt (first : a ≤ b) (second : b < c) : a < c := by
  obtain ⟨le, strict⟩ := lt_iff.mp second
  exact lt_iff.mpr ⟨trans first le, fun back => strict (trans back first)⟩

theorem lt_of_lt_of_le (first : a < b) (second : b ≤ c) : a < c := by
  obtain ⟨le, strict⟩ := lt_iff.mp first
  exact lt_iff.mpr ⟨trans le second, fun back => strict (trans second back)⟩

theorem not_nan_left (less : a < b) : ¬ IsNaN a := not_not_intro (left (lt_iff.mp less).1)

theorem not_nan_right (less : a < b) : ¬ IsNaN b := not_not_intro (right (lt_iff.mp less).1)

end Comparisons

section Argmin

variable [DecidableLE F] (key : α → F)

instance (a : F) : Decidable (IsNaN a) := instDecidableNot

/-- The first least of `best` and the rest, or the first in the rest that is not a number. -/
def scan (best : α) : List α → α
  | [] => best
  | next :: rest =>
    if key best ≤ key next then scan best rest
    else if IsNaN (key next) then next
    else scan next rest

/-- The first least element, where what is not a number comes before everything. -/
def argmin : List α → Option α
  | [] => none
  | first :: rest => some (if IsNaN (key first) then first else scan key first rest)

/-- Nothing in the list is less, unless it has something that is not a number. -/
def Least (best : α) (xs : List α) : Prop :=
  best ∈ xs ∧ (IsNaN (key best) ∨ ∀ x ∈ xs, key best ≤ key x)

variable {key}

omit [LT F] in
@[simp] theorem argmin_singleton (a : α) : argmin key [a] = some a := by simp [argmin, scan]

variable [FloatOrder F]

theorem scan_least {best : α} (number : key best ≤ key best) (rest : List α) :
    Least key (scan key best rest) (best :: rest) := by
  induction rest generalizing best with
  | nil => exact ⟨List.mem_cons_self, .inr fun x member => List.mem_singleton.mp member ▸ number⟩
  | cons next rest ih =>
    rw [scan]
    split
    · rename_i le
      obtain ⟨member, nan | least⟩ := ih number
      · exact ⟨List.cons_subset_cons _ (List.subset_cons_self _ _) member, .inl nan⟩
      · refine ⟨List.cons_subset_cons _ (List.subset_cons_self _ _) member, .inr ?_⟩
        have first := least best List.mem_cons_self
        simp only [List.mem_cons, forall_eq_or_imp]
        exact ⟨first, trans first le, fun x later => least x (List.mem_cons_of_mem _ later)⟩
    · rename_i above
      split
      · exact ⟨List.mem_cons_of_mem _ List.mem_cons_self, .inl ‹_›⟩
      · rename_i number'
        have le := (total number (not_not.mp number')).resolve_left above
        obtain ⟨member, nan | least⟩ := ih (not_not.mp number')
        · exact ⟨List.mem_cons_of_mem _ member, .inl nan⟩
        · refine ⟨List.mem_cons_of_mem _ member, .inr ?_⟩
          have first := least next List.mem_cons_self
          simp only [List.mem_cons, forall_eq_or_imp]
          exact ⟨trans first le, first, fun x later => least x (List.mem_cons_of_mem _ later)⟩

theorem argmin_least {xs : List α} {best : α} (found : argmin key xs = some best) :
    Least key best xs := by
  cases xs with
  | nil => cases found
  | cons first rest =>
    rw [argmin] at found
    cases found
    split
    · exact ⟨List.mem_cons_self, .inl ‹_›⟩
    · exact scan_least (not_not.mp ‹_›) rest

end Argmin

end FloatOrder

inductive WithNaN (F : Type) where
  | number (value : F)
  | nan
  deriving DecidableEq

namespace WithNaN

variable {F : Type}

def map₂ (f : F → F → F) : WithNaN F → WithNaN F → WithNaN F
  | number a, number b => number (f a b)
  | _, _ => nan

section Instances

variable [LE F]

instance : LE (WithNaN F) where
  le
    | number a, number b => a ≤ b
    | _, _ => False

instance : LT (WithNaN F) where
  lt a b := a ≤ b ∧ ¬ b ≤ a

instance [DecidableLE F] : DecidableLE (WithNaN F)
  | number a, number b => inferInstanceAs (Decidable (a ≤ b))
  | number _, nan | nan, _ => isFalse id

instance [DecidableLE F] : DecidableLT (WithNaN F) := fun _ _ => instDecidableAnd

theorem le_iff (x y : WithNaN F) : x ≤ y ↔ ∃ a b, x = number a ∧ y = number b ∧ a ≤ b := by
  constructor
  · intro le
    cases x <;> cases y <;> first | exact ⟨_, _, rfl, rfl, le⟩ | exact le.elim
  · rintro ⟨a, b, rfl, rfl, le⟩
    exact le

theorem nan_isNaN : FloatOrder.IsNaN (nan : WithNaN F) := id

end Instances

instance [LinearOrder F] : FloatOrder (WithNaN F) where
  lt_iff := Iff.rfl
  trans first second := by
    obtain ⟨a, b, rfl, rfl, ab⟩ := (le_iff _ _).mp first
    obtain ⟨_, c, same, rfl, bc⟩ := (le_iff _ _).mp second
    cases same
    exact le_trans ab bc
  left le := by
    obtain ⟨a, b, rfl, rfl, _⟩ := (le_iff _ _).mp le
    exact le_refl a
  right le := by
    obtain ⟨a, b, rfl, rfl, _⟩ := (le_iff _ _).mp le
    exact le_refl b
  total first second := by
    obtain ⟨a, _, rfl, _, _⟩ := (le_iff _ _).mp first
    obtain ⟨b, _, rfl, _, _⟩ := (le_iff _ _).mp second
    exact le_total a b

example : FloatOrder.argmin id [number 2, nan, number 1] = some (nan : WithNaN Nat) := by decide

end WithNaN
