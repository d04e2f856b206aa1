import Mathlib.Data.Int.CardIntervalMod
import Mathlib.Data.List.Nodup
import Mathlib.Data.List.Count
import Mathlib.Data.List.Rotate

/-! Items dealt in turn to a row of places: how many each place gets, and when the
items, gathered place by place in some table order, are again in the order in which
they would be dealt. -/
namespace RoundRobin

variable {κ : Type}

def seat (places : List κ) (i : Nat) : Option κ := places[i % places.length]?

section Seats

variable {places : List κ} (nonempty : places ≠ [])

include nonempty

theorem length_places : 0 < places.length := List.length_pos_iff.mpr nonempty

theorem seat_eq (i : Nat) : ∃ place ∈ places, seat places i = some place := by
  have small := Nat.mod_lt i (length_places nonempty)
  exact ⟨places[i % places.length], List.getElem_mem small, List.getElem?_eq_getElem small⟩

end Seats

theorem seat_of_lt {places : List κ} {i : Nat} (small : i < places.length) :
    seat places i = places[i]? := by
  rw [seat, Nat.mod_eq_of_lt small]

variable [DecidableEq κ]

def share (places : List κ) (m : Nat) (place : κ) : Nat :=
  Nat.count (fun i => seat places i = some place) m

theorem share_getElem {places : List κ} (nodup : places.Nodup) (m r : Nat)
    (small : r < places.length) :
    share places m places[r] = m / places.length + if r < m % places.length then 1 else 0 := by
  have positive : 0 < places.length := by omega
  have same : (fun i => seat places i = some places[r]) = (· ≡ r [MOD places.length]) := by
    funext i
    have within := Nat.mod_lt i positive
    rw [seat, List.getElem?_eq_getElem within, Option.some.injEq, nodup.getElem_inj_iff]
    rw [Nat.ModEq, Nat.mod_eq_of_lt small]
  simp only [share, same]
  rw [Nat.count_modEq_card _ positive, Nat.mod_eq_of_lt small]

theorem share_le {places : List κ} (nodup : places.Nodup) (m : Nat) {a b : κ} (memA : a ∈ places)
    (memB : b ∈ places) : share places m a ≤ share places m b + 1 := by
  obtain ⟨r, smallR, rfl⟩ := List.getElem_of_mem memA
  obtain ⟨q, smallQ, rfl⟩ := List.getElem_of_mem memB
  rw [share_getElem nodup, share_getElem nodup]
  split <;> split <;> omega

theorem share_fair {places : List κ} (nodup : places.Nodup) (m : Nat) {place : κ}
    (member : place ∈ places) :
    share places m place = m / places.length ∨
      share places m place = (m + places.length - 1) / places.length := by
  obtain ⟨r, small, rfl⟩ := List.getElem_of_mem member
  have positive : 0 < places.length := by omega
  have rest := Nat.mod_lt m positive
  have split := Nat.div_add_mod m places.length
  rw [share_getElem nodup]
  by_cases more : r < m % places.length
  · right
    rw [if_pos more]
    have shape : m + places.length - 1 =
        (m % places.length - 1) + places.length * (m / places.length + 1) := by
      rw [Nat.mul_add_one]
      omega
    have none : (m % places.length - 1) / places.length = 0 := Nat.div_eq_of_lt (by omega)
    rw [shape, Nat.add_mul_div_left _ _ positive, none, Nat.zero_add]
  · left
    rw [if_neg more, Nat.add_zero]

/-- The places of `m` items in a row, the first of which has the number `start`. -/
def dealt (places : List κ) (start m : Nat) : List (Option κ) :=
  (List.range m).map fun i => seat places (start + i)

omit [DecidableEq κ] in
theorem dealt_succ (places : List κ) (start m : Nat) :
    dealt places start (m + 1) = seat places start :: dealt places (start + 1) m := by
  rw [dealt, List.range_succ_eq_map, List.map_cons, List.map_map]
  congr 1
  exact List.map_congr_left fun i _ => by simp [Nat.add_comm 1 i, Nat.add_assoc]

omit [DecidableEq κ] in
theorem dealt_of_infix {places : List κ} {start m : Nat} {window : List (Option κ)}
    (within : window <:+: dealt places start m) :
    ∃ first, window = dealt places first window.length := by
  obtain ⟨before, after, whole⟩ := within
  refine ⟨start + before.length, List.ext_getElem? fun i => ?_⟩
  by_cases small : i < window.length
  · have here : (dealt places start m)[before.length + i]? = window[i]? := by
      rw [← whole, List.append_assoc, List.getElem?_append_right (Nat.le_add_right _ _),
        Nat.add_sub_cancel_left, List.getElem?_append_left small]
    have bound : before.length + i < m := by
      have lengths := congrArg List.length whole
      simp only [dealt, List.length_append, List.length_map, List.length_range] at lengths
      omega
    rw [← here]
    simp [dealt, bound, small, Nat.add_assoc]
  · rw [List.getElem?_eq_none (by omega), List.getElem?_eq_none (by simp [dealt]; omega)]

omit [DecidableEq κ] in
theorem seat_rotate {places : List κ} (nonempty : places ≠ []) (start i : Nat) :
    seat (places.rotate start) i = seat places (start + i) := by
  have small := Nat.mod_lt i (length_places nonempty)
  rw [seat, seat, List.length_rotate, List.getElem?_rotate small, Nat.mod_add_mod, Nat.add_comm]

theorem count_dealt {places : List κ} (nonempty : places ≠ []) (start m : Nat) (place : κ) :
    (dealt places start m).count (some place) = share (places.rotate start) m place := by
  induction m with
  | zero => rfl
  | succ m ih =>
    rw [share, Nat.count_succ, ← share, ← ih, seat_rotate nonempty, dealt, List.range_succ,
      List.map_append, List.count_append, ← dealt, List.map_singleton, List.count_singleton]
    simp

/-- Wherever items in a row begin, each place gets its share of them. -/
theorem window_fair {places : List κ} (nodup : places.Nodup) {start m : Nat}
    {window : List (Option κ)} (within : window <:+: dealt places start m) {place : κ}
    (member : place ∈ places) :
    window.count (some place) = window.length / places.length ∨
      window.count (some place) = (window.length + places.length - 1) / places.length := by
  obtain ⟨first, row⟩ := dealt_of_infix within
  have turned := share_fair (List.nodup_rotate.mpr nodup) window.length
    (List.mem_rotate.mpr member : place ∈ places.rotate first)
  rw [List.length_rotate, ← count_dealt (List.ne_nil_of_mem member), ← row] at turned
  exact turned

theorem share_of_le {places : List κ} {m : Nat} (few : m ≤ places.length) (place : κ) :
    share places m place = (places.take m).count place := by
  induction m with
  | zero => simp [share]
  | succ m ih =>
    have small : m < places.length := by omega
    have before := ih (by omega)
    rw [share] at before
    rw [share, Nat.count_succ, before, seat_of_lt small, List.take_succ_eq_append_getElem small,
      List.count_append, List.getElem?_eq_getElem small]
    by_cases here : places[m] = place
    · simp [here]
    · simp [here]

def grouped (table : List κ) (count : κ → Nat) : List κ :=
  table.flatMap fun place => List.replicate (count place) place

theorem grouped_filter {table taken : List κ} (nodup : taken.Nodup) :
    grouped table (fun place => taken.count place) = table.filter (· ∈ taken) := by
  induction table with
  | nil => rfl
  | cons place rest ih =>
    rw [grouped, List.flatMap_cons, ← grouped, ih, List.filter_cons]
    by_cases member : place ∈ taken
    · simp [member, List.count_eq_one_of_mem nodup member]
    · simp [member, List.count_eq_zero_of_not_mem member]

theorem grouped_sorted {table : List κ} (nodup : table.Nodup) (count : κ → Nat) :
    (grouped table count).Pairwise fun a b => table.idxOf a ≤ table.idxOf b := by
  rw [grouped, List.pairwise_flatMap]
  constructor
  · intro place _
    exact List.pairwise_replicate.mpr (.inr (Nat.le_refl _))
  · rw [List.pairwise_iff_getElem]
    intro i j smallI smallJ before x memX y memY
    rw [(List.mem_replicate.mp memX).2, (List.mem_replicate.mp memY).2, nodup.idxOf_getElem,
      nodup.idxOf_getElem]
    omega

/-- The gathered items are dealt to the places that they are on. -/
def Settled (places table : List κ) (m : Nat) : Prop :=
  ∀ i < m, (grouped table (share places m))[i]? = seat places i

section Settles

variable {places table : List κ} {m : Nat} (nodup : places.Nodup) (nodupTable : table.Nodup)
  (same : ∀ place, place ∈ table ↔ place ∈ places)

include nodup nodupTable same

theorem settled_few_iff (few : m ≤ places.length) :
    Settled places table m ↔ table.filter (· ∈ places.take m) = places.take m := by
  have taken : (places.take m).Nodup := nodup.sublist (List.take_sublist _ _)
  have shares : share places m = fun place => (places.take m).count place :=
    funext (share_of_le few)
  have perm : (table.filter (· ∈ places.take m)).Perm (places.take m) := by
    rw [List.perm_ext_iff_of_nodup (nodupTable.filter _) taken]
    intro place
    rw [List.mem_filter, decide_eq_true_eq, same]
    exact and_iff_right_of_imp List.mem_of_mem_take
  have count : (places.take m).length = m := by simp [few]
  rw [Settled, shares, grouped_filter taken]
  constructor
  · intro settled
    apply List.ext_getElem?
    intro i
    by_cases small : i < m
    · rw [settled i small, seat_of_lt (by omega), List.getElem?_take_of_lt small]
    · rw [List.getElem?_eq_none (by rw [perm.length_eq]; omega), List.getElem?_eq_none (by omega)]
  · intro equal i small
    rw [equal, seat_of_lt (by omega), List.getElem?_take_of_lt small]

theorem not_settled_many (two : 2 ≤ places.length) (many : places.length < m) :
    ¬ Settled places table m := by
  intro settled
  have sorted := grouped_sorted nodupTable (share places m)
  have dealt : ∀ i place, i < m → seat places i = some place →
      ∃ small, (grouped table (share places m)).get ⟨i, small⟩ = place := by
    intro i place small at_seat
    rw [← settled i small] at at_seat
    exact List.getElem?_eq_some_iff.mp at_seat
  have positive : 0 < places.length := by omega
  obtain ⟨small₀, first⟩ := dealt 0 places[0] (by omega) (by simp [seat])
  obtain ⟨small₁, second⟩ := dealt 1 places[1] (by omega) (by simp [seat, Nat.mod_eq_of_lt two])
  obtain ⟨smallN, again⟩ := dealt places.length places[0] many (by simp [seat])
  have up := List.pairwise_iff_getElem.mp sorted 0 1 small₀ small₁ (by omega)
  have down := List.pairwise_iff_getElem.mp sorted 1 places.length small₁ smallN (by omega)
  rw [List.get_eq_getElem] at first second again
  rw [first, second] at up
  rw [second, again] at down
  have listed : places[0] ∈ table := (same _).mpr (List.getElem_mem _)
  have equal := List.idxOf_inj listed |>.mp (Nat.le_antisymm up down)
  have apart := nodup.getElem_inj_iff.mp equal
  omega

end Settles

theorem settled_one (place : κ) (m : Nat) : Settled [place] [place] m := by
  intro i small
  have all : share [place] m place = m := by
    have same : (fun i => seat [place] i = some place) = fun _ => True := by
      funext i
      simp [seat, Nat.mod_one]
    simp [share, same]
  simp [grouped, all, small, seat, Nat.mod_one]

/-- The gathered items are where they would be dealt exactly if there is one place, or
no more items than places and the places that get one are in the same order in the table. -/
theorem settled_iff {places table : List κ} (nonempty : places ≠ []) (nodup : places.Nodup)
    (nodupTable : table.Nodup) (same : ∀ place, place ∈ table ↔ place ∈ places) (m : Nat) :
    Settled places table m ↔ places.length = 1 ∨
      m ≤ places.length ∧ table.filter (· ∈ places.take m) = places.take m := by
  have positive := length_places nonempty
  by_cases one : places.length = 1
  · obtain ⟨place, rfl⟩ := List.length_eq_one_iff.mp one
    have alone : table = [place] := by
      apply List.perm_singleton.mp
      rw [List.perm_ext_iff_of_nodup nodupTable nodup]
      exact same
    rw [alone]
    exact iff_of_true (settled_one place m) (.inl rfl)
  · rw [or_iff_right one]
    by_cases few : m ≤ places.length
    · rw [settled_few_iff nodup nodupTable same few, and_iff_right few]
    · have many := not_settled_many nodup nodupTable same (by omega) (Nat.lt_of_not_le few)
      exact iff_of_false many fun holds => few holds.1

end RoundRobin
