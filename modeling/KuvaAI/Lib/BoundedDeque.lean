import Mathlib.Data.List.DropRight

/-! Deques of a bounded length: a full one drops its oldest item for each that is added. -/

structure BoundedDeque (α : Type) where
  limit : Nat
  items : List α
  bounded : items.length ≤ limit

namespace BoundedDeque

variable {α : Type}

def empty (limit : Nat) : BoundedDeque α := ⟨limit, [], limit.zero_le⟩

def push (d : BoundedDeque α) (a : α) : BoundedDeque α where
  limit := d.limit
  items := (d.items ++ [a]).drop (d.items.length + 1 - d.limit)
  bounded := by
    simp only [List.length_drop, List.length_append, List.length_singleton]
    omega

def extend (d : BoundedDeque α) (items : List α) : BoundedDeque α := items.foldl push d

def popleft (d : BoundedDeque α) : BoundedDeque α where
  limit := d.limit
  items := d.items.tail
  bounded := by
    have bounded := d.bounded
    simp only [List.length_tail]
    omega

def Full (d : BoundedDeque α) : Prop := d.items.length = d.limit

instance (d : BoundedDeque α) : Decidable d.Full := inferInstanceAs (Decidable (_ = _))

variable {d : BoundedDeque α} {a : α}

@[simp] theorem items_empty (limit : Nat) : (empty limit : BoundedDeque α).items = [] := rfl

@[simp] theorem limit_empty (limit : Nat) : (empty limit : BoundedDeque α).limit = limit := rfl

theorem items_popleft : d.popleft.items = d.items.tail := rfl

theorem items_push : (d.push a).items = (d.items ++ [a]).drop (d.items.length + 1 - d.limit) := rfl

theorem push_of_room (room : ¬ d.Full) : (d.push a).items = d.items ++ [a] := by
  have bounded := d.bounded
  have none : d.items.length + 1 - d.limit = 0 := by
    unfold Full at room
    omega
  rw [items_push, none, List.drop_zero]

theorem push_of_full (full : d.Full) : ∃ oldest, d.items ++ [a] = oldest :: (d.push a).items := by
  have one : d.items.length + 1 - d.limit = 1 := by
    unfold Full at full
    omega
  rw [items_push, one]
  cases d.items with
  | nil => exact ⟨a, rfl⟩
  | cons oldest rest => exact ⟨oldest, rfl⟩

theorem push_rtake {pushed : List α} (holds : d.items = pushed.rtake d.limit) :
    (d.push a).items = (pushed ++ [a]).rtake d.limit := by
  rw [items_push, holds, List.rtake, List.rtake, List.length_drop]
  cases d.limit with
  | zero => simp
  | succ n =>
    rw [← List.drop_append_of_le_length (Nat.sub_le _ _), List.drop_drop, List.length_append]
    congr 1
    simp only [List.length_singleton]
    omega

theorem limit_push : (d.push a).limit = d.limit := rfl

@[simp] theorem limit_extend (items : List α) : (d.extend items).limit = d.limit := by
  induction items generalizing d with
  | nil => rfl
  | cons a rest ih => exact ih.trans limit_push

theorem items_extend {items : List α} (room : d.items.length + items.length ≤ d.limit) :
    (d.extend items).items = d.items ++ items := by
  induction items generalizing d with
  | nil => exact (List.append_nil _).symm
  | cons a rest ih =>
    rw [List.length_cons] at room
    have pushed : (d.push a).items = d.items ++ [a] := push_of_room (by unfold Full; omega)
    have more : (d.push a).items.length + rest.length ≤ (d.push a).limit := by
      rw [pushed, limit_push, List.length_append, List.length_singleton]
      omega
    rw [extend, List.foldl_cons]
    refine (ih more).trans ?_
    rw [pushed, List.append_assoc, List.singleton_append]

theorem items_refill (p : α → Bool) :
    ((empty d.limit).extend (d.items.filter p)).items = d.items.filter p := by
  have fewer := Nat.le_trans (List.length_filter_le p d.items) d.bounded
  exact items_extend (by simpa using fewer)

end BoundedDeque
