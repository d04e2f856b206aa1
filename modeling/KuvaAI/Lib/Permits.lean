import Mathlib.Data.List.Nodup

/-! Permits of a semaphore: some are free, and the others are with tasks. A lock has one. -/

structure Permits where
  free : Nat
  holders : List Nat

namespace Permits

def full (limit : Nat) : Permits := ⟨limit, []⟩

def take (p : Permits) (task : Nat) : Permits := ⟨p.free - 1, task :: p.holders⟩

def give (p : Permits) (task : Nat) : Permits := ⟨p.free + 1, p.holders.erase task⟩

/-- No permit is lost, and no task has two. -/
structure Sound (limit : Nat) (p : Permits) : Prop where
  count : p.free + p.holders.length = limit
  distinct : p.holders.Nodup

variable {limit task other : Nat} {p : Permits}

theorem sound_full (limit : Nat) : (full limit).Sound limit := ⟨rfl, List.nodup_nil⟩

@[simp] theorem mem_take : other ∈ (p.take task).holders ↔ other = task ∨ other ∈ p.holders :=
  List.mem_cons

theorem mem_give_of_ne (different : other ≠ task) :
    other ∈ (p.give task).holders ↔ other ∈ p.holders :=
  List.mem_erase_of_ne different

namespace Sound

variable (sound : p.Sound limit)

include sound

theorem take (free : 0 < p.free) (fresh : task ∉ p.holders) : (p.take task).Sound limit := by
  constructor
  · have := sound.count
    simp only [Permits.take, List.length_cons]
    omega
  · exact List.nodup_cons.mpr ⟨fresh, sound.distinct⟩

theorem give (held : task ∈ p.holders) : (p.give task).Sound limit := by
  constructor
  · have := sound.count
    have some := List.length_pos_of_mem held
    simp only [Permits.give, List.length_erase_of_mem held]
    omega
  · exact sound.distinct.erase task

theorem not_mem_give : task ∉ (p.give task).holders := sound.distinct.not_mem_erase

theorem bounded : p.holders.length ≤ limit := by
  have := sound.count
  omega

end Sound

theorem Sound.unique (sound : p.Sound 1) (first : task ∈ p.holders) (second : other ∈ p.holders) :
    task = other := by
  have single := sound.bounded
  rcases holders : p.holders with _ | ⟨holder, _ | ⟨_, _⟩⟩
  · rw [holders] at first
    cases first
  · rw [holders, List.mem_singleton] at first second
    exact first.trans second.symm
  · rw [holders, List.length_cons, List.length_cons] at single
    omega

end Permits
