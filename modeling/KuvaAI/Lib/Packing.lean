import Mathlib.Algebra.GroupWithZero.Nat
import Mathlib.Data.List.Chain

/-! Packing items into chunks of bounded width, in order, where neighbours in a chunk are
set apart by a separator of width one. -/
namespace Packing

variable {α : Type} (size : α → Nat) (limit : Nat)

def width (chunk : List α) : Nat := (chunk.map size).sum + (chunk.length - 1)

/-- The greedy packing, from the chunks so far and the one being filled; `filled` charges a
separator to each item. -/
def pack : List α → List (List α) → List α → Nat → List (List α)
  | [], chunks, current, _ => if current.isEmpty then chunks else chunks ++ [current]
  | a :: rest, chunks, current, filled =>
    if filled + size a > limit then
      pack rest (chunks ++ [current]) [a] (size a + 1)
    else
      pack rest chunks (current ++ [a]) (filled + size a + 1)

def NoRoom (first second : List α) : Prop := ∀ a ∈ second.head?, limit < width size (first ++ [a])

def Fits (chunk : List α) : Prop :=
  width size chunk ≤ limit ∨ ∃ a, chunk = [a] ∧ limit < size a

variable {size limit}

theorem width_snoc (chunk : List α) (a : α) :
    width size (chunk ++ [a]) = (chunk.map size).sum + chunk.length + size a := by
  simp [width]
  omega

@[simp] theorem width_singleton (a : α) : width size [a] = size a := by simp [width]

/-- What the packing keeps: the chunks with the current one, and the width charged to it. -/
structure Packed (size : α → Nat) (limit : Nat) (chunks : List (List α)) (current : List α)
    (filled : Nat) : Prop where
  charged : filled = (current.map size).sum + current.length
  fits : ∀ chunk ∈ chunks ++ [current], Fits size limit chunk
  greedy : (chunks ++ [current]).IsChain (NoRoom size limit)
  begun : current = [] → chunks = []

theorem packed_start : Packed size limit [] [] 0 :=
  ⟨rfl, by simp [Fits, width], by simp, fun _ => rfl⟩

namespace Packed

variable {chunks : List (List α)} {current : List α} {filled : Nat} {a : α}

theorem close (packed : Packed size limit chunks current filled)
    (full : filled + size a > limit) :
    Packed size limit (chunks ++ [current]) [a] (size a + 1) where
  charged := by simp
  fits := by
    intro chunk member
    rcases List.mem_append.mp member with old | new
    · exact packed.fits chunk old
    · obtain rfl := List.mem_singleton.mp new
      by_cases small : size a ≤ limit
      · exact .inl (by simpa using small)
      · exact .inr ⟨a, rfl, by omega⟩
  greedy := by
    have noRoom : NoRoom size limit current [a] := by
      intro b first
      obtain rfl : a = b := by simpa using first
      rw [width_snoc, ← packed.charged]
      exact full
    rw [List.append_assoc, List.singleton_append, List.isChain_append_cons_cons]
    exact ⟨packed.greedy, noRoom, List.isChain_singleton _⟩
  begun := by simp

theorem extend (packed : Packed size limit chunks current filled)
    (room : ¬ filled + size a > limit) :
    Packed size limit chunks (current ++ [a]) (filled + size a + 1) where
  charged := by
    simp [packed.charged]
    omega
  fits := by
    intro chunk member
    rcases List.mem_append.mp member with old | new
    · exact packed.fits chunk (List.mem_append_left _ old)
    · obtain rfl := List.mem_singleton.mp new
      left
      rw [width_snoc, ← packed.charged]
      omega
  greedy := by
    cases current with
    | nil => simp [packed.begun rfl]
    | cons first rest =>
      obtain ⟨closed, _, next⟩ := List.isChain_append.mp packed.greedy
      refine List.isChain_append.mpr ⟨closed, List.isChain_singleton _, ?_⟩
      simpa [NoRoom] using next
  begun := by simp

end Packed

theorem pack_flatten (items : List α) (chunks : List (List α)) (current : List α) (filled : Nat) :
    (pack size limit items chunks current filled).flatten = chunks.flatten ++ current ++ items := by
  induction items generalizing chunks current filled with
  | nil => cases current <;> simp [pack]
  | cons a rest ih =>
    unfold pack
    split <;> simp [ih]

theorem pack_packed (items : List α) {chunks : List (List α)} {current : List α} {filled : Nat}
    (packed : Packed size limit chunks current filled) :
    (∀ chunk ∈ pack size limit items chunks current filled, Fits size limit chunk) ∧
      (pack size limit items chunks current filled).IsChain (NoRoom size limit) := by
  induction items generalizing chunks current filled with
  | nil =>
    cases current with
    | nil => simp [pack, packed.begun rfl]
    | cons a rest => exact ⟨packed.fits, packed.greedy⟩
  | cons a rest ih =>
    unfold pack
    split
    · exact ih (packed.close ‹_›)
    · exact ih (packed.extend ‹_›)

theorem pack_nonempty (items : List α) (small : ∀ a ∈ items, size a ≤ limit)
    {chunks : List (List α)} {current : List α} {filled : Nat}
    (filledChunks : ∀ chunk ∈ chunks, chunk ≠ []) (charged : current = [] → filled = 0) :
    ∀ chunk ∈ pack size limit items chunks current filled, chunk ≠ [] := by
  induction items generalizing chunks current filled with
  | nil =>
    cases current with
    | nil => exact filledChunks
    | cons a rest =>
      simpa [pack, or_imp, forall_and] using filledChunks
  | cons a rest ih =>
    unfold pack
    have fits := small a List.mem_cons_self
    have later : ∀ b ∈ rest, size b ≤ limit := fun b member => small b (List.mem_cons_of_mem _ member)
    split
    · refine ih later ?_ (by simp)
      have begun : current ≠ [] := by
        intro empty
        have := charged empty
        omega
      simpa [or_imp, forall_and, begun] using filledChunks
    · exact ih later filledChunks (by simp)

end Packing
