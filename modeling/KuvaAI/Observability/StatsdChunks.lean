import KuvaAI.Observability.StatsdLedger

/-! The chunks of a flush against the MTU. The size that is counted has a newline for each
line and the joined chunk one less, which is what a further line would add. -/
namespace KuvaAI.Statsd
open Packing

def joined (chunk : List String) : String := "\n".intercalate chunk

/-- `len(chunk.encode())`. -/
def encodedLength (chunk : List String) : Nat := (joined chunk).utf8ByteSize

theorem encodedLength_cons (first : String) (rest : List String) :
    encodedLength (first :: rest) =
      first.utf8ByteSize + (rest.map String.utf8ByteSize).sum + rest.length := by
  induction rest generalizing first with
  | nil => simp [encodedLength, joined]
  | cons line rest ih =>
    have tail := ih line
    unfold encodedLength joined at tail ⊢
    have newline : "\n".utf8ByteSize = 1 := rfl
    rw [String.intercalate_cons_cons, String.utf8ByteSize_append, String.utf8ByteSize_append, tail,
      newline]
    simp only [List.map_cons, List.sum_cons, List.length_cons]
    omega

theorem encodedLength_eq (chunk : List String) :
    encodedLength chunk = width String.utf8ByteSize chunk := by
  cases chunk with
  | nil => rfl
  | cons first rest => simp [encodedLength_cons, width]

structure Chunked (mtu : Nat) (lines : List String) (chunks : List (List String)) : Prop where
  order : chunks.flatten = lines
  fits : ∀ chunk ∈ chunks,
    encodedLength chunk ≤ mtu ∨ ∃ line, chunk = [line] ∧ mtu < line.utf8ByteSize
  nonempty : (∀ line ∈ lines, line.utf8ByteSize ≤ mtu) → ∀ chunk ∈ chunks,
    chunk ≠ [] ∧ ((∀ line ∈ lines, line ≠ "") → joined chunk ≠ "")
  greedy : (∀ line ∈ lines, line.utf8ByteSize ≤ mtu) → ∀ before first second rest,
    chunks = before ++ first :: second :: rest →
      ∃ line ∈ second.head?, mtu < encodedLength (first ++ [line])

theorem joined_ne_empty {chunk : List String} (filled : chunk ≠ [])
    (lines : ∀ line ∈ chunk, line ≠ "") : joined chunk ≠ "" := by
  intro empty
  cases chunk with
  | nil => exact filled rfl
  | cons first rest =>
    have length := encodedLength_cons first rest
    have first_ne := lines first List.mem_cons_self
    rw [encodedLength, empty, String.utf8ByteSize_empty] at length
    have zero : first.utf8ByteSize = 0 := by omega
    exact first_ne (String.utf8ByteSize_eq_zero_iff.mp zero)

theorem chunks_chunked (c : Client) : Chunked c.config.mtu c.buffer.items c.chunks := by
  have packs : c.chunks = pack String.utf8ByteSize c.config.mtu c.buffer.items [] [] 0 :=
    drain_eq_pack _ _ _ _ _
  have order := c.chunks_flatten
  have packed : Packed String.utf8ByteSize c.config.mtu [] [] 0 := packed_start
  obtain ⟨fits, greedy⟩ := pack_packed c.buffer.items packed
  rw [← packs] at fits greedy
  have filled (small : ∀ line ∈ c.buffer.items, line.utf8ByteSize ≤ c.config.mtu) :
      ∀ chunk ∈ c.chunks, chunk ≠ [] := by
    rw [packs]
    exact pack_nonempty c.buffer.items small (by simp) (by simp)
  refine ⟨order, ?_, ?_, ?_⟩
  · intro chunk member
    rw [encodedLength_eq]
    exact fits chunk member
  · intro small chunk member
    refine ⟨filled small chunk member, fun lines => ?_⟩
    refine joined_ne_empty (filled small chunk member) fun line inChunk => lines line ?_
    rw [← order]
    exact List.mem_flatten_of_mem member inChunk
  · intro small before first second rest split
    have next : second ≠ [] := filled small second (by simp [split])
    rw [split] at greedy
    have noRoom := (List.isChain_append_cons_cons.mp greedy).2.1
    cases second with
    | nil => exact absurd rfl next
    | cons line later =>
      refine ⟨line, rfl, ?_⟩
      rw [encodedLength_eq]
      exact noRoom line rfl

end KuvaAI.Statsd
