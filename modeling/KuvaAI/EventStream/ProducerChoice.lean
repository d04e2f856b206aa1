import KuvaAI.EventStream.PublisherRuns

/-! Which producer the clock picks. The docstring promises the producers in turns, and the
two sides of the outer remainder are the wrong way round for that. -/
namespace KuvaAI.Publisher
open Python Coroutine

variable {Payload : Type}

def atClock (others : (call : Call Payload) → Answer call) (clock : Nat) (_ : Nat) :
    (call : Call Payload) → Answer call
  | .monotonicNs => clock
  | other => others other

def Selects (others : (call : Call Payload) → Answer call) (g : KafkaPublisherPool)
    (clock producer : Nat) : Prop :=
  (advance getProducer (atClock others clock) 0 g).1 = done producer

section Choice

variable (others : (call : Call Payload) → Answer call) {g : KafkaPublisherPool} {clock producer : Nat}

theorem selects_iff (stocked : 0 < g.producers) :
    Selects others g clock producer ↔
      clock % g.producers ≠ 0 ∧ g.producers % (clock % g.producers) = producer := by
  have choice : (advance (getProducer : Task Payload Nat) (atClock others clock) 0 g).1 =
      if clock % g.producers = 0 then
        fail (.raised ⟨.zeroDivisionError, "integer modulo by zero"⟩)
      else done (g.producers % (clock % g.producers)) := by
    change (advance (Coroutine.bind _ (raiseIf (g.producers = 0 ∨ clock % g.producers = 0) _)) _ _ _).1 = _
    by_cases zero : clock % g.producers = 0
    · rw [raiseIf, if_pos (.inr zero), if_pos zero]
      rfl
    · rw [raiseIf, if_neg (by omega), if_neg zero]
      rfl
  rw [Selects, choice]
  by_cases zero : clock % g.producers = 0
  · rw [if_pos zero]
    refine iff_of_false ?_ fun selects => selects.1 zero
    rintro ⟨⟩
  · rw [if_neg zero]
    refine Iff.trans ?_ (and_iff_right zero).symm
    exact ⟨fun same => Coroutine.done.inj same, congrArg done⟩

/-- The divisors at hand are the remainders, and they leave less than half. -/
theorem remainder_reached {producers producer : Nat} :
    (∃ divisor, 0 < divisor ∧ divisor < producers ∧ producers % divisor = producer) ↔
      2 * producer < producers ∧ 1 < producers := by
  constructor
  · rintro ⟨divisor, positive, less, rfl⟩
    have below := Nat.mod_lt producers positive
    have whole : divisor + producers % divisor ≤ producers := by
      have parts := Nat.div_add_mod producers divisor
      have once : divisor * 1 ≤ divisor * (producers / divisor) :=
        Nat.mul_le_mul_left _ (Nat.div_pos less.le positive)
      omega
    omega
  · rintro ⟨half, several⟩
    rcases Nat.eq_zero_or_pos producer with rfl | positive
    · exact ⟨1, Nat.one_pos, several, Nat.mod_one _⟩
    · refine ⟨producers - producer, by omega, by omega, ?_⟩
      rw [Nat.mod_eq_sub_mod (by omega), Nat.mod_eq_of_lt (by omega)]
      omega

theorem selects_some_iff (stocked : 0 < g.producers) :
    (∃ producer < g.producers, Selects others g clock producer) ↔ ¬ g.producers ∣ clock := by
  rw [Nat.dvd_iff_mod_eq_zero]
  constructor
  · rintro ⟨producer, _, selects⟩
    exact ((selects_iff others stocked).mp selects).1
  · intro divides
    have less := Nat.mod_lt clock stocked
    refine ⟨_, ?_, (selects_iff others stocked).mpr ⟨divides, rfl⟩⟩
    exact (Nat.mod_lt _ (Nat.pos_of_ne_zero divides)).trans less

theorem selected_iff (stocked : 0 < g.producers) :
    (∃ clock, Selects others g clock producer) ↔ 2 * producer < g.producers ∧ 1 < g.producers := by
  rw [← remainder_reached]
  constructor
  · rintro ⟨clock, selects⟩
    obtain ⟨divides, rfl⟩ := (selects_iff others stocked).mp selects
    exact ⟨_, Nat.pos_of_ne_zero divides, Nat.mod_lt clock stocked, rfl⟩
  · rintro ⟨divisor, positive, less, rfl⟩
    refine ⟨divisor, (selects_iff others stocked).mpr ?_⟩
    rw [Nat.mod_eq_of_lt less]
    exact ⟨positive.ne', rfl⟩

/-- Every pool has clocks at which nothing is returned and producers that no clock
returns. It returns a producer exactly at the clocks that its size does not divide, and
exactly the producers of its lower half, if it has more than one. -/
theorem selection_lower (others : (call : Call Payload) → Answer call) (g : KafkaPublisherPool)
    (stocked : 0 < g.producers) :
    (¬ ∀ clock, ∃ producer < g.producers, Selects others g clock producer) ∧
    (¬ ∀ producer < g.producers, ∃ clock, Selects others g clock producer) ∧
    (∀ clock, (∃ producer < g.producers, Selects others g clock producer) ↔ ¬ g.producers ∣ clock) ∧
    ∀ producer, (∃ clock, Selects others g clock producer) ↔
      2 * producer < g.producers ∧ 1 < g.producers := by
  refine ⟨fun total => ?_, fun covers => ?_, fun _ => selects_some_iff others stocked,
    fun _ => selected_iff others stocked⟩
  · exact (selects_some_iff others stocked).mp (total 0) (Nat.dvd_zero _)
  · have last := (selected_iff others stocked).mp (covers (g.producers - 1) (by omega))
    omega

end Choice

def threeProducers : KafkaPublisherPool := (advance (initializePool 3) (clockAnswer 0) 0 .init).2

theorem threeProducers_lower :
    0 < threeProducers.producers ∧
    ¬ ∀ clock, ∃ producer < 3, Selects (clockAnswer 0 0) threeProducers clock producer :=
  have stocked : 0 < threeProducers.producers := by decide
  ⟨stocked, (selection_lower (clockAnswer 0 0) threeProducers stocked).1⟩

/-- The clock 3 divides by zero, and the third producer is never returned. -/
theorem third_unreturned :
    (advance getProducer (atClock (clockAnswer 0 0) 3) 0 threeProducers).1 =
      fail (.raised ⟨.zeroDivisionError, "integer modulo by zero"⟩) ∧
    ¬ ∃ clock, Selects (clockAnswer 0 0) threeProducers clock 2 := by
  refine ⟨rfl, fun returned => ?_⟩
  have half := (selected_iff (g := threeProducers) _ (by decide)).mp returned
  exact absurd half (by decide)

end KuvaAI.Publisher
