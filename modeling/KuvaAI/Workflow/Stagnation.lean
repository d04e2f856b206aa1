import KuvaAI.Workflow.AnnealingRuns

/-! The stagnation check. It compares the best energy with the current one after both have
been updated, so it counts the passes whose candidate is not worse than the best. Energies
may be no numbers. -/
namespace KuvaAI.Annealing
open Loop

section Stagnation

variable {F S : Type} [LE F] [LT F] [DecidableLE F] [DecidableLT F] (env : Env F S)

def leaves (self : SimulatedAnnealing F) (initialSolution : S) : Except Raised Exit := do
  let state ← initializeState env self initialSolution
  (loop env self.config.maxIterations.toNat ⟨self, state, 0, 0⟩).1

def Progress (pass : Pass (World F S)) : Prop :=
  pass.after.state.bestEnergy < pass.before.state.bestEnergy

/-- Stagnation means no progress: after the passes `done` and `pass`, the loop is left by the
stagnation break exactly if the best energy has not decreased in the last `max_stagnation`
passes. -/
def StagnationMeansNoProgress (self : SimulatedAnnealing F) (initialSolution : S) : Prop :=
  ∀ done pass rest, history env self initialSolution = done ++ pass :: rest →
    ((rest = [] ∧ leaves env self initialSolution = .ok .stagnation) ↔
      self.config.maxStagnation ≤ (done ++ [pass]).length ∧
        ∀ recent ∈ latest self.config.maxStagnation.toNat (done ++ [pass]), ¬ Progress recent)

/-- Some candidate of the pass from `w` is better than the best so far, and the energy of
none is no number. -/
def Improves (w : World F S) : Prop :=
  (∃ e ∈ batch env w, e < w.state.bestEnergy) ∧ ∀ e ∈ batch env w, ¬ FloatOrder.IsNaN e

/-- All candidates of the pass from `w` are worse than the best so far. -/
def Worsens (w : World F S) : Prop := ∀ e ∈ batch env w, w.state.bestEnergy < e

def Resets (pass : Pass (World F S)) : Prop :=
  pass.after.state.bestEnergy < pass.after.state.currentEnergy

instance (pass : Pass (World F S)) : Decidable (Resets pass) :=
  inferInstanceAs (Decidable (_ < _))

def Made (pass : Pass (World F S)) : Prop := iterate env pass.before = (.ok pass.broke, pass.after)

variable {env} {pass : Pass (World F S)}

section Comparisons

variable [FloatOrder F]

theorem progress_iff (made : Made env pass) : Progress pass ↔ Improves env pass.before := by
  obtain ⟨choice, chosen, passed⟩ := iterate_passed made
  obtain ⟨_, evaluated, least⟩ := choose_first chosen
  unfold Progress Improves
  rw [passed.best]
  constructor
  · intro less
    split at less
    · refine ⟨⟨choice.energy, evaluated, less⟩, fun e evaluatedToo nan => ?_⟩
      rcases least with none | le
      · exact FloatOrder.not_nan_left less none
      · exact nan (FloatOrder.right (le e evaluatedToo))
    · exact absurd less FloatOrder.lt_irrefl
  · rintro ⟨⟨e, evaluatedToo, less⟩, numbers⟩
    have le := least.resolve_left (numbers choice.energy evaluated)
    have better := FloatOrder.lt_of_le_of_lt (le e evaluatedToo) less
    rwa [if_pos better]

theorem resets_iff (made : Made env pass) : Resets pass ↔ Worsens env pass.before := by
  obtain ⟨choice, chosen, passed⟩ := iterate_passed made
  obtain ⟨_, evaluated, least⟩ := choose_first chosen
  unfold Resets Worsens
  rw [passed.best, passed.energy]
  constructor
  · intro less e evaluatedToo
    split at less
    · exact absurd less FloatOrder.lt_irrefl
    · have le := least.resolve_left (FloatOrder.not_nan_right less)
      exact FloatOrder.lt_of_lt_of_le less (le e evaluatedToo)
  · intro worse
    have less := worse choice.energy evaluated
    have other : ¬ choice.energy < pass.before.state.bestEnergy :=
      fun better => (FloatOrder.lt_iff.mp less).2 (FloatOrder.lt_iff.mp better).1
    rwa [if_neg other]

end Comparisons

variable (env)

structure Counts (maxStagnation : Int) (done : List (Pass (World F S))) (w : World F S) :
    Prop where
  counter : w.stagnationCounter = streak (fun pass => ¬ Resets pass) done
  bound : w.self.config.maxStagnation = maxStagnation
  made : ∀ pass ∈ done, Made env pass

variable {env}

theorem counts_pass {maxStagnation : Int} {done : List (Pass (World F S))}
    {w w' : World F S} {broke : Bool} (counts : Counts env maxStagnation done w)
    (ran : iterate env w = (.ok broke, w')) :
    Counts env maxStagnation (done ++ [⟨w, w', broke⟩]) w' := by
  obtain ⟨choice, _, passed⟩ := iterate_passed ran
  obtain ⟨_, config, _⟩ := passed.tuned
  constructor
  · rw [streak_snoc, passed.counter, counts.counter, ← passed.energy, ite_not]
    rfl
  · rw [config, counts.bound]
  · intro pass member
    rcases List.mem_append.mp member with old | new
    · exact counts.made pass old
    · obtain rfl := List.mem_singleton.mp new
      exact ran

theorem history_counts {self : SimulatedAnnealing F} {initialSolution : S}
    {done rest : List (Pass (World F S))}
    (split : history env self initialSolution = done ++ pass :: rest) :
    Counts env self.config.maxStagnation (done ++ [pass]) pass.after := by
  unfold history at split
  split at split
  · simp at split
  · exact passes_history (fun _ _ _ _ counts _ ran => counts_pass counts ran) []
      ⟨rfl, rfl, by simp⟩ split

theorem broke_iff_leaves {self : SimulatedAnnealing F} {initialSolution : S}
    {done rest : List (Pass (World F S))}
    (split : history env self initialSolution = done ++ pass :: rest) :
    pass.broke = true ↔ rest = [] ∧ leaves env self initialSolution = .ok .stagnation := by
  unfold history at split
  split at split
  · simp at split
  · rename_i state ready
    rw [broke_iff split, leaves, ready]
    change _ ↔ rest = [] ∧ (loop env self.config.maxIterations.toNat ⟨self, state, 0, 0⟩).1 = _
    rw [loop_run]
    cases (Loop.run looping (iterate env) self.config.maxIterations.toNat ⟨self, state, 0, 0⟩).1 with
    | error e => simp [Except.map]
    | ok broke => cases broke <;> simp [Except.map]

theorem broke_iff_streak {self : SimulatedAnnealing F} {initialSolution : S}
    {done rest : List (Pass (World F S))}
    (split : history env self initialSolution = done ++ pass :: rest) :
    pass.broke = true ↔ self.config.maxStagnation ≤ (done ++ [pass]).length ∧
      ∀ recent ∈ latest self.config.maxStagnation.toNat (done ++ [pass]), ¬ Resets recent := by
  have counts := history_counts split
  obtain ⟨choice, _, passed⟩ := iterate_passed (counts.made pass (by simp))
  rw [passed.broke, decide_eq_true_iff, counts.counter, counts.bound, ← Int.toNat_le,
    le_streak_iff, Int.toNat_le]

theorem exists_made_iff {P Q : Pass (World F S) → Prop}
    (same : ∀ pass, Made env pass → (P pass ↔ Q pass)) {recent : List (Pass (World F S))}
    (made : ∀ pass ∈ recent, Made env pass) :
    (∃ pass ∈ recent, Q pass) ↔ ¬ ∀ pass ∈ recent, ¬ P pass := by
  push Not
  exact exists_congr fun pass => and_congr_right fun member => (same pass (made pass member)).symm

theorem stagnation_iff [FloatOrder F] (self : SimulatedAnnealing F) (initialSolution : S) :
    StagnationMeansNoProgress env self initialSolution ↔
      ∀ done pass rest, history env self initialSolution = done ++ pass :: rest →
        self.config.maxStagnation ≤ (done ++ [pass]).length →
          ((∃ recent ∈ latest self.config.maxStagnation.toNat (done ++ [pass]),
              Improves env recent.before) ↔
            ∃ recent ∈ latest self.config.maxStagnation.toNat (done ++ [pass]),
              Worsens env recent.before) := by
  refine forall₄_congr fun done pass rest split => ?_
  have made : ∀ recent ∈ latest self.config.maxStagnation.toNat (done ++ [pass]),
      Made env recent := by
    intro recent member
    exact (history_counts split).made recent (List.mem_of_mem_drop member)
  rw [← broke_iff_leaves split, broke_iff_streak split, and_congr_right_iff,
    exists_made_iff (fun _ => progress_iff) made, exists_made_iff (fun _ => resets_iff) made,
    not_iff_not]
  exact imp_congr_right fun _ => iff_comm

end Stagnation

section Unmeasured
open WithNaN

def coarseFloats : Arithmetic (WithNaN Rat) where
  lit := number
  add := map₂ coarse.add
  sub := map₂ coarse.sub
  mul := map₂ coarse.mul
  div
    | number x, number y => (coarse.div x y).map number
    | _, _ => .ok nan
  pow x _ := .ok x
  exp
    | number x => (coarse.exp x).map number
    | nan => .ok nan
  mean _ := none
  std _ := none

/-- The first worker's neighbour is better than what there is, the energy of the second's
is no number. -/
def unmeasured : Env (WithNaN Rat) (WithNaN Rat) where
  arith := coarseFloats
  calculate s := .ok s
  generateNeighbor _ worker _ := .ok (if worker = 0 then number (-1) else nan)
  draw _ := number (1 / 2)

def paired : SAConfig (WithNaN Rat) where
  initialTemperature := number 1
  coolingRate := number (1 / 2)
  minTemperature := number (1 / 1000)
  maxIterations := 4
  maxStagnation := 2
  adaptiveCooling := false
  parallelEvaluation := false
  workers := 2
  stateInterval := 100
  energyWindow := 100

def freshPair : SimulatedAnnealing (WithNaN Rat) := ⟨paired, [], [], ⟨[], [], []⟩, false, []⟩

/-- No pass takes the better candidate, and the loop is left for stagnation. -/
theorem unmeasured_stagnates : leaves unmeasured freshPair (number 0) = .ok .stagnation ∧
    StagnationMeansNoProgress unmeasured freshPair (number 0) := by
  have batches : ∀ pass ∈ history unmeasured freshPair (number 0),
      batch unmeasured pass.before = [number (-1), nan] := by decide +kernel
  refine ⟨by decide +kernel, (stagnation_iff freshPair (number 0)).mpr ?_⟩
  intro done pass rest split _
  have nans : ∀ recent ∈ latest freshPair.config.maxStagnation.toNat (done ++ [pass]),
      nan ∈ batch unmeasured recent.before := by
    intro recent member
    have made : recent ∈ done ++ [pass] := List.mem_of_mem_drop member
    have among : recent ∈ history unmeasured freshPair (number 0) := by
      rw [split, List.append_cons]
      exact List.mem_append_left _ made
    rw [batches recent among]
    exact List.mem_cons_of_mem _ List.mem_cons_self
  constructor
  · rintro ⟨recent, member, _, numbers⟩
    exact absurd nan_isNaN (numbers nan (nans recent member))
  · rintro ⟨recent, member, worse⟩
    exact absurd nan_isNaN (FloatOrder.not_nan_right (worse nan (nans recent member)))

end Unmeasured

/-- Both passes of the run find a better candidate, and the second leaves the loop. -/
theorem descent_stagnates : ¬ StagnationMeansNoProgress (shifting (-1)) fresh 0 := by
  intro meant
  have two : (history (shifting (-1)) fresh 0).length = 2 := by decide +kernel
  have stagnated : leaves (shifting (-1)) fresh 0 = .ok .stagnation := by decide +kernel
  have progress : ∀ pass ∈ history (shifting (-1)) fresh 0,
      pass.after.state.bestEnergy < pass.before.state.bestEnergy := by decide +kernel
  obtain ⟨first, second, passes⟩ := List.length_eq_two.mp two
  obtain ⟨_, none⟩ := (meant [first] second [] passes).mp ⟨rfl, stagnated⟩
  exact none first (by simp [latest, fresh, plain]) (progress first (by simp [passes]))

end KuvaAI.Annealing
