import KuvaAI.Workflow.AnnealingRuns
import Mathlib.Analysis.SpecialFunctions.Pow.Real

/-! The cooling in exact arithmetic. The controller moves the rate under one clamp at a time
and the schedule raises it to a power that grows; neither heats. -/
namespace KuvaAI.Annealing
open Effect Loop

/-- The real numbers in place of floats; the bases of powers are positive. -/
noncomputable def reals : Arithmetic ℝ where
  lit x := x
  add x y := x + y
  sub x y := x - y
  mul x y := x * y
  div x y :=
    if y = 0 then .error ⟨.zeroDivisionError, "float division by zero"⟩ else .ok (x / y)
  pow x y := .ok (x ^ y)
  exp x := .ok (Real.exp x)
  mean xs := if xs = [] then none else some (xs.sum / xs.length)
  std xs :=
    let mean := xs.sum / xs.length
    if xs = [] then none else some √((xs.map fun x => (x - mean) ^ 2).sum / xs.length)

theorem smaller_eq_min {F : Type} [LinearOrder F] (a b : F) : smaller a b = min a b := by
  rw [smaller, min_comm, min_def_lt]

theorem larger_eq_max {F : Type} [LinearOrder F] (a b : F) : larger a b = max a b := by
  rw [larger, max_def_lt]

@[simp] theorem reals_lit (x : Rat) : reals.lit x = x := rfl

section Cooling

variable {S : Type} {env : Env ℝ S} {w w' : World ℝ S} {choice : Choice ℝ S}

structure Tempered (w : World ℝ S) : Prop where
  ratePos : 0 < w.self.config.coolingRate
  rateLt : w.self.config.coolingRate < 1
  acceptanceNonneg : 0 ≤ w.state.acceptanceRate
  acceptanceLe : w.state.acceptanceRate ≤ 1
  hot : 0 < w.state.temperature

theorem adjustedRate_mem (arith : env.arith = reals) {rate : ℝ} (trend : Option ℝ)
    (pos : 0 < rate) (lt : rate < 1) :
    0 < adjustedRate env rate trend ∧ adjustedRate env rate trend < 1 := by
  unfold adjustedRate
  rw [arith, smaller_eq_min, larger_eq_max]
  split_ifs
  · constructor
    · apply lt_min
      · norm_num [reals]
      · simp only [reals]
        positivity
    · apply min_lt_of_left_lt
      norm_num [reals]
  · constructor
    · apply lt_max_of_lt_left
      norm_num [reals]
    · apply max_lt
      · norm_num [reals]
      · norm_num [reals]
        linarith
  · exact ⟨pos, lt⟩

theorem coolingSchedule_cools (arith : env.arith = reals) {config : SAConfig ℝ}
    (pos : 0 < config.coolingRate) (lt : config.coolingRate < 1) {temperature cooled : ℝ}
    {iteration : Nat} (hot : 0 < temperature)
    (schedule : coolingSchedule env config temperature iteration = .ok cooled) :
    0 < cooled ∧ cooled < temperature := by
  have scaled {factor : ℝ} (factorPos : 0 < factor) (factorLt : factor < 1)
      (product : temperature * factor = cooled) : 0 < cooled ∧ cooled < temperature := by
    rw [← product]
    exact ⟨mul_pos hot factorPos, mul_lt_of_lt_one_right hot factorLt⟩
  unfold coolingSchedule at schedule
  rw [arith] at schedule
  split_ifs at schedule
  · have exponent : (0 : ℝ) < reals.add (reals.lit 1) (reals.lit (iteration / 10000)) := by
      simp only [reals]
      positivity
    exact scaled (Real.rpow_pos_of_pos pos _) (Real.rpow_lt_one pos.le lt exponent)
      (Except.ok.inj schedule)
  · exact scaled pos lt (Except.ok.inj schedule)

theorem acceptanceRate_mem (arith : env.arith = reals) (updated : Updated env w w' choice)
    (nonneg : 0 ≤ w.state.acceptanceRate) (le : w.state.acceptanceRate ≤ 1) :
    0 ≤ w'.state.acceptanceRate ∧ w'.state.acceptanceRate ≤ 1 := by
  rw [updated.acceptanceRate, arith]
  simp only [reals]
  split_ifs
  · norm_num
    constructor <;> linarith
  · norm_num
    constructor <;> linarith

theorem tempered_pass (arith : env.arith = reals) {broke : Bool} (tempered : Tempered w)
    (ran : iterate env w = (.ok broke, w')) :
    Tempered w' ∧ w'.state.temperature < w.state.temperature := by
  obtain ⟨choice, _, passed⟩ := iterate_passed ran
  obtain ⟨rate, config, moved⟩ := passed.tuned
  have within : 0 < rate ∧ rate < 1 := by
    rcases moved with rfl | ⟨trend, rfl⟩
    · exact ⟨tempered.ratePos, tempered.rateLt⟩
    · exact adjustedRate_mem arith trend tempered.ratePos tempered.rateLt
  have sameRate : w'.self.config.coolingRate = rate := by rw [config]
  rw [← sameRate] at within
  obtain ⟨nonneg, le⟩ := acceptanceRate_mem arith passed.toUpdated tempered.acceptanceNonneg
    tempered.acceptanceLe
  obtain ⟨hot, cools⟩ := coolingSchedule_cools arith within.1 within.2 tempered.hot
    passed.temperature
  exact ⟨⟨within.1, within.2, nonneg, le, hot⟩, cools⟩

theorem cooling_cools (arith : env.arith = reals) (self : SimulatedAnnealing ℝ)
    (initialSolution : S) (ratePos : 0 < self.config.coolingRate)
    (rateLt : self.config.coolingRate < 1) (hot : 0 < self.config.initialTemperature) :
    ∀ pass ∈ history env self initialSolution,
      (0 < pass.after.self.config.coolingRate ∧ pass.after.self.config.coolingRate < 1) ∧
      (0 ≤ pass.after.state.acceptanceRate ∧ pass.after.state.acceptanceRate ≤ 1) ∧
      0 < pass.after.state.temperature ∧
      pass.after.state.temperature < pass.before.state.temperature := by
  unfold history
  split
  · simp
  · rename_i state ready
    obtain ⟨e, _, rfl⟩ := initializeState_ok ready
    have start : Tempered ⟨self, ⟨e, e, initialSolution, initialSolution, 0, env.arith.lit 0,
        self.config.initialTemperature⟩, 0, 0⟩ :=
      ⟨ratePos, rateLt, by simp [arith], by simp [arith], hot⟩
    refine passes_invariant (fun s t broke tempered ran => ?_) start
    obtain ⟨after, cools⟩ := tempered_pass arith tempered ran
    exact ⟨after, ⟨after.ratePos, after.rateLt⟩, ⟨after.acceptanceNonneg, after.acceptanceLe⟩,
      after.hot, cools⟩

end Cooling

noncomputable def still : Env ℝ Unit where
  arith := reals
  calculate _ := .ok 0
  generateNeighbor _ _ _ := .ok ()
  draw _ := 0

noncomputable def warm : SimulatedAnnealing ℝ where
  config := {
    initialTemperature := 1
    coolingRate := 1 / 2
    minTemperature := 0
    maxIterations := 1
    maxStagnation := 1
    adaptiveCooling := false
    parallelEvaluation := true
    workers := 1
    stateInterval := 100
    energyWindow := 100 }
  energyHistory := []
  acceptanceHistory := []
  metrics := ⟨[], [], []⟩
  shutdown := false
  checkpoints := []

theorem warm_passes : history still warm () ≠ [] := by
  obtain ⟨choice, chosen⟩ : ∃ choice,
      choose still ⟨warm, ⟨0, 0, (), (), 0, reals.lit 0, 1⟩, 0, 0⟩ = .ok choice := by
    refine ⟨⟨[()], [0], 0, (), 1⟩, ?_⟩
    simp [choose, generateCandidates, evaluate, argmin, acceptanceProbability, still, warm, reals,
      bind, Except.bind, pure, Except.pure]
  have completes : wp (iterate still) (fun _ _ => True) (fun _ _ => False)
      ⟨warm, ⟨0, 0, (), (), 0, reals.lit 0, 1⟩, 0, 0⟩ := by
    simp only [iterate, wp_bind, wp_get, wp_raised, chosen]
    apply updateState_spec
    intro u updated config temperature iteration counter metrics
    have schedule : coolingSchedule still u.self.config u.state.temperature u.state.iteration =
        .ok (still.arith.mul u.state.temperature u.self.config.coolingRate) := by
      simp [coolingSchedule, config, warm, pure, Except.pure]
    have fixed : ¬ warm.config.adaptiveCooling = true := by simp [warm]
    rw [if_neg fixed]
    simp only [settle, wp_bind, wp_get, wp_lift, schedule, wp_set]
    apply checkStagnation_spec
    intro v self state _
    simp [self, state, config, iteration, warm]
  obtain ⟨broke, w', ran, _⟩ := exists_of_wp completes
  have enters : looping (⟨warm, ⟨0, 0, (), (), 0, reals.lit 0, 1⟩, 0, 0⟩ : World ℝ Unit) := by
    norm_num [looping, warm]
  have ready : initializeState still warm () = .ok ⟨0, 0, (), (), 0, reals.lit 0, 1⟩ := by
    simp [initializeState, loadLatestState, still, warm, bind, Except.bind, pure, Except.pure]
  rw [history, ready]
  change passes looping (iterate still) 1 _ ≠ []
  rw [passes, if_pos enters, ran]
  cases broke <;> simp

theorem warm_cools : ∃ pass ∈ history still warm (), 0 < pass.after.state.temperature ∧
    pass.after.state.temperature < pass.before.state.temperature := by
  obtain ⟨pass, member⟩ := List.exists_mem_of_ne_nil _ warm_passes
  have cools := cooling_cools rfl warm () (by norm_num [warm]) (by norm_num [warm])
    (by norm_num [warm]) pass member
  exact ⟨pass, member, cools.2.2⟩

end KuvaAI.Annealing
