import KuvaAI.Workflow.Annealing

/-! One pass of the annealing: what its batch has chosen, what the state is made of it,
and what a rejected candidate changes. -/
namespace KuvaAI.Annealing
open Effect

section Passes

variable {F S : Type} [LE F] [LT F] [DecidableLE F] [DecidableLT F] {env : Env F S}
  {w w' : World F S} {choice : Choice F S}

@[simp] theorem wp_raised {σ α : Type} (x : Except Raised α) (post : α → σ → Prop)
    (exn : Raised → σ → Prop) (s : σ) : wp (raised x) post exn s ↔
      match x with
      | .ok a => post a s
      | .error e => exn e s := by
  cases x <;> rfl

@[simp] theorem wp_lift {σ α : Type} (x : Except Python.Exn α) (post : α → σ → Prop)
    (exn : Raised → σ → Prop) (s : σ) : wp (lift x) post exn s ↔
      match x with
      | .ok a => post a s
      | .error e => exn (.exception e) s := by
  cases x <;> rfl

theorem choose_ok (chosen : choose env w = .ok choice) :
    generateCandidates env w = .ok choice.candidates ∧
      evaluate env w choice.candidates = .ok choice.energies ∧
      argmin choice.energies choice.candidates = .ok (choice.energy, choice.solution) := by
  unfold choose at chosen
  obtain ⟨candidates, generated, chosen⟩ := Python.bind_eq_ok chosen
  obtain ⟨energies, evaluated, chosen⟩ := Python.bind_eq_ok chosen
  obtain ⟨⟨energy, solution⟩, least, chosen⟩ := Python.bind_eq_ok chosen
  simp only at chosen
  split at chosen
  · cases chosen
    exact ⟨generated, evaluated, least⟩
  · cases chosen

variable (env w w' choice)

def Tuned : Prop := ∃ rate, w'.self.config = { w.self.config with coolingRate := rate } ∧
  (rate = w.self.config.coolingRate ∨
    ∃ trend, rate = adjustedRate env w.self.config.coolingRate trend)

structure Steered : Prop where
  tuned : Tuned env w w'
  state : w'.state = w.state
  counter : w'.stagnationCounter = w.stagnationCounter
  metrics : w'.self.metrics = w.self.metrics

structure Cooled (broke : Bool) : Prop where
  config : w'.self.config = w.self.config
  state : w'.state =
    { w.state with temperature := w'.state.temperature, iteration := w.state.iteration + 1 }
  temperature : coolingSchedule env w.self.config w.state.temperature w.state.iteration =
    .ok w'.state.temperature
  counter : w'.stagnationCounter = if improving w then 0 else w.stagnationCounter + 1
  broke : broke = decide (w'.self.config.maxStagnation ≤ w'.stagnationCounter)

structure Updated : Prop where
  energy : w'.state.currentEnergy = choice.energy
  solution : w'.state.currentSolution = choice.solution
  best : w'.state.bestEnergy =
    if choice.energy < w.state.bestEnergy then choice.energy else w.state.bestEnergy
  bestSolution : w'.state.bestSolution =
    if choice.energy < w.state.bestEnergy then choice.solution else w.state.bestSolution
  acceptanceRate : w'.state.acceptanceRate =
    env.arith.add (env.arith.mul (env.arith.lit 0.9) w.state.acceptanceRate)
      (env.arith.mul (env.arith.lit 0.1)
        (env.arith.lit (if env.draw w.state.iteration < choice.probability then 1 else 0)))

structure Passed (broke : Bool) : Prop extends Updated env w w' choice where
  tuned : Tuned env w w'
  temperature : coolingSchedule env w'.self.config w.state.temperature w.state.iteration =
    .ok w'.state.temperature
  iteration : w'.state.iteration = w.state.iteration + 1
  counter : w'.stagnationCounter =
    if w'.state.bestEnergy < choice.energy then 0 else w.stagnationCounter + 1
  broke : broke = decide (w'.self.config.maxStagnation ≤ w'.stagnationCounter)

variable {env w w' choice}

omit [LE F] [DecidableLE F] in
theorem updateState_spec {post : Unit → World F S → Prop} {exn : Raised → World F S → Prop}
    (holds : ∀ w', Updated env w w' choice → w'.self.config = w.self.config →
      w'.state.temperature = w.state.temperature → w'.state.iteration = w.state.iteration →
      w'.stagnationCounter = w.stagnationCounter →
      w'.self.metrics.energy.getLast? = some choice.energy → post () w') :
    wp (updateState env choice.energy choice.solution
      (env.draw w.state.iteration < choice.probability)) post exn w := by
  simp only [updateState, wp_bind, wp_modify]
  apply holds
  · by_cases less : choice.energy < w.state.bestEnergy
    · constructor <;> simp [less]
    · constructor <;> simp [less]
  all_goals split <;> simp

omit [LE F] [DecidableLE F] in
theorem updateParameters_spec (w : World F S) :
    wp (updateParameters env) (fun _ w' => Steered env w w') (fun _ w' => Steered env w w') w := by
  simp only [updateParameters, wp_bind, wp_modify, wp_get, wp_ite, wp_throw, wp_pure]
  by_cases filled :
      w.self.config.energyWindow < (w.self.energyHistory ++ [w.state.currentEnergy]).length
  · simp only [if_pos filled, ite_self]
    exact ⟨⟨_, rfl, .inr ⟨_, rfl⟩⟩, rfl, rfl, rfl⟩
  · simp only [if_neg filled]
    exact ⟨⟨_, rfl, .inl rfl⟩, rfl, rfl, rfl⟩

omit [LE F] [DecidableLE F] in
theorem checkStagnation_spec {post : Unit → World F S → Prop} {exn : Raised → World F S → Prop}
    (w : World F S) (holds : ∀ w', w'.self = w.self → w'.state = w.state →
      w'.stagnationCounter = (if improving w then 0 else w.stagnationCounter + 1) → post () w') :
    wp checkStagnation post exn w := by
  simp only [checkStagnation, wp_modify]
  apply holds <;> split <;> rfl

omit [LE F] [DecidableLE F] in
theorem settle_spec (w : World F S) :
    wp (settle env) (fun broke w' => Cooled env w w' broke)
      (fun _ w' => w'.state.currentEnergy = w.state.currentEnergy ∧
        w'.state.currentSolution = w.state.currentSolution) w := by
  simp only [settle, wp_bind, wp_get, wp_lift]
  cases cooled : coolingSchedule env w.self.config w.state.temperature w.state.iteration with
  | error e => simp
  | ok temperature =>
    simp only [wp_set, wp_bind]
    apply checkStagnation_spec
    intro w' self state counter
    simp only [saveState, wp_get, wp_ite, wp_pure, wp_throw, wp_bind, wp_modify]
    have settled (broke : Bool)
        (reached : broke = decide (w'.self.config.maxStagnation ≤ w'.stagnationCounter)) :
        Cooled env w w' broke :=
      ⟨by simp [self], by simp [state], by simp [state, cooled], counter, reached⟩
    split_ifs with stagnated never due
    · exact settled _ (decide_eq_true stagnated).symm
    · simp [state]
    · simp [state]
    · exact settled _ (decide_eq_false stagnated).symm

theorem iterate_spec (w : World F S) :
    wp (iterate env)
      (fun broke w' => ∃ choice, choose env w = .ok choice ∧ Passed env w w' choice broke)
      (fun _ w' => ∀ choice, choose env w = .ok choice →
        w'.state.currentEnergy = choice.energy ∧ w'.state.currentSolution = choice.solution) w := by
  simp only [iterate, wp_bind, wp_get, wp_raised]
  cases chosen : choose env w with
  | error e => simp
  | ok choice =>
    apply updateState_spec
    intro u updated config temperature iteration counter metrics
    simp only [Except.ok.injEq, exists_eq_left', forall_eq']
    have settles (v : World F S) (steered : Steered env u v) :
        wp (settle env) (fun broke w' => Passed env w w' choice broke)
          (fun _ w' => w'.state.currentEnergy = choice.energy ∧
            w'.state.currentSolution = choice.solution) v := by
      apply wp_mono (settle_spec v)
      · intro broke w' cooled
        have bestKept : w'.state.bestEnergy = u.state.bestEnergy := by
          rw [cooled.state, steered.state]
        have compared : improving v = decide (u.state.bestEnergy < choice.energy) := by
          simp [improving, steered.metrics, steered.state, metrics]
        constructor
        · constructor
          · rw [cooled.state, steered.state, updated.energy]
          · rw [cooled.state, steered.state, updated.solution]
          · rw [bestKept, updated.best]
          · rw [cooled.state, steered.state, updated.bestSolution]
          · rw [cooled.state, steered.state, updated.acceptanceRate]
        · simpa [Tuned, cooled.config, config] using steered.tuned
        · simpa [cooled.config, steered.state, temperature, iteration] using cooled.temperature
        · rw [cooled.state, steered.state, iteration]
        · simp [cooled.counter, compared, bestKept, steered.counter, counter]
        · exact cooled.broke
      · rintro e w' ⟨energy, solution⟩
        simp [energy, solution, steered.state, updated.energy, updated.solution]
    rw [wp_ite]
    split
    · rw [wp_bind]
      apply wp_mono (updateParameters_spec u)
      · intro _ v steered
        exact settles v steered
      · intro e v steered
        simp [steered.state, updated.energy, updated.solution]
    · exact settles u ⟨⟨_, rfl, .inl rfl⟩, rfl, rfl, rfl⟩

theorem iterate_passed {broke : Bool} (ran : iterate env w = (.ok broke, w')) :
    ∃ choice, choose env w = .ok choice ∧ Passed env w w' choice broke :=
  wp_of_eq_ok (iterate_spec w) ran

/-- Whatever the acceptance check says, the candidate becomes the current solution. -/
theorem iterate_taken (chosen : choose env w = .ok choice) :
    (iterate env w).2.state.currentEnergy = choice.energy ∧
      (iterate env w).2.state.currentSolution = choice.solution := by
  apply (wp_state (iterate env) (s := w) fun w' => w'.state.currentEnergy = choice.energy ∧
    w'.state.currentSolution = choice.solution).mp
  apply wp_mono (iterate_spec w)
  · rintro broke w' ⟨other, same, passed⟩
    obtain rfl : choice = other := Except.ok.inj (chosen.symm.trans same)
    exact ⟨passed.energy, passed.solution⟩
  · exact fun _ _ taken => taken choice chosen

variable (env w choice)

/-- The rule of the Metropolis criterion for the best candidate of a pass. -/
def Metropolis : Prop :=
  let after := (iterate env w).2.state
  if env.draw w.state.iteration < choice.probability then
    after.currentEnergy = choice.energy ∧ after.currentSolution = choice.solution
  else
    after.currentEnergy = w.state.currentEnergy ∧ after.currentSolution = w.state.currentSolution

theorem metropolis_iff (chosen : choose env w = .ok choice) : Metropolis env w choice ↔
    env.draw w.state.iteration < choice.probability ∨
      choice.energy = w.state.currentEnergy ∧ choice.solution = w.state.currentSolution := by
  obtain ⟨energy, solution⟩ := iterate_taken chosen
  unfold Metropolis
  by_cases accepted : env.draw w.state.iteration < choice.probability
  · simp [accepted, energy, solution]
  · simp [accepted, energy, solution]

end Passes

/-- Rational numbers in place of floats: powers are right for the exponent one, `exp` at zero
and wherever it underflows. -/
def coarse : Arithmetic Rat where
  lit x := x
  add x y := x + y
  sub x y := x - y
  mul x y := x * y
  div x y :=
    if y = 0 then .error ⟨.zeroDivisionError, "float division by zero"⟩ else .ok (x / y)
  pow x _ := .ok x
  exp x := .ok (if x = 0 then 1 else 0)
  mean xs := if xs = [] then none else some (xs.sum / xs.length)
  std _ := none

def shifting (amount : Rat) : Env Rat Rat where
  arith := coarse
  calculate s := .ok s
  generateNeighbor _ _ s := .ok (s + amount)
  draw _ := 1 / 2

def plain : SAConfig Rat where
  initialTemperature := 1
  coolingRate := 1 / 2
  minTemperature := 1 / 1000
  maxIterations := 4
  maxStagnation := 2
  adaptiveCooling := false
  parallelEvaluation := false
  workers := 1
  stateInterval := 100
  energyWindow := 100

def fresh : SimulatedAnnealing Rat := ⟨plain, [], [], ⟨[], [], []⟩, false, []⟩

def started : World Rat Rat := ⟨fresh, ⟨0, 0, 0, 0, 0, 0, 1⟩, 0, 0⟩

def shifted (amount probability : Rat) : Choice Rat Rat :=
  ⟨[amount], [amount], amount, amount, probability⟩

theorem descent_kept : Metropolis (shifting (-1)) started (shifted (-1) 1) :=
  (metropolis_iff (shifting (-1)) started (shifted (-1) 1) (by decide +kernel)).mpr
    (.inl (by decide +kernel))

/-- The candidate is worse by a thousand at temperature one: it is rejected, and taken. -/
theorem rejected_taken : choose (shifting 1000) started = .ok (shifted 1000 0) ∧
    ¬ Metropolis (shifting 1000) started (shifted 1000 0) := by
  have chosen : choose (shifting 1000) started = .ok (shifted 1000 0) := by decide +kernel
  have rejected : ¬ (shifting 1000).draw started.state.iteration < (shifted 1000 0).probability := by
    decide +kernel
  have taken := (iterate_taken chosen).1
  refine ⟨chosen, ?_⟩
  simp only [Metropolis, if_neg rejected, taken]
  decide +kernel

end KuvaAI.Annealing
