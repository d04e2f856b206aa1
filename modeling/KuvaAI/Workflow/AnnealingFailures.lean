import KuvaAI.Workflow.AnnealingRuns

/-! What becomes of an exception in the loop of the annealing, for any store of its
checkpoints. The solutions are objects: one may come from a certain call, and the problem
may treat it by that. -/
namespace KuvaAI.Annealing
open Python Effect

structure Store (F S : Type) where
  load : SimulatedAnnealing F → String → Except Raised (Option (SAState F S))
  save : SAState F S → String → Except Raised Unit

/-- The store of the module itself, which cannot write a file to the end. -/
def jsonless {F S : Type} : Store F S where
  load := loadLatestState
  save _ _ := .error noJson

section Stores

variable {F S : Type} [LinearOrder F] (env : Env F S) (store : Store F S)

def initializeStateIn (self : SimulatedAnnealing F) (initialSolution : S) :
    Except Raised (SAState F S) := do
  match ← store.load self "sa" with
  | some state => return state
  | none =>
    let initialEnergy ← env.calculate initialSolution
    return {
      currentEnergy := initialEnergy
      bestEnergy := initialEnergy
      currentSolution := initialSolution
      bestSolution := initialSolution
      iteration := 0
      acceptanceRate := env.arith.lit 0
      temperature := self.config.initialTemperature }

def saveStateIn (label : String) : Effect (World F S) Raised Unit := do
  modify fun w => { w with self := { w.self with checkpoints := w.self.checkpoints ++ [label] } }
  let w ← get
  raised (store.save w.state label)

def settleIn : Effect (World F S) Raised Bool := do
  let w ← get
  let temperature ← lift (coolingSchedule env w.self.config w.state.temperature w.state.iteration)
  set { w with state := { w.state with temperature, iteration := w.state.iteration + 1 } }
  checkStagnation
  let w ← get
  if w.self.config.maxStagnation ≤ w.stagnationCounter then
    return true
  else if w.self.config.stateInterval = 0 then
    throw (.exception ⟨.zeroDivisionError, "integer modulo by zero"⟩)
  else if (w.state.iteration : Int) % w.self.config.stateInterval = 0 then
    saveStateIn store "sa"
    return false
  else
    return false

def iterateIn : Effect (World F S) Raised Bool := do
  let w ← get
  let choice ← raised (choose env w)
  let accepted := env.draw w.state.iteration < choice.probability
  updateState env choice.energy choice.solution accepted
  if w.self.config.adaptiveCooling then
    updateParameters env
  settleIn env store

def loopIn (passes : Nat) : Effect (World F S) Raised Exit := do
  if ← Loop.run looping (iterateIn env store) passes then
    return .stagnation
  else
    return .finished

def runIn (initialSolution : S) : Effect (SimulatedAnnealing F) Raised (SAState F S) := fun self =>
  match initializeStateIn env store self initialSolution with
  | .error e => (.error e, self)
  | .ok state =>
    let body : Effect (World F S) Raised Exit :=
      tryCatch (loopIn env store self.config.maxIterations.toNat) fun
        | .keyboardInterrupt => do
          saveStateIn store "interrupted"
          return .finished
        | e => throw e
    let (_, w) := body ⟨self, state, 0, 0⟩
    (.ok w.state, { w.self with shutdown := true })

theorem iterate_jsonless : iterateIn env jsonless = iterate env := rfl

theorem loopIn_run (n : Nat) (w : World F S) : loopIn env store n w =
    ((Loop.run looping (iterateIn env store) n w).1.map
        fun broke => if broke then .stagnation else .finished,
      (Loop.run looping (iterateIn env store) n w).2) := by
  simp only [loopIn, bind]
  rcases Loop.run looping (iterateIn env store) n w with ⟨result, t⟩
  cases result with
  | error e => rfl
  | ok broke => cases broke <;> rfl

theorem run_jsonless (initialSolution : S) :
    runIn env jsonless initialSolution = run env initialSolution := by
  have loops (n : Nat) : loopIn env jsonless n = loop env n := by
    funext w
    rw [loopIn_run, loop_run, iterate_jsonless]
  funext self
  simp only [runIn, run, loops]
  rfl

end Stores

section Passes

variable {F S : Type} [LinearOrder F] (env : Env F S) (store : Store F S) (w : World F S)
  (choice : Choice F S)

def Accepts : Prop := env.draw w.state.iteration < choice.probability

instance : Decidable (Accepts env w choice) := inferInstanceAs (Decidable (_ < _))

def stateAfter (temperature : F) : SAState F S where
  currentEnergy := choice.energy
  bestEnergy := if choice.energy < w.state.bestEnergy then choice.energy else w.state.bestEnergy
  currentSolution := choice.solution
  bestSolution :=
    if choice.energy < w.state.bestEnergy then choice.solution else w.state.bestSolution
  iteration := w.state.iteration + 1
  acceptanceRate := env.arith.add (env.arith.mul (env.arith.lit 0.9) w.state.acceptanceRate)
    (env.arith.mul (env.arith.lit 0.1) (env.arith.lit (if Accepts env w choice then 1 else 0)))
  temperature := temperature

def Filled : Prop :=
  w.self.config.adaptiveCooling = true ∧ w.self.config.energyWindow < w.self.energyHistory.length + 1

instance : Decidable (Filled w) := inferInstanceAs (Decidable (_ ∧ _))

/-- The controller finds no progress and asks the configuration for a temperature. -/
def Steady : Prop :=
  Filled w ∧ below (env.arith.std (window (w.self.energyHistory ++ [choice.energy])
    w.self.config.energyWindow)) (env.arith.lit 0.00001) = true

instance : Decidable (Steady env w choice) := inferInstanceAs (Decidable (_ ∧ _))

def trendAfter : Option F :=
  env.arith.mean (window (w.self.acceptanceHistory ++
    [(stateAfter env w choice w.state.temperature).acceptanceRate]) w.self.config.energyWindow)

def configAfter : SAConfig F where
  __ := w.self.config
  coolingRate :=
    if Filled w then adjustedRate env w.self.config.coolingRate (trendAfter env w choice)
    else w.self.config.coolingRate

def counterAfter : Nat :=
  if (stateAfter env w choice w.state.temperature).bestEnergy < choice.energy then 0
  else w.stagnationCounter + 1

def noTemperature : Raised :=
  .exception ⟨.attributeError, "'SAConfig' object has no attribute 'temperature'"⟩

def moduloByZero : Raised := .exception ⟨.zeroDivisionError, "integer modulo by zero"⟩

def settleEnds : Except Raised Bool :=
  match coolingSchedule env (configAfter env w choice) w.state.temperature w.state.iteration with
  | .error e => .error (.exception e)
  | .ok temperature =>
    if w.self.config.maxStagnation ≤ counterAfter env w choice then .ok true
    else if w.self.config.stateInterval = 0 then .error moduloByZero
    else if (w.state.iteration + 1 : Int) % w.self.config.stateInterval = 0 then
      (store.save (stateAfter env w choice temperature) "sa").map fun _ => false
    else .ok false

/-- How the pass from `w` ends, read off what it is given: the calls of the problem and of
the store, and the operations on floats. -/
def passEnds : Except Raised Bool :=
  match choose env w with
  | .error e => .error e
  | .ok choice =>
    if Steady env w choice then .error noTemperature else settleEnds env store w choice

def updated : World F S where
  self := { w.self with metrics := {
    energy := w.self.metrics.energy ++ [choice.energy]
    temperature := w.self.metrics.temperature ++ [w.state.temperature]
    acceptanceRate := w.self.metrics.acceptanceRate ++
      [(stateAfter env w choice w.state.temperature).acceptanceRate] } }
  state := { stateAfter env w choice w.state.temperature with iteration := w.state.iteration }
  stagnationCounter := w.stagnationCounter
  lastImprovement := w.lastImprovement

theorem updateState_run :
    updateState env choice.energy choice.solution (decide (Accepts env w choice)) w =
      (.ok (), updated env w choice) := by
  simp only [updateState, bind, modify_run, updated, stateAfter, decide_eq_true_eq]
  split <;> rfl

def controlled : World F S :=
  let w' := updated env w choice
  if w.self.config.adaptiveCooling then
    { w' with self := { w'.self with
      config := configAfter env w choice
      energyHistory := w.self.energyHistory ++ [choice.energy]
      acceptanceHistory := w.self.acceptanceHistory ++ [w'.state.acceptanceRate] } }
  else w'

theorem wp_updateParameters (adaptive : w.self.config.adaptiveCooling = true)
    (post : Unit → World F S → Prop) (exn : Raised → World F S → Prop) :
    wp (updateParameters env) post exn (updated env w choice) ↔
      if Steady env w choice then exn noTemperature (controlled env w choice)
      else post () (controlled env w choice) := by
  have length : ((w.self.energyHistory ++ [choice.energy]).length : Int) =
      w.self.energyHistory.length + 1 := by simp
  simp only [updateParameters, wp_bind, wp_modify, wp_get, wp_ite, wp_throw, wp_pure, updated,
    stateAfter, length]
  by_cases filled : w.self.config.energyWindow < w.self.energyHistory.length + 1
  · have fills : Filled w := ⟨adaptive, filled⟩
    simp only [if_pos filled, Steady, fills, true_and, controlled, adaptive, if_true, configAfter,
      trendAfter, updated, stateAfter]
    rfl
  · have unfilled : ¬ Filled w := fun fills => filled fills.2
    have config : configAfter env w choice = w.self.config := by simp [configAfter, unfilled]
    simp only [if_neg filled, Steady, unfilled, false_and, controlled, config, adaptive, if_true,
      if_false, updated, stateAfter]

theorem wp_settle (v : World F S) (post : Bool → Prop) (exn : Raised → Prop) :
    wp (settleIn env store) (fun broke _ => post broke) (fun e _ => exn e) v ↔
      match coolingSchedule env v.self.config v.state.temperature v.state.iteration with
      | .error e => exn (.exception e)
      | .ok temperature =>
        if v.self.config.maxStagnation ≤ ((if improving v then 0 else v.stagnationCounter + 1 : Nat) : Int)
        then post true
        else if v.self.config.stateInterval = 0 then exn moduloByZero
        else if (v.state.iteration + 1 : Int) % v.self.config.stateInterval = 0 then
          match store.save { v.state with temperature, iteration := v.state.iteration + 1 } "sa" with
          | .ok _ => post false
          | .error e => exn e
        else post false := by
  simp only [settleIn, wp_bind, wp_get, wp_lift]
  cases cooled : coolingSchedule env v.self.config v.state.temperature v.state.iteration with
  | error e => rfl
  | ok temperature =>
    have same (t : F) (n : Nat) :
        improving { v with state := { v.state with temperature := t, iteration := n } } = improving v := rfl
    simp only [wp_set, wp_bind, checkStagnation, wp_modify, wp_get, wp_ite, wp_pure, wp_throw,
      saveStateIn, wp_raised, same]
    cases saved : store.save
        { v.state with temperature := temperature, iteration := v.state.iteration + 1 } "sa" <;>
      cases improving v <;> simp [saved, moduloByZero]

theorem controlled_config : (controlled env w choice).self.config = configAfter env w choice := by
  cases adaptive : w.self.config.adaptiveCooling with
  | true => simp [controlled, adaptive]
  | false =>
    have unfilled : ¬ Filled w := by simp [Filled, adaptive]
    have same : configAfter env w choice = w.self.config := by simp [configAfter, unfilled]
    simp [controlled, adaptive, same, updated]

theorem controlled_state : (controlled env w choice).state = (updated env w choice).state := by
  unfold controlled
  split <;> rfl

theorem controlled_counter : (if improving (controlled env w choice) then 0
    else (controlled env w choice).stagnationCounter + 1) = counterAfter env w choice := by
  have metrics : (controlled env w choice).self.metrics = (updated env w choice).self.metrics := by
    unfold controlled
    split <;> rfl
  have counter : (controlled env w choice).stagnationCounter = w.stagnationCounter := by
    unfold controlled
    split <;> rfl
  simp [improving, metrics, controlled_state, counter, updated, counterAfter]

theorem settle_ends : wp (settleIn env store) (fun broke _ => settleEnds env store w choice = .ok broke)
    (fun e _ => settleEnds env store w choice = .error e) (controlled env w choice) := by
  rw [wp_settle, controlled_config, controlled_counter, controlled_state]
  have temperature : (updated env w choice).state.temperature = w.state.temperature := rfl
  have iteration : (updated env w choice).state.iteration = w.state.iteration := rfl
  rw [temperature, iteration]
  unfold settleEnds
  cases coolingSchedule env (configAfter env w choice) w.state.temperature w.state.iteration with
  | error e => rfl
  | ok cooled =>
    have saves : ({ (updated env w choice).state with
        temperature := cooled, iteration := w.state.iteration + 1 } : SAState F S) =
          stateAfter env w choice cooled := rfl
    have stagnation : (configAfter env w choice).maxStagnation = w.self.config.maxStagnation := rfl
    have interval : (configAfter env w choice).stateInterval = w.self.config.stateInterval := rfl
    simp only [saves, stagnation, interval]
    split_ifs
    · rfl
    · rfl
    · cases store.save (stateAfter env w choice cooled) "sa" <;> rfl
    · rfl

theorem iterate_ends (w : World F S) : (iterateIn env store w).1 = passEnds env store w := by
  have ends : wp (iterateIn env store) (fun broke _ => passEnds env store w = .ok broke)
      (fun e _ => passEnds env store w = .error e) w := by
    simp only [iterateIn, wp_bind, wp_get, wp_raised]
    cases chosen : choose env w with
    | error e => simp [passEnds, chosen]
    | ok choice =>
      have same : passEnds env store w =
          if Steady env w choice then .error noTemperature else settleEnds env store w choice := by
        simp [passEnds, chosen]
      have settles := settle_ends env store w choice
      apply (wp_of_ok (updateState_run env w choice)).mpr
      rw [same, wp_ite]
      by_cases steady : Steady env w choice
      · have adaptive : w.self.config.adaptiveCooling = true := steady.1.1
        rw [if_pos steady, if_pos adaptive, wp_bind, wp_updateParameters env w choice adaptive,
          if_pos steady]
      · rw [if_neg steady]
        split
        · rename_i adaptive
          rwa [wp_bind, wp_updateParameters env w choice adaptive, if_neg steady]
        · rename_i plain
          have unchanged : controlled env w choice = updated env w choice := if_neg plain
          rwa [← unchanged]
  revert ends
  unfold wp
  rcases iterateIn env store w with ⟨result, w'⟩
  cases result <;> exact fun same => same.symm

structure Limits (w' : World F S) (broke : Bool) : Prop where
  maxIterations : w'.self.config.maxIterations = w.self.config.maxIterations
  iteration : w'.state.iteration = w.state.iteration + 1
  broke : broke = true → w'.self.config.maxStagnation ≤ w'.stagnationCounter

theorem settle_limits (v : World F S) :
    wp (settleIn env store) (fun broke v' => Limits v v' broke) (fun _ _ => True) v := by
  simp only [settleIn, wp_bind, wp_get, wp_lift]
  cases coolingSchedule env v.self.config v.state.temperature v.state.iteration with
  | error e => trivial
  | ok temperature =>
    simp only [wp_set, wp_bind]
    apply checkStagnation_spec
    intro u self state _
    have config : u.self.config.maxIterations = v.self.config.maxIterations := by rw [self]
    have iteration : u.state.iteration = v.state.iteration + 1 := by rw [state]
    simp only [saveStateIn, wp_get, wp_ite, wp_pure, wp_throw, wp_bind, wp_modify, wp_raised]
    split_ifs with stagnated never due
    · exact ⟨config, iteration, fun _ => stagnated⟩
    · cases store.save u.state "sa" with
      | ok _ => exact ⟨config, iteration, by simp⟩
      | error e => trivial
    · exact ⟨config, iteration, by simp⟩

theorem iterate_limits :
    wp (iterateIn env store) (fun broke w' => Limits w w' broke) (fun _ _ => True) w := by
  simp only [iterateIn, wp_bind, wp_get, wp_raised]
  cases choose env w with
  | error e => trivial
  | ok choice =>
    apply (wp_of_ok (updateState_run env w choice)).mpr
    have settles (v : World F S) (config : v.self.config.maxIterations = w.self.config.maxIterations)
        (iteration : v.state.iteration = w.state.iteration) :
        wp (settleIn env store) (fun broke w' => Limits w w' broke) (fun _ _ => True) v := by
      apply wp_mono (settle_limits env store v)
      · exact fun _ _ limits =>
          ⟨limits.maxIterations.trans config, limits.iteration.trans (by rw [iteration]), limits.broke⟩
      · exact fun _ _ _ => trivial
    rw [wp_ite]
    split
    · rw [wp_bind]
      apply wp_mono (updateParameters_spec (updated env w choice))
      · rintro _ v ⟨⟨_, config, _⟩, state, _, _⟩
        exact settles v (by rw [config]; rfl) (by rw [state]; rfl)
      · exact fun _ _ _ => trivial
    · exact settles _ rfl rfl

end Passes

section Runs

variable {F S : Type} [LinearOrder F] (env : Env F S) (store : Store F S)

def EndsWell : Except Raised Exit × World F S → Prop
  | (.ok .finished, w) => ¬ looping w
  | (.ok .stagnation, w) => w.self.config.maxStagnation ≤ w.stagnationCounter
  | (.error .keyboardInterrupt, _) => True
  | (.error (.exception _), _) => False

/-- The run returns only after an end of those, and raises what the loop does. -/
def Surfaces (self : SimulatedAnnealing F) (initialSolution : S) : Prop :=
  ∀ state, initializeStateIn env store self initialSolution = .ok state →
    let ended := loopIn env store self.config.maxIterations.toNat ⟨self, state, 0, 0⟩
    let result := (runIn env store initialSolution self).1
    ((∃ final, result = .ok final) → EndsWell ended) ∧
      ∀ e, ended.1 = .error (.exception e) → result = .error (.exception e)

def starts (self : SimulatedAnnealing F) (initialSolution : S) : List (World F S) :=
  match initializeStateIn env store self initialSolution with
  | .error _ => []
  | .ok state =>
    Loop.heads looping (iterateIn env store) self.config.maxIterations.toNat ⟨self, state, 0, 0⟩

theorem endsWell_iff (w : World F S) (n : Nat)
    (enough : (w.self.config.maxIterations - w.state.iteration).toNat ≤ n) :
    EndsWell (loopIn env store n w) ↔ ∀ e, (loopIn env store n w).1 ≠ .error (.exception e) := by
  let remaining (w : World F S) : Nat := (w.self.config.maxIterations - w.state.iteration).toNat
  have left (w : World F S) (enters : looping w) : 0 < remaining w := by
    have := enters.1
    simp only [remaining]
    omega
  have falls (w w' : World F S) (enters : looping w) (ran : iterateIn env store w = (.ok false, w')) :
      remaining w' < remaining w := by
    have limits := wp_of_eq_ok (iterate_limits env store w) ran
    have := enters.1
    simp only [remaining, limits.maxIterations, limits.iteration]
    omega
  rw [loopIn_run]
  rcases ran : Loop.run looping (iterateIn env store) n w with ⟨result, t⟩
  cases result with
  | error e => cases e <;> simp [EndsWell, Except.map]
  | ok broke =>
    cases broke with
    | true =>
      obtain ⟨u, made⟩ := Loop.run_broken ran
      have limits := wp_of_eq_ok (iterate_limits env store u) made
      simp [EndsWell, Except.map, limits.broke rfl]
    | false =>
      have done := Loop.run_done left falls enough ran
      simp [EndsWell, Except.map, done]

variable {env store} {self : SimulatedAnnealing F} {initialSolution : S} {state : SAState F S}

theorem runIn_ok (ready : initializeStateIn env store self initialSolution = .ok state) :
    ∃ final, (runIn env store initialSolution self).1 = .ok final := by
  simp only [runIn, ready]
  exact ⟨_, rfl⟩

/-- Failures surface exactly in the runs none of whose passes fails: the `return` of the
`finally` clause drops every exception. -/
theorem surfaces_iff : Surfaces env store self initialSolution ↔
    ∀ w ∈ starts env store self initialSolution, ∀ e, passEnds env store w ≠ .error (.exception e) := by
  unfold Surfaces starts
  cases ready : initializeStateIn env store self initialSolution with
  | error e => simp
  | ok state =>
    obtain ⟨final, returned⟩ := runIn_ok ready
    have fuel : (self.config.maxIterations - state.iteration).toNat ≤ self.config.maxIterations.toNat := by
      omega
    have ends := endsWell_iff env store ⟨self, state, 0, 0⟩ _ fuel
    have raises (e : Raised) :
        (loopIn env store self.config.maxIterations.toNat ⟨self, state, 0, 0⟩).1 = .error e ↔
          ∃ w ∈ Loop.heads looping (iterateIn env store) self.config.maxIterations.toNat
            ⟨self, state, 0, 0⟩, passEnds env store w = .error e := by
      simp only [← iterate_ends, ← Loop.run_error_iff, loopIn_run]
      cases (Loop.run looping (iterateIn env store) self.config.maxIterations.toNat
        ⟨self, state, 0, 0⟩).1 <;> simp [Except.map]
    constructor
    · intro surfaces w member e fails
      have well := (surfaces state rfl).1 ⟨final, returned⟩
      exact ends.mp well e ((raises _).mpr ⟨w, member, fails⟩)
    · intro quiet other same
      cases same
      have none_raised (e : Exn) :
          (loopIn env store self.config.maxIterations.toNat ⟨self, state, 0, 0⟩).1 ≠
            .error (.exception e) := by
        intro raised
        obtain ⟨w, member, fails⟩ := (raises _).mp raised
        exact quiet w member e fails
      exact ⟨fun _ => ends.mpr none_raised, fun e raised => absurd raised (none_raised e)⟩

end Runs

def noLogarithm : Raised := .exception ⟨.valueError, "math domain error"⟩

def partly : Env Rat Rat :=
  { shifting 1 with calculate := fun s => if s = 0 then .ok 0 else .error noLogarithm }

def diskless : Store Rat Rat := ⟨fun _ _ => .ok none, fun _ _ => .ok ()⟩

/-- The first candidate has no energy, and the run returns the initial solution. -/
theorem domain_error_dropped : ¬ Surfaces partly diskless fresh 0 := by
  intro surfaces
  have ready : initializeStateIn partly diskless fresh 0 = .ok ⟨0, 0, 0, 0, 0, 0, 1⟩ := by
    rfl
  obtain ⟨final, returned⟩ := runIn_ok ready
  have raised : (loopIn partly diskless 4 ⟨fresh, ⟨0, 0, 0, 0, 0, 0, 1⟩, 0, 0⟩).1 = .error noLogarithm := by
    decide +kernel
  have surfaced := (surfaces _ ready).2 _ raised
  rw [returned] at surfaced
  cases surfaced

end KuvaAI.Annealing
