import KuvaAI.Lib.Effect
import KuvaAI.Lib.FloatOrder
import KuvaAI.Python.Value
import Mathlib.Algebra.Order.Ring.Rat

/-! The simulated annealing of simulated_annealing.py: the run with its batches of
candidates, the parameter controller and the checkpoints. The problem, the random draws
and the arithmetic of floats are outside. -/
namespace KuvaAI.Annealing
open Python

/-- The operations on floats that the optimizer uses. `mean` and `std` of nothing are
not numbers, and compare as neither less nor greater than one. -/
structure Arithmetic (F : Type) where
  lit : Rat → F
  add : F → F → F
  sub : F → F → F
  mul : F → F → F
  div : F → F → Except Exn F
  pow : F → F → Except Exn F
  exp : F → Except Exn F
  mean : List F → Option F
  std : List F → Option F

structure SAConfig (F : Type) where
  initialTemperature : F
  coolingRate : F
  minTemperature : F
  maxIterations : Int
  maxStagnation : Int
  adaptiveCooling : Bool
  parallelEvaluation : Bool
  workers : Nat
  stateInterval : Int
  energyWindow : Int

structure SAState (F S : Type) where
  currentEnergy : F
  bestEnergy : F
  currentSolution : S
  bestSolution : S
  iteration : Nat
  acceptanceRate : F
  temperature : F

structure Metrics (F : Type) where
  energy : List F
  temperature : List F
  acceptanceRate : List F

/-- An annealer with its controller, its executor and the prefixes of the checkpoints on
disk. -/
structure SimulatedAnnealing (F : Type) where
  config : SAConfig F
  energyHistory : List F
  acceptanceHistory : List F
  metrics : Metrics F
  shutdown : Bool
  checkpoints : List String

inductive Raised where
  | exception (e : Exn)
  | keyboardInterrupt
  deriving DecidableEq

structure Env (F S : Type) where
  arith : Arithmetic F
  calculate : S → Except Raised F
  generateNeighbor : Nat → Nat → S → Except Raised S
  draw : Nat → F

structure World (F S : Type) where
  self : SimulatedAnnealing F
  state : SAState F S
  stagnationCounter : Nat
  lastImprovement : Nat

structure Choice (F S : Type) where
  candidates : List S
  energies : List F
  energy : F
  solution : S
  probability : F
  deriving DecidableEq

inductive Exit where
  | finished | stagnation
  deriving DecidableEq

section Annealer

variable {F S : Type}

def lift {σ α : Type} : Except Exn α → Effect σ Raised α
  | .ok a => pure a
  | .error e => throw (.exception e)

/-- `json` is not imported; the file of the checkpoint is there by then. -/
def noJson : Raised := .exception ⟨.nameError, "name 'json' is not defined"⟩

def saveState (label : String) : Effect (World F S) Raised Unit := do
  modify fun w => { w with self := { w.self with checkpoints := w.self.checkpoints ++ [label] } }
  throw noJson

def loadLatestState (self : SimulatedAnnealing F) (label : String) :
    Except Raised (Option (SAState F S)) :=
  if label ∈ self.checkpoints then .error noJson else .ok none

/-- `xs[-window:]`. -/
def window (xs : List F) (window : Int) : List F :=
  if 0 < window then xs.drop (xs.length - window.toNat) else xs.drop (-window).toNat

variable [LE F] [LT F] [DecidableLE F] [DecidableLT F] (env : Env F S)

def initializeState (self : SimulatedAnnealing F) (initialSolution : S) :
    Except Raised (SAState F S) := do
  match ← loadLatestState self "sa" with
  | some state => return state
  | none =>
    let initialEnergy ← env.calculate initialSolution
    return {
      currentEnergy := initialEnergy
      bestEnergy := initialEnergy
      currentSolution := initialSolution
      bestSolution := initialSolution
      iteration := 0
      acceptanceRate := env.arith.lit 0
      temperature := self.config.initialTemperature }

def generateCandidates (w : World F S) : Except Raised (List S) :=
  (List.range w.self.config.workers).mapM fun worker =>
    env.generateNeighbor w.state.iteration worker w.state.currentSolution

/-- An executor that was shut down accepts no more work. -/
def evaluate (w : World F S) (candidates : List S) : Except Raised (List F) :=
  if w.self.config.parallelEvaluation ∧ w.self.shutdown ∧ candidates ≠ [] then
    .error (.exception ⟨.runtimeError, "cannot schedule new futures after shutdown"⟩)
  else
    candidates.mapM env.calculate

/-- The candidate at the index that `np.argmin` gives, with its energy. -/
def argmin (energies : List F) (candidates : List S) : Except Raised (F × S) :=
  match FloatOrder.argmin Prod.fst (energies.zip candidates) with
  | some best => .ok best
  | none =>
    .error (.exception ⟨.valueError, "attempt to get argmin of an empty sequence"⟩)

def acceptanceProbability (currentEnergy candidateEnergy temperature : F) : Except Exn F := do
  if candidateEnergy < currentEnergy then
    return env.arith.lit 1
  else
    let ratio ← env.arith.div (env.arith.sub currentEnergy candidateEnergy) temperature
    env.arith.exp ratio

/-- The pass as far as its acceptance check; nothing has changed by then. -/
def choose (w : World F S) : Except Raised (Choice F S) := do
  let candidates ← generateCandidates env w
  let energies ← evaluate env w candidates
  let (energy, solution) ← argmin energies candidates
  match acceptanceProbability env w.state.currentEnergy energy w.state.temperature with
  | .ok probability => return { candidates, energies, energy, solution, probability }
  | .error e => throw (.exception e)

def updateState (candidateEnergy : F) (candidateSolution : S) (accepted : Bool) :
    Effect (World F S) Raised Unit := do
  modify fun w => { w with state := { w.state with
    currentEnergy := candidateEnergy, currentSolution := candidateSolution } }
  modify fun w =>
    if candidateEnergy < w.state.bestEnergy then
      { w with state := { w.state with
        bestEnergy := candidateEnergy, bestSolution := candidateSolution } }
    else w
  modify fun w => { w with state := { w.state with
    acceptanceRate := env.arith.add (env.arith.mul (env.arith.lit 0.9) w.state.acceptanceRate)
      (env.arith.mul (env.arith.lit 0.1) (env.arith.lit (if accepted then 1 else 0))) } }
  modify fun w => { w with self := { w.self with metrics := {
    energy := w.self.metrics.energy ++ [w.state.currentEnergy]
    temperature := w.self.metrics.temperature ++ [w.state.temperature]
    acceptanceRate := w.self.metrics.acceptanceRate ++ [w.state.acceptanceRate] } } }

def smaller (a b : F) : F := if b < a then b else a

def larger (a b : F) : F := if a < b then b else a

def below (x : Option F) (bound : F) : Bool := x.any fun value => value < bound

def above (x : Option F) (bound : F) : Bool := x.any fun value => bound < value

def adjustedRate (rate : F) (acceptanceTrend : Option F) : F :=
  if below acceptanceTrend (env.arith.lit 0.1) then
    smaller (env.arith.lit 0.99) (env.arith.mul rate (env.arith.lit 1.05))
  else if above acceptanceTrend (env.arith.lit 0.4) then
    larger (env.arith.lit 0.5) (env.arith.mul rate (env.arith.lit 0.95))
  else rate

/-- `AdaptiveParameterController.update`. -/
def updateParameters : Effect (World F S) Raised Unit := do
  modify fun w => { w with self := { w.self with
    energyHistory := w.self.energyHistory ++ [w.state.currentEnergy]
    acceptanceHistory := w.self.acceptanceHistory ++ [w.state.acceptanceRate] } }
  let w ← get
  if w.self.config.energyWindow < w.self.energyHistory.length then
    let acceptanceTrend :=
      env.arith.mean (window w.self.acceptanceHistory w.self.config.energyWindow)
    modify fun w => { w with self := { w.self with config := { w.self.config with
      coolingRate := adjustedRate env w.self.config.coolingRate acceptanceTrend } } }
    let energyStd := env.arith.std (window w.self.energyHistory w.self.config.energyWindow)
    if below energyStd (env.arith.lit 0.00001) then
      throw (.exception ⟨.attributeError, "'SAConfig' object has no attribute 'temperature'"⟩)

def coolingSchedule (config : SAConfig F) (temperature : F) (iteration : Nat) : Except Exn F := do
  if config.adaptiveCooling then
    let factor ← env.arith.pow config.coolingRate
      (env.arith.add (env.arith.lit 1) (env.arith.lit (iteration / 10000)))
    return env.arith.mul temperature factor
  else
    return env.arith.mul temperature config.coolingRate

def looping (w : World F S) : Prop :=
  w.state.iteration < w.self.config.maxIterations ∧
    w.self.config.minTemperature < w.state.temperature

instance (w : World F S) : Decidable (looping w) := instDecidableAnd

/-- `state.best_energy < self.metrics['energy'][-1] if self.metrics['energy'] else False`. -/
def improving (w : World F S) : Bool :=
  match w.self.metrics.energy.getLast? with
  | some last => w.state.bestEnergy < last
  | none => false

def checkStagnation : Effect (World F S) Raised Unit :=
  modify fun w =>
    if improving w then { w with stagnationCounter := 0, lastImprovement := w.state.iteration }
    else { w with stagnationCounter := w.stagnationCounter + 1 }

def raised {σ α : Type} : Except Raised α → Effect σ Raised α
  | .ok a => pure a
  | .error e => throw e

/-- A pass from its temperature update on. It tells whether stagnation ends the loop. -/
def settle : Effect (World F S) Raised Bool := do
  let w ← get
  let temperature ← lift (coolingSchedule env w.self.config w.state.temperature w.state.iteration)
  set { w with state := { w.state with temperature, iteration := w.state.iteration + 1 } }
  checkStagnation
  let w ← get
  if w.self.config.maxStagnation ≤ w.stagnationCounter then
    return true
  else if w.self.config.stateInterval = 0 then
    throw (.exception ⟨.zeroDivisionError, "integer modulo by zero"⟩)
  else if (w.state.iteration : Int) % w.self.config.stateInterval = 0 then
    saveState "sa"
    return false
  else
    return false

def iterate : Effect (World F S) Raised Bool := do
  let w ← get
  let choice ← raised (choose env w)
  let accepted := env.draw w.state.iteration < choice.probability
  updateState env choice.energy choice.solution accepted
  if w.self.config.adaptiveCooling then
    updateParameters env
  settle env

/-- The `while` loop; a pass adds one to the iteration, so `max_iterations` bounds them. -/
def loop : Nat → Effect (World F S) Raised Exit
  | 0 => return .finished
  | passes + 1 => do
    if looping (← get) then
      if ← iterate env then
        return .stagnation
      else
        loop passes
    else
      return .finished

/-- The `return` of the `finally` clause drops whatever was raised. -/
def run (initialSolution : S) : Effect (SimulatedAnnealing F) Raised (SAState F S) := fun self =>
  match initializeState env self initialSolution with
  | .error e => (.error e, self)
  | .ok state =>
    let body : Effect (World F S) Raised Exit :=
      tryCatch (loop env self.config.maxIterations.toNat) fun
        | .keyboardInterrupt => do
          saveState "interrupted"
          return .finished
        | e => throw e
    let (_, w) := body ⟨self, state, 0, 0⟩
    (.ok w.state, { w.self with shutdown := true })

end Annealer

end KuvaAI.Annealing
