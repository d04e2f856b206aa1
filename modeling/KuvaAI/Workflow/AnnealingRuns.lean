import KuvaAI.Lib.Loop
import KuvaAI.Workflow.AnnealingPasses
import Mathlib.Order.Bounds.Basic

/-! Whole runs of the annealing: the completed passes of the loop, and the best energy over
all the candidates that they have evaluated. -/
namespace KuvaAI.Annealing
open Effect

section Runs

variable {F S : Type} [LE F] [LT F] [DecidableLE F] [DecidableLT F] (env : Env F S)

def history (self : SimulatedAnnealing F) (initialSolution : S) : List (Loop.Pass (World F S)) :=
  match initializeState env self initialSolution with
  | .error _ => []
  | .ok state =>
    Loop.passes looping (iterate env) self.config.maxIterations.toNat ⟨self, state, 0, 0⟩

def batch (w : World F S) : List F :=
  match generateCandidates env w >>= evaluate env w with
  | .error _ => []
  | .ok energies => energies

variable {env} {w w' : World F S} {choice : Choice F S}

theorem loop_run (n : Nat) (w : World F S) : loop env n w =
    ((Loop.run looping (iterate env) n w).1.map fun broke => if broke then .stagnation else .finished,
      (Loop.run looping (iterate env) n w).2) := by
  induction n generalizing w with
  | zero => rfl
  | succ n ih =>
    have entered : loop env (n + 1) w =
        (if looping w then
            (do if ← iterate env then return .stagnation else loop env n : Effect _ _ Exit)
          else return .finished) w := rfl
    rw [entered, Loop.run_succ]
    split
    · simp only [bind]
      rcases iterate env w with ⟨result, t⟩
      cases result with
      | error e => rfl
      | ok broke =>
        cases broke with
        | true => rfl
        | false => simp [ih]
    · rfl

theorem history_complete {self : SimulatedAnnealing F} {initialSolution : S} {state : SAState F S}
    (ready : initializeState env self initialSolution = .ok state) {n : Nat}
    (enough : self.config.maxIterations.toNat ≤ n) :
    loop env n ⟨self, state, 0, 0⟩ = loop env self.config.maxIterations.toNat ⟨self, state, 0, 0⟩ ∧
      Loop.passes looping (iterate env) n ⟨self, state, 0, 0⟩ = history env self initialSolution := by
  let remaining (w : World F S) : Nat := (w.self.config.maxIterations - w.state.iteration).toNat
  have left (w : World F S) (enters : looping w) : 0 < remaining w := by
    have := enters.1
    simp only [remaining]
    omega
  have falls (w w' : World F S) (enters : looping w) (ran : iterate env w = (.ok false, w')) :
      remaining w' < remaining w := by
    obtain ⟨_, _, passed⟩ := iterate_passed ran
    obtain ⟨_, config, _⟩ := passed.tuned
    have := enters.1
    simp only [remaining, config, passed.iteration]
    omega
  have start : remaining ⟨self, state, 0, 0⟩ ≤ self.config.maxIterations.toNat := by
    simp only [remaining]
    omega
  obtain ⟨sameRun, samePasses⟩ := Loop.run_enough left falls (start.trans enough) start
  rw [loop_run, loop_run, sameRun, samePasses, history, ready]
  exact ⟨rfl, rfl⟩

theorem batch_of_choose (chosen : choose env w = .ok choice) : batch env w = choice.energies := by
  obtain ⟨generated, evaluated, _⟩ := choose_ok chosen
  simp [batch, generated, evaluated, bind, Except.bind]

theorem mapM_ok {α β ε : Type} {f : α → Except ε β} {xs : List α} {ys : List β}
    (mapped : xs.mapM f = .ok ys) : List.Forall₂ (fun y x => f x = .ok y) ys xs := by
  induction xs generalizing ys with
  | nil =>
    cases mapped
    exact .nil
  | cons x xs ih =>
    rw [List.mapM_cons] at mapped
    obtain ⟨y, first, mapped⟩ := Python.bind_eq_ok mapped
    obtain ⟨ys', rest, mapped⟩ := Python.bind_eq_ok mapped
    cases mapped
    exact .cons first (ih rest)

/-- The energy is that of the solution, and none that was evaluated is less. -/
theorem choose_first [FloatOrder F] (chosen : choose env w = .ok choice) :
    env.calculate choice.solution = .ok choice.energy ∧ choice.energy ∈ batch env w ∧
      (FloatOrder.IsNaN choice.energy ∨ ∀ e ∈ batch env w, choice.energy ≤ e) := by
  rw [batch_of_choose chosen]
  obtain ⟨_, evaluated, least⟩ := choose_ok chosen
  have mapped : choice.candidates.mapM env.calculate = .ok choice.energies := by
    unfold evaluate at evaluated
    split at evaluated
    · cases evaluated
    · exact evaluated
  obtain ⟨sameLength, energyOf⟩ := List.forall₂_iff_zip.mp (mapM_ok mapped)
  unfold argmin at least
  split at least
  · rename_i best isBest
    obtain rfl : best = (choice.energy, choice.solution) := Except.ok.inj least
    obtain ⟨member, first⟩ := FloatOrder.argmin_least isBest
    refine ⟨energyOf member, (List.of_mem_zip member).1, first.imp_right fun le e evaluatedToo => ?_⟩
    have listed : e ∈ (choice.energies.zip choice.candidates).map Prod.fst := by
      rw [List.map_fst_zip sameLength.le]
      exact evaluatedToo
    obtain ⟨other, among, rfl⟩ := List.mem_map.mp listed
    exact le other among
  · cases least

omit [LE F] [LT F] [DecidableLE F] [DecidableLT F] in
theorem initializeState_ok {self : SimulatedAnnealing F} {initialSolution : S}
    {state : SAState F S} (ready : initializeState env self initialSolution = .ok state) :
    ∃ e, env.calculate initialSolution = .ok e ∧ state =
      ⟨e, e, initialSolution, initialSolution, 0, env.arith.lit 0, self.config.initialTemperature⟩ := by
  unfold initializeState loadLatestState at ready
  obtain ⟨found, loaded, ready⟩ := Python.bind_eq_ok ready
  split at loaded
  · cases loaded
  · cases loaded
    obtain ⟨e, initial, ready⟩ := Python.bind_eq_ok ready
    cases ready
    exact ⟨e, initial, rfl⟩

end Runs

section Best

variable {F S : Type} [LinearOrder F] {env : Env F S} {w w' : World F S} {choice : Choice F S}

theorem choose_least (chosen : choose env w = .ok choice) :
    env.calculate choice.solution = .ok choice.energy ∧
      IsLeast {e | e ∈ batch env w} choice.energy := by
  obtain ⟨energyOf, evaluated, nan | least⟩ := choose_first chosen
  · exact absurd le_rfl nan
  · exact ⟨energyOf, evaluated, least⟩

variable (env)

def seen (initialSolution : S) (done : List (Loop.Pass (World F S))) : Set F :=
  {e | env.calculate initialSolution = .ok e ∨ ∃ pass ∈ done, e ∈ batch env pass.before}

/-- The energies of a state are those of its solutions, and the best is the least so far. -/
structure Tracks (initialSolution : S) (done : List (Loop.Pass (World F S))) (w : World F S) :
    Prop where
  best : env.calculate w.state.bestSolution = .ok w.state.bestEnergy
  current : env.calculate w.state.currentSolution = .ok w.state.currentEnergy
  least : IsLeast (seen env initialSolution done) w.state.bestEnergy

variable {env}

omit [LinearOrder F] in
theorem seen_snoc (initialSolution : S) (done : List (Loop.Pass (World F S)))
    (pass : Loop.Pass (World F S)) : seen env initialSolution (done ++ [pass]) =
      seen env initialSolution done ∪ {e | e ∈ batch env pass.before} := by
  ext e
  change (_ ∨ _) ↔ ((_ ∨ _) ∨ _)
  simp [or_and_right, exists_or, or_assoc]

theorem tracks_start {self : SimulatedAnnealing F} {initialSolution : S} {state : SAState F S}
    (ready : initializeState env self initialSolution = .ok state) :
    Tracks env initialSolution [] ⟨self, state, 0, 0⟩ := by
  obtain ⟨e, initial, rfl⟩ := initializeState_ok ready
  refine ⟨initial, initial, .inl initial, ?_⟩
  rintro e' (same | ⟨_, none, _⟩)
  · exact (Except.ok.inj (initial.symm.trans same)).le
  · cases none

theorem tracks_pass {initialSolution : S} {done : List (Loop.Pass (World F S))} {broke : Bool}
    (tracks : Tracks env initialSolution done w) (ran : iterate env w = (.ok broke, w')) :
    Tracks env initialSolution (done ++ [⟨w, w', broke⟩]) w' := by
  obtain ⟨choice, chosen, passed⟩ := iterate_passed ran
  obtain ⟨energyOf, least⟩ := choose_least chosen
  constructor
  · rw [passed.best, passed.bestSolution]
    by_cases less : choice.energy < w.state.bestEnergy
    · rw [if_pos less, if_pos less, energyOf]
    · rw [if_neg less, if_neg less, tracks.best]
  · rw [passed.energy, passed.solution, energyOf]
  · have lesser : w'.state.bestEnergy = min w.state.bestEnergy choice.energy := by
      rw [passed.best, min_comm, min_def_lt]
    rw [seen_snoc, lesser]
    exact tracks.least.union least

theorem history_tracks {self : SimulatedAnnealing F} {initialSolution : S}
    {done : List (Loop.Pass (World F S))} {pass : Loop.Pass (World F S)}
    {rest : List (Loop.Pass (World F S))}
    (split : history env self initialSolution = done ++ pass :: rest) :
    Tracks env initialSolution (done ++ [pass]) pass.after := by
  unfold history at split
  split at split
  · simp at split
  · rename_i state ready
    exact Loop.passes_history (fun _ _ _ _ tracks _ ran => tracks_pass tracks ran) []
      (tracks_start ready) split

theorem keeps_best (self : SimulatedAnnealing F) (initialSolution : S)
    (done : List (Loop.Pass (World F S))) (pass : Loop.Pass (World F S))
    (rest : List (Loop.Pass (World F S)))
    (split : history env self initialSolution = done ++ pass :: rest) :
    env.calculate pass.after.state.bestSolution = .ok pass.after.state.bestEnergy ∧
      env.calculate pass.after.state.currentSolution = .ok pass.after.state.currentEnergy ∧
      IsLeast (seen env initialSolution (done ++ [pass])) pass.after.state.bestEnergy := by
  have tracks := history_tracks split
  exact ⟨tracks.best, tracks.current, tracks.least⟩

end Best

theorem descent_keeps_best : ∃ pass : Loop.Pass (World Rat Rat),
    IsLeast (seen (shifting (-1)) 0 [pass]) pass.after.state.bestEnergy := by
  have passes : 0 < (history (shifting (-1)) fresh 0).length := by decide +kernel
  obtain ⟨pass, rest, split⟩ := List.exists_cons_of_length_pos passes
  exact ⟨pass, (keeps_best fresh 0 [] pass rest split).2.2⟩

end KuvaAI.Annealing
