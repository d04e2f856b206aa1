import KuvaAI.Workflow.AnnealingRuns

/-! What an annealing run ends with, whatever is raised on the way: solutions of a space
that is closed under neighbours, with their own energies. -/
namespace KuvaAI.Annealing
open Effect

section Ends

variable {F S : Type} [LinearOrder F] (env : Env F S) (space : S → Prop)

def ClosedSpace : Prop := ∀ iteration worker s s', space s →
  env.generateNeighbor iteration worker s = .ok s' → space s'

/-- The solutions are in the space, the energies are theirs, and the best one is no worse
than the current one and a given one. -/
structure Sound (initial : F) (state : SAState F S) : Prop where
  current : space state.currentSolution
  best : space state.bestSolution
  currentEnergy : env.calculate state.currentSolution = .ok state.currentEnergy
  bestEnergy : env.calculate state.bestSolution = .ok state.bestEnergy
  belowCurrent : state.bestEnergy ≤ state.currentEnergy
  belowInitial : state.bestEnergy ≤ initial

variable {env space} {initial : F} {w : World F S} {choice : Choice F S}

omit [LinearOrder F] in
theorem generated_from {candidates : List S} {c : S} (workers : List Nat)
    (generated : workers.mapM (fun worker =>
      env.generateNeighbor w.state.iteration worker w.state.currentSolution) = .ok candidates)
    (member : c ∈ candidates) : ∃ worker,
      env.generateNeighbor w.state.iteration worker w.state.currentSolution = .ok c := by
  have paired := mapM_ok generated
  clear generated
  induction paired with
  | nil => cases member
  | @cons first worker _ _ made _ ih =>
    rcases List.mem_cons.mp member with rfl | later
    · exact ⟨worker, made⟩
    · exact ih later

theorem choose_within (closed : ClosedSpace env space) (here : space w.state.currentSolution)
    (chosen : choose env w = .ok choice) : space choice.solution := by
  obtain ⟨generated, evaluated, least⟩ := choose_ok chosen
  unfold argmin at least
  split at least
  · rename_i best isBest
    obtain rfl : best = (choice.energy, choice.solution) := Except.ok.inj least
    have member := (List.of_mem_zip (FloatOrder.argmin_least isBest).1).2
    obtain ⟨worker, made⟩ := generated_from _ generated member
    exact closed _ worker _ _ here made
  · cases least

end Ends

section Frames

variable {F S : Type} [LinearOrder F] {env : Env F S} {w w' w'' : World F S}

structure Framed (w w' : World F S) : Prop where
  shutdown : w'.self.shutdown = w.self.shutdown
  workers : w'.self.config.workers = w.self.config.workers
  parallel : w'.self.config.parallelEvaluation = w.self.config.parallelEvaluation

omit [LinearOrder F] in
theorem Framed.trans (first : Framed w w') (second : Framed w' w'') : Framed w w'' :=
  ⟨second.shutdown.trans first.shutdown, second.workers.trans first.workers,
    second.parallel.trans first.parallel⟩

theorem updateState_framed {post : Unit → World F S → Prop} {exn : Raised → World F S → Prop}
    (energy : F) (solution : S) (accepted : Bool) (w : World F S)
    (holds : ∀ w', Framed w w' → post () w') :
    wp (updateState env energy solution accepted) post exn w := by
  simp only [updateState, wp_bind, wp_modify]
  apply holds
  by_cases less : energy < w.state.bestEnergy
  · simp only [if_pos less]
    constructor <;> rfl
  · simp only [if_neg less]
    constructor <;> rfl

theorem updateParameters_framed (w : World F S) :
    wp (updateParameters env) (fun _ w' => Framed w w') (fun _ w' => Framed w w') w := by
  simp only [updateParameters, wp_bind, wp_modify, wp_get, wp_ite, wp_throw, wp_pure]
  split
  · split
    all_goals constructor <;> rfl
  · constructor <;> rfl

theorem settle_framed (w : World F S) :
    wp (settle env) (fun _ w' => Framed w w') (fun _ w' => Framed w w') w := by
  simp only [settle, wp_bind, wp_get, wp_lift]
  cases coolingSchedule env w.self.config w.state.temperature w.state.iteration with
  | error e => exact ⟨rfl, rfl, rfl⟩
  | ok temperature =>
    simp only [wp_set, wp_bind]
    apply checkStagnation_spec
    intro w' self _ _
    have kept : Framed w w' := by constructor <;> rw [self]
    simp only [saveState, wp_get, wp_ite, wp_pure, wp_throw, wp_bind, wp_modify]
    split_ifs
    · exact kept
    · exact kept
    · exact kept.trans ⟨rfl, rfl, rfl⟩
    · exact kept

theorem iterate_framed (w : World F S) :
    wp (iterate env) (fun _ w' => Framed w w') (fun _ w' => Framed w w') w := by
  simp only [iterate, wp_bind, wp_get, wp_raised]
  cases choose env w with
  | error e => exact ⟨rfl, rfl, rfl⟩
  | ok choice =>
    apply updateState_framed
    intro u updated
    have settles (v : World F S) (kept : Framed w v) :
        wp (settle env) (fun _ w' => Framed w w') (fun _ w' => Framed w w') v :=
      wp_mono (settle_framed v) (fun _ _ settled => kept.trans settled)
        fun _ _ settled => kept.trans settled
    rw [wp_ite]
    split
    · rw [wp_bind]
      apply wp_mono (updateParameters_framed u)
      · exact fun _ v steered => settles v (updated.trans steered)
      · exact fun _ v steered => updated.trans steered
    · exact settles u updated

end Frames

end KuvaAI.Annealing
