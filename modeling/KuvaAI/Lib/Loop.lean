import KuvaAI.Lib.Effect
import Mathlib.Data.List.Induction

/-! Loops with a guard and a break, over programs that may raise: the passes through the
body that are completed, what holds after each of them, and counters that start again. -/
namespace Loop

section Passes

variable {σ ε : Type} (guard : σ → Prop) [DecidablePred guard] (body : Effect σ ε Bool)

/-- At most `n` passes through a body that tells whether to break; whether it did. -/
def run : Nat → Effect σ ε Bool
  | 0 => return false
  | n + 1 => do
    if guard (← get) then
      if ← body then
        return true
      else
        run n
    else
      return false

structure Pass (σ : Type) where
  before : σ
  after : σ
  broke : Bool

def passes : Nat → σ → List (Pass σ)
  | 0, _ => []
  | n + 1, s =>
    if guard s then
      match body s with
      | (.ok true, t) => [⟨s, t, true⟩]
      | (.ok false, t) => ⟨s, t, false⟩ :: passes n t
      | (.error _, _) => []
    else
      []

variable {guard body}

theorem run_succ (n : Nat) (s : σ) : run guard body (n + 1) s =
    if guard s then
      match body s with
      | (.ok true, t) => (.ok true, t)
      | (.ok false, t) => run guard body n t
      | (.error e, t) => (.error e, t)
    else (.ok false, s) := by
  have entered : run guard body (n + 1) s =
      (if guard s then (do if ← body then return true else run guard body n : Effect σ ε Bool)
        else return false) s := rfl
  rw [entered]
  split
  · simp only [bind]
    rcases body s with ⟨result, t⟩
    cases result with
    | error e => rfl
    | ok broke => cases broke <;> rfl
  · rfl

/-- Fuel is no part of the meaning once it is as much as a measure that each pass lowers. -/
theorem run_enough {measure : σ → Nat} (left : ∀ s, guard s → 0 < measure s)
    (falls : ∀ s t, guard s → body s = (.ok false, t) → measure t < measure s) {n m : Nat} {s : σ}
    (enough : measure s ≤ n) (alsoEnough : measure s ≤ m) :
    run guard body n s = run guard body m s ∧ passes guard body n s = passes guard body m s := by
  have closed : ∀ k s, ¬ guard s →
      run guard body k s = (.ok false, s) ∧ passes guard body k s = [] := by
    intro k s out
    cases k with
    | zero => exact ⟨rfl, rfl⟩
    | succ k => simp [run_succ, passes, out]
  by_cases enters : guard s
  · induction n generalizing s m with
    | zero =>
      have := left s enters
      omega
    | succ n ih =>
      cases m with
      | zero =>
        have := left s enters
        omega
      | succ m =>
        simp only [run_succ, passes, if_pos enters]
        cases ran : body s with
        | mk result t =>
          cases result with
          | error e => exact ⟨rfl, rfl⟩
          | ok broke =>
            cases broke with
            | true => exact ⟨rfl, rfl⟩
            | false =>
              have := falls s t enters ran
              by_cases again : guard t
              · obtain ⟨same, samePasses⟩ := ih (s := t) (m := m) (by omega) (by omega) again
                simp [same, samePasses]
              · simp [closed _ t again]
  · simp [closed _ s enters]

theorem run_done {measure : σ → Nat} (left : ∀ s, guard s → 0 < measure s)
    (falls : ∀ s t, guard s → body s = (.ok false, t) → measure t < measure s) {n : Nat} {s t : σ}
    (enough : measure s ≤ n) (ran : run guard body n s = (.ok false, t)) : ¬ guard t := by
  induction n generalizing s with
  | zero =>
    cases ran
    intro enters
    have positive := left _ enters
    omega
  | succ n ih =>
    rw [run_succ] at ran
    split at ran
    · rename_i enters
      split at ran
      · cases ran
      · rename_i u made
        have := falls s u enters made
        exact ih (by omega) ran
      · cases ran
    · rename_i out
      cases ran
      exact out

/-- A loop whose passes keep an invariant, raise nothing and lower a measure ends with the
invariant where its guard fails. -/
theorem run_total {measure : σ → Nat} {inv : σ → Prop}
    (pass : ∀ s, inv s → guard s → ∃ t, body s = (.ok false, t) ∧ inv t ∧ measure t < measure s)
    {n : Nat} {s : σ} (start : inv s) (enough : measure s ≤ n) :
    ∃ t, run guard body n s = (.ok false, t) ∧ inv t ∧ ¬ guard t := by
  induction n generalizing s with
  | zero =>
    have out : ¬ guard s := by
      intro enters
      obtain ⟨t, _, _, lower⟩ := pass s start enters
      omega
    exact ⟨s, rfl, start, out⟩
  | succ n ih =>
    rw [run_succ]
    by_cases enters : guard s
    · obtain ⟨t, made, kept, lower⟩ := pass s start enters
      rw [if_pos enters, made]
      exact ih kept (by omega)
    · rw [if_neg enters]
      exact ⟨s, rfl, start, enters⟩

theorem run_broken {n : Nat} {s t : σ} (ran : run guard body n s = (.ok true, t)) :
    ∃ u, body u = (.ok true, t) := by
  induction n generalizing s with
  | zero => cases ran
  | succ n ih =>
    rw [run_succ] at ran
    split at ran
    · split at ran
      · rename_i made
        cases ran
        exact ⟨s, made⟩
      · exact ih ran
      · cases ran
    · cases ran

theorem broke_last {n : Nat} {s : σ} {done : List (Pass σ)} {pass : Pass σ} {rest : List (Pass σ)}
    (split : passes guard body n s = done ++ pass :: rest) (broke : pass.broke = true) :
    rest = [] := by
  induction n generalizing s done with
  | zero => simp [passes] at split
  | succ n ih =>
    rw [passes] at split
    split at split
    · split at split
      · cases done with
        | nil => cases split; rfl
        | cons first done => simp at split
      · cases done with
        | nil =>
          cases split
          cases broke
        | cons first done => exact ih (List.cons.inj split).2
      · simp at split
    · simp at split

theorem run_broke_iff (n : Nat) (s : σ) : (run guard body n s).1 = .ok true ↔
    ∃ pass, (passes guard body n s).getLast? = some pass ∧ pass.broke = true := by
  induction n generalizing s with
  | zero =>
    have left : (run guard body 0 s).1 = .ok false := rfl
    simp [left, passes]
  | succ n ih =>
    rw [run_succ, passes]
    split
    · rcases body s with ⟨result, t⟩
      cases result with
      | error e => simp
      | ok broke =>
        cases broke with
        | true => simp
        | false =>
          simp only [ih]
          cases rest : passes guard body n t with
          | nil => simp
          | cons pass later => simp [List.getLast?_cons_cons]
    · simp

theorem broke_iff {n : Nat} {s : σ} {done : List (Pass σ)} {pass : Pass σ} {rest : List (Pass σ)}
    (split : passes guard body n s = done ++ pass :: rest) :
    pass.broke = true ↔ rest = [] ∧ (run guard body n s).1 = .ok true := by
  rw [run_broke_iff, split]
  constructor
  · intro broke
    obtain rfl := broke_last split broke
    exact ⟨rfl, pass, by simp, broke⟩
  · rintro ⟨rfl, last, isLast, broke⟩
    obtain rfl : pass = last := by simpa using isLast
    exact broke

/-- What is true at the start and kept by every pass, with the passes so far, is true after
each of them. -/
theorem passes_history {inv : List (Pass σ) → σ → Prop}
    (step : ∀ done s t broke, inv done s → guard s → body s = (.ok broke, t) →
      inv (done ++ [⟨s, t, broke⟩]) t)
    {n : Nat} {s : σ} (earlier : List (Pass σ)) (start : inv earlier s) {done : List (Pass σ)}
    {pass : Pass σ} {rest : List (Pass σ)} (split : passes guard body n s = done ++ pass :: rest) :
    inv (earlier ++ done ++ [pass]) pass.after := by
  induction n generalizing s earlier done with
  | zero => simp [passes] at split
  | succ n ih =>
    rw [passes] at split
    by_cases enters : guard s
    · rw [if_pos enters] at split
      cases ran : body s with
      | mk result t =>
        rw [ran] at split
        cases result with
        | error e => simp at split
        | ok broke =>
          have kept := step earlier s t broke start enters ran
          cases done with
          | nil =>
            cases broke with
            | true =>
              cases split
              simpa using kept
            | false =>
              cases split
              simpa using kept
          | cons first done =>
            cases broke with
            | true => simp at split
            | false =>
              obtain ⟨rfl, later⟩ := List.cons.inj split
              simpa using ih _ kept later
    · rw [if_neg enters] at split
      simp at split

theorem passes_invariant {inv : σ → Prop} {post : Pass σ → Prop}
    (step : ∀ s t broke, inv s → body s = (.ok broke, t) → inv t ∧ post ⟨s, t, broke⟩) {n : Nat}
    {s : σ} (start : inv s) : ∀ pass ∈ passes guard body n s, post pass := by
  intro pass member
  obtain ⟨done, rest, split⟩ := List.append_of_mem member
  let keeps (done : List (Pass σ)) (s : σ) : Prop := inv s ∧ ∀ pass ∈ done, post pass
  have kept : ∀ done s t broke, keeps done s → guard s → body s = (.ok broke, t) →
      keeps (done ++ [⟨s, t, broke⟩]) t := by
    intro done s t broke holds _ ran
    obtain ⟨after, held⟩ := step s t broke holds.1 ran
    refine ⟨after, fun pass member => ?_⟩
    rcases List.mem_append.mp member with old | new
    · exact holds.2 pass old
    · exact List.mem_singleton.mp new ▸ held
  have last := passes_history kept [] ⟨start, by simp⟩ split
  exact last.2 pass (by simp)

variable (guard body) in
/-- The states in which a pass begins, whether it is completed or not. -/
def heads : Nat → σ → List σ
  | 0, _ => []
  | n + 1, s =>
    if guard s then
      s :: match body s with
        | (.ok false, t) => heads n t
        | (.ok true, _) | (.error _, _) => []
    else
      []

theorem heads_invariant {inv : σ → Prop}
    (step : ∀ s t, inv s → body s = (.ok false, t) → inv t) {n : Nat} {s : σ} (start : inv s) :
    ∀ t ∈ heads guard body n s, inv t := by
  induction n generalizing s with
  | zero =>
    intro t member
    cases member
  | succ n ih =>
    intro t member
    rw [heads] at member
    split at member
    · rcases List.mem_cons.mp member with rfl | later
      · exact start
      · split at later
        · rename_i u made
          exact ih (step s u start made) t later
        · cases later
        · cases later
    · cases member

theorem run_error_iff (n : Nat) (s : σ) (e : ε) : (run guard body n s).1 = .error e ↔
    ∃ t ∈ heads guard body n s, (body t).1 = .error e := by
  induction n generalizing s with
  | zero =>
    have left : (run guard body 0 s).1 = .ok false := rfl
    simp [left, heads]
  | succ n ih =>
    rw [run_succ, heads]
    split
    · rcases ran : body s with ⟨result, t⟩
      cases result with
      | error e' => simp [ran]
      | ok broke =>
        cases broke with
        | true => simp [ran]
        | false => simp [ran, ih]
    · simp

end Passes

section Streaks

variable {α : Type} (good : α → Prop) [DecidablePred good]

/-- A counter that goes up with each good item and starts again with each other. -/
def streak (items : List α) : Nat := items.foldl (fun n a => if good a then n + 1 else 0) 0

variable {good}

theorem streak_snoc (items : List α) (a : α) :
    streak good (items ++ [a]) = if good a then streak good items + 1 else 0 := by
  simp [streak]

def latest (m : Nat) (items : List α) : List α := items.drop (items.length - m)

theorem latest_snoc (m : Nat) (items : List α) (a : α) :
    latest (m + 1) (items ++ [a]) = latest m items ++ [a] := by
  simp [latest, List.drop_append_of_le_length]

theorem le_streak_iff (m : Nat) (items : List α) : m ≤ streak good items ↔
    m ≤ items.length ∧ ∀ a ∈ latest m items, good a := by
  induction items using List.reverseRecOn generalizing m with
  | nil => simp [streak, latest]
  | append_singleton items last ih =>
    rw [streak_snoc]
    cases m with
    | zero => simp [latest]
    | succ m =>
      rw [latest_snoc]
      by_cases isGood : good last
      · simp [isGood, ih, or_imp, forall_and]
      · simp [isGood, or_imp, forall_and]

end Streaks

end Loop
