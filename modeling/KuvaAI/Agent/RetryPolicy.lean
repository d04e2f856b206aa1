import KuvaAI.Lib.Effect
import KuvaAI.Python.Value
import Mathlib.Algebra.GroupWithZero.Nat
import Mathlib.Order.Bounds.Basic

/-! The retry policy of base.py: a wrapped function is called again, after longer and
longer sleeps, until its outcome is not one to retry or the attempts are used up. -/
namespace KuvaAI.Agent
open Python

structure AgentError where
  message : String
  retryable : Bool := false
  code : String := "AGENT_ERROR"
  deriving DecidableEq

/-- What the function may raise; a cancellation is among the others. -/
inductive Raised where
  | agentError (e : AgentError)
  | other (e : Interrupt)

/-- The field that the policy reads; its validator admits 0 and more. -/
structure BaseAgentConfig where
  maxRetries : Nat

/-- The calls so far, the seconds slept after them, the warnings, and whether the loop has
run out. No code reads it. -/
structure Retries where
  calls : Nat
  slept : List Nat
  warnings : List String
  ranOut : Bool
  deriving DecidableEq

def Retries.start : Retries := ⟨0, [], [], false⟩

section Wrapper

variable {Value : Type} (config : BaseAgentConfig) (name : String)
  (outcomes : Nat → Except Raised Value)

def func : Effect Retries Raised Value := fun w => (outcomes w.calls, { w with calls := w.calls + 1 })

def warning (text : String) : Effect Retries Raised PUnit :=
  modify fun w => { w with warnings := w.warnings ++ [text] }

def sleep (seconds : Nat) : Effect Retries Raised PUnit :=
  modify fun w => { w with slept := w.slept ++ [seconds] }

/-- `except AgentError`; an error that is not raised again leads to the next attempt. -/
def handle (attempt : Nat) : Raised → Effect Retries Raised (Option Value)
  | .agentError e =>
    if !e.retryable ∨ attempt = config.maxRetries then
      throw (.agentError e)
    else do
      warning s!"Retry attempt {attempt + 1} for {name}"
      sleep (2 ^ attempt)
      return none
  | .other e => throw (.other e)

def attempts : List Nat → Effect Retries Raised Value
  | [] => do
    modify fun w => { w with ranOut := true }
    throw (.agentError { message := "Max retries exceeded", code := "RETRY_LIMIT" })
  | attempt :: rest => do
    match ← tryCatch (some <$> func outcomes) (handle config name attempt) with
    | some value => return value
    | none => attempts rest

def retryPolicy : Effect Retries Raised Value :=
  attempts config name outcomes (List.range (config.maxRetries + 1))

def Retryable : Except Raised Value → Prop
  | .error (.agentError e) => e.retryable = true
  | _ => False

instance : DecidablePred (@Retryable Value)
  | .error (.agentError e) => inferInstanceAs (Decidable (e.retryable = true))
  | .error (.other _) => isFalse id
  | .ok _ => isFalse id

variable {config name outcomes}

def Retries.again (w : Retries) (name : String) (attempt : Nat) : Retries :=
  { w with
    slept := w.slept ++ [2 ^ attempt]
    warnings := w.warnings ++ [s!"Retry attempt {attempt + 1} for {name}"] }

theorem handle_eq (attempt : Nat) (raised : Raised) (w : Retries) :
    (handle config name attempt raised w : Except Raised (Option Value) × Retries) =
      if Retryable (.error raised : Except Raised Value) ∧ attempt ≠ config.maxRetries then
        (.ok none, w.again name attempt)
      else (.error raised, w) := by
  cases raised with
  | other e =>
    rw [if_neg fun retried => retried.1]
    rfl
  | agentError e =>
    rw [handle]
    by_cases ends : (!e.retryable) = true ∨ attempt = config.maxRetries
    · rw [if_pos ends, if_neg (by simpa [Retryable, imp_iff_not_or] using ends)]
      rfl
    · rw [if_neg ends, if_pos (by simpa [Retryable] using ends)]
      rfl

theorem attempts_cons {attempt : Nat} {rest : List Nat} {w : Retries} (calls : w.calls = attempt) :
    attempts config name outcomes (attempt :: rest) w =
      if Retryable (outcomes attempt) ∧ attempt ≠ config.maxRetries then
        attempts config name outcomes rest ({ w with calls := attempt + 1 }.again name attempt)
      else (outcomes attempt, { w with calls := attempt + 1 }) := by
  subst calls
  cases ended : outcomes w.calls with
  | ok value =>
    simp only [attempts, func, bind, tryCatch, tryCatchThe, MonadExceptOf.tryCatch, Functor.map, ended]
    rw [if_neg fun retried => retried.1]
    rfl
  | error raised =>
    simp only [attempts, func, bind, tryCatch, tryCatchThe, MonadExceptOf.tryCatch, Functor.map, ended,
      handle_eq]
    by_cases retried : Retryable (.error raised : Except Raised Value) ∧ w.calls ≠ config.maxRetries
    · rw [if_pos retried, if_pos retried]
    · rw [if_neg retried, if_neg retried]

theorem slept_none (slept : List Nat) (first : Nat) :
    slept = slept ++ (List.range' first (first - first)).map (2 ^ ·) := by
  rw [Nat.sub_self, List.range'_zero, List.map_nil, List.append_nil]

variable (outcomes name) in
theorem attempts_from {first left : Nat} (last : first + left = config.maxRetries) {w : Retries}
    (calls : w.calls = first) :
    ∃ k, first ≤ k ∧ k ≤ config.maxRetries ∧ (∀ i, first ≤ i → i < k → Retryable (outcomes i)) ∧
      (Retryable (outcomes k) → k = config.maxRetries) ∧
      ∃ t, attempts config name outcomes (List.range' first (left + 1)) w = (outcomes k, t) ∧
        t.calls = k + 1 ∧ t.slept = w.slept ++ (List.range' first (k - first)).map (2 ^ ·) ∧
        t.ranOut = w.ranOut := by
  induction left generalizing first w with
  | zero =>
    refine ⟨first, le_rfl, by omega, by omega, by omega, { w with calls := first + 1 }, ?_, rfl,
      slept_none w.slept first, rfl⟩
    rw [List.range'_succ, attempts_cons calls, if_neg (by omega)]
  | succ left ih =>
    rw [List.range'_succ, attempts_cons calls]
    by_cases retried : Retryable (outcomes first)
    · rw [if_pos ⟨retried, by omega⟩]
      have later : first + 1 + left = config.maxRetries := by omega
      obtain ⟨k, after, within, before, isLast, t, ran, called, slept, ranOut⟩ :=
        ih later (w := { w with calls := first + 1 }.again name first) rfl
      refine ⟨k, by omega, within, fun i from_ less => ?_, isLast, t, ran, called, ?_, ranOut⟩
      · rcases Nat.eq_or_lt_of_le from_ with rfl | later
        · exact retried
        · exact before i later less
      · obtain ⟨more, rfl⟩ := Nat.exists_eq_add_of_le after
        rw [slept, show first + 1 + more - first = more + 1 by omega, List.range'_succ]
        simp [Retries.again]
    · rw [if_neg fun both => retried both.1]
      exact ⟨first, le_rfl, by omega, by omega, fun retryable => (retried retryable).elim,
        { w with calls := first + 1 }, rfl, rfl, slept_none w.slept first, rfl⟩

theorem backoff_sum (k : Nat) : ((List.range' 0 k).map (2 ^ ·)).sum = 2 ^ k - 1 := by
  induction k with
  | zero => rfl
  | succ k ih =>
    have positive := Nat.two_pow_pos k
    rw [List.range'_concat, List.map_append, List.sum_append, ih]
    simp [Nat.pow_succ]
    omega

end Wrapper

/-- The function is called up to the first outcome that is not one to retry, or as often as
is allowed, and its last outcome is that of the wrapper. -/
theorem retries_exact {Value : Type} (config : BaseAgentConfig) (name : String)
    (outcomes : Nat → Except Raised Value) :
    ∃ k, (IsLeast {i | i ≤ config.maxRetries ∧ ¬ Retryable (outcomes i)} k ∨
        k = config.maxRetries ∧ ∀ i ≤ config.maxRetries, Retryable (outcomes i)) ∧
      ∃ t, retryPolicy config name outcomes .start = (outcomes k, t) ∧
        t.calls = k + 1 ∧ t.slept.sum = 2 ^ k - 1 ∧ t.ranOut = false := by
  obtain ⟨k, _, within, before, isLast, t, ran, called, slept, ranOut⟩ :=
    attempts_from name outcomes (Nat.zero_add config.maxRetries) (w := .start) rfl
  refine ⟨k, ?_, t, ?_, called, ?_, ranOut⟩
  · by_cases retried : Retryable (outcomes k)
    · obtain rfl := isLast retried
      refine .inr ⟨rfl, fun i most => ?_⟩
      rcases Nat.eq_or_lt_of_le most with rfl | less
      · exact retried
      · exact before i (Nat.zero_le i) less
    · refine .inl ⟨⟨within, retried⟩, fun i ⟨_, ends⟩ => ?_⟩
      by_contra less
      exact ends (before i (Nat.zero_le i) (by omega))
  · rw [retryPolicy, List.range_eq_range', ran]
  · rw [slept, Retries.start, List.nil_append, Nat.sub_zero, backoff_sum]

end KuvaAI.Agent
