import KuvaAI.Lib.Effect
import KuvaAI.Security.Vault
import Mathlib.Algebra.GroupWithZero.Nat

/-! The attempts of one request to Vault, with the statuses and the exceptions that the
reads and writes of secrets do not tell apart. -/
namespace KuvaAI.Vault.Attempts
open Effect

variable {V K : Type}

inductive VaultClass where
  | vaultError
  | vaultConnectionError
  | vaultPermissionDenied
  | vaultSecretNotFound
  | vaultValidationError
  | vaultRateLimitExceeded
  | vaultServerError
  | vaultServiceUnavailable
  deriving DecidableEq, Repr

inductive RequestExn where
  | clientError (text : String)
  | clientResponseError (status : Int) (message : String)
  | vault (cls : VaultClass) (text : String)
  | unboundLocalError (text : String)
  deriving DecidableEq, Repr

/-- `ClientResponseError` is a subclass of `ClientError`. -/
def RequestExn.isClientError : RequestExn → Bool
  | .clientError _ | .clientResponseError _ _ => true
  | .vault _ _ | .unboundLocalError _ => false

structure ClientConfig extends VaultConfig where
  endpoint : String
  vaultNamespace : String
  token : Option String

/-- What a caller passes: `kwargs` are handed on to the session. -/
structure RequestCall (K : Type) where
  method : String
  path : String
  kwargs : K

structure HttpRequest (K : Type) where
  method : String
  url : String
  headers : List (String × String)
  kwargs : K

inductive Outcome (V : Type) where
  | connectionError (text : String)
  | httpError (status : Int) (message : String)
  | success (status : Int) (data : V)

/-- What has been sent, the status of the response that `resp` is bound to, and the
times that the attempts were apart. -/
structure RequestState (K : Type) where
  sent : List (HttpRequest K)
  resp : Option Int
  slept : List Nat

def RequestState.init : RequestState K := ⟨[], none, []⟩

def RequestState.sends (s : RequestState K) (request : HttpRequest K) : RequestState K :=
  { s with sent := s.sent ++ [request] }

def RequestState.binds (s : RequestState K) (status : Int) : RequestState K :=
  { s with resp := some status }

def RequestState.sleeps (s : RequestState K) (seconds : Nat) : RequestState K :=
  { s with slept := s.slept ++ [seconds] }

abbrev Step (K α : Type) := Effect (RequestState K) RequestExn α

variable (config : ClientConfig) (req : RequestCall K) (outcomes : Nat → Outcome V)

def httpRequest : HttpRequest K where
  method := req.method
  url := config.endpoint ++ "/v1/" ++ secretOf req.path
  headers := [("X-Vault-Namespace", config.vaultNamespace), ("X-Vault-Request", "true")] ++
    (match config.token with
      | none => []
      | some token => if token = "" then [] else [("X-Vault-Token", token)])
  kwargs := req.kwargs

/-- The body of the `try`. -/
def exchange (attempt : Nat) : Step K V := do
  modify fun s => s.sends (httpRequest config req)
  match outcomes attempt with
  | .connectionError text => throw (.clientError text)
  | .httpError status message => do
    modify fun s => s.binds status
    throw (.clientResponseError status message)
  | .success status data => do
    modify fun s => s.binds status
    return data

def errorMap (status : Int) : VaultClass :=
  if status = 400 then .vaultValidationError
  else if status = 403 then .vaultPermissionDenied
  else if status = 404 then .vaultSecretNotFound
  else if status = 429 then .vaultRateLimitExceeded
  else if status = 500 then .vaultServerError
  else if status = 503 then .vaultServiceUnavailable
  else .vaultError

def handleVaultError (status : Int) (message : String) : RequestExn :=
  .vault (errorMap status) ("Vault API error: " ++ message)

def retriesExhausted : RequestExn :=
  .vault .vaultConnectionError
    ("Vault request failed after " ++ toString config.retries ++ " retries")

/-- The clauses are tried in their order, so the second one is never reached. -/
def handle (attempt : Nat) (e : RequestExn) : Step K (Option V) :=
  if e.isClientError then
    if attempt = config.retries then throw (retriesExhausted config)
    else do
      modify fun s => s.sleeps (2 ^ attempt)
      return none
  else match e with
    | .clientResponseError status message => throw (handleVaultError status message)
    | e => throw e

def unboundResp : RequestExn :=
  .unboundLocalError "cannot access local variable 'resp' where it is not associated with a value"

def countStatus : Step K PUnit := do
  let s ← get
  match s.resp with
  | none => throw unboundResp
  | some _ => return ⟨⟩

/-- `none` when the loop goes on. -/
def attemptRequest (attempt : Nat) : Step K (Option V) :=
  ensuring
    (tryCatch (do
        let data ← exchange config req outcomes attempt
        return some data)
      (handle config attempt))
    countStatus

def requestFrom : (left attempt : Nat) → Step K (Option V)
  | 0, _ => return none
  | left + 1, attempt => do
    match ← attemptRequest config req outcomes attempt with
    | some data => return some data
    | none => requestFrom left (attempt + 1)

/-- `_request`: none is the None of a function that ends without a `return`. -/
def request : Step K (Option V) := requestFrom config req outcomes (config.retries + 1) 0

def Outcome.Lost : Outcome V → Prop
  | .connectionError _ => True
  | .httpError _ _ | .success _ _ => False

/-- The attempt with this number is the first that gets a response. -/
def Answered (i : Nat) : Prop := ¬ (outcomes i).Lost ∧ ∀ j < i, (outcomes j).Lost

/-- The outcome of a request as its attempts make it. -/
structure Meets (result : Except RequestExn (Option V)) (s : RequestState K) : Prop where
  attempts : s.sent.length ≤ config.retries + 1
  success : ∀ i ≤ config.retries, Answered outcomes i → ∀ status data,
    outcomes i = .success status data → result = .ok (some data)
  httpError : ∀ i ≤ config.retries, Answered outcomes i → ∀ status message,
    outcomes i = .httpError status message →
      result = .error (handleVaultError status message) ∧ s.sent.length = i + 1
  lost : (∀ i ≤ config.retries, (outcomes i).Lost) →
    ∃ text, result = .error (.vault .vaultConnectionError text)
  domain : ∀ e, result = .error e → ∃ cls text, e = .vault cls text

section Spec

theorem wp_countStatus (post : PUnit → RequestState K → Prop)
    (exn : RequestExn → RequestState K → Prop) (s : RequestState K) :
    wp countStatus post exn s ↔ if s.resp = none then exn unboundResp s else post ⟨⟩ s := by
  cases bound : s.resp <;> simp [countStatus, bound]

/-- What one attempt does: `_handle_vault_error` is never called. -/
theorem wp_attemptRequest (attempt : Nat) (post : Option V → RequestState K → Prop)
    (exn : RequestExn → RequestState K → Prop) (s : RequestState K) :
    wp (attemptRequest config req outcomes attempt) post exn s ↔
      let sent := s.sends (httpRequest config req)
      match outcomes attempt with
      | .connectionError _ =>
        if s.resp = none then
          exn unboundResp (if attempt = config.retries then sent else sent.sleeps (2 ^ attempt))
        else if attempt = config.retries then exn (retriesExhausted config) sent
        else post none (sent.sleeps (2 ^ attempt))
      | .httpError status _ =>
        if attempt = config.retries then exn (retriesExhausted config) (sent.binds status)
        else post none ((sent.binds status).sleeps (2 ^ attempt))
      | .success status data => post (some data) (sent.binds status) := by
  by_cases last : attempt = config.retries
  · subst last
    cases outcome : outcomes config.retries <;>
      simp [attemptRequest, exchange, handle, outcome, wp_countStatus, RequestExn.isClientError,
        RequestState.sends, RequestState.binds]
  · cases outcome : outcomes attempt <;>
      simp [attemptRequest, exchange, handle, outcome, last, wp_countStatus, RequestExn.isClientError,
        RequestState.sends, RequestState.binds, RequestState.sleeps]

theorem requestFrom_exn (left attempt : Nat) (s : RequestState K) :
    wp (requestFrom config req outcomes left attempt) (fun _ _ => True)
      (fun e _ => e = retriesExhausted config ∨ e = unboundResp) s := by
  induction left generalizing attempt s with
  | zero => simp [requestFrom]
  | succ left ih =>
    simp only [requestFrom, wp_bind, wp_attemptRequest]
    cases outcomes attempt with
    | connectionError text =>
      simp only
      split
      · simp
      · split
        · simp
        · exact ih _ _
    | httpError status message =>
      simp only
      split
      · simp
      · exact ih _ _
    | success status data => simp

theorem requestFrom_sent (left attempt : Nat) (s : RequestState K) :
    wp (requestFrom config req outcomes left attempt)
      (fun _ t => t.sent.length ≤ s.sent.length + left)
      (fun _ t => t.sent.length ≤ s.sent.length + left) s := by
  induction left generalizing attempt s with
  | zero => simp [requestFrom]
  | succ left ih =>
    have next (u : RequestState K) (one : u.sent.length = s.sent.length + 1) :
        wp (requestFrom config req outcomes left (attempt + 1))
          (fun _ t => t.sent.length ≤ s.sent.length + (left + 1))
          (fun _ t => t.sent.length ≤ s.sent.length + (left + 1)) u := by
      have bound := ih (attempt + 1) u
      rw [one] at bound
      exact wp_mono bound (fun _ _ le => by omega) (fun _ _ le => by omega)
    simp only [requestFrom, wp_bind, wp_attemptRequest]
    cases outcomes attempt with
    | connectionError text =>
      simp only
      split
      · split <;> simp [RequestState.sends, RequestState.sleeps]
      · split
        · simp [RequestState.sends]
        · exact next _ (by simp [RequestState.sends, RequestState.sleeps])
    | httpError status message =>
      simp only
      split
      · simp [RequestState.sends, RequestState.binds]
      · exact next _ (by simp [RequestState.sends, RequestState.binds, RequestState.sleeps])
    | success status data => simp [RequestState.sends, RequestState.binds]

theorem request_success {status : Int} {data : V} (first : outcomes 0 = .success status data) :
    ∃ s, request config req outcomes .init = (.ok (some data), s) := by
  have returns : wp (request config req outcomes) (fun result _ => result = some data)
      (fun _ _ => False) .init := by
    simp [request, requestFrom, wp_attemptRequest, first]
  obtain ⟨result, s, ran, rfl⟩ := exists_of_wp returns
  exact ⟨s, ran⟩

/-- The first attempt has left `resp` unbound. -/
theorem request_lost {text : String} (first : outcomes 0 = .connectionError text) :
    ∃ s, request config req outcomes .init = (.error unboundResp, s) := by
  have raises : wp (request config req outcomes) (fun _ _ => False)
      (fun e _ => e = unboundResp) .init := by
    simp [request, requestFrom, wp_attemptRequest, first, RequestState.init]
  obtain ⟨e, s, ran, rfl⟩ := exists_of_wp_error raises
  exact ⟨s, ran⟩

theorem errorMap_ne_connection (status : Int) : errorMap status ≠ .vaultConnectionError := by
  unfold errorMap
  grind

theorem request_ne_mapped (status : Int) (message : String) :
    (request config req outcomes .init).1 ≠ .error (handleVaultError status message) := by
  intro raised
  have ran : request config req outcomes .init =
      (.error (handleVaultError status message), (request config req outcomes .init).2) :=
    Prod.ext raised rfl
  have ends := requestFrom_exn config req outcomes (config.retries + 1) 0 .init
  have ended := (wp_of_error ran).mp ends
  simp [handleVaultError, retriesExhausted, unboundResp, errorMap_ne_connection] at ended

end Spec

/-- A request ends as it should exactly if its first attempt succeeds: else the `finally`
clause breaks off at a connection error, and an error status is retried like one. -/
theorem request_meets_iff : Meets config outcomes (request config req outcomes .init).1
      (request config req outcomes .init).2 ↔
    ∃ status data, outcomes 0 = .success status data := by
  have answered (reply : ¬ (outcomes 0).Lost) : Answered outcomes 0 :=
    ⟨reply, fun j below => absurd below (Nat.not_lt_zero j)⟩
  constructor
  · intro meets
    cases first : outcomes 0 with
    | connectionError text =>
      obtain ⟨s, ran⟩ := request_lost config req outcomes first
      obtain ⟨cls, _, same⟩ := meets.domain unboundResp (by rw [ran])
      simp [unboundResp] at same
    | httpError status message =>
      have raised := (meets.httpError 0 (Nat.zero_le _) (answered (by simp [first, Outcome.Lost]))
        status message first).1
      exact absurd raised (request_ne_mapped config req outcomes status message)
    | success status data => exact ⟨status, data, rfl⟩
  · rintro ⟨status, data, first⟩
    obtain ⟨s, ran⟩ := request_success config req outcomes first
    have bound := (wp_of_ok ran).mp (requestFrom_sent config req outcomes (config.retries + 1) 0 .init)
    have reply : ¬ (outcomes 0).Lost := by simp [first, Outcome.Lost]
    have only (i : Nat) (here : Answered outcomes i) : i = 0 := by
      by_contra later
      exact reply (here.2 0 (Nat.pos_of_ne_zero later))
    rw [ran]
    constructor
    · simpa [RequestState.init] using bound
    · intro i _ here status' data' success
      rw [only i here, first] at success
      cases success
      rfl
    · intro i _ here status' message error
      rw [only i here, first] at error
      cases error
    · exact fun lost => absurd (lost 0 (Nat.zero_le _)) reply
    · exact fun e same => nomatch same

def vaultConfig : ClientConfig where
  retries := 3
  endpoint := "https://vault.kuva.ai/"
  vaultNamespace := "admin/kuva"
  token := some "t"

def missing : Nat → Outcome String := fun _ => .httpError 404 "Not Found"

theorem missing_secret_retried :
    ¬ Meets vaultConfig missing
      (request vaultConfig ⟨"GET", "secret/data/mysql", ()⟩ missing .init).1
      (request vaultConfig ⟨"GET", "secret/data/mysql", ()⟩ missing .init).2 := by
  intro meets
  have raised := (meets.httpError 0 (by decide) ⟨id, fun j below => nomatch below⟩ 404 "Not Found" rfl).1
  exact absurd raised (request_ne_mapped _ _ _ _ _)

end KuvaAI.Vault.Attempts
