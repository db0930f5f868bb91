import TradingGateway.Error

/-!
# HTTP requests with retries (`crates/core/src/http/client.rs`, `retry.rs`)

A request is sent again after a transient failure, a number of times. The delays between the
attempts are left out.

* `defaultErrorMapper`: the error for a response that reports a failure.
* `retryWithBackoff`: the loop over the attempts; `operation i` is the `i`-th one.
-/

namespace Gateway

namespace GatewayError

/-- A rejection because the order would trade against an order of the same account. -/
def isWashTradeError : GatewayError → Bool
  | .orderRejected reason _ =>
    containsWord (toLowercase reason) "self-trade" || containsWord (toLowercase reason) "wash"
  | _ => false

def isRetryable (e : GatewayError) : Bool :=
  (match e with
    | .rateLimited _ | .providerUnavailable _ | .providerError .. => true
    | _ => false) || e.isWashTradeError

/-- The provider itself is down. -/
def isOutageError : GatewayError → Bool
  | .providerUnavailable _ | .providerError .. => true
  | _ => false

end GatewayError

namespace Http

structure RetryConfig where
  /-- The number of attempts after the first one. -/
  maxRetries : ℕ := 3
  deriving DecidableEq, Repr

/-! ## Responses -/

/-- The `code` field of an error body. -/
inductive ErrorCode where
  | text (code : String)
  | number (code : ℕ)
  | other
  deriving DecidableEq, Repr

/-- The fields of a JSON body that the mapper reads. A text field may be there with a value that is
no text: `some none`. -/
structure ErrorBody where
  message : Option (Option String) := none
  error : Option (Option String) := none
  msg : Option (Option String) := none
  code : Option ErrorCode := none
  retryAfter : Option ℕ := none
  retryAfterSeconds : Option ℕ := none
  deriving DecidableEq, Repr

structure Response where
  status : ℕ
  /-- The `retry-after` header. -/
  retryAfter : Option ℕ := none
  text : String := ""
  /-- The text, if it is JSON. -/
  json : Option ErrorBody := none
  deriving DecidableEq, Repr

def Response.isSuccess (r : Response) : Bool := 200 ≤ r.status && r.status < 300

def extractMessage (body : ErrorBody) : String :=
  ((body.message.or (body.error.or body.msg)).bind id).getD "Unknown error"

def defaultErrorMapper (status : ℕ) (body : ErrorBody) (retryAfter : Option ℕ)
    (provider : String) : GatewayError :=
  match status with
  | 429 => .rateLimited (retryAfter.or (body.retryAfter.or body.retryAfterSeconds))
  | 503 => .providerUnavailable (extractMessage body)
  | 500 | 502 | 504 => .providerError (extractMessage body) (some provider)
  | 400 => .invalidRequest (extractMessage body) none
  | 401 => .unauthorized (extractMessage body) "AUTH_FAILED"
  | 403 =>
    .orderRejected (extractMessage body)
      (match body.code with
        | some (.text code) => some code
        | some (.number n) => some (toString n)
        | _ => none)
  | 404 => .providerError ("Upstream returned 404: " ++ extractMessage body) (some provider)
  | 422 =>
    .orderRejected (extractMessage body)
      (match body.code with
        | some (.text code) => some code
        | _ => none)
  | status =>
    .providerError ("HTTP " ++ toString status ++ ": " ++ extractMessage body) (some provider)

/-- The error for a response without success; a body that is no JSON is replaced. -/
def mapErrorResponse (r : Response) (provider : String) : GatewayError :=
  defaultErrorMapper r.status (r.json.getD { error := some (some "Unknown error") }) r.retryAfter
    provider

/-- The outcome of one attempt: a response, or why there is none. -/
def attemptResult (provider : String) : Except String Response → Except GatewayError Response
  | .error e => .error (.providerError ("Request failed: " ++ e) (some provider))
  | .ok r => if r.isSuccess then .ok r else .error (mapErrorResponse r provider)

/-! ## The loop -/

section retry

variable {σ α : Type}

/-- The attempts from `attempt` on, with `n` rounds of the loop to go. -/
def retryFrom (config : RetryConfig) (operation : ℕ → σ → Except GatewayError α × σ) :
    ℕ → ℕ → Option GatewayError → σ → Except GatewayError α × σ
  | 0, _, lastError, s => (.error (lastError.getD (.internal "Retry logic error")), s)
  | n + 1, attempt, _, s =>
    match operation attempt s with
    | (.ok result, s) => (.ok result, s)
    | (.error err, s) =>
      if err.isRetryable && attempt < config.maxRetries then
        retryFrom config operation n (attempt + 1) (some err) s
      else (.error err, s)

def retryWithBackoff (config : RetryConfig) (operation : ℕ → σ → Except GatewayError α × σ)
    (s : σ) : Except GatewayError α × σ :=
  retryFrom config operation (config.maxRetries + 1) 0 none s

/-- Send a request, again on transient failures; `send i` is the `i`-th attempt. -/
def executeWithRetry (provider : String) (config : RetryConfig)
    (send : ℕ → σ → Except String Response × σ) (s : σ) : Except GatewayError Response × σ :=
  retryWithBackoff config
    (fun attempt s => (attemptResult provider (send attempt s).1, (send attempt s).2)) s

variable {config : RetryConfig} {operation : ℕ → σ → Except GatewayError α × σ}

/-- What every attempt keeps, with its result, holds at the end; `P` must not care about the result
of a failed attempt. -/
theorem retryFrom_inv {P : Bool → σ → Prop} (hforget : ∀ b s, P b s → P false s)
    (hstep : ∀ i s, P false s → P (operation i s).1.isOk (operation i s).2) (n i : ℕ)
    (last : Option GatewayError) {s : σ} (hs : P false s) :
    P (retryFrom config operation n i last s).1.isOk (retryFrom config operation n i last s).2 := by
  induction n generalizing i last s with
  | zero => exact hs
  | succ n ih =>
    have hnext := hstep i s hs
    unfold retryFrom
    cases h : operation i s with
    | mk result s' =>
      rw [h] at hnext
      cases result with
      | ok a => exact hnext
      | error err =>
        dsimp only
        split
        · exact ih (i + 1) (some err) (hforget _ _ hnext)
        · exact hnext

end retry

end Http

end Gateway
