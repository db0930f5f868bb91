import TradingGateway.Error
import TradingGateway.Exit.CircuitBreaker
import TradingGateway.Lib.Breaker

/-!
# The adapter's circuit breaker (`crates/core/src/circuit_breaker.rs`)

The breaker of an adapter is the one of the exit orders (`Exit.ExitOrderCircuitBreaker`), with the
name of its provider. Both are written out in the code; both are here instances of the breaker of
`Lib.Breaker`, by what they keep of the past (`core`).

* `breakers_exact`: both are open, and can be reset, exactly when the whole past says so.
-/

namespace Gateway

inductive CircuitState where
  | closed
  | open
  deriving DecidableEq, Repr

def CircuitState.toExit : CircuitState → Exit.CircuitState
  | .closed => .closed
  | .open => .open

/-! ## The breaker of exit orders as a general one -/

namespace Exit.ExitOrderCircuitBreaker

def call (b : ExitOrderCircuitBreaker) : Breaker.Call Instant → ExitOrderCircuitBreaker
  | .failure now => b.recordFailure now
  | .reset now => (b.reset now).2

def limits (b : ExitOrderCircuitBreaker) : Breaker.Limits Instant :=
  ⟨b.failureThreshold, b.failureWindow, b.resetCooldown⟩

/-- What the breaker keeps of the past. -/
def core (b : ExitOrderCircuitBreaker) : Breaker.State Instant :=
  ⟨b.recentFailures, b.isOpen, b.lastResetAt⟩

variable (b : ExitOrderCircuitBreaker) (now : Instant)

theorem core_recordFailure : (b.recordFailure now).core = b.core.failure b.limits now := by
  unfold core recordFailure isOpen Breaker.State.failure limits
  ext1
  · rfl
  · dsimp only
    split <;> simp_all
  · rfl

theorem core_reset :
    ((b.reset now).1.isOk, (b.reset now).2.core) = b.core.reset b.limits now := by
  unfold reset Breaker.State.reset core limits isOpen
  dsimp only
  split <;> rfl

theorem reset_refused (h : (b.reset now).1.isOk = false) : (b.reset now).2 = b := by
  unfold reset at h ⊢
  split
  · rfl
  · simp_all [Except.isOk, Except.toBool]

theorem limits_call (c : Breaker.Call Instant) : (b.call c).limits = b.limits := by
  cases c with
  | failure now => rfl
  | reset now =>
    unfold call reset
    dsimp only
    split <;> rfl

theorem limits_exec (calls : List (Breaker.Call Instant)) :
    (Run.exec call b calls).limits = b.limits :=
  Run.exec_inv_all (I := fun b' => limits b' = b.limits)
    (fun b' c hb => (b'.limits_call c).trans hb) rfl calls

theorem core_exec (calls : List (Breaker.Call Instant)) :
    (Run.exec call b calls).core = Run.exec (Breaker.State.step b.limits) b.core calls := by
  induction calls generalizing b with
  | nil => rfl
  | cons c calls ih =>
    have hcall : (b.call c).core = b.core.step b.limits c := by
      cases c with
      | failure now => exact b.core_recordFailure now
      | reset now => exact congrArg Prod.snd (b.core_reset now)
    rw [Run.exec_cons, Run.exec_cons, ih, limits_call, hcall]

end Exit.ExitOrderCircuitBreaker

/-! ## The breaker of an adapter -/

open Exit (ExitOrderCircuitBreaker)

structure AdapterCircuitBreaker where
  failureThreshold : ℕ
  failureWindow : Duration
  /-- The recent failures, oldest first. -/
  recentFailures : List Instant
  state : CircuitState
  provider : String
  lastResetAt : Option Instant
  resetCooldown : Duration
  deriving DecidableEq, Repr

namespace AdapterCircuitBreaker

def new (failureThreshold : ℕ) (failureWindow : Duration) (provider : String) :
    AdapterCircuitBreaker where
  failureThreshold
  failureWindow
  recentFailures := []
  state := .closed
  provider
  lastResetAt := none
  resetCooldown := 60 * 10 ^ 9

/-- Record an outage at `now`: drop the failures older than the window, and trip at the
threshold. -/
def recordFailure (b : AdapterCircuitBreaker) (now : Instant) : AdapterCircuitBreaker :=
  let recent := b.recentFailures.dropWhile (fun ts => now - ts > b.failureWindow) ++ [now]
  { b with
    recentFailures := recent
    state := if recent.length ≥ b.failureThreshold then .open else b.state }

def isOpen (b : AdapterCircuitBreaker) : Bool := b.state = .open

/-- Close the breaker, unless the last reset was less than the cooldown ago. -/
def reset (b : AdapterCircuitBreaker) (now : Instant) :
    Except String Unit × AdapterCircuitBreaker :=
  if b.lastResetAt.any fun last => now - last < b.resetCooldown then
    (.error ("Circuit breaker re-tripped within cooldown period. " ++
      "Investigate the underlying failure before resetting again."), b)
  else (.ok (), { b with recentFailures := [], state := .closed, lastResetAt := some now })

/-- The error of a request while the breaker is open. -/
def openError (b : AdapterCircuitBreaker) : GatewayError :=
  .providerUnavailable ("Adapter circuit breaker open — " ++ b.provider ++
    " provider outage detected. Manual reset required.")

def call (b : AdapterCircuitBreaker) : Breaker.Call Instant → AdapterCircuitBreaker
  | .failure now => b.recordFailure now
  | .reset now => (b.reset now).2

/-! ## Without the provider's name -/

/-- The breaker of exit orders in the same state. -/
def toExit (b : AdapterCircuitBreaker) : ExitOrderCircuitBreaker where
  failureThreshold := b.failureThreshold
  failureWindow := b.failureWindow
  recentFailures := b.recentFailures
  state := b.state.toExit
  lastResetAt := b.lastResetAt
  resetCooldown := b.resetCooldown

variable (b : AdapterCircuitBreaker) (now : Instant)

theorem isOpen_toExit : b.toExit.isOpen = b.isOpen := by
  unfold ExitOrderCircuitBreaker.isOpen isOpen toExit
  cases b.state <;> rfl

theorem toExit_recordFailure : (b.recordFailure now).toExit = b.toExit.recordFailure now := by
  unfold recordFailure ExitOrderCircuitBreaker.recordFailure toExit
  simp only [apply_ite CircuitState.toExit]
  rfl

theorem toExit_reset :
    ((b.reset now).1, (b.reset now).2.toExit) = b.toExit.reset now := by
  unfold reset ExitOrderCircuitBreaker.reset toExit
  dsimp only
  split <;> rfl

theorem toExit_exec (calls : List (Breaker.Call Instant)) :
    (Run.exec call b calls).toExit = Run.exec ExitOrderCircuitBreaker.call b.toExit calls := by
  induction calls generalizing b with
  | nil => rfl
  | cons c calls ih =>
    rw [Run.exec_cons, Run.exec_cons, ih]
    cases c with
    | failure now => rw [call, toExit_recordFailure, ExitOrderCircuitBreaker.call]
    | reset now => rw [call, ExitOrderCircuitBreaker.call, ← toExit_reset]

end AdapterCircuitBreaker

/-! ## Both breakers -/

/-- The breaker `b` does what the past asks of it. It is open exactly if the past trips; a reset
succeeds exactly if no earlier one is too close, and changes nothing otherwise. -/
structure BreakerExact {B : Type} (isOpen : B → Bool) (reset : B → Instant → Except String Unit × B)
    (l : Breaker.Limits Instant) (past : Breaker.History Instant) (b : B) : Prop where
  open_iff : isOpen b = true ↔ past.Trips l
  reset_iff : ∀ now, (reset b now).1.isOk = true ↔ past.MayReset l now
  refused : ∀ now, (reset b now).1.isOk = false → (reset b now).2 = b

theorem Exit.ExitOrderCircuitBreaker.exact {b : ExitOrderCircuitBreaker}
    {l : Breaker.Limits Instant} {past : Breaker.History Instant} (hl : b.limits = l)
    (ht : Breaker.Tracks l past b.core) : BreakerExact isOpen reset l past b where
  open_iff := ht.isOpen
  reset_iff now := by rw [← ht.reset_fst, ← hl, ← b.core_reset]
  refused now := b.reset_refused now

/-- The adapter's breaker is exact if the other one is in the same state. -/
theorem AdapterCircuitBreaker.exact {b : AdapterCircuitBreaker} {l : Breaker.Limits Instant}
    {past : Breaker.History Instant}
    (h : BreakerExact ExitOrderCircuitBreaker.isOpen ExitOrderCircuitBreaker.reset l past
      b.toExit) :
    BreakerExact isOpen reset l past b where
  open_iff := by rw [← h.open_iff, isOpen_toExit]
  reset_iff now := by rw [← h.reset_iff, ← toExit_reset]
  refused now hno := by
    unfold AdapterCircuitBreaker.reset at hno ⊢
    split
    · rfl
    · simp_all [Except.isOk, Except.toBool]

/-- After any calls at non-decreasing instants, both breakers do what the past asks of them: all
failures since the last reset, and all resets that were not refused. -/
theorem breakers_exact (threshold : ℕ) (window cooldown : Duration) (provider : String)
    {calls : List (Breaker.Call Instant)}
    (hsorted : (calls.map Breaker.Call.instant).Pairwise (· ≤ ·)) :
    let l : Breaker.Limits Instant := ⟨threshold, window, cooldown⟩
    let past := Run.exec (Breaker.History.step l) .start calls
    BreakerExact ExitOrderCircuitBreaker.isOpen ExitOrderCircuitBreaker.reset l past
        (Run.exec ExitOrderCircuitBreaker.call
          { ExitOrderCircuitBreaker.new threshold window with resetCooldown := cooldown }
          calls) ∧
      BreakerExact AdapterCircuitBreaker.isOpen AdapterCircuitBreaker.reset l past
        (Run.exec AdapterCircuitBreaker.call
          { AdapterCircuitBreaker.new threshold window provider with resetCooldown := cooldown }
          calls) := by
  intro l past
  let start := { ExitOrderCircuitBreaker.new threshold window with resetCooldown := cooldown }
  have hexit : BreakerExact ExitOrderCircuitBreaker.isOpen ExitOrderCircuitBreaker.reset l past
      (Run.exec ExitOrderCircuitBreaker.call start calls) := by
    refine ExitOrderCircuitBreaker.exact (start.limits_exec calls) ?_
    rw [start.core_exec]
    exact Breaker.exec_tracks l hsorted
  refine ⟨hexit, AdapterCircuitBreaker.exact ?_⟩
  rw [AdapterCircuitBreaker.toExit_exec]
  exact hexit

/-- Two failures within the window, a reset, and a refused reset after another failure. -/
def retripCalls : List (Breaker.Call Instant) :=
  [.failure 1, .failure 3, .reset 4, .failure 5, .reset 9]

/-- With a threshold of 2, the breaker is closed after them, and the past says so. -/
theorem breakers_exact_retrip :
    (retripCalls.map Breaker.Call.instant).Pairwise (· ≤ ·) ∧
      (Run.exec AdapterCircuitBreaker.call
        { AdapterCircuitBreaker.new 2 10 "alpaca" with resetCooldown := 60 } retripCalls).isOpen =
          false ∧
      ¬ (Run.exec (Breaker.History.step ⟨2, 10, 60⟩) .start retripCalls).Trips ⟨2, 10, 60⟩ := by
  have hsorted : (retripCalls.map Breaker.Call.instant).Pairwise (· ≤ ·) := by decide
  have hclosed : (Run.exec AdapterCircuitBreaker.call
      { AdapterCircuitBreaker.new 2 10 "alpaca" with resetCooldown := 60 } retripCalls).isOpen =
        false := by decide
  refine ⟨hsorted, hclosed, fun htrips => ?_⟩
  rw [← (breakers_exact 2 10 60 "alpaca" hsorted).2.open_iff, hclosed] at htrips
  cases htrips

end Gateway
