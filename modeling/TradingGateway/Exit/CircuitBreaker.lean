import TradingGateway.Models

/-!
# The circuit breaker (`crates/core/src/exit_management/circuit_breaker.rs`)

It trips after `failureThreshold` failures within `failureWindow` and stays open until a reset.
-/

namespace Gateway.Exit

inductive CircuitState where
  | closed
  | open
  deriving DecidableEq, Repr

structure ExitOrderCircuitBreaker where
  failureThreshold : ℕ
  failureWindow : Duration
  /-- The recent failures, oldest first. -/
  recentFailures : List Instant
  state : CircuitState
  lastResetAt : Option Instant
  resetCooldown : Duration
  deriving DecidableEq, Repr

namespace ExitOrderCircuitBreaker

def new (failureThreshold : ℕ) (failureWindow : Duration) : ExitOrderCircuitBreaker where
  failureThreshold
  failureWindow
  recentFailures := []
  state := .closed
  lastResetAt := none
  resetCooldown := 60 * 10 ^ 9

/-- Record a failure at `now`: drop those older than the window, and trip at the threshold. -/
def recordFailure (b : ExitOrderCircuitBreaker) (now : Instant) : ExitOrderCircuitBreaker :=
  let recent := b.recentFailures.dropWhile (fun ts => now - ts > b.failureWindow) ++ [now]
  { b with
    recentFailures := recent
    state := if recent.length ≥ b.failureThreshold then .open else b.state }

def isOpen (b : ExitOrderCircuitBreaker) : Bool := b.state = .open

/-- Close the breaker, unless the last reset was less than the cooldown ago. -/
def reset (b : ExitOrderCircuitBreaker) (now : Instant) :
    Except String Unit × ExitOrderCircuitBreaker :=
  if b.lastResetAt.any fun last => now - last < b.resetCooldown then
    (.error ("Circuit breaker re-tripped within cooldown period. " ++
      "Investigate the underlying failure before resetting again."), b)
  else (.ok (), { b with recentFailures := [], state := .closed, lastResetAt := some now })

end ExitOrderCircuitBreaker

end Gateway.Exit
