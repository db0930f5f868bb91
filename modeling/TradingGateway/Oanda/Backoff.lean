import Mathlib.Data.List.Induction
import TradingGateway.Lib.Doubling
import TradingGateway.Oanda.Candles
import TradingGateway.Oanda.Rest

/-!
# Reconnecting the streams (`crates/oanda/src/streaming.rs`)

The loops of the price stream and of the transaction streams connect, read until the connection
ends, sleep and connect again. Each sleep is twice as long as the one before, up to a maximum. The
loops are the same but for what they do with the data, which is a parameter here.

* `delay_of_outage_iff`: when the sleep is the one for the outage, that is, for the
  connections without data since the last one with some.
-/

namespace Gateway.Oanda

/-! ## One connection -/

inductive StreamError where
  | network (message : String)
  | heartbeatTimeout
  | cancelled
  | permanentAuth (message : String)
  deriving DecidableEq, Repr

/-- How a connection that delivered data, or none, comes to an end. -/
inductive Ending where
  | eof
  | failed (error : String)
  /-- No data for `HEARTBEAT_TIMEOUT`. -/
  | silent
  | cancelled
  deriving DecidableEq, Repr

def Ending.error : Ending → StreamError
  | .eof => .network "Stream ended (EOF)"
  | .failed error => .network error
  | .silent => .heartbeatTimeout
  | .cancelled => .cancelled

/-- What becomes of an attempt to connect. -/
inductive Connection where
  | failed (error : String)
  | answered (status : ℕ) (statusText : String) (chunks : List (List UInt8)) (ending : Ending)
  deriving DecidableEq, Repr

/-- The stream connected and delivered data. -/
def Connection.delivered : Connection → Bool
  | .failed _ => false
  | .answered status _ chunks _ => isSuccess status && !chunks.isEmpty

variable {σ : Type} (process : List UInt8 × σ → List UInt8 × σ)

/-- One connection. `process` takes the complete lines out of the buffer and handles them
(`process_price_buffer`, `process_transaction_buffer`). -/
def runSingleStream (sink : σ) : Connection → StreamError × σ
  | .failed error => (.network error, sink)
  | .answered status statusText chunks ending =>
    if status = 401 ∨ status = 403 then (.permanentAuth ("HTTP " ++ statusText), sink)
    else if isSuccess status = false then (.network ("HTTP " ++ statusText), sink)
    else
      (ending.error, (chunks.foldl (fun s data => process (s.1 ++ data, s.2)) ([], sink)).2)

/-! ## The loop -/

structure StreamLoop (σ : Type) where
  backoff : Duration
  running : Bool
  /-- The sleeps so far. -/
  delays : List Duration
  sink : σ

def StreamLoop.new (sink : σ) : StreamLoop σ := ⟨initialBackoff, true, [], sink⟩

/-- One turn: a connection, and whether the sleep after it is cancelled. -/
structure Turn where
  connection : Connection
  interrupted : Bool := false
  deriving DecidableEq, Repr

/-- One turn of `run_price_stream`, `run_transaction_stream` or
`run_transaction_stream_internal`. -/
def StreamLoop.turn (s : StreamLoop σ) (t : Turn) : StreamLoop σ :=
  if s.running = false then s
  else
    match runSingleStream process s.sink t.connection with
    | (.cancelled, sink) | (.permanentAuth _, sink) => { s with running := false, sink }
    | (.heartbeatTimeout, sink) | (.network _, sink) =>
      { backoff := if t.interrupted then s.backoff else min (s.backoff * 2) maxBackoff
        running := !t.interrupted
        delays := s.delays ++ [s.backoff]
        sink }

/-! ## The sleeps -/

variable {process}

theorem turn_running {s : StreamLoop σ} {t : Turn} (h : (s.turn process t).running = true) :
    s.running = true ∧ (s.turn process t).backoff = min (s.backoff * 2) maxBackoff ∧
      (s.turn process t).delays = s.delays ++ [s.backoff] := by
  unfold StreamLoop.turn at h ⊢
  by_cases hrun : s.running = false
  · rw [if_pos hrun, hrun] at h
    cases h
  · rw [if_neg hrun] at h ⊢
    refine ⟨by simpa using hrun, ?_⟩
    generalize runSingleStream process s.sink t.connection = result at h ⊢
    obtain ⟨error, sink⟩ := result
    cases error with
    | cancelled => cases h
    | permanentAuth message => cases h
    | heartbeatTimeout =>
      have hwoken : t.interrupted = false := by simpa using h
      simp [hwoken]
    | network message =>
      have hwoken : t.interrupted = false := by simpa using h
      simp [hwoken]

/-- While the loop runs, its sleeps depend only on their number. -/
theorem delays_exec (sink : σ) (turns : List Turn)
    (h : (Run.exec (StreamLoop.turn process) (.new sink) turns).running = true) :
    (Run.exec (StreamLoop.turn process) (.new sink) turns).backoff =
        Doubling.delay initialBackoff maxBackoff turns.length ∧
      (Run.exec (StreamLoop.turn process) (.new sink) turns).delays =
        (List.range turns.length).map (Doubling.delay initialBackoff maxBackoff) := by
  induction turns using List.reverseRecOn with
  | nil => exact ⟨rfl, rfl⟩
  | append_singleton turns t ih =>
    rw [Run.exec_append, Run.exec_cons, Run.exec_nil] at h ⊢
    obtain ⟨hrun, hbackoff, hdelays⟩ := turn_running h
    obtain ⟨ihbackoff, ihdelays⟩ := ih hrun
    rw [hbackoff, hdelays, ihbackoff, ihdelays, List.length_append, List.length_singleton,
      List.range_succ, List.map_append, Doubling.delay_succ]
    exact ⟨rfl, rfl⟩

/-! ## The outage -/

/-- The number of connections without data since the last one that delivered some. -/
def outage (turns : List Turn) : ℕ :=
  (turns.reverse.takeWhile fun t => !t.connection.delivered).length

theorem maxBackoff_le_iff (k : ℕ) : maxBackoff ≤ initialBackoff * 2 ^ k ↔ 6 ≤ k := by
  change (60 * 10 ^ 9 : ℕ) ≤ 10 ^ 9 * 2 ^ k ↔ 6 ≤ k
  constructor
  · intro h
    by_contra hk
    have hpow : 2 ^ k ≤ 2 ^ 5 := Nat.pow_le_pow_right (by omega) (by omega)
    omega
  · intro hk
    have hpow : 2 ^ 6 ≤ 2 ^ k := Nat.pow_le_pow_right (by omega) hk
    omega

/-- After any turns that leave the loop running, the sleep before the next connection is the one for
the outage exactly if only the very first connection delivered data, or both are the longest. -/
theorem delay_of_outage_iff {σ : Type} (process : List UInt8 × σ → List UInt8 × σ) (sink : σ)
    (turns : List Turn) (hne : turns ≠ [])
    (h : (Run.exec (StreamLoop.turn process) (.new sink) turns).running = true) :
    (Run.exec (StreamLoop.turn process) (.new sink) turns).delays.getLast? =
        some (min (initialBackoff * 2 ^ outage turns) maxBackoff) ↔
      outage turns + 1 = turns.length ∨ 6 ≤ outage turns ∧ 6 < turns.length := by
  obtain ⟨n, hn⟩ := Nat.exists_eq_add_one.mpr (List.length_pos_iff.mpr hne)
  rw [(delays_exec sink turns h).2, hn, List.range_succ, List.map_append, List.map_singleton,
    List.getLast?_concat, Option.some.injEq]
  have hinitial : 0 < initialBackoff := by decide
  have hiff := Doubling.delay_eq_iff maxBackoff hinitial n (outage turns)
  rw [maxBackoff_le_iff, maxBackoff_le_iff] at hiff
  refine Iff.trans hiff ?_
  omega

/-- The first connection delivered data, the second did not. -/
def firstDelivered : List Turn :=
  [{ connection := .answered 200 "200 OK" [[123, 125, 10]] .eof },
    { connection := .failed "connection refused" }]

theorem delay_of_outage_firstDelivered :
    firstDelivered ≠ [] ∧
      ((Run.exec (StreamLoop.turn fun s : List UInt8 × Unit => s) (.new ())
          firstDelivered).delays.getLast? =
        some (min (initialBackoff * 2 ^ outage firstDelivered) maxBackoff) ↔
      outage firstDelivered + 1 = firstDelivered.length ∨
        6 ≤ outage firstDelivered ∧ 6 < firstDelivered.length) := by
  have hne : firstDelivered ≠ [] := by decide
  exact ⟨hne, delay_of_outage_iff _ () firstDelivered hne (by decide)⟩

/-- Two failures, then a connection that delivers data and ends: the loop waits 4 s, not 1 s. -/
def recovered : List Turn :=
  [{ connection := .failed "connection refused" }, { connection := .failed "connection refused" },
    { connection := .answered 200 "200 OK" [[123, 125, 10]] .eof }]

theorem recovered_waits_longer :
    outage recovered = 0 ∧
      (Run.exec (StreamLoop.turn fun s : List UInt8 × Unit => s) (.new ()) recovered).running =
        true ∧
      (Run.exec (StreamLoop.turn fun s : List UInt8 × Unit => s) (.new ()) recovered).delays =
        [initialBackoff, 2 * initialBackoff, 4 * initialBackoff] ∧
      min (initialBackoff * 2 ^ outage recovered) maxBackoff = initialBackoff := by
  decide

end Gateway.Oanda
