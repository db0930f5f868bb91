import Mathlib.Data.UInt
import TradingGateway.Lib.Checked
import TradingGateway.Lib.Doubling
import TradingGateway.Lib.Run
import TradingGateway.Models

/-!
# Are the delays between reconnects bounded?

The reconnection handler gives the delay before each attempt to reconnect: a back-off that doubles
up to six times and up to a maximum, plus a jitter of less than a quarter. `Outage` is what the
handler is for: when the connection was lost, and how many delays were given since.

The sum of back-off and jitter is a sum of `u64` milliseconds, and the number of attempts a `u32`.

* `reconnect_delays_iff`: along a run all delays are as they should be exactly if each of these sums
  fits its word.
-/

namespace Gateway.Reconnection

open Duration

/-! ## The configuration -/

structure ReconnectionConfig where
  initialBackoff : Duration
  maxBackoff : Duration
  maxRetryDuration : Duration
  deriving DecidableEq, Repr

/-- `u64::try_from(d.as_millis()).unwrap_or(u64::MAX)`. -/
def asMillis (d : Duration) : ℕ := min (d / 10 ^ 6) (2 ^ 64 - 1)

/-- The configuration as `from_env` builds it: its back-offs are settings in milliseconds. -/
def ReconnectionConfig.ofMillis (initialMs maxMs : UInt64) (maxRetryDuration : Duration) :
    ReconnectionConfig :=
  ⟨fromMillis initialMs.toNat, fromMillis maxMs.toNat, maxRetryDuration⟩

theorem asMillis_fromMillis (ms : UInt64) : asMillis (fromMillis ms.toNat) = ms.toNat := by
  have hlt := ms.toNat_lt
  unfold asMillis fromMillis
  rw [Nat.mul_div_cancel _ (by norm_num)]
  omega

/-! ## The handler -/

inductive State where
  | idle | retrying | gaveUp
  deriving DecidableEq, Repr

structure ReconnectionHandler where
  config : ReconnectionConfig
  state : State
  attemptCount : ℕ
  disconnectedAt : Option Instant
  deriving DecidableEq, Repr

namespace ReconnectionHandler

def new (config : ReconnectionConfig) : ReconnectionHandler := ⟨config, .idle, 0, none⟩

variable (h : ReconnectionHandler)

def onDisconnect (now : Instant) : ReconnectionHandler :=
  { h with state := .retrying, attemptCount := 0, disconnectedAt := some now }

/-- `n += 1` on a `u32`. -/
def increment (n : ℕ) : Checked Empty ℕ := if n + 1 < 2 ^ 32 then .ok (n + 1) else .panic

/-- The back-off in milliseconds, without the jitter. -/
def cappedMs : ℕ :=
  let base := asMillis h.config.initialBackoff
  let exp := min h.attemptCount 6
  let backoffMs := min (base * 2 ^ exp) (2 ^ 64 - 1)
  min backoffMs (asMillis h.config.maxBackoff)

/-- `nanos` stands for the pseudo-random nanoseconds. A sum that does not fit its word panics; in a
build without overflow checks it wraps. -/
def nextBackoff (now : Instant) (nanos : ℕ) :
    Checked Empty (Option Duration × ReconnectionHandler) :=
  if h.state ≠ .retrying then .ok (none, h)
  else if h.disconnectedAt.any fun t => now - t ≥ h.config.maxRetryDuration then .ok (none, h)
  else do
    let jitterMs := if h.cappedMs > 0 then nanos % max (h.cappedMs / 4) 1 else 0
    let attemptCount ← increment h.attemptCount
    let ms ← Checked.add h.cappedMs jitterMs
    .ok (some (fromMillis ms), { h with attemptCount })

def reset : ReconnectionHandler :=
  { h with state := .idle, attemptCount := 0, disconnectedAt := none }

def gapDuration (now : Instant) : Option Duration := h.disconnectedAt.map fun t => now - t

def onReconnectSuccess (now : Instant) : Duration × ReconnectionHandler :=
  ((h.gapDuration now).getD 0, h.reset)

def onGaveUp : ReconnectionHandler := { h with state := .gaveUp }

end ReconnectionHandler

/-- A call of the handler, with the clock and the pseudo-random value that it reads. -/
inductive Call where
  | onDisconnect (now : Instant)
  | nextBackoff (now : Instant) (nanos : Fin (10 ^ 9))
  | onReconnectSuccess (now : Instant)
  | onGaveUp
  | reset
  deriving DecidableEq, Repr

inductive Answer where
  | done
  | backoff (delay : Option Duration)
  | gap (duration : Duration)
  deriving DecidableEq, Repr

/-- What a call returns, and the handler after it. -/
def ReconnectionHandler.step (h : ReconnectionHandler) :
    Call → Checked Empty (Answer × ReconnectionHandler)
  | .onDisconnect now => .ok (.done, h.onDisconnect now)
  | .nextBackoff now nanos => do
    let (delay, h) ← h.nextBackoff now nanos
    .ok (.backoff delay, h)
  | .onReconnectSuccess now =>
    let (duration, h) := h.onReconnectSuccess now
    .ok (.gap duration, h)
  | .onGaveUp => .ok (.done, h.onGaveUp)
  | .reset => .ok (.done, h.reset)

/-- The handler after a call. A run ends at a panic, so it does not matter what is left then. -/
def ReconnectionHandler.after (h : ReconnectionHandler) (call : Call) : ReconnectionHandler :=
  match h.step call with
  | .ok (_, h') => h'
  | _ => h

/-! ## The outage -/

/-- When the connection was lost, and how many delays were given since; `none` if nothing is to be
retried. -/
abbrev Outage := Option (Instant × ℕ)

/-- The number of the delay that is due, within the time for retries. -/
def Outage.due (maxRetryDuration : Duration) (now : Instant) : Outage → Option ℕ
  | none => none
  | some (t, k) => if now - t < maxRetryDuration then some k else none

/-- The outage after a call. -/
def Outage.next (maxRetryDuration : Duration) (o : Outage) : Call → Outage
  | .onDisconnect now => some (now, 0)
  | .nextBackoff now _ =>
    match o.due maxRetryDuration now with
    | some k => o.map fun (t, _) => (t, k + 1)
    | none => o
  | .onReconnectSuccess _ | .onGaveUp | .reset => none

/-- The back-off before the jitter, in milliseconds. -/
def backoffMs (initialMs maxMs : UInt64) (k : ℕ) : ℕ :=
  Doubling.delay initialMs.toNat maxMs.toNat (min k 6)

/-- The jitter, in milliseconds. -/
def jitterMs (initialMs maxMs : UInt64) (k : ℕ) (nanos : Fin (10 ^ 9)) : ℕ :=
  nanos % max (backoffMs initialMs maxMs k / 4) 1

section

variable (initialMs maxMs : UInt64) (maxRetryDuration : Duration)

/-- The sum of back-off and jitter fits 64 bits, and the number of attempts 32. -/
def Fits (o : Outage) : Call → Prop
  | .nextBackoff now nanos =>
    ∀ k, o.due maxRetryDuration now = some k →
      backoffMs initialMs maxMs k + jitterMs initialMs maxMs k nanos < 2 ^ 64 ∧ k + 1 < 2 ^ 32
  | _ => True

/-- The answer to `next_backoff`: none if no delay is due, and otherwise the back-off with at most a
quarter on top. -/
def Right (o : Outage) : Call → Answer → Prop
  | .nextBackoff now _, answer =>
    match o.due maxRetryDuration now with
    | none => answer = .backoff none
    | some k => ∃ ms, answer = .backoff (some (fromMillis ms)) ∧ backoffMs initialMs maxMs k ≤ ms ∧
        ms ≤ backoffMs initialMs maxMs k + backoffMs initialMs maxMs k / 4
  | _, _ => True

/-- The call returns, with the right answer. -/
def Answered (h : ReconnectionHandler) (o : Outage) (call : Call) : Prop :=
  ∃ answer, h.step call = .ok (answer, h.after call) ∧
    Right initialMs maxMs maxRetryDuration o call answer

/-- The handler is in the outage. -/
def Tracks (h : ReconnectionHandler) (o : Outage) : Prop :=
  h.config = .ofMillis initialMs maxMs maxRetryDuration ∧
    match o with
    | none => h.state ≠ .retrying
    | some (t, k) => h.state = .retrying ∧ h.disconnectedAt = some t ∧ h.attemptCount = k

/-- The handler and the outage, side by side. -/
def sideBySide (s : ReconnectionHandler × Outage) (call : Call) : ReconnectionHandler × Outage :=
  (s.1.after call, s.2.next maxRetryDuration call)

end

variable {initialMs maxMs : UInt64} {maxRetryDuration : Duration} {h : ReconnectionHandler}
  {o : Outage} {call : Call}

theorem backoffMs_mono (initialMs maxMs : UInt64) {k k' : ℕ} (hk : k ≤ k') :
    backoffMs initialMs maxMs k ≤ backoffMs initialMs maxMs k' :=
  Doubling.delay_mono _ _ (by omega)

theorem jitterMs_le (initialMs maxMs : UInt64) (k : ℕ) (nanos : Fin (10 ^ 9)) :
    jitterMs initialMs maxMs k nanos ≤ backoffMs initialMs maxMs k / 4 := by
  have hlt : jitterMs initialMs maxMs k nanos < max (backoffMs initialMs maxMs k / 4) 1 :=
    Nat.mod_lt _ (by omega)
  omega

/-- The saturating product is past the maximum if it saturates. -/
theorem cappedMs_eq (hconfig : h.config = .ofMillis initialMs maxMs maxRetryDuration) :
    h.cappedMs = backoffMs initialMs maxMs h.attemptCount := by
  have hmax := maxMs.toNat_lt
  unfold ReconnectionHandler.cappedMs backoffMs Doubling.delay
  simp only [hconfig, ReconnectionConfig.ofMillis, asMillis_fromMillis]
  omega

theorem nextBackoff_eq (ht : Tracks initialMs maxMs maxRetryDuration h o) (now : Instant)
    (nanos : Fin (10 ^ 9)) :
    h.nextBackoff now nanos =
      match o.due maxRetryDuration now with
      | none => .ok (none, h)
      | some k =>
        if k + 1 < 2 ^ 32 ∧
            backoffMs initialMs maxMs k + jitterMs initialMs maxMs k nanos < 2 ^ 64 then
          .ok (some (fromMillis (backoffMs initialMs maxMs k + jitterMs initialMs maxMs k nanos)),
            { h with attemptCount := k + 1 })
        else .panic := by
  obtain ⟨hconfig, hstate⟩ := ht
  have hcapped := cappedMs_eq hconfig
  cases o with
  | none => exact if_pos hstate
  | some tk =>
    obtain ⟨t, k⟩ := tk
    obtain ⟨hretrying, hat, rfl⟩ := hstate
    have hretry : h.config.maxRetryDuration = maxRetryDuration := by rw [hconfig]; rfl
    have hjitter : (if h.cappedMs > 0 then nanos.val % max (h.cappedMs / 4) 1 else 0) =
        jitterMs initialMs maxMs h.attemptCount nanos := by
      rw [hcapped, jitterMs]
      split
      · rfl
      · rename_i hzero
        rw [Nat.eq_zero_of_not_pos hzero]
        exact (Nat.mod_one _).symm
    unfold ReconnectionHandler.nextBackoff Outage.due
    rw [if_neg (by simp [hretrying]), hat, hjitter, hcapped, hretry]
    by_cases htime : now - t < maxRetryDuration
    · rw [if_neg (by simpa using htime)]
      simp only [htime, if_true, ReconnectionHandler.increment, Checked.add]
      by_cases hcount : h.attemptCount + 1 < 2 ^ 32
      · by_cases hsum : backoffMs initialMs maxMs h.attemptCount +
            jitterMs initialMs maxMs h.attemptCount nanos < 2 ^ 64
        · rw [if_pos hcount, Checked.ok_bind, if_pos hsum, if_pos ⟨hcount, hsum⟩]
          rfl
        · rw [if_pos hcount, Checked.ok_bind, if_neg hsum]
          exact (if_neg fun hboth => hsum hboth.2).symm
      · rw [if_neg hcount]
        exact (if_neg fun hboth => hcount hboth.1).symm
    · rw [if_pos (by simpa using htime)]
      simp only [htime, if_false]

theorem ReconnectionHandler.after_of_step {h h' : ReconnectionHandler} {answer : Answer}
    (hstep : h.step call = .ok (answer, h')) : h.after call = h' := by
  rw [ReconnectionHandler.after, hstep]

/-- A call whose sums fit is answered right, and the handler stays in the outage. -/
theorem Tracks.answered (ht : Tracks initialMs maxMs maxRetryDuration h o)
    (hfits : Fits initialMs maxMs maxRetryDuration o call) :
    Answered initialMs maxMs maxRetryDuration h o call ∧
      Tracks initialMs maxMs maxRetryDuration (h.after call) (o.next maxRetryDuration call) := by
  have hidle : State.idle ≠ .retrying := by decide
  have hgaveUp : State.gaveUp ≠ .retrying := by decide
  cases call with
  | onDisconnect now => exact ⟨⟨_, rfl, trivial⟩, ht.1, rfl, rfl, rfl⟩
  | onReconnectSuccess now => exact ⟨⟨_, rfl, trivial⟩, ht.1, hidle⟩
  | onGaveUp => exact ⟨⟨_, rfl, trivial⟩, ht.1, hgaveUp⟩
  | reset => exact ⟨⟨_, rfl, trivial⟩, ht.1, hidle⟩
  | nextBackoff now nanos =>
    have hcode := nextBackoff_eq ht now nanos
    cases hdue : o.due maxRetryDuration now with
    | none =>
      have hstep : h.step (.nextBackoff now nanos) = .ok (.backoff none, h) := by
        rw [ReconnectionHandler.step, hcode, hdue]
        rfl
      have hnext : o.next maxRetryDuration (.nextBackoff now nanos) = o := by
        simp only [Outage.next, hdue]
      rw [Answered, ReconnectionHandler.after_of_step hstep, hnext]
      exact ⟨⟨_, hstep, by simp only [Right, hdue]⟩, ht⟩
    | some k =>
      obtain ⟨hsum, hcount⟩ := hfits k hdue
      have hstep : h.step (.nextBackoff now nanos) =
          .ok (.backoff (some (fromMillis
              (backoffMs initialMs maxMs k + jitterMs initialMs maxMs k nanos))),
            { h with attemptCount := k + 1 }) := by
        rw [ReconnectionHandler.step, hcode, hdue]
        simp only [hcount, hsum, and_self, if_true]
        rfl
      have hjitter := jitterMs_le initialMs maxMs k nanos
      rw [Answered, ReconnectionHandler.after_of_step hstep]
      constructor
      · refine ⟨_, hstep, ?_⟩
        simp only [Right, hdue]
        exact ⟨_, rfl, Nat.le_add_right _ _, by omega⟩
      · obtain ⟨hconfig, hstate⟩ := ht
        simp only [Outage.next, hdue]
        cases o with
        | none => cases hdue
        | some tk => exact ⟨hconfig, hstate.1, hstate.2.1, rfl⟩

/-- A call whose sums do not fit panics. -/
theorem Tracks.fits_of_answered (ht : Tracks initialMs maxMs maxRetryDuration h o)
    (ha : Answered initialMs maxMs maxRetryDuration h o call) :
    Fits initialMs maxMs maxRetryDuration o call := by
  cases call with
  | nextBackoff now nanos =>
    intro k hdue
    by_contra hover
    obtain ⟨answer, hstep, -⟩ := ha
    rw [ReconnectionHandler.step, nextBackoff_eq ht, hdue] at hstep
    simp only [if_neg fun hboth => hover (And.symm hboth)] at hstep
    cases hstep
  | _ => trivial

/-- Every call of a run is answered right, and the back-offs do not shrink, exactly if the sums of
each call that is given a delay fit their words. -/
theorem reconnect_delays_iff (initialMs maxMs : UInt64) (maxRetryDuration : Duration)
    (calls : List Call) :
    (Run.Guarded (sideBySide maxRetryDuration)
        (fun s call => Answered initialMs maxMs maxRetryDuration s.1 s.2 call)
        (.new (.ofMillis initialMs maxMs maxRetryDuration), none) calls ∧
      ∀ k, backoffMs initialMs maxMs k ≤ backoffMs initialMs maxMs (k + 1)) ↔
      Run.Guarded (Outage.next maxRetryDuration) (Fits initialMs maxMs maxRetryDuration) none
        calls := by
  have hstart : Tracks initialMs maxMs maxRetryDuration
      (.new (.ofMillis initialMs maxMs maxRetryDuration)) none :=
    ⟨rfl, (by decide : State.idle ≠ .retrying)⟩
  have hmono : ∀ k, backoffMs initialMs maxMs k ≤ backoffMs initialMs maxMs (k + 1) :=
    fun k => backoffMs_mono initialMs maxMs (Nat.le_succ k)
  rw [and_iff_left hmono]
  refine Run.guarded_iff_of_simulates
    (R := fun s o => s.2 = o ∧ Tracks initialMs maxMs maxRetryDuration s.1 o) ?_ ?_ ⟨rfl, hstart⟩ _
  · rintro s o call ⟨rfl, ht⟩ hfits
    exact ⟨rfl, (ht.answered hfits).2⟩
  · rintro s o call ⟨rfl, ht⟩
    exact ⟨ht.fits_of_answered, fun hfits => (ht.answered hfits).1⟩

/-- Settings of `u64::MAX` milliseconds: the first delay with a jitter of one does not fit. -/
theorem first_delay_overflows :
    (((ReconnectionHandler.new (.ofMillis (.ofNat (2 ^ 64 - 1)) (.ofNat (2 ^ 64 - 1))
      (fromSecs 300))).onDisconnect 0).nextBackoff 0 1) = .panic := by
  decide +kernel

end Gateway.Reconnection
