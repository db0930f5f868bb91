import Mathlib.Data.ENat.Lattice
import TradingGateway.Http.Retry
import TradingGateway.Lib.Checked

/-!
# Does the retry loop return the decisive outcome? (`crates/core/src/http/retry.rs`)

`Http.retryWithBackoff` has the outcomes of the attempts only. Here the loop is modelled with the
delays that it sleeps, and with the counters that it logs: `max_retries + 1` is a `u32`, and it is
computed where an event is logged. An outcome is decisive if it is a success or an error that is not
retried. The result of the loop should be the first decisive outcome, or the last one allowed.

* `retry_decisive_iff`: the loop calls, sleeps and returns as it should exactly if it does not log
  `u32::MAX + 1` in a build with overflow checks.
-/

namespace Gateway.Http

/-! ## The first index -/

/-- The first index with a property; infinite if there is none. -/
noncomputable def firstIndex (p : ℕ → Prop) : ℕ∞ := ⨅ (i : ℕ) (_ : p i), (i : ℕ∞)

/-- A search that stops at `n`, because it found what it looks for or may not go on. -/
theorem min_firstIndex {p : ℕ → Prop} {n bound : ℕ} (hbefore : ∀ i < n, ¬ p i) (hn : n ≤ bound)
    (hstop : p n ∨ n = bound) : min (firstIndex p) bound = n := by
  apply le_antisymm
  · rcases hstop with hp | rfl
    · exact (min_le_left _ _).trans (iInf₂_le n hp)
    · exact min_le_right _ _
  · refine le_min (le_iInf₂ fun i hi => ?_) (Nat.cast_le.mpr hn)
    by_contra hlt
    exact hbefore i (Nat.cast_lt.mp (not_le.mp hlt)) hi

theorem exists_firstIndex (p : ℕ → Prop) (bound : ℕ) :
    ∃ n ≤ bound, (∀ i < n, ¬ p i) ∧ (p n ∨ n = bound) := by
  induction bound with
  | zero => exact ⟨0, le_rfl, fun i hi => absurd hi (Nat.not_lt_zero i), .inr rfl⟩
  | succ bound ih =>
    obtain ⟨n, hn, hbefore, hstop⟩ := ih
    by_cases hp : p n
    · exact ⟨n, Nat.le_succ_of_le hn, hbefore, .inl hp⟩
    · obtain rfl := hstop.resolve_left hp
      refine ⟨n + 1, le_rfl, fun i hi => ?_, .inr rfl⟩
      rcases Nat.lt_succ_iff_lt_or_eq.mp hi with hi | rfl
      · exact hbefore i hi
      · exact hp

/-! ## The loop -/

/-- The arithmetic of `f64` that the delays use; the cast to `u64` saturates. -/
structure Floats (F : Type) where
  ofNat : ℕ → F
  powi : F → ℤ → F
  mul : F → F → F
  toU64 : F → Fin (2 ^ 64)

/-- `RetryConfig` with the delays. -/
structure BackoffConfig (F : Type) extends RetryConfig where
  initialDelay : Duration
  maxDelay : Duration
  backoffMultiplier : F
  /-- The number of retries is a `u32`. -/
  maxRetries_lt : maxRetries < 2 ^ 32

/-- `attempt as i32`. -/
def asI32 (attempt : ℕ) : ℤ := if attempt < 2 ^ 31 then attempt else attempt - 2 ^ 32

def BackoffConfig.delayForAttempt {F : Type} (fl : Floats F) (config : BackoffConfig F)
    (attempt : ℕ) : Duration :=
  let baseDelay := fl.ofNat (config.initialDelay / 10 ^ 6)
  let multiplier := fl.powi config.backoffMultiplier (asI32 attempt)
  let delayMs := fl.toU64 (fl.mul baseDelay multiplier)
  min (Duration.fromMillis delayMs) config.maxDelay

/-- The most verbose level of events that is logged. -/
inductive LevelFilter where
  | off | error | warn | info | debug | trace
  deriving DecidableEq, Repr

/-- How the program was built and is run. -/
structure Build where
  overflowChecks : Bool
  level : LevelFilter
  deriving DecidableEq, Repr

namespace Build

variable (b : Build)

def warns : Bool := b.level ∉ [.off, .error]

def debugs : Bool := b.level ∈ [.debug, .trace]

/-- Log an event with the `u32` fields `n + 1`. They are computed only if the event is logged. -/
def log (enabled : Bool) (counters : List ℕ) : Checked Empty Unit :=
  if enabled ∧ b.overflowChecks ∧ ∃ n ∈ counters, n + 1 ≥ 2 ^ 32 then .panic else .ok ()

end Build

/-- What the loop does, for all to see. -/
inductive Act where
  | call
  | sleep (delay : Duration)
  deriving DecidableEq, Repr

structure RetryState where
  attempt : ℕ
  lastError : Option GatewayError
  acts : List Act

section

variable {F α : Type} (b : Build) (fl : Floats F) (config : BackoffConfig F)
  (outcome : ℕ → Except GatewayError α)

/-- The delay after a failed attempt; a rate limit may suggest one. -/
def retryDelay (attempt : ℕ) : GatewayError → Duration
  | .rateLimited (some seconds) => min (Duration.fromSecs seconds) config.maxDelay
  | _ => config.delayForAttempt fl attempt

/-- One round of the loop: go on, or return. -/
def retryRound (s : RetryState) :
    Checked Empty (RetryState ⊕ (Except GatewayError α × List Act)) :=
  let acts := s.acts ++ [.call]
  match outcome s.attempt with
  | .ok result => do
    b.log (b.debugs && 0 < s.attempt) [s.attempt, config.maxRetries]
    .ok (.inr (.ok result, acts))
  | .error err =>
    if err.isRetryable && !(s.attempt ≥ config.maxRetries) then do
      let delay := retryDelay fl config s.attempt err
      b.log b.warns [s.attempt, config.maxRetries]
      .ok (.inl ⟨s.attempt + 1, some err, acts ++ [.sleep delay]⟩)
    else if err.isRetryable then do
      b.log b.warns [s.attempt]
      .ok (.inr (.error err, acts))
    else .ok (.inr (.error err, acts))

/-- The loop over `0..=max_retries`; `none` if it ends without a return. -/
def retryLoop : Option (Checked Empty (Except GatewayError α × List Act)) :=
  Checked.loop (retryRound b fl config outcome) (config.maxRetries + 1) ⟨0, none, []⟩

/-- A success, or an error that is not retried. -/
def decisive : Except GatewayError α → Bool
  | .ok _ => true
  | .error e => !e.isRetryable

/-- The delays as they lie between the calls. -/
def alternate (delays : List Duration) : List Act := delays.flatMap fun d => [.call, .sleep d]

/-- The calls go on up to the first decisive outcome, or up to the last retry; the last outcome is
returned, and each delay between two calls is within the limit. -/
def Decided (r : Except GatewayError α × List Act) : Prop :=
  (r.2.count .call : ℕ∞) =
      min (firstIndex fun i => decisive (outcome i) = true) config.maxRetries + 1 ∧
    ∃ delays, r.2 = alternate delays ++ [.call] ∧ r.1 = outcome delays.length ∧
      ∀ d ∈ delays, d ≤ config.maxDelay

/-- The loop logs `u32::MAX + 1` when it retries. -/
def LogOverflows : Prop :=
  b.overflowChecks = true ∧ b.warns = true ∧ config.maxRetries = 2 ^ 32 - 1

end

variable {F α : Type} {b : Build} {fl : Floats F} {config : BackoffConfig F}
  {outcome : ℕ → Except GatewayError α} {s : RetryState} {σ : Type}

/-! ## The rounds -/

theorem Build.warns_of_debugs (h : b.debugs = true) : b.warns = true := by
  unfold debugs at h
  unfold warns
  cases hl : b.level <;> simp_all

theorem log_eq (hsafe : ¬ LogOverflows b config) {enabled : Bool}
    (henabled : enabled = true → b.warns = true) {counters : List ℕ}
    (hcounters : ∀ n ∈ counters, n ≤ config.maxRetries) : b.log enabled counters = .ok () := by
  refine if_neg ?_
  rintro ⟨he, hc, n, hn, hover⟩
  have hle := hcounters n hn
  have hlt := config.maxRetries_lt
  exact hsafe ⟨hc, henabled he, by omega⟩

theorem retryDelay_le (attempt : ℕ) (err : GatewayError) :
    retryDelay fl config attempt err ≤ config.maxDelay := by
  unfold retryDelay BackoffConfig.delayForAttempt
  split <;> exact Nat.min_le_right _ _

theorem count_call_alternate (delays : List Duration) :
    (alternate delays ++ [Act.call]).count Act.call = delays.length + 1 := by
  induction delays with
  | nil => rfl
  | cons d delays ih => simpa [alternate] using ih

/-- Between two rounds: every outcome so far was retried. -/
def Retrying (config : BackoffConfig F) (outcome : ℕ → Except GatewayError α) (s : RetryState) :
    Prop :=
  s.attempt ≤ config.maxRetries ∧ (∀ i < s.attempt, decisive (outcome i) = false) ∧
    ∃ delays, s.acts = alternate delays ∧ s.attempt = delays.length ∧
      ∀ d ∈ delays, d ≤ config.maxDelay

theorem Retrying.decided (h : Retrying config outcome s)
    (hstop : decisive (outcome s.attempt) = true ∨ s.attempt = config.maxRetries) :
    Decided config outcome (outcome s.attempt, s.acts ++ [.call]) := by
  obtain ⟨hle, hbefore, delays, hacts, hlen, hdelays⟩ := h
  have hmin : min (firstIndex fun i => decisive (outcome i) = true) config.maxRetries =
      s.attempt := min_firstIndex (fun i hi => by simp [hbefore i hi]) hle hstop
  refine ⟨?_, delays, by rw [hacts], by rw [hlen], hdelays⟩
  rw [hmin, hacts, count_call_alternate, hlen]
  exact Nat.cast_succ delays.length

theorem retryRound_meets (hsafe : ¬ LogOverflows b config) (h : Retrying config outcome s) :
    (retryRound b fl config outcome s).Meets
      (Sum.elim (fun s' => Retrying config outcome s' ∧
        config.maxRetries - s'.attempt < config.maxRetries - s.attempt)
        (Decided config outcome)) := by
  have hle := h.1
  unfold retryRound
  cases ho : outcome s.attempt with
  | ok result =>
    have hlog : b.log (b.debugs && 0 < s.attempt) [s.attempt, config.maxRetries] = .ok () :=
      log_eq hsafe (fun hd => Build.warns_of_debugs (Bool.and_eq_true_iff.mp hd).1) (by simpa)
    simp only [hlog, Checked.ok_bind]
    rw [← ho]
    exact h.decided (.inl (by rw [ho]; rfl))
  | error err =>
    dsimp only
    split
    · rename_i hretry
      simp only [Bool.and_eq_true, Bool.not_eq_true', decide_eq_false_iff_not, not_le] at hretry
      obtain ⟨hretryable, hlt⟩ := hretry
      rw [log_eq hsafe id (by simpa), Checked.ok_bind]
      obtain ⟨-, hbefore, delays, hacts, hlen, hdelays⟩ := h
      refine ⟨⟨hlt, fun i hi => ?_, delays ++ [retryDelay fl config s.attempt err], ?_, ?_, ?_⟩, ?_⟩
      · rcases Nat.lt_succ_iff_lt_or_eq.mp hi with hi | rfl
        · exact hbefore i hi
        · rw [ho, decisive, hretryable]
          rfl
      · simp [alternate, hacts]
      · simp [hlen]
      · intro d hd
        rcases List.mem_append.mp hd with hd | hd
        · exact hdelays d hd
        · rw [List.mem_singleton.mp hd]
          exact retryDelay_le _ _
      · change config.maxRetries - (s.attempt + 1) < config.maxRetries - s.attempt
        omega
    · rename_i hstop
      split
      · rename_i hretryable
        have hlast : s.attempt = config.maxRetries := by
          simp only [hretryable, Bool.true_and, Bool.not_eq_true', decide_eq_false_iff_not,
            not_le] at hstop
          omega
        rw [log_eq hsafe id (by simpa), Checked.ok_bind, ← ho]
        exact h.decided (.inr hlast)
      · rename_i hretryable
        rw [← ho]
        exact h.decided (.inl (by simp [ho, decisive, hretryable]))

/-! ## The whole loop -/

theorem retrying_start : Retrying config outcome ⟨0, none, []⟩ :=
  ⟨Nat.zero_le _, fun _ hi => absurd hi (Nat.not_lt_zero _), [], rfl, rfl, by simp⟩

theorem retryLoop_meets (hsafe : ¬ LogOverflows b config) :
    ∃ r, retryLoop b fl config outcome = some (.ok r) ∧ Decided config outcome r := by
  have hround : ∀ s, Retrying config outcome s → (retryRound b fl config outcome s).Meets _ :=
    fun s hs => retryRound_meets hsafe hs
  obtain ⟨x, hloop, hx⟩ := Checked.loop_meets
    (fun s : RetryState => config.maxRetries - s.attempt) hround retrying_start
    (Nat.lt_succ_self _)
  obtain ⟨r, rfl, hr⟩ := hx.exists_ok
  exact ⟨r, hloop, hr⟩

/-- The first attempt decides: nothing with a counter is logged. -/
theorem retryLoop_of_decisive (h : decisive (outcome 0) = true) :
    retryLoop b fl config outcome = some (.ok (outcome 0, [.call])) := by
  refine Checked.loop_succ_of_inr ?_
  unfold retryRound
  cases ho : outcome 0 with
  | ok result => simp [Build.log]
  | error err =>
    rw [ho] at h
    have hretryable : err.isRetryable = false := by simpa [decisive] using h
    simp [hretryable]

/-- The first attempt is retried: the event overflows. -/
theorem retryLoop_panics (hover : LogOverflows b config) (h : decisive (outcome 0) = false) :
    retryLoop b fl config outcome = some .panic := by
  obtain ⟨hchecks, hwarns, hmax⟩ := hover
  have hround : retryRound b fl config outcome ⟨0, none, []⟩ = .panic := by
    unfold retryRound
    cases ho : outcome 0 with
    | ok result =>
      rw [ho] at h
      cases h
    | error err =>
      rw [ho] at h
      have hretryable : err.isRetryable = true := by simpa [decisive] using h
      have hlog : b.log b.warns [0, config.maxRetries] = .panic := by
        simp [Build.log, hwarns, hchecks, hmax]
      have hretry : (err.isRetryable && !(0 ≥ config.maxRetries)) = true := by
        simp [hretryable, hmax]
      dsimp only
      rw [if_pos hretry, hlog]
      rfl
  rw [retryLoop, Checked.loop, hround]

/-! ## The loop without delays -/

/-- `last` is where the loop stops, seen from an earlier attempt. -/
theorem fst_retryFrom {config : RetryConfig} {n attempt last : ℕ}
    (hn : attempt + n = config.maxRetries + 1) (hle : attempt ≤ last)
    (hlast : last ≤ config.maxRetries)
    (hbefore : ∀ i, attempt ≤ i → i < last → decisive (outcome i) = false)
    (hstop : decisive (outcome last) = true ∨ last = config.maxRetries)
    (lastError : Option GatewayError) (s : σ) :
    (retryFrom config (fun i s => (outcome i, s)) n attempt lastError s).1 = outcome last := by
  induction n generalizing attempt lastError with
  | zero => omega
  | succ n ih =>
    unfold retryFrom
    rcases Nat.eq_or_lt_of_le hle with rfl | hlt
    · cases ho : outcome attempt with
      | ok result => rfl
      | error err =>
        have hreturn : (err.isRetryable && decide (attempt < config.maxRetries)) = false := by
          rcases hstop with hstop | hstop
          · rw [ho] at hstop
            have hretryable : err.isRetryable = false := by simpa [decisive] using hstop
            simp [hretryable]
          · simp [hstop]
        simp [hreturn]
    · have hretried := hbefore attempt le_rfl hlt
      cases ho : outcome attempt with
      | ok result =>
        rw [ho] at hretried
        cases hretried
      | error err =>
        rw [ho] at hretried
        have hretryable : err.isRetryable = true := by simpa [decisive] using hretried
        have hmore : attempt < config.maxRetries := by omega
        simp only [hretryable, hmore, decide_true, Bool.and_self, if_true]
        exact ih (by omega) hlt (fun i hi => hbefore i (by omega)) _

/-- The loop without delays and events returns the same outcome. -/
theorem Decided.fst_eq {r : Except GatewayError α × List Act} (h : Decided config outcome r)
    (s : σ) : r.1 = (retryWithBackoff config.toRetryConfig (fun i s => (outcome i, s)) s).1 := by
  obtain ⟨hcount, delays, hacts, hr, -⟩ := h
  obtain ⟨n, hn, hbefore, hstop⟩ :=
    exists_firstIndex (fun i => decisive (outcome i) = true) config.maxRetries
  rw [min_firstIndex hbefore hn hstop, hacts, count_call_alternate] at hcount
  have hlen : delays.length = n := Nat.succ_injective (Nat.cast_injective hcount)
  rw [hr, hlen]
  refine (fst_retryFrom (Nat.zero_add _) (Nat.zero_le n) hn (fun i _ hi => ?_) hstop none s).symm
  exact Bool.eq_false_of_not_eq_true (hbefore i hi)

/-- The loop with delays and events panics, or returns what the loop without them returns. -/
theorem retryLoop_refines {σ : Type} (b : Build) (fl : Floats F) (config : BackoffConfig F)
    (outcome : ℕ → Except GatewayError α) (s : σ) :
    retryLoop b fl config outcome = some .panic ∨
      ∃ acts, retryLoop b fl config outcome =
        some (.ok ((retryWithBackoff config.toRetryConfig (fun i s => (outcome i, s)) s).1,
          acts)) := by
  have hplain {r : Except GatewayError α × List Act} (h : Decided config outcome r) :
      r = ((retryWithBackoff config.toRetryConfig (fun i s => (outcome i, s)) s).1, r.2) :=
    Prod.ext (h.fst_eq s) rfl
  by_cases hover : LogOverflows b config
  · cases h : decisive (outcome 0) with
    | false => exact .inl (retryLoop_panics hover h)
    | true =>
      have hdecided : Decided config outcome _ := retrying_start.decided (.inl h)
      exact .inr ⟨_, (retryLoop_of_decisive h).trans (congrArg _ (congrArg _ (hplain hdecided)))⟩
  · obtain ⟨r, hr, hdecided⟩ := retryLoop_meets hover
    exact .inr ⟨r.2, hr.trans (congrArg _ (congrArg _ (hplain hdecided)))⟩

/-! ## The result -/

/-- The loop returns the decisive outcome exactly if it does not retry with an event that
overflows. -/
theorem retry_decisive_iff (b : Build) (fl : Floats F) (config : BackoffConfig F)
    (outcome : ℕ → Except GatewayError α) :
    (∃ r, retryLoop b fl config outcome = some (.ok r) ∧ Decided config outcome r) ↔
      ¬ (b.overflowChecks = true ∧ b.warns = true ∧ config.maxRetries = 2 ^ 32 - 1 ∧
        decisive (outcome 0) = false) := by
  constructor
  · rintro ⟨r, hr, -⟩ ⟨hchecks, hwarns, hmax, h⟩
    rw [retryLoop_panics ⟨hchecks, hwarns, hmax⟩ h] at hr
    cases hr
  · intro hn
    by_cases hover : LogOverflows b config
    · have h : decisive (outcome 0) = true := by
        by_contra h
        exact hn ⟨hover.1, hover.2.1, hover.2.2, Bool.eq_false_of_not_eq_true h⟩
      exact ⟨_, retryLoop_of_decisive h, retrying_start.decided (.inl h)⟩
    · exact retryLoop_meets hover

/-- An outage at once, with `u32::MAX` retries, in a build with overflow checks: the loop panics
before its first retry. -/
theorem retry_at_max_panics :
    retryLoop (α := Unit) ⟨true, .info⟩ ⟨fun _ => (), fun _ _ => (), fun _ _ => (), fun _ => 0⟩
      { maxRetries := 2 ^ 32 - 1
        initialDelay := .fromMillis 100
        maxDelay := .fromSecs 10
        backoffMultiplier := ()
        maxRetries_lt := by decide }
      (fun i => if i = 0 then .error (.providerUnavailable "maintenance") else .ok ()) =
      some .panic :=
  retryLoop_panics ⟨rfl, rfl, rfl⟩ rfl

end Gateway.Http
