import TradingGateway.Lib.Doubling
import TradingGateway.Trailing.Steps

/-!
# Does the recovery of an entry wait as long as documented?

After `n` failed recoveries an entry should wait for `recovery_interval` doubled `n - 1` times, or
for `max_recovery_backoff`. The exponent in `calculateRecoveryBackoff` stops at 20, so the wait
stops growing there even if it is still short of the maximum.

A run is a list of scans, with other work in between that leaves the entry as it is. `scanStep`
keeps a log of the activations of the entry that the scans try (`recoveryAttempt`); the invariant
`Recovering` ties the log to the failure count and the instant in the entry.

* `recovery_backoff_exact_iff`: the waits are the documented ones, never shrink and are kept in
  every run exactly if 20 doublings reach the maximum (or the interval is zero).
-/

namespace Gateway.Trailing

variable {β : Type} {c : Ctx β} {config : TrailingStopConfig}

/-! ## The wait -/

/-- The documented wait after `n` failures. -/
def documentedBackoff (config : TrailingStopConfig) (n : ℕ) : Duration :=
  Doubling.delay config.recoveryInterval config.maxRecoveryBackoff (n - 1)

variable {n : ℕ}

/-- A product that is no duration is past the maximum, which is one. -/
theorem calculateRecoveryBackoff_eq (hmax : config.maxRecoveryBackoff < 2 ^ 64 * 10 ^ 9)
    (hn : 1 ≤ n) :
    calculateRecoveryBackoff config n =
      Doubling.delay config.recoveryInterval config.maxRecoveryBackoff (min (n - 1) 20) := by
  have hcap : ∀ product max : ℕ, max < 2 ^ 64 * 10 ^ 9 →
      min (if product < 2 ^ 64 * 10 ^ 9 then product else max) max = min product max := by
    intro product max h
    split <;> omega
  unfold calculateRecoveryBackoff
  rw [if_neg (by omega)]
  exact hcap _ _ hmax

theorem calculateRecoveryBackoff_mono (hmax : config.maxRecoveryBackoff < 2 ^ 64 * 10 ^ 9) {m : ℕ}
    (h : m ≤ n) :
    calculateRecoveryBackoff config m ≤ calculateRecoveryBackoff config n := by
  rcases Nat.eq_zero_or_pos m with rfl | hm
  · exact Nat.zero_le _
  · rw [calculateRecoveryBackoff_eq hmax hm, calculateRecoveryBackoff_eq hmax (by omega)]
    exact Doubling.delay_mono _ _ (by omega)

/-- The 22nd failure is the first that is doubled once too little. -/
theorem backoff_documented_iff (hmax : config.maxRecoveryBackoff < 2 ^ 64 * 10 ^ 9) :
    (∀ n, 1 ≤ n → n < 2 ^ 32 → calculateRecoveryBackoff config n = documentedBackoff config n) ↔
      config.recoveryInterval = 0 ∨
        config.maxRecoveryBackoff ≤ config.recoveryInterval * 2 ^ 20 := by
  constructor
  · intro h
    have h22 := h 22 (by omega) (by omega)
    rw [calculateRecoveryBackoff_eq hmax (by omega), documentedBackoff,
      Doubling.delay_min_eq_iff] at h22
    rcases h22 with h22 | h22
    · omega
    · exact h22
  · intro h n hn _
    rw [calculateRecoveryBackoff_eq hmax hn, documentedBackoff, Doubling.delay_min_eq_iff]
    exact .inr h

/-- A failure count that no longer rises makes no difference. -/
theorem calculateRecoveryBackoff_saturated (config : TrailingStopConfig) (n : ℕ) :
    calculateRecoveryBackoff config (min n (2 ^ 32 - 1)) = calculateRecoveryBackoff config n := by
  by_cases hn : n ≤ 2 ^ 32 - 1
  · rw [Nat.min_eq_left hn]
  · have hexp : min (n - 1) 20 = min (min n (2 ^ 32 - 1) - 1) 20 := by omega
    unfold calculateRecoveryBackoff
    rw [if_neg (by omega), if_neg (by omega), hexp]

/-! ## Attempts -/

/-- An activation that a scan tried for an entry, and when it failed. -/
structure Attempt where
  startedAt : Instant
  failedAt : Option Instant
  deriving DecidableEq, Repr

/-- When an activation failed, by the clock after it. -/
def failureTime (c : Ctx β) : Except GatewayError TrailingEntry × World β → Option Instant
  | (.ok _, _) => none
  | (.error _, w) => some (c.now w.outside)

/-- The call of `tryActivateTracking` in `tryRecoverEntry`, which calls it for an entry that is
due. -/
def recoveryAttempt (c : Ctx β) (placeholderId : String) (w : World β) : Option Attempt := do
  let entry ← w.handler.getEntry placeholderId
  guard (recoveryCheck c.config (c.now w.outside) entry = .due)
  pure ⟨c.now w.outside, failureTime c ((tryActivateTracking c entry).run w)⟩

/-- One turn of the loop of a scan, with a log of the activations of `ph`. -/
def loopStep (c : Ctx β) (ph : String) (s : (RecoveryStats × World β) × List Attempt)
    (placeholderId : String) : (RecoveryStats × World β) × List Attempt :=
  ((tryRecoverEntry c placeholderId s.1.1).run s.1.2,
    if placeholderId = ph then s.2 ++ (recoveryAttempt c ph s.1.2).toList else s.2)

/-- The loop of a scan. -/
def loopRun (c : Ctx β) (ph : String) (w : World β) (log : List Attempt) :
    (RecoveryStats × World β) × List Attempt :=
  let unavailableIds := w.handler.selectEntries fun e => e.status.isUnavailable
  Run.exec (loopStep c ph) (({ attempted := unavailableIds.length }, w), log) unavailableIds

/-- Other work, then a scan. -/
def scanStep (c : Ctx β) (ph : String) (s : World β × List Attempt) (f : World β → World β) :
    World β × List Attempt :=
  (((retryUnavailableEntries c).run (f s.1)).2, (loopRun c ph (f s.1) s.2).2)

/-- Work that leaves the entry `ph` as it is. -/
def Spares (ph : String) (f : World β → World β) : Prop :=
  ∀ w, (f w).handler.getEntry ph = w.handler.getEntry ph

/-- Each attempt but the first follows a failed one, after the wait for that many failures. -/
def Paced (wait : ℕ → Duration) (log : List Attempt) : Prop :=
  ∀ i a a', log[i]? = some a → log[i + 1]? = some a' →
    ∃ t, a.failedAt = some t ∧ wait (i + 1) ≤ a'.startedAt - t

variable {wait : ℕ → Duration} {log : List Attempt}

theorem Paced.concat {a : Attempt} (h : Paced wait log)
    (hlast : ∀ b, log.getLast? = some b →
      ∃ t, b.failedAt = some t ∧ wait log.length ≤ a.startedAt - t) :
    Paced wait (log ++ [a]) := by
  intro i b b' hb hb'
  by_cases hi : i + 1 < log.length
  · rw [List.getElem?_append_left (by omega)] at hb
    rw [List.getElem?_append_left hi] at hb'
    exact h i b b' hb hb'
  · have hlen : i + 1 < (log ++ [a]).length := (List.getElem?_eq_some_iff.mp hb').1
    rw [List.length_append, List.length_singleton] at hlen
    have hi' : i + 1 = log.length := by omega
    rw [hi', List.getElem?_concat_length] at hb'
    cases hb'
    rw [List.getElem?_append_left (by omega)] at hb
    rw [hi']
    refine hlast b ?_
    rw [List.getLast?_eq_getElem?, ← hi']
    exact hb

/-! ## Runs of scans -/

/-- What the entry records of the attempts in the log, while it waits for its feed. -/
def Recorded (log : List Attempt) : TrailingEntryStatus → Prop
  | .priceSourceUnavailable _ failures lastAttempt =>
    failures = min log.length (2 ^ 32 - 1) ∧ lastAttempt = log.getLast?.bind Attempt.failedAt ∧
      ∀ b, log.getLast? = some b → b.failedAt.isSome
  | _ => True

/-- The entry `ph` is there, with the attempts in the log on its record. -/
def Recovering (config : TrailingStopConfig) (ph : String) (s : World β × List Attempt) : Prop :=
  Paced (calculateRecoveryBackoff config) s.2 ∧
    ∃ e L, s.1.At ph e L ∧ Recorded s.2 e.status

variable {e : TrailingEntry} {w : World β} {ph : String}

/-- An attempt comes after the wait for the failures on record. -/
theorem waited_of_not_backingOff {now : Instant} (hu : e.status.isUnavailable = true)
    (hr : Recorded log e.status) (hb : backingOff config now e = false) {b : Attempt}
    (hlast : log.getLast? = some b) :
    ∃ t, b.failedAt = some t ∧ calculateRecoveryBackoff config log.length ≤ now - t := by
  cases hs : e.status with
  | priceSourceUnavailable reason failures lastAttempt =>
    rw [hs] at hr
    obtain ⟨hcount, hat, hfailed⟩ := hr
    obtain ⟨t, ht⟩ := Option.isSome_iff_exists.mp (hfailed b hlast)
    refine ⟨t, ht, ?_⟩
    have hpos : 0 < log.length := List.length_pos_iff.mpr fun h => by simp [h] at hlast
    simp only [hlast, Option.bind_some, ht] at hat
    simp only [backingOff, hs, hat, decide_eq_false_iff_not, not_and, not_lt] at hb
    rw [← calculateRecoveryBackoff_saturated, ← hcount]
    exact hb (by omega)
  | _ => simp [hs, TrailingEntryStatus.isUnavailable] at hu

/-- What becomes of an entry without a feed, and the attempt that was made for it. -/
inductive AttemptStep (config : TrailingStopConfig) (e : TrailingEntry) :
    Option Attempt → TrailingEntry → Prop where
  | skipped : AttemptStep config e none e
  | expired : AttemptStep config e none
      (e.setStatus (.failed "Entry TTL expired while waiting for price source" 0))
  | recovered {now : Instant} (hb : backingOff config now e = false) (a : Decimal) :
      AttemptStep config e (some ⟨now, none⟩) (e.setStatus (.tracking a (e.calculateStop a)))
  | failedAgain {now : Instant} (hb : backingOff config now e = false) (t : Instant) :
      AttemptStep config e (some ⟨now, some t⟩) (failedRecovery t e)

theorem backingOff_of_due {now : Instant} (h : recoveryCheck config now e = .due) :
    backingOff config now e = false := by
  unfold recoveryCheck at h
  split_ifs at h with hexp hback
  exact Bool.eq_false_iff.mpr hback

theorem attemptStep_tryRecoverEntry (stats : RecoveryStats) {L : List StopOrder} (ha : w.At ph e L)
    (hu : e.status.isUnavailable = true) :
    ∃ e', ((tryRecoverEntry c ph stats).run w).2.At ph e' L ∧
      AttemptStep c.config e (recoveryAttempt c ph w) e' := by
  have hattempt : recoveryAttempt c ph w =
      if recoveryCheck c.config (c.now w.outside) e = .due then
        some ⟨c.now w.outside, failureTime c ((tryActivateTracking c e).run w)⟩ else none := by
    rw [recoveryAttempt, ha.entry]
    simp only [Option.bind_eq_bind, Option.bind_some, guard]
    split <;> rfl
  rw [hattempt]
  simp only [tryRecoverEntry, Routine.run_bind, run_readHandler, ha.entry, Routine.run_read]
  cases hcheck : recoveryCheck c.config (c.now w.outside) e with
  | expired => exact ⟨_, ha.updateStatus rfl, .expired⟩
  | skipped => exact ⟨e, ha, .skipped⟩
  | due =>
    have hback := backingOff_of_due hcheck
    simp only [if_true, Routine.run_bind]
    obtain ⟨hq, hres⟩ := run_tryActivateTracking (c := c) e w
    have ha' := hq.keeps_at ha
    generalize (tryActivateTracking c e).run w = r at hq hres ha' ⊢
    obtain ⟨res, v⟩ := r
    rcases hres with ⟨err, rfl⟩ | ⟨a, rfl⟩
    · refine ⟨_, ⟨?_, ha'.live⟩, .failedAgain hback (c.now v.outside)⟩
      exact (v.handler.getEntry_modifyEntry_self ph (failedRecovery_placeholderId _)).trans
        (by rw [ha'.entry]; rfl)
    · simp only [storeRecovered, Routine.run_bind, Routine.run_step, ha'.entry, hu, if_true]
      exact ⟨_, ha'.updateStatus rfl, .recovered hback a⟩

/-- The record and the pace survive an attempt. -/
theorem AttemptStep.keeps {e' : TrailingEntry} {attempt : Option Attempt}
    (h : AttemptStep config e attempt e') (hu : e.status.isUnavailable = true)
    (hr : Recorded log e.status) (hp : Paced (calculateRecoveryBackoff config) log) :
    Paced (calculateRecoveryBackoff config) (log ++ attempt.toList) ∧
      Recorded (log ++ attempt.toList) e'.status := by
  cases h with
  | skipped => simpa using ⟨hp, hr⟩
  | expired => simpa [Recorded] using hp
  | recovered hb a =>
    exact ⟨hp.concat fun b hlast => waited_of_not_backingOff hu hr hb hlast, trivial⟩
  | failedAgain hb t =>
    refine ⟨hp.concat fun b hlast => waited_of_not_backingOff hu hr hb hlast, ?_⟩
    cases hs : e.status with
    | priceSourceUnavailable reason failures lastAttempt =>
      rw [hs] at hr
      simp only [failedRecovery, hs, Recorded, Option.toList_some, List.length_append,
        List.length_singleton, List.getLast?_concat, Option.bind_some, Option.some.injEq,
        forall_eq', Option.isSome_some, and_self, and_true]
      have hcount := hr.1
      omega
    | _ => simp [hs, TrailingEntryStatus.isUnavailable] at hu

theorem fst_loopStep (ph : String) (s : (RecoveryStats × World β) × List Attempt)
    (keys : List String) :
    (Run.exec (loopStep c ph) s keys).1 =
      Run.exec (fun sw k => (tryRecoverEntry c k sw.1).run sw.2) s.1 keys := by
  induction keys generalizing s with
  | nil => rfl
  | cons k keys ih => exact ih _

theorem fst_loopRun (ph : String) (w : World β) (log : List Attempt) :
    (loopRun c ph w log).1 = (retryUnavailableEntries c).run w := by
  rw [loopRun, fst_loopStep]
  simp only [retryUnavailableEntries, Routine.run_bind, run_readHandler, run_tryRecoverEntries]

/-- A scan from a state where the entry has its attempts on record. -/
theorem Recovering.loopRun (h : Recovering c.config ph (w, log)) :
    Recovering c.config ph ((loopRun c ph w log).1.2, (loopRun c ph w log).2) := by
  obtain ⟨hp, e, L, ha, hr⟩ := h
  -- The turns of the other entries leave this one, and the log.
  have hother : ∀ (s : (RecoveryStats × World β) × List Attempt) (k : String), k ≠ ph →
      Recovering c.config ph (s.1.2, s.2) → Recovering c.config ph
        ((loopStep c ph s k).1.2, (loopStep c ph s k).2) := by
    rintro s k hk ⟨hp, e, L, ha, hr⟩
    rw [loopStep, if_neg hk]
    exact ⟨hp, e, L, (onlyAt_tryRecoverEntry s.1.1 s.1.2 k).at_ne (Ne.symm hk) ha, hr⟩
  have hrun : Trailing.loopRun c ph w log = _ := rfl
  have hscan := w.handler.exec_selectEntries ha.entry hrun
    (I := fun s => s.1.2.At ph e L ∧ s.2 = log) (P := fun s => Recovering c.config ph (s.1.2, s.2))
    (by
      rintro hu s ⟨hat, rfl⟩
      obtain ⟨e', hat', hstep⟩ := attemptStep_tryRecoverEntry s.1.1 hat hu
      obtain ⟨hp', hr'⟩ := hstep.keeps hu hr hp
      rw [loopStep, if_pos rfl]
      exact ⟨hp', e', L, hat', hr'⟩)
    (by
      rintro s k hk ⟨hat, hlog⟩
      rw [loopStep, if_neg hk]
      exact ⟨(onlyAt_tryRecoverEntry s.1.1 s.1.2 k).at_ne (Ne.symm hk) hat, hlog⟩)
    hother ⟨ha, rfl⟩
  split at hscan
  · exact hscan
  · obtain ⟨hat, hlog⟩ := hscan
    rw [hlog]
    exact ⟨hp, e, L, hat, hr⟩

theorem Recovering.scanStep {s : World β × List Attempt} {f : World β → World β}
    (h : Recovering c.config ph s) (hf : Spares ph f) :
    Recovering c.config ph (scanStep c ph s f) := by
  obtain ⟨hp, e, L, ha, hr⟩ := h
  have hbefore : Recovering c.config ph (f s.1, s.2) :=
    ⟨hp, e, (f s.1).liveFor ph, ⟨(hf s.1).trans ha.entry, rfl⟩, hr⟩
  have hafter := hbefore.loopRun
  rw [fst_loopRun] at hafter
  exact hafter

/-- In every run the attempts are as far apart as `calculateRecoveryBackoff` says. -/
theorem paced_run {reason : String} (he : w.handler.getEntry ph = some e)
    (hs : e.status = .priceSourceUnavailable reason 0 none) {fs : List (World β → World β)}
    (hfs : ∀ f ∈ fs, Spares ph f) :
    Paced (calculateRecoveryBackoff c.config) (Run.exec (scanStep c ph) (w, []) fs).2 := by
  have hstart : Recovering c.config ph (w, []) := by
    refine ⟨fun i a a' h => by simp at h, e, w.liveFor ph, ⟨he, rfl⟩, ?_⟩
    simp [hs, Recorded]
  have hg : Run.Guarded (scanStep c ph) (fun _ f => Spares ph f) (w, []) fs :=
    Run.guarded_iff.mpr fun fs' f hp => hfs f (hp.subset (by simp))
  exact (Run.exec_inv (fun s f h hf => h.scanStep hf) hstart hg).1

theorem Paced.mono {wait' : ℕ → Duration} (h : Paced wait log)
    (hle : ∀ n, 1 ≤ n → wait' n ≤ wait n) : Paced wait' log := by
  intro i a a' ha ha'
  obtain ⟨t, ht, hw⟩ := h i a a' ha ha'
  exact ⟨t, ht, (hle (i + 1) (by omega)).trans hw⟩

/-- The waits are the documented ones, they never shrink, and in every run of scans from the moment
that an entry lost its feed each attempt keeps the wait, exactly if 20 doublings are enough. -/
theorem recovery_backoff_exact_iff (c : Ctx β)
    (hmax : c.config.maxRecoveryBackoff < 2 ^ 64 * 10 ^ 9) :
    ((∀ n, 1 ≤ n → n < 2 ^ 32 →
        calculateRecoveryBackoff c.config n =
          min (c.config.recoveryInterval * 2 ^ (n - 1)) c.config.maxRecoveryBackoff) ∧
      (∀ m n, m ≤ n → calculateRecoveryBackoff c.config m ≤ calculateRecoveryBackoff c.config n) ∧
      ∀ (ph : String) (w : World β) (e : TrailingEntry) (reason : String)
        (fs : List (World β → World β)), w.handler.getEntry ph = some e →
        e.status = .priceSourceUnavailable reason 0 none → (∀ f ∈ fs, Spares ph f) →
        Paced (fun n => min (c.config.recoveryInterval * 2 ^ (n - 1)) c.config.maxRecoveryBackoff)
          (Run.exec (scanStep c ph) (w, []) fs).2) ↔
      c.config.recoveryInterval = 0 ∨
        c.config.maxRecoveryBackoff ≤ c.config.recoveryInterval * 2 ^ 20 := by
  constructor
  · rintro ⟨h, -, -⟩
    exact (backoff_documented_iff hmax).mp h
  · intro h
    refine ⟨(backoff_documented_iff hmax).mpr h, fun m n => calculateRecoveryBackoff_mono hmax,
      fun ph w e reason fs he hs hfs => (paced_run he hs hfs).mono fun n hn => ?_⟩
    -- Also past the largest count that an entry can hold.
    have heq : calculateRecoveryBackoff c.config n = documentedBackoff c.config n := by
      rw [calculateRecoveryBackoff_eq hmax hn, documentedBackoff, Doubling.delay_min_eq_iff]
      exact .inr h
    exact heq.ge

/-- With the default configuration the 40th wait is the maximum, as documented. -/
theorem recovery_backoff_exact_default :
    Ctx.simulated.config.maxRecoveryBackoff < 2 ^ 64 * 10 ^ 9 ∧
      calculateRecoveryBackoff Ctx.simulated.config 40 =
        min (Ctx.simulated.config.recoveryInterval * 2 ^ 39)
          Ctx.simulated.config.maxRecoveryBackoff :=
  ⟨by decide, ((recovery_backoff_exact_iff Ctx.simulated (by decide)).mpr (by decide)).1 40
    (by decide) (by decide)⟩

/-- An interval of 1 ms with a maximum of one hour: after 22 failures the wait is 2^20 ms
(17 minutes) where 2^21 ms are documented. -/
theorem backoff_stops_doubling :
    let config : TrailingStopConfig :=
      { recoveryInterval := 10 ^ 6, maxRecoveryBackoff := 3600 * 10 ^ 9 }
    calculateRecoveryBackoff config 22 = 2 ^ 20 * 10 ^ 6 ∧
      min (config.recoveryInterval * 2 ^ (22 - 1)) config.maxRecoveryBackoff = 2 ^ 21 * 10 ^ 6 := by
  decide

end Gateway.Trailing
