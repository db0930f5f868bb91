import TradingGateway.Events.Steps
import TradingGateway.Exit.MoveBooks

/-!
# The announcement of failed exits after a reconnect

A reconciliation lists the failed exit entries, waits for the state of the circuit breaker, sends
one notification for each primary order, and then removes every failed entry. Meanwhile the other
tasks go on: exits fail, strategies connect and disconnect.

* `Reconcile`, `step`: the reconciliations of a router, one after the other, with the steps of the
  other tasks between theirs. `world_announce` ties them to `rebroadcastUnprotectedPositions`.
* `Covered`: an entry that is failed since the list was taken has a notification, sent or to come.
* `forgets_delivered_iff`: an entry goes only if its notification was accepted, exactly if no
  entry failed since the list was taken, and no notification for the others was lost.
-/

namespace Gateway.Exit

/-- The primary order of the entry, if it has failed. -/
def ExitHandler.failedFor (h : ExitHandler) (k : String) : Option String :=
  (h.getEntry k).bind fun e => if e.isFailed then some e.primaryOrderId else none

variable {h : ExitHandler} {k p : String}

theorem failedFor_eq_some :
    h.failedFor k = some p ↔
      ∃ e, h.getEntry k = some e ∧ e.isFailed = true ∧ e.primaryOrderId = p := by
  unfold ExitHandler.failedFor
  simp only [Option.bind_eq_some_iff, Option.ite_none_right_eq_some, Option.some.injEq]

/-- The keys under which an entry has failed that had not before. -/
def ExitHandler.newlyFailed (h h' : ExitHandler) : List String :=
  (h'.dueKeys ExitEntry.isFailed).filter fun k => h'.failedFor k ≠ h.failedFor k

theorem mem_newlyFailed {h' : ExitHandler} (hk : h'.failedFor k = some p)
    (hnew : h.failedFor k ≠ some p) : k ∈ h.newlyFailed h' := by
  obtain ⟨e, he, hfailed, -⟩ := failedFor_eq_some.mp hk
  refine List.mem_filter.mpr ⟨mem_dueKeys.mpr ⟨e, he, hfailed⟩, decide_eq_true ?_⟩
  rw [hk]
  exact hnew.symm

theorem mem_primaries_getFailedEntries (hk : h.failedFor k = some p) :
    p ∈ h.getFailedEntries.map FailedExitInfo.primaryOrderId := by
  obtain ⟨e, he, hfailed, rfl⟩ := failedFor_eq_some.mp hk
  unfold ExitEntry.isFailed at hfailed
  split at hfailed
  · rename_i error retries orders hstatus
    have hinfo : e.failedInfo = some ⟨e.primaryOrderId, e.symbol, e.orderType, error,
        orders.map ActualOrder.orderId⟩ := by
      unfold ExitEntry.failedInfo
      rw [hstatus]
    exact List.mem_map.mpr ⟨_, mem_getFailedEntries.mpr ⟨k, e, he, hinfo⟩, rfl⟩
  · cases hfailed

theorem keys_groupByKey {α : Type} (xs : List (String × α)) :
    ((groupByKey xs).map Prod.fst).Nodup ∧
      ∀ key, key ∈ (groupByKey xs).map Prod.fst ↔ key ∈ xs.map Prod.fst := by
  have hkeys : (groupByKey xs).map Prod.fst = (xs.map Prod.fst).reverse.dedup.reverse := by
    unfold groupByKey
    rw [List.map_map]
    exact List.map_id _
  rw [hkeys]
  refine ⟨List.nodup_reverse.mpr (List.nodup_dedup _), fun key => ?_⟩
  rw [List.mem_reverse, List.mem_dedup, List.mem_reverse]

/-- The failed entries are those that the sweep removes. -/
theorem cleared_iff {e : ExitEntry} (he : h.getEntry k = some e) :
    h.clearFailedEntries.getEntry k = none ↔ e.isFailed = true := by
  have ht : h.Takes (h.dueKeys ExitEntry.isFailed) h.clearFailedEntries :=
    h.takes_clearFailedEntries
  constructor
  · intro hgone
    by_contra hfailed
    rw [ht.stays he (Bool.eq_false_of_not_eq_true hfailed)] at hgone
    cases hgone
  · intro hfailed
    exact (ht.gone he hfailed).1

end Gateway.Exit

namespace Gateway.Events

/-! ## Reconciliations among other tasks -/

/-- How far a reconciliation is. -/
inductive Phase where
  /-- None is running. -/
  | idle
  /-- The cached orders are compared with the provider's; missed fills are handled. -/
  | checking
  /-- The list is taken; the state of the circuit breaker is awaited. -/
  | listed (failed : List Exit.FailedExitInfo)
  /-- The notifications still to be sent; then the failed entries are removed. -/
  | sending (circuitBreakerOpen : Bool) (rest : List (String × List Exit.FailedExitInfo))
  deriving DecidableEq, Repr

/-- A router with its reconciliation, and what this one did so far. -/
structure Reconcile (β γ : Type) where
  world : World β γ
  phase : Phase
  /-- The primary orders whose notification was accepted when a missed fill was handled. -/
  alerted : List String
  /-- The notifications that were sent again, with the channel's answer. -/
  sent : List (String × Bool)
  /-- The keys under which an entry failed since the list was taken. -/
  late : List String

inductive ReconcileAction where
  | begin
  /-- The reconciliation handles a missed fill and announces the exits that fail. -/
  | missedFill (order : Order) (results : List Exit.PlacementResult)
  /-- The next step of the reconciliation. -/
  | next
  /-- Other tasks change the exit entries. -/
  | others (handler : Exit.ExitHandler)
  /-- Strategies connect, disconnect and read. -/
  | channel (receivers : List (List WsMessage))

variable {β γ : Type}

def World.setHandler (w : World β γ) (handler : Exit.ExitHandler) : World β γ :=
  { w with exit := { w.exit with handler } }

namespace Reconcile

def handler (s : Reconcile β γ) : Exit.ExitHandler := s.world.exit.handler

/-- No reconciliation runs yet. -/
def start (w : World β γ) : Reconcile β γ := ⟨w, .idle, [], [], []⟩

/-- Send the notification for a primary order again. -/
def sendAgain (s : Reconcile β γ) (circuitBreakerOpen : Bool)
    (group : String × List Exit.FailedExitInfo) : Reconcile β γ :=
  let message := rebroadcastMessage group.1 group.2 circuitBreakerOpen
  { s with
    world := s.world.broadcastCritical message
    sent := s.sent ++ [(group.1, (s.world.broadcaster.send message).1)] }

def next (s : Reconcile β γ) : Reconcile β γ :=
  match s.phase with
  | .idle => s
  | .checking =>
    if s.handler.getFailedEntries.isEmpty then { s with phase := .idle }
    else { s with phase := .listed s.handler.getFailedEntries, late := [] }
  | .listed failed =>
    { s with
      phase := .sending s.handler.circuitBreaker.isOpen
        (Exit.groupByKey (failed.map fun e => (e.primaryOrderId, e)))
      sent := [] }
  | .sending circuitBreakerOpen (group :: rest) =>
    { s.sendAgain circuitBreakerOpen group with phase := .sending circuitBreakerOpen rest }
  | .sending _ [] =>
    { s with world := s.world.setHandler s.handler.clearFailedEntries, phase := .idle }

def step (s : Reconcile β γ) : ReconcileAction → Reconcile β γ
  | .begin =>
    match s.phase with
    | .idle => { s with phase := .checking, alerted := [] }
    | _ => s
  | .missedFill order results =>
    match s.phase with
    | .checking =>
      { s with
        world := broadcastUnprotectedPositionIfNeeded order results s.world
        alerted :=
          if (failedExits results).isEmpty || s.world.broadcaster.receivers.isEmpty then s.alerted
          else s.alerted ++ [order.id] }
    | _ => s
  | .next => s.next
  | .others handler =>
    { s with
      world := s.world.setHandler handler
      late := s.late ++ s.handler.newlyFailed handler }
  | .channel receivers => { s with world := { s.world with broadcaster := ⟨receivers⟩ } }

theorem world_sends (circuitBreakerOpen : Bool) (groups : List (String × List Exit.FailedExitInfo))
    (s : Reconcile β γ) (hphase : s.phase = .sending circuitBreakerOpen groups) :
    (next^[groups.length + 1] s).world =
      (groups.foldl (fun w group => w.broadcastCritical
        (rebroadcastMessage group.1 group.2 circuitBreakerOpen)) s.world).setHandler
          s.handler.clearFailedEntries := by
  induction groups generalizing s with
  | nil =>
    show s.next.world = _
    unfold next
    rw [hphase]
    rfl
  | cons group rest ih =>
    have hnext : s.next =
        { s.sendAgain circuitBreakerOpen group with
          phase := .sending circuitBreakerOpen rest } := by
      unfold next
      rw [hphase]
    rw [List.length_cons, Function.iterate_succ_apply, hnext, ih _ rfl]
    rfl

/-- Without other tasks the steps are those of the router: the entries of the list are announced,
and the failed ones removed. -/
theorem world_announce (s : Reconcile β γ) {failed : List Exit.FailedExitInfo}
    (hphase : s.phase = .listed failed) :
    (next^[(Exit.groupByKey (failed.map fun e => (e.primaryOrderId, e))).length + 2] s).world =
      (rebroadcastUnprotectedPositions failed s.world).setHandler
        s.handler.clearFailedEntries := by
  have hnext : s.next =
      { s with
        phase := .sending s.handler.circuitBreaker.isOpen
          (Exit.groupByKey (failed.map fun e => (e.primaryOrderId, e)))
        sent := [] } := by
    unfold next
    rw [hphase]
  rw [Function.iterate_succ_apply, hnext, world_sends _ _ _ rfl]
  unfold rebroadcastUnprotectedPositions
  -- the sends leave the handler alone, and so the state of the breaker
  have hsame (groups : List (String × List Exit.FailedExitInfo)) (w : World β γ)
      (hw : w.exit = s.world.exit) :
      groups.foldl (fun w group => w.broadcastCritical
          (rebroadcastMessage group.1 group.2 s.handler.circuitBreaker.isOpen)) w =
        groups.foldl (fun w group => w.broadcastCritical
          (rebroadcastMessage group.1 group.2 w.exit.handler.circuitBreaker.isOpen)) w := by
    induction groups generalizing w with
    | nil => rfl
    | cons group rest ih =>
      have hkept : (w.broadcastCritical (rebroadcastMessage group.1 group.2
          s.handler.circuitBreaker.isOpen)).exit = s.world.exit := hw
      rw [List.foldl_cons, List.foldl_cons, ih _ hkept, hw]
      rfl
  rw [hsame _ _ rfl]
  rfl

/-! ## What was announced -/

/-- The run of a reconciliation has a notification for each entry that is failed since the list was
taken: on the list, to be sent, or sent. -/
def Covered (s : Reconcile β γ) : Prop :=
  match s.phase with
  | .idle | .checking => True
  | .listed failed => ∀ k p, s.handler.failedFor k = some p → k ∉ s.late →
    p ∈ failed.map Exit.FailedExitInfo.primaryOrderId
  | .sending _ rest => (∀ k p, s.handler.failedFor k = some p → k ∉ s.late →
    p ∈ s.sent.map Prod.fst ++ rest.map Prod.fst) ∧
      (s.sent.map Prod.fst ++ rest.map Prod.fst).Nodup

variable {s : Reconcile β γ}

theorem covered_others (h : s.Covered) (handler : Exit.ExitHandler) :
    (s.step (.others handler)).Covered := by
  -- an entry that is not new was failed before, for the same primary order
  have hold {k p : String} (hk : handler.failedFor k = some p)
      (hlate : k ∉ s.late ++ s.handler.newlyFailed handler) :
      s.handler.failedFor k = some p ∧ k ∉ s.late := by
    rw [List.mem_append, not_or] at hlate
    refine ⟨?_, hlate.1⟩
    by_contra hnew
    exact hlate.2 (Exit.mem_newlyFailed hk hnew)
  unfold Covered at h ⊢
  show match s.phase with
    | .idle | .checking => True
    | .listed failed => ∀ k p, handler.failedFor k = some p → _ → _
    | .sending _ rest => (∀ k p, handler.failedFor k = some p → _ → _) ∧ _
  split
  · trivial
  · trivial
  · rename_i failed hphase
    rw [hphase] at h
    intro k p hk hlate
    obtain ⟨hk', hlate'⟩ := hold hk hlate
    exact h k p hk' hlate'
  · rename_i b rest hphase
    rw [hphase] at h
    refine ⟨fun k p hk hlate => ?_, h.2⟩
    obtain ⟨hk', hlate'⟩ := hold hk hlate
    exact h.1 k p hk' hlate'

theorem covered_next (h : s.Covered) : s.next.Covered := by
  unfold next
  cases hphase : s.phase with
  | idle =>
    dsimp only
    exact h
  | checking =>
    dsimp only
    split
    · trivial
    · intro k p hk _
      exact Exit.mem_primaries_getFailedEntries hk
  | listed failed =>
    unfold Covered at h
    rw [hphase] at h
    obtain ⟨hnodup, hkeys⟩ := Exit.keys_groupByKey (failed.map fun e => (e.primaryOrderId, e))
    refine ⟨fun k p hk hlate => ?_, hnodup⟩
    have hp := h k p hk hlate
    show p ∈ [] ++ _
    rw [List.nil_append, hkeys, List.map_map]
    exact hp
  | sending circuitBreakerOpen rest =>
    unfold Covered at h
    rw [hphase] at h
    cases rest with
    | nil => trivial
    | cons group rest =>
      -- the first of the rest is now the last of the sent
      have hmoved : (s.sendAgain circuitBreakerOpen group).sent.map Prod.fst ++
          rest.map Prod.fst = s.sent.map Prod.fst ++ (group :: rest).map Prod.fst := by
        simp [sendAgain]
      show (∀ k p, s.handler.failedFor k = some p → k ∉ s.late → p ∈ _) ∧ List.Nodup _
      dsimp only
      rw [hmoved]
      exact h

theorem covered_step (h : s.Covered) (action : ReconcileAction) : (s.step action).Covered := by
  cases action with
  | begin =>
    simp only [step]
    split
    · trivial
    · exact h
  | missedFill order results =>
    simp only [step]
    split
    · rename_i hphase
      unfold Covered
      simp only [hphase]
    · exact h
  | next => exact covered_next h
  | others handler => exact covered_others h handler
  | channel receivers => exact h

/-! ## When nothing is forgotten -/

/-- A PositionUnprotected notification for the primary order was accepted by the channel in this
reconciliation. -/
def Delivered (s : Reconcile β γ) (primaryOrderId : String) : Prop :=
  primaryOrderId ∈ s.alerted ∨ (primaryOrderId, true) ∈ s.sent

/-- The step is the removal of the failed entries. -/
def Clears (s : Reconcile β γ) (action : ReconcileAction) : Prop :=
  action = .next ∧ ∃ circuitBreakerOpen, s.phase = .sending circuitBreakerOpen []

/-- An entry that the removal takes was announced, and has not failed since the list was taken. -/
def ForgetsDelivered (s : Reconcile β γ) (action : ReconcileAction) : Prop :=
  s.Clears action → ∀ k e, s.handler.getEntry k = some e →
    (s.step action).handler.getEntry k = none → s.Delivered e.primaryOrderId ∧ k ∉ s.late

/-- No entry has failed since the list was taken, and no notification for an entry that is still
failed was lost, unless another one had been accepted. -/
def AllHeard (s : Reconcile β γ) (action : ReconcileAction) : Prop :=
  s.Clears action → ∀ k p, s.handler.failedFor k = some p →
    k ∉ s.late ∧ ((p, false) ∈ s.sent → p ∈ s.alerted)

theorem forgetsDelivered_iff (h : s.Covered) (action : ReconcileAction) :
    s.ForgetsDelivered action ↔ s.AllHeard action := by
  refine imp_congr_right fun hclears => ?_
  obtain ⟨rfl, circuitBreakerOpen, hphase⟩ := hclears
  unfold Covered at h
  rw [hphase] at h
  dsimp only at h
  rw [List.map_nil, List.append_nil] at h
  obtain ⟨hcovered, hnodup⟩ := h
  have hcleared : (s.step .next).handler = s.handler.clearFailedEntries := by
    show s.next.handler = _
    unfold next
    rw [hphase]
    rfl
  -- a primary order has one answer
  have hanswer {p : String} {b b' : Bool} (hb : (p, b) ∈ s.sent) (hb' : (p, b') ∈ s.sent) :
      b = b' := by
    have hsame := List.inj_on_of_nodup_map hnodup hb hb' rfl
    exact congrArg Prod.snd hsame
  rw [hcleared]
  constructor
  · intro hforgets k p hk
    obtain ⟨e, he, hfailed, rfl⟩ := Exit.failedFor_eq_some.mp hk
    obtain ⟨hdelivered, hlate⟩ := hforgets k e he ((Exit.cleared_iff he).mpr hfailed)
    refine ⟨hlate, fun hlost => ?_⟩
    rcases hdelivered with halerted | hsent
    · exact halerted
    · cases hanswer hlost hsent
  · intro hheard k e he hgone
    have hk := Exit.failedFor_eq_some.mpr ⟨e, he, (Exit.cleared_iff he).mp hgone, rfl⟩
    obtain ⟨hlate, hlost⟩ := hheard k e.primaryOrderId hk
    refine ⟨?_, hlate⟩
    obtain ⟨⟨p, b⟩, hsent, rfl⟩ := List.mem_map.mp (hcovered k _ hk hlate)
    cases b with
    | false => exact .inl (hlost hsent)
    | true => exact .inr hsent

end Reconcile

/-- Over any reconciliations and any steps of the other tasks between, an entry is removed only if
its notification was accepted in the same reconciliation and it had failed before the list was
taken, exactly if each removal meets `AllHeard`. -/
theorem forgets_delivered_iff (w : World β γ) (actions : List ReconcileAction) :
    (∀ before action, before ++ [action] <+: actions →
      (Run.exec Reconcile.step (.start w) before).ForgetsDelivered action) ↔
      Run.Guarded Reconcile.step Reconcile.AllHeard (.start w) actions := by
  rw [← Run.guarded_iff]
  have hstart : (Reconcile.start w).Covered := trivial
  exact Run.guarded_congr (I := Reconcile.Covered)
    (fun _ action h => Reconcile.covered_step h action)
    (fun _ action h => Reconcile.forgetsDelivered_iff h action) hstart actions

/-- The stop loss of a primary order, which could not be placed. -/
def failedStop (primaryOrderId : String) : Exit.ExitEntry :=
  (Exit.legEntry .simulated primaryOrderId sampleBracket .stopLoss 90 0).setStatus
    (.failed "refused" 4 [])

/-- A reconciliation that finds the failed stop loss of `p`, up to the removal. -/
def announceP (receivers : List (List WsMessage)) (handler : Exit.ExitHandler) :
    Reconcile (List (String × OrderRequest)) ℕ :=
  Run.exec Reconcile.step (.start (World.simulated.setHandler Exit.failedLeg))
    [.channel receivers, .begin, .next, .others handler, .next, .next]

/-- Nobody listens, and the failed entry goes all the same; and an entry that fails while the
notification is sent goes without one. -/
theorem forgets_undelivered :
    ¬ (announceP [] Exit.failedLeg).ForgetsDelivered .next ∧
      ¬ (announceP [[]] (Exit.failedLeg.insertEntryInner (failedStop "q"))).ForgetsDelivered
        .next := by
  constructor
  · intro h
    have hclears : (announceP [] Exit.failedLeg).Clears .next := ⟨rfl, false, by decide +kernel⟩
    obtain ⟨hdelivered, -⟩ := h hclears (failedStop "p").placeholderId (failedStop "p")
      (by decide +kernel) (by decide +kernel)
    revert hdelivered
    unfold Reconcile.Delivered
    decide +kernel
  · intro h
    have hclears : (announceP [[]] (Exit.failedLeg.insertEntryInner (failedStop "q"))).Clears
        .next := ⟨rfl, false, by decide +kernel⟩
    obtain ⟨hdelivered, -⟩ := h hclears (failedStop "q").placeholderId (failedStop "q")
      (by decide +kernel) (by decide +kernel)
    revert hdelivered
    unfold Reconcile.Delivered
    decide +kernel

end Gateway.Events
