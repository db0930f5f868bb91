import TradingGateway.Exit.Indexes

/-!
# The sweeps of the exit handler

`clear_failed_entries` removes the failed entries, `cleanup_expired_entries` those older than the
TTL. Neither looks at the orders of an entry: a failed leg may still have orders from earlier fills,
and an old leg is as a rule one whose orders rest at the provider.

* `sweeps_keep_live_iff`: a sweep loses no active order exactly if no entry that it takes has one.
-/

namespace Gateway.Exit

namespace ExitEntry

/-- An order of the entry covers the position. -/
def hasActive (e : ExitEntry) : Bool := e.actualOrders.any ActualOrder.isActive

def isFailed (e : ExitEntry) : Bool :=
  match e.status with
  | .failed .. => true
  | _ => false

/-- The entry is older than the TTL. -/
def isOverdue (config : ExitHandlerConfig) (now : Instant) (e : ExitEntry) : Bool :=
  now - e.createdAt > config.entryTtl

end ExitEntry

/-- Every entry with an active order is tracked as before, with the same orders; every other entry
that is due is gone from the table and from the list of its primary order. -/
structure KeepsLive (due : ExitEntry → Bool) (h h' : ExitHandler) : Prop where
  live : ∀ k e, h.getEntry k = some e → e.hasActive = true →
    ∃ e', h'.getEntry k = some e' ∧ e'.actualOrders = e.actualOrders
  rest : ∀ k e, h.getEntry k = some e → e.hasActive = false → due e = true →
    h'.getEntry k = none ∧ k ∉ h'.getPlaceholdersForPrimary e.primaryOrderId

/-- The keys of the entries that are due. -/
def ExitHandler.dueKeys (h : ExitHandler) (due : ExitEntry → Bool) : List String :=
  (h.pendingByPlaceholder.toList.filter fun ke => due ke.2).map Prod.fst

variable {h h' : ExitHandler} {due : ExitEntry → Bool}

theorem mem_dueKeys {k : String} :
    k ∈ h.dueKeys due ↔ ∃ e, h.getEntry k = some e ∧ due e = true := by
  unfold ExitHandler.dueKeys
  rw [List.mem_map]
  constructor
  · rintro ⟨⟨k, e⟩, hm, rfl⟩
    obtain ⟨hin, hdue⟩ := List.mem_filter.mp hm
    exact ⟨e, Table.mem_toList.mp hin, hdue⟩
  · rintro ⟨e, he, hdue⟩
    exact ⟨(k, e), List.mem_filter.mpr ⟨Table.mem_toList.mpr he, hdue⟩, rfl⟩

theorem mem_dueKeys_of_getEntry {k : String} {e : ExitEntry} (he : h.getEntry k = some e) :
    k ∈ h.dueKeys due ↔ due e = true := by
  rw [mem_dueKeys, he]
  simp

namespace ExitHandler.Takes

variable (ht : Takes (h.dueKeys due) h h') {k : String} {e : ExitEntry}

include ht

/-- An entry that is due goes from both maps. -/
theorem gone (he : h.getEntry k = some e) (hdue : due e = true) :
    h'.getEntry k = none ∧ k ∉ h'.getPlaceholdersForPrimary e.primaryOrderId := by
  have hk := (mem_dueKeys_of_getEntry he).mpr hdue
  refine ⟨by rw [ht.entry, if_pos hk], fun hin => ?_⟩
  rw [ht.list] at hin
  have hkept := (List.mem_filter.mp hin).2
  simp [hk, he] at hkept

/-- Every other entry stays as it is. -/
theorem stays (he : h.getEntry k = some e) (hdue : due e = false) : h'.getEntry k = some e := by
  rw [ht.entry, if_neg, he]
  rw [mem_dueKeys_of_getEntry he, hdue]
  exact Bool.false_ne_true

theorem keepsLive_iff :
    KeepsLive due h h' ↔ ∀ k e, h.getEntry k = some e → due e = true → e.hasActive = false := by
  constructor
  · intro hkeep k e he hdue
    by_contra hactive
    obtain ⟨e', he', -⟩ := hkeep.live k e he (Bool.eq_true_of_not_eq_false hactive)
    cases (ht.gone he hdue).1.symm.trans he'
  · intro hnone
    refine ⟨fun k e he hactive => ⟨e, ht.stays he ?_, rfl⟩, fun k e he _ hdue => ht.gone he hdue⟩
    by_contra hdue
    have hidle := hnone k e he (Bool.eq_true_of_not_eq_false hdue)
    cases hidle.symm.trans hactive

end ExitHandler.Takes

/-- Maintenance keeps the live orders tracked and removes every other failed, or overdue, entry
exactly if no failed, or overdue, entry has an active order. -/
theorem sweeps_keep_live_iff (hkeyed : ∀ k e, h.getEntry k = some e → e.placeholderId = k)
    (config : ExitHandlerConfig) (now : Instant) :
    (KeepsLive ExitEntry.isFailed h h.clearFailedEntries ↔
      ∀ k e, h.getEntry k = some e → e.isFailed = true → e.hasActive = false) ∧
    (KeepsLive (ExitEntry.isOverdue config now) h (h.cleanupExpiredEntries config now).2 ↔
      ∀ k e, h.getEntry k = some e → e.isOverdue config now = true → e.hasActive = false) := by
  have hfailed : h.Takes (h.dueKeys ExitEntry.isFailed) h.clearFailedEntries :=
    h.takes_clearFailedEntries
  have hoverdue : h.Takes (h.dueKeys (ExitEntry.isOverdue config now))
      (h.cleanupExpiredEntries config now).2 :=
    ExitHandler.takes_cleanupExpiredEntries (hkeyed _ _) config now
  exact ⟨hfailed.keepsLive_iff, hoverdue.keepsLive_iff⟩

/-- A handler with one leg, which failed before any order was placed. -/
def failedLeg : ExitHandler :=
  (ExitHandler.new {}).insertEntryInner
    ((legEntry .simulated "p" sampleBracket .stopLoss 90 0).setStatus (.failed "refused" 4 []))

theorem getEntry_failedLeg {k : String} {e : ExitEntry} (he : failedLeg.getEntry k = some e) :
    e.placeholderId = k ∧ e.actualOrders = [] := by
  rw [failedLeg, ExitHandler.getEntry_insertEntryInner] at he
  split at he
  · rename_i hk
    cases he
    exact ⟨hk.symm, rfl⟩
  · cases he

/-- A leg that failed without orders is cleared. -/
theorem sweeps_keep_live_failedLeg :
    KeepsLive ExitEntry.isFailed failedLeg failedLeg.clearFailedEntries := by
  have hkeyed := fun k e he => (getEntry_failedLeg (k := k) (e := e) he).1
  refine (sweeps_keep_live_iff hkeyed {} 0).1.mpr fun k e he _ => ?_
  rw [ExitEntry.hasActive, (getEntry_failedLeg he).2]
  rfl

/-- A bracket of which 4 of 10 units filled. -/
def partlyFilled : World (List (String × OrderRequest)) :=
  ((handleFill .simulated "p" 4 10 none none).run
    ((register .simulated "p" sampleBracket).run (World.initial {} [])).2).2

/-- The rest fills, and the provider refuses the second exit orders. -/
def thenRefused : World (List (String × OrderRequest)) :=
  ((handleFill
    { Ctx.simulated with
      adapter := { TradingAdapter.simulated with
        submitOrder := fun _ b => (.error (.internal "down"), b) } }
    "p" 10 10 none none).run partlyFilled).2

/-- An entry with an active order that is gone was forgotten. -/
theorem not_keepsLive (k : String) (hactive : (h.getEntry k).any ExitEntry.hasActive = true)
    (hgone : (h'.getEntry k).isNone = true) : ¬ KeepsLive due h h' := by
  intro hkeep
  obtain ⟨e, he, ha⟩ := (Option.any_eq_true ..).mp hactive
  obtain ⟨e', he', -⟩ := hkeep.live k e he ha
  rw [he'] at hgone
  cases hgone

/-- Both sweeps forget the exit order over 4 units that rests at the provider. -/
theorem sweeps_forget_live :
    ¬ KeepsLive ExitEntry.isFailed thenRefused.handler thenRefused.handler.clearFailedEntries ∧
      ¬ KeepsLive (ExitEntry.isOverdue {} (86400 * 10 ^ 9 + 1)) partlyFilled.handler
        (partlyFilled.handler.cleanupExpiredEntries {} (86400 * 10 ^ 9 + 1)).2 :=
  ⟨not_keepsLive "exit:sl:p" (by decide +kernel) (by decide +kernel),
    not_keepsLive "exit:sl:p" (by decide +kernel) (by decide +kernel)⟩

end Gateway.Exit
