import TradingGateway.Lib.Interleave
import TradingGateway.Trailing.Ratchet

/-!
# Do terminal entries stay terminal?

Any number of operations run on the trailing-stop handler at the same time, with an executor and a
price source that answer anything. The entry at `ph` may become terminal while an operation on it
waits for an answer.

Some writes of a status check the entry first: a cancellation, a recovery, a price. Others write
whatever is there: `onPrimaryFilled` puts its copy of the entry back, the first stop is recorded as
placed or failed, the feed closes, the entry expires. And a status that is written over the name of
a stop leaves that stop to nobody.

* `Heeds`: the condition on a step, at the state before it.
* `terminal_kept`: in every run whose steps meet it a terminal status stays, and when all operations
  have ended each live stop of the entry is named by the entry.

The proof is by rely and guarantee. The ghost value of a task is the stop that the executor accepted
for it and that it has not recorded yet; every live stop is named by the entry or owed by a task
(`Accounted`).
-/

namespace Gateway.Trailing

open Routine (Op Spec Stable)

/-! ## Operations -/

inductive Operation where
  | cancel (placeholderId : String) (reason : CancellationReason)
  | cancelAsync (placeholderId : String) (reason : CancellationReason)
  | onPrimaryCancelled (primaryOrderId : String)
  | onPrimaryFilled (primaryOrderId : String) (fillPrice : Decimal)
  | onPriceUpdate (symbol : String) (price : Decimal)
  | retryUnavailableEntries
  | onPriceSourceDisconnected (symbol : String)
  deriving DecidableEq, Repr

variable {β ι α : Type}

/-- The code of an operation; nobody waits for its result. -/
def Operation.code (c : Ctx β) : Operation → TrailM β Unit
  | .cancel placeholderId reason => do let _ ← Trailing.cancel placeholderId reason
  | .cancelAsync placeholderId reason => do let _ ← Trailing.cancelAsync c placeholderId reason
  | .onPrimaryCancelled primaryOrderId => do let _ ← Trailing.onPrimaryCancelled primaryOrderId
  | .onPrimaryFilled primaryOrderId fillPrice => do
    let _ ← Trailing.onPrimaryFilled c primaryOrderId fillPrice
  | .onPriceUpdate symbol price => do let _ ← Trailing.onPriceUpdate c symbol price
  | .retryUnavailableEntries => do let _ ← Trailing.retryUnavailableEntries c
  | .onPriceSourceDisconnected symbol => Trailing.onPriceSourceDisconnected symbol

/-- The operations at their start. -/
def operations (c : Ctx β) (ops : ι → Operation) (w : World β) : Conf ι (World β) where
  task i := (ops i).code c
  holder := none
  state := w

/-! ## The condition -/

namespace World

variable (ph : String) (w : World β)

/-- A stop with this id is live for the entry. -/
def Live (id : String) : Prop := ∃ o ∈ w.liveFor ph, o.orderId = id

/-- The entry names this stop. -/
def Names (id : String) : Prop :=
  ∃ e, w.handler.getEntry ph = some e ∧ e.status.stopOrderId = some id

/-- The stop that the entry names, if it names one, is not live. -/
def Unplaced : Prop := ∀ id, w.Names ph id → ¬ w.Live ph id

/-- The entry is not terminal. -/
def Open : Prop := ∀ e, w.handler.getEntry ph = some e → e.status.isTerminal = false

end World

/-- The condition on a step: a status that is written without a check finds the entry open and no
stop in its name; an entry is cancelled only if no stop is live in its name; a moved stop finds the
entry active and the old stop gone; and the executor reports no stop that is not live. -/
structure Heeds (c : Ctx β) (ph : String) (o : Op (World β)) (w : World β) : Prop where
  insert : ∀ entry, entry.placeholderId = ph →
    (modifyHandler fun h => h.insertEntry entry : TrailM β Unit).next = some o →
    w.Open ph ∧ w.Unplaced ph
  write : ∀ status : TrailingEntry → TrailingEntryStatus,
    (modifyHandler fun h => h.updateStatus ph fun e => some (status e) : TrailM β Unit).next =
      some o → w.Open ph ∧ w.Unplaced ph
  cancel : ∀ reason, (markCancelled ph reason : TrailM β _).next = some o → w.Unplaced ph
  moved : ∀ id stopPrice,
    (modifyHandler fun h => h.updateStatus ph (movedStatus id stopPrice) : TrailM β Unit).next =
      some o →
    (w.Live ph id → ∃ id', w.Names ph id') ∧ ∀ id', w.Names ph id' → w.Live ph id' → id' = id
  reported : ∀ id symbol s, (getStopOrderStatus c ph id symbol).next = some o →
    (c.executor.getStopOrderStatus id symbol w.outside).1 = .ok s → s.isActive = true →
    w.Live ph s.orderId

/-! ## Rely and guarantee -/

section RelyGuarantee

variable (ph : String) (i : ι)

/-- Each live stop is named by the entry, or owed by a task. -/
def Accounted (x : World β × (ι → Option String)) : Prop :=
  ∀ id, x.1.Live ph id → x.1.Names ph id ∨ ∃ j, x.2 j = some id

/-- The entry stays, and so does a terminal status. -/
def KeepsEntry (w w' : World β) : Prop :=
  ∀ e, w.handler.getEntry ph = some e → ∃ e', w'.handler.getEntry ph = some e' ∧
    (e.status.isTerminal = true → e'.status = e.status)

/-- A step of task `i`. -/
structure TaskStep (x y : World β × (ι → Option String)) : Prop where
  others : ∀ j, j ≠ i → y.2 j = x.2 j
  entry : KeepsEntry ph x.1 y.1
  accounted : Accounted ph x → Accounted ph y

/-- What task `i` knows of the steps of the others. -/
structure OtherStep (x y : World β × (ι → Option String)) : Prop where
  own : y.2 i = x.2 i
  entry : (x.1.handler.getEntry ph).isSome = true → (y.1.handler.getEntry ph).isSome = true

theorem TaskStep.other {ph : String} {i j : ι} (hne : i ≠ j) {x y : World β × (ι → Option String)}
    (h : TaskStep ph i x y) : OtherStep ph j x y where
  own := h.others j hne.symm
  entry := by
    intro hsome
    obtain ⟨e, he⟩ := Option.isSome_iff_exists.mp hsome
    obtain ⟨e', he', -⟩ := h.entry e he
    rw [he']
    rfl

end RelyGuarantee

/-! ## What a step does to the entry and its stops -/

section Effects

variable {ph : String} {w w' : World β}

/-- No stop comes to life, and none that is live loses its name. -/
structure Keeps (ph : String) (w w' : World β) : Prop where
  entry : KeepsEntry ph w w'
  live : ∀ id, w'.Live ph id → w.Live ph id ∧ (w.Names ph id → w'.Names ph id)

theorem KeepsEntry.of_eq (h : w'.handler.getEntry ph = w.handler.getEntry ph) :
    KeepsEntry ph w w' := fun e he => ⟨e, by rw [h, he], fun _ => rfl⟩

theorem KeepsEntry.trans {w'' : World β} (h : KeepsEntry ph w w') (h' : KeepsEntry ph w' w'') :
    KeepsEntry ph w w'' := by
  intro e he
  obtain ⟨e', he', hkept⟩ := h e he
  obtain ⟨e'', he'', hkept'⟩ := h' e' he'
  refine ⟨e'', he'', fun hterm => ?_⟩
  have hstatus := hkept hterm
  rw [hkept' (by rw [hstatus]; exact hterm), hstatus]

theorem World.names_congr (h : w'.handler.getEntry ph = w.handler.getEntry ph) (id : String) :
    w'.Names ph id ↔ w.Names ph id := by
  unfold World.Names
  rw [h]

theorem World.live_congr (h : w'.liveFor ph = w.liveFor ph) (id : String) :
    w'.Live ph id ↔ w.Live ph id := by
  unfold World.Live
  rw [h]

theorem Keeps.of_eq (he : w'.handler.getEntry ph = w.handler.getEntry ph)
    (hl : w'.liveFor ph = w.liveFor ph) : Keeps ph w w' :=
  ⟨.of_eq he, fun id hid => ⟨(World.live_congr hl id).mp hid, (World.names_congr he id).mpr⟩⟩

theorem Keeps.refl : Keeps ph w w := .of_eq rfl rfl

theorem Keeps.outside (b : β) : Keeps ph w { w with outside := b } := .of_eq rfl rfl

variable {k : String} {f : TrailingEntry → Option TrailingEntryStatus}

theorem Keeps.of_onlyAt (hk : ph ≠ k) (h : World.OnlyAt k w w') : Keeps ph w w' :=
  .of_eq (h.entry ph hk) (h.live ph hk)

theorem Keeps.dropStop (k id : String) (b : β) :
    Keeps ph w ({ w with outside := b }.dropStop k id) := by
  refine ⟨.of_eq rfl, fun id' hid' => ⟨?_, fun hname => hname⟩⟩
  obtain ⟨o, ho, rfl⟩ := hid'
  refine ⟨o, ?_, rfl⟩
  simp only [World.liveFor, World.dropStop, List.mem_filter] at ho ⊢
  exact ⟨ho.1.1, ho.2⟩

/-- An unchecked status for an open entry that names no live stop. -/
theorem Keeps.write (hopen : w.Open ph) (hun : w.Unplaced ph)
    (he : ∀ e, w.handler.getEntry ph = some e → ∃ e', w'.handler.getEntry ph = some e')
    (hl : w'.liveFor ph = w.liveFor ph) : Keeps ph w w' := by
  constructor
  · intro e hget
    obtain ⟨e', he'⟩ := he e hget
    refine ⟨e', he', fun hterm => ?_⟩
    rw [hopen e hget] at hterm
    cases hterm
  · intro id hid
    have hid' := (World.live_congr hl id).mp hid
    exact ⟨hid', fun hnames => absurd hid' (hun id hnames)⟩

theorem Keeps.writeStatus (hopen : w.Open ph) (hun : w.Unplaced ph)
    (status : TrailingEntry → TrailingEntryStatus) :
    Keeps ph w { w with handler := w.handler.updateStatus ph fun e => some (status e) } :=
  .write hopen hun (fun _ he => ⟨_, w.handler.getEntry_updateStatus_self he rfl⟩) rfl

/-- A status of another entry changes nothing for ours. -/
theorem Keeps.updateStatus
    (h : k = ph → Keeps ph w { w with handler := w.handler.updateStatus k f }) :
    Keeps ph w { w with handler := w.handler.updateStatus k f } := by
  by_cases hk : k = ph
  · exact h hk
  · exact .of_onlyAt (Ne.symm hk) (w.onlyAt_updateStatus k f)

/-- The new status keeps the name of the stop, and is given to no terminal entry. -/
def Careful (f : TrailingEntry → Option TrailingEntryStatus) : Prop :=
  ∀ e status, f e = some status →
    e.status.isTerminal = false ∧ status.stopOrderId = e.status.stopOrderId

theorem getEntry_updateStatus_none (h : ∀ e, w.handler.getEntry ph = some e → f e = none) :
    (w.handler.updateStatus ph f).getEntry ph = w.handler.getEntry ph := by
  rw [TrailingStopHandler.updateStatus, TrailingStopHandler.getEntry_modifyEntry_self]
  cases hget : w.handler.getEntry ph with
  | none => rfl
  | some e => simp [h e hget]

theorem Keeps.careful (hf : Careful f) :
    Keeps ph w { w with handler := w.handler.updateStatus ph f } := by
  cases hget : w.handler.getEntry ph with
  | none =>
    exact .of_eq (getEntry_updateStatus_none fun e he => by rw [hget] at he; cases he) rfl
  | some e =>
    cases hstatus : f e with
    | none =>
      refine .of_eq (getEntry_updateStatus_none fun e' he' => ?_) rfl
      cases hget.symm.trans he'
      exact hstatus
    | some status =>
      obtain ⟨hopen, hname⟩ := hf e status hstatus
      have hself := w.handler.getEntry_updateStatus_self hget hstatus
      constructor
      · intro e₀ he₀
        cases hget.symm.trans he₀
        refine ⟨_, hself, fun hterm => ?_⟩
        rw [hopen] at hterm
        cases hterm
      · intro id hid
        refine ⟨hid, ?_⟩
        rintro ⟨e₀, he₀, hid₀⟩
        cases hget.symm.trans he₀
        exact ⟨_, hself, hname.trans hid₀⟩

variable [DecidableEq ι] {i : ι} {g : ι → Option String}

/-- A step after which the task owes `d`: each stop that is live then is named, or owed by the task,
or it was live before and neither lost its name nor was owed by the task. -/
theorem TaskStep.of_live {d : Option String} (he : KeepsEntry ph w w')
    (hl : ∀ id, w'.Live ph id → w'.Names ph id ∨ d = some id ∨
      w.Live ph id ∧ (w.Names ph id → w'.Names ph id) ∧ (g i = some id → d = some id)) :
    TaskStep ph i (w, g) (w', Function.update g i d) where
  others j hj := Function.update_of_ne hj ..
  entry := he
  accounted hacc := by
    intro id hid
    rcases hl id hid with hnamed | hown | ⟨hlive, hname, hkeep⟩
    · exact .inl hnamed
    · exact .inr ⟨i, (Function.update_self ..).trans hown⟩
    · rcases hacc id hlive with hnamed | ⟨j, hj⟩
      · exact .inl (hname hnamed)
      · refine .inr ⟨j, ?_⟩
        by_cases hji : j = i
        · subst hji
          exact (Function.update_self ..).trans (hkeep hj)
        · exact (Function.update_of_ne hji ..).trans hj

theorem Keeps.taskStep (h : Keeps ph w w') : TaskStep ph i (w, g) (w', g) := by
  have hstep := TaskStep.of_live (g := g) (i := i) (d := g i) h.entry fun id hid =>
    .inr (.inr ⟨(h.live id hid).1, (h.live id hid).2, fun howes => howes⟩)
  rwa [Function.update_eq_self] at hstep

end Effects

/-! ## Single steps -/

section Steps

variable {c : Ctx β} {ph : String} {i : ι}

/-- A specification of a part of task `i`. -/
def TaskSpec (c : Ctx β) (ph : String) (i : ι) (P : World β × (ι → Option String) → Prop)
    (t : TrailM β α) (Q : α → World β × (ι → Option String) → Prop) : Prop :=
  Spec (Heeds c ph) (OtherStep ph i) (TaskStep ph i) P t Q

/-- Task `i` owes the stop `d`. -/
def Owes (i : ι) (d : Option String) (x : World β × (ι → Option String)) : Prop := x.2 i = d

/-- Task `i` owes nothing before and after `t`. -/
abbrev Balanced (c : Ctx β) (ph : String) (i : ι) (t : TrailM β α) : Prop :=
  TaskSpec c ph i (Owes i none) t fun _ => Owes i none

/-- Task `i` owes the stop `d`; if it works on our entry, the entry is there. -/
def OwesFor (ph : String) (i : ι) (k : String) (d : Option String)
    (x : World β × (ι → Option String)) : Prop :=
  x.2 i = d ∧ (k = ph → (x.1.handler.getEntry ph).isSome = true)

variable (k : String) (ks : List String) (price : Decimal) (d : Option String)
  (reason : CancellationReason) (symbol : String) (stats : RecoveryStats) (id : String)
  (status : TrailingEntry → TrailingEntryStatus) (side : Side) (quantity stopLevel : Decimal)

theorem stable_owes : Stable (OtherStep ph i) (Owes i d : World β × (ι → Option String) → Prop) :=
  fun _ _ h hx => h.own.trans hx

theorem stable_owesFor :
    Stable (OtherStep ph i) (OwesFor ph i k d : World β × (ι → Option String) → Prop) :=
  fun _ _ h hx => ⟨h.own.trans hx.1, fun hk => h.entry (hx.2 hk)⟩

theorem done_spec (a : α) : Balanced c ph i (pure a) :=
  Spec.ret (stable_owes none) fun _ h => h

variable [DecidableEq ι]

/-- The stop that a task owes for `k`. -/
def debt (ph k id : String) : Option String := if k = ph then some id else none

variable (entry : TrailingEntry) (primaryOrderId : String) {f : World β → α × World β} {w : World β}
  {id' : String}

/-- A step that changes nothing for the entry and its stops that matters. -/
theorem keep_spec (h : ∀ w, Heeds c ph ⟨f⟩ w → Keeps ph w (f w).2) :
    Balanced c ph i (Routine.step f) :=
  Spec.step (stable_owes none) (fun _ => stable_owes none) fun w g hw hok =>
    ⟨g, (h w hok).taskStep, hw⟩

theorem keepFor_spec {k : String} {d : Option String}
    (h : ∀ w, Heeds c ph ⟨f⟩ w → Keeps ph w (f w).2) :
    TaskSpec c ph i (OwesFor ph i k d) (Routine.step f) fun _ => OwesFor ph i k d := by
  refine Spec.step (stable_owesFor k d) (fun _ => stable_owesFor k d) fun w g hw hok => ?_
  have hstep := (h w hok).taskStep (i := i) (g := g)
  refine ⟨g, hstep, hw.1, fun hk => ?_⟩
  obtain ⟨e, he⟩ := Option.isSome_iff_exists.mp (hw.2 hk)
  obtain ⟨e', he', -⟩ := hstep.entry e he
  rw [he']
  rfl

theorem read_spec {τ : Type} {f : World β → τ} :
    Balanced c ph i (Routine.read f) :=
  keep_spec fun _ _ => .refl

theorem modify_spec {f : TrailingStopHandler → TrailingStopHandler}
    (hf : ∀ h, (f h).getEntry ph = h.getEntry ph) :
    Balanced c ph i (modifyHandler f) :=
  keep_spec fun w _ => .of_eq (hf w.handler) rfl

theorem outside_spec {τ : Type} {f : β → τ × β} :
    Balanced c ph i (outsideCall f) :=
  keep_spec fun _ _ => .outside _

theorem write_spec :
    Balanced c ph i (modifyHandler fun h => h.updateStatus k fun e => some (status e)) := by
  refine keep_spec fun w hok => .updateStatus fun hk => ?_
  subst hk
  obtain ⟨hopen, hun⟩ := hok.write status rfl
  exact .writeStatus hopen hun status

theorem insert_spec : Balanced c ph i (modifyHandler fun h => h.insertEntry entry) := by
  refine keep_spec fun w hok => ?_
  by_cases hk : entry.placeholderId = ph
  · obtain ⟨hopen, hun⟩ := hok.insert entry hk rfl
    subst hk
    exact .write hopen hun (fun _ _ => ⟨entry, w.handler.getEntry_insertEntry_self entry⟩) rfl
  · exact .of_eq (w.handler.getEntry_insertEntry_ne (Ne.symm hk)) rfl

theorem careful_spec {f : TrailingEntry → Option TrailingEntryStatus} (hf : Careful f) :
    Balanced c ph i (modifyHandler fun h => h.updateStatus k f) := by
  refine keep_spec fun w _ => .updateStatus fun hk => ?_
  subst hk
  exact .careful hf

/-! Cancellation. -/

theorem markCancelled_spec : Balanced c ph i (markCancelled k reason) := by
  refine keep_spec fun w hok => ?_
  cases hget : w.handler.getEntry k with
  | none => exact .refl
  | some e =>
    dsimp only
    split
    · exact .refl
    · rename_i hopen
      refine .updateStatus fun hk => ?_
      subst hk
      have hopen' : w.Open k := by
        intro e' he'
        cases hget.symm.trans he'
        simpa using hopen
      exact .writeStatus hopen' (hok.cancel reason rfl) _

theorem decrementSymbolTask_spec : Balanced c ph i (decrementSymbolTask symbol) := by
  refine modify_spec fun h => ?_
  dsimp only
  split
  · rfl
  · split <;> rfl

theorem cancel_spec : Balanced c ph i (cancel k reason) := by
  refine Spec.bind (markCancelled_spec k reason) fun marked => ?_
  cases marked with
  | none => exact done_spec _
  | some e =>
    refine Spec.bind (modify_spec fun _ => rfl) fun _ => ?_
    refine Spec.bind (decrementSymbolTask_spec e.symbol) fun _ => ?_
    exact done_spec _

theorem cancelStopOrder_spec (orderId symbol : String) :
    Balanced c ph i (cancelStopOrder c k orderId symbol) := by
  refine keep_spec fun w _ => ?_
  cases hresult : (c.executor.cancelStopOrder orderId symbol w.outside).1 with
  | ok u => simpa [hresult] using Keeps.dropStop k orderId _
  | error e => simpa [hresult] using Keeps.outside _

theorem cancelAsync_spec : Balanced c ph i (cancelAsync c k reason) := by
  refine Spec.bind read_spec fun entry => ?_
  cases entry with
  | none => exact done_spec _
  | some entry =>
    dsimp only
    split
    · exact done_spec _
    · cases entry.status.stopOrderId with
      | none => exact cancel_spec k reason
      | some stopOrderId =>
        exact Spec.bind (cancelStopOrder_spec k stopOrderId entry.symbol) fun _ =>
          cancel_spec k reason

theorem cancelForPrimary_spec : Balanced c ph i (cancelForPrimary primaryOrderId reason) := by
  refine Spec.bind read_spec fun placeholderId => ?_
  cases placeholderId with
  | none => exact done_spec _
  | some k => exact cancel_spec k reason

/-! Activation. -/

theorem spawnTrackingTask_spec : Balanced c ph i (spawnTrackingTask c symbol) := by
  unfold spawnTrackingTask
  split
  · refine modify_spec fun h => ?_
    split <;> rfl
  · exact done_spec _

theorem activationPrice_spec : Balanced c ph i (activationPrice c symbol) := by
  refine Spec.bind outside_spec fun cached => ?_
  cases cached with
  | ok price =>
    refine Spec.bind outside_spec fun subscribed => ?_
    cases subscribed <;> exact done_spec _
  | error _ =>
    refine Spec.bind outside_spec fun subscribed => ?_
    cases subscribed with
    | error e => exact done_spec _
    | ok u =>
      refine Spec.bind outside_spec fun first => ?_
      cases first with
      | some price => exact done_spec _
      | none =>
        exact Spec.bind outside_spec fun _ => done_spec _

theorem tryActivateTracking_spec : Balanced c ph i (tryActivateTracking c entry) := by
  refine Spec.bind outside_spec fun _ => ?_
  refine Spec.bind (activationPrice_spec entry.symbol) fun price => ?_
  cases price with
  | error e => exact done_spec _
  | ok price =>
    exact Spec.bind (spawnTrackingTask_spec _) fun _ => done_spec _

theorem onPrimaryFilled_spec (fillPrice : Decimal) :
    Balanced c ph i (onPrimaryFilled c primaryOrderId fillPrice) := by
  refine Spec.bind read_spec fun placeholderId => ?_
  cases placeholderId with
  | none => exact done_spec _
  | some k =>
    refine Spec.bind read_spec fun pending => ?_
    cases pending with
    | false => exact done_spec _
    | true =>
      refine Spec.bind read_spec fun entry => ?_
      cases entry with
      | none => exact done_spec _
      | some entry =>
        refine Spec.bind (tryActivateTracking_spec entry) fun result => ?_
        cases result with
        | ok tracking => exact Spec.bind (insert_spec tracking) fun _ => done_spec _
        | error e =>
          dsimp only
          cases handleActivationFailure entry e with
          | error e => exact done_spec _
          | ok waiting => exact Spec.bind (insert_spec waiting) fun _ => done_spec _

/-! Recovery. -/

theorem storeRecovered_spec (status : TrailingEntryStatus) :
    Balanced c ph i (storeRecovered k status) := by
  refine keep_spec fun w _ => ?_
  cases hget : w.handler.getEntry k with
  | none => exact .refl
  | some e =>
    dsimp only
    split
    · rename_i hwaits
      refine .updateStatus fun hk => ?_
      subst hk
      -- An entry without a feed is open and names no stop.
      have hopen : w.Open k := by
        intro e' he'
        cases hget.symm.trans he'
        cases hs : e.status <;> simp [hs, TrailingEntryStatus.isUnavailable] at hwaits
        rfl
      have hun : w.Unplaced k := by
        rintro id ⟨e', he', hid⟩
        cases hget.symm.trans he'
        cases hs : e.status <;> simp [hs, TrailingEntryStatus.isUnavailable] at hwaits
        simp [hs, TrailingEntryStatus.stopOrderId] at hid
      exact .writeStatus hopen hun _
    · exact .refl

theorem failedRecovery_status (now : Instant) (e : TrailingEntry) :
    ((failedRecovery now e).status.isTerminal = e.status.isTerminal ∧
      (failedRecovery now e).status.stopOrderId = e.status.stopOrderId) ∧
      (e.status.isTerminal = true → failedRecovery now e = e) := by
  unfold failedRecovery
  split
  · rename_i hs
    simp [hs, TrailingEntryStatus.isTerminal, TrailingEntryStatus.stopOrderId]
  · simp

theorem failedRecovery_spec :
    Balanced c ph i (Routine.modify fun w : World β =>
        { w with
          handler := w.handler.modifyEntry k (failedRecovery (c.now w.outside))
            (failedRecovery_placeholderId _) }) := by
  refine keep_spec fun w _ => ?_
  by_cases hk : k = ph
  · subst hk
    have hself := w.handler.getEntry_modifyEntry_self k
      (failedRecovery_placeholderId (c.now w.outside))
    constructor
    · intro e he
      rw [he] at hself
      refine ⟨_, hself, fun hterm => ?_⟩
      rw [(failedRecovery_status _ e).2 hterm]
    · intro id hid
      refine ⟨hid, ?_⟩
      rintro ⟨e, he, hname⟩
      rw [he] at hself
      exact ⟨_, hself, (failedRecovery_status _ e).1.2.trans hname⟩
  · exact .of_eq (w.handler.getEntry_modifyEntry_ne (Ne.symm hk)
      (failedRecovery_placeholderId (c.now w.outside))) rfl

theorem tryRecoverEntry_spec : Balanced c ph i (tryRecoverEntry c k stats) := by
  refine Spec.bind read_spec fun entry => ?_
  cases entry with
  | none => exact done_spec _
  | some entry =>
    refine Spec.bind read_spec fun now => ?_
    split
    · exact Spec.bind (write_spec k _) fun _ => done_spec _
    · exact done_spec _
    · refine Spec.bind (tryActivateTracking_spec entry) fun result => ?_
      cases result with
      | ok recovered =>
        refine Spec.bind (storeRecovered_spec k _) fun stored => ?_
        cases stored <;> exact done_spec _
      | error e => exact Spec.bind (failedRecovery_spec k) fun _ => done_spec _

theorem tryRecoverEntries_spec : Balanced c ph i (tryRecoverEntries c ks stats) := by
  induction ks generalizing stats with
  | nil => exact done_spec _
  | cons k ks ih => exact Spec.bind (tryRecoverEntry_spec k stats) ih

theorem disconnectEntries_spec : Balanced c ph i (disconnectEntries ks) := by
  induction ks with
  | nil => exact done_spec _
  | cons k ks ih => exact Spec.bind (write_spec k _) fun _ => ih

theorem onPriceSourceDisconnected_spec : Balanced c ph i (onPriceSourceDisconnected symbol) := by
  refine Spec.bind read_spec fun entries => ?_
  exact Spec.bind (disconnectEntries_spec entries) fun _ => modify_spec fun _ => rfl

/-! Stops. -/

theorem World.live_addStop {k id : String} {q : Decimal} (h : (w.addStop k id q).Live ph id') :
    k = ph ∧ id' = id ∨ w.Live ph id' := by
  obtain ⟨o, ho, rfl⟩ := h
  by_cases hk : k = ph
  · subst hk
    rw [World.liveFor_addStop_self, List.mem_append, List.mem_singleton] at ho
    rcases ho with hold | rfl
    · exact .inr ⟨o, hold, rfl⟩
    · exact .inl ⟨rfl, rfl⟩
  · rw [World.liveFor_addStop_ne _ (Ne.symm hk)] at ho
    exact .inr ⟨o, ho, rfl⟩

/-- A stop that the executor accepts is owed by the task. -/
theorem Keeps.addStop {w' : World β} {g : ι → Option String} (h : Keeps ph w w') (hg : g i = none)
    (k id : String) (q : Decimal) :
    TaskStep ph i (w, g) (w'.addStop k id q, Function.update g i (debt ph k id)) := by
  refine TaskStep.of_live h.entry fun id' hid' => ?_
  rcases World.live_addStop hid' with ⟨rfl, rfl⟩ | hlive
  · exact .inr (.inl (if_pos rfl))
  · refine .inr (.inr ⟨(h.live id' hlive).1, (h.live id' hlive).2, fun howes => ?_⟩)
    rw [hg] at howes
    cases howes

/-- A task with the answer to a placement or modification for `k`. -/
def Answered (ph : String) (i : ι) (k : String) :
    Except GatewayError PlacedStopOrder → World β × (ι → Option String) → Prop
  | .ok placed => OwesFor ph i k (debt ph k placed.orderId)
  | .error _ => Owes i none

omit [DecidableEq ι] in
theorem stable_answered (r : Except GatewayError PlacedStopOrder) :
    Stable (OtherStep ph i) (Answered ph i k r : World β × (ι → Option String) → Prop) := by
  cases r
  · exact stable_owes none
  · exact stable_owesFor k _

theorem placeStopOrder_spec (r : StopOrderRequest) :
    TaskSpec c ph i (OwesFor ph i k none) (placeStopOrder c k r) (Answered ph i k) := by
  refine Spec.call (stable_owesFor k none) (stable_answered k) fun w g hw _ => ?_
  cases hresult : (c.executor.placeStopOrder r w.outside).1 with
  | error e =>
    simp only [hresult]
    exact ⟨g, Keeps.taskStep (.outside _), hw.1⟩
  | ok placed =>
    simp only [hresult]
    exact ⟨Function.update g i (debt ph k placed.orderId),
      Keeps.addStop (.outside _) hw.1 k _ _, Function.update_self .., hw.2⟩

theorem modifyStopOrder_spec (r : ModifyStopRequest) :
    TaskSpec c ph i (OwesFor ph i k none) (modifyStopOrder c k r) (Answered ph i k) := by
  refine Spec.call (stable_owesFor k none) (stable_answered k) fun w g hw _ => ?_
  cases hresult : (c.executor.modifyStopOrder r w.outside).1 with
  | error e =>
    simp only [hresult]
    exact ⟨g, Keeps.taskStep (.outside _), hw.1⟩
  | ok placed =>
    simp only [hresult]
    exact ⟨Function.update g i (debt ph k placed.orderId),
      Keeps.addStop (.dropStop k r.orderId _) hw.1 k _ _, Function.update_self .., hw.2⟩

theorem record_spec (hid : ∀ e, (status e).stopOrderId = some id) :
    TaskSpec c ph i (OwesFor ph i k (debt ph k id))
      (modifyHandler fun h => h.updateStatus k fun e => some (status e)) fun _ =>
      Owes i none := by
  by_cases hk : k = ph
  · subst hk
    refine Spec.step (stable_owesFor k _) (fun _ => stable_owes none) fun w g hw hok => ?_
    obtain ⟨hopen, hun⟩ := hok.write status rfl
    obtain ⟨e, he⟩ := Option.isSome_iff_exists.mp (hw.2 rfl)
    have hself := w.handler.getEntry_updateStatus_self (f := fun e => some (status e)) he rfl
    have hkeeps := Keeps.writeStatus hopen hun status
    refine ⟨Function.update g i none, TaskStep.of_live hkeeps.entry fun id' hid' => ?_,
      Function.update_self ..⟩
    by_cases hown : id' = id
    · subst hown
      exact .inl ⟨_, hself, hid e⟩
    · refine .inr (.inr ⟨(hkeeps.live id' hid').1, (hkeeps.live id' hid').2, fun howes => ?_⟩)
      cases (hw.1.symm.trans howes).symm.trans (if_pos rfl)
      exact absurd rfl hown
  · exact Spec.pre (write_spec k status) fun x hx => hx.1.trans (if_neg hk)

theorem placeInitialStop_spec :
    TaskSpec c ph i (OwesFor ph i k none)
      (placeInitialStop c k symbol side quantity stopLevel) fun _ => Owes i none := by
  refine Spec.bind (keepFor_spec fun _ _ => .refl) fun opened => ?_
  cases opened with
  | true => exact Spec.ret (stable_owes none) fun _ h => h.1
  | false =>
    refine Spec.bind (placeStopOrder_spec k _) fun result => ?_
    cases result with
    | ok placed =>
      refine Spec.bind (record_spec k placed.orderId _ fun _ => rfl) fun _ => ?_
      exact done_spec _
    | error e =>
      refine Spec.bind (keep_spec fun _ _ => .of_eq rfl rfl) fun _ => ?_
      refine Spec.bind (write_spec k _) fun _ => ?_
      exact done_spec _

/-- An active entry names the moved stop. -/
theorem World.names_moved (h : w.Names ph id') (id : String) (q : Decimal) :
    World.Names ph { w with handler := w.handler.updateStatus ph (movedStatus id q) } id := by
  obtain ⟨e, he, hid⟩ := h
  cases hs : e.status with
  | active id₀ peakPrice stopLevel =>
    have hmoved : movedStatus id q e = some (.active id peakPrice q) := by simp [movedStatus, hs]
    exact ⟨_, w.handler.getEntry_updateStatus_self he hmoved, rfl⟩
  | pending | tracking | triggered | cancelled | failed | priceSourceUnavailable =>
    simp [hs, TrailingEntryStatus.stopOrderId] at hid

theorem keepsEntry_moved (w : World β) (id : String) (q : Decimal) :
    KeepsEntry ph w { w with handler := w.handler.updateStatus ph (movedStatus id q) } := by
  intro e he
  cases hmoved : movedStatus id q e with
  | none =>
    refine ⟨e, ?_, fun _ => rfl⟩
    have hsame : (w.handler.updateStatus ph (movedStatus id q)).getEntry ph =
        w.handler.getEntry ph := by
      refine getEntry_updateStatus_none fun e' he' => ?_
      cases he.symm.trans he'
      exact hmoved
    exact hsame.trans he
  | some status =>
    refine ⟨_, w.handler.getEntry_updateStatus_self he hmoved, fun hterm => ?_⟩
    cases hs : e.status <;>
      simp [hs, movedStatus, TrailingEntryStatus.isTerminal] at hmoved hterm

theorem moved_spec (q : Decimal) {d : Option String} (hd : d = none ∨ d = debt ph k id) :
    TaskSpec c ph i (Owes i d) (modifyHandler fun h => h.updateStatus k (movedStatus id q)) fun _ =>
      Owes i none := by
  by_cases hk : k = ph
  · subst hk
    refine Spec.step (stable_owes d) (fun _ => stable_owes none) fun w g hw hok => ?_
    obtain ⟨hactive, hold⟩ := hok.moved id q rfl
    refine ⟨Function.update g i none,
      TaskStep.of_live (keepsEntry_moved w id q) fun id' hid' => ?_, Function.update_self ..⟩
    have hlive : w.Live k id' := hid'
    by_cases hown : id' = id
    · subst hown
      obtain ⟨id₀, hname⟩ := hactive hlive
      exact .inl (World.names_moved hname id' q)
    · refine .inr (.inr ⟨hlive, fun hname => absurd (hold id' hname hlive) hown, fun howes => ?_⟩)
      have hdebt : d = some id' := hw.symm.trans howes
      rcases hd with rfl | rfl
      · cases hdebt
      · rw [debt, if_pos rfl] at hdebt
        exact absurd (Option.some.inj hdebt).symm hown
  · have hnone : d = none := hd.elim (fun h => h) fun h => h.trans (if_neg hk)
    subst hnone
    exact keep_spec fun w _ => .of_onlyAt (Ne.symm hk) (w.onlyAt_updateStatus k _)

theorem getStopOrderStatus_spec (symbol : String) :
    Balanced c ph i (getStopOrderStatus c k id symbol) := by
  refine keep_spec fun w hok => ?_
  cases hresult : (c.executor.getStopOrderStatus id symbol w.outside).1 with
  | error e => simpa [hresult] using Keeps.outside _
  | ok s =>
    simp only [hresult]
    have hdrop : Keeps ph w
        ({ w with outside := (c.executor.getStopOrderStatus id symbol w.outside).2 }.dropStop k
          id) := .dropStop k id _
    cases hactive : s.isActive with
    | false => exact hdrop
    | true =>
      refine ⟨hdrop.entry, fun id' hid' => ?_⟩
      rcases World.live_addStop hid' with ⟨rfl, rfl⟩ | hlive
      · -- The stop was live before it was reported.
        exact ⟨hok.reported id symbol s rfl hresult hactive, fun hname => hname⟩
      · exact hdrop.live id' hlive

theorem adjustStopOrder_spec (stopOrderId symbol : String) (newStopLevel : Decimal) (side : Side)
    (quantity : Decimal) :
    TaskSpec c ph i (OwesFor ph i k none)
      (adjustStopOrder c k stopOrderId symbol newStopLevel side quantity) fun _ =>
      Owes i none := by
  refine Spec.bind (keepFor_spec fun _ _ => .refl) fun opened => ?_
  cases opened with
  | true => exact Spec.ret (stable_owes none) fun _ h => h.1
  | false =>
    refine Spec.bind (modifyStopOrder_spec k _) fun result => ?_
    cases result with
    | ok placed =>
      refine Spec.bind (Spec.pre (moved_spec k placed.orderId placed.stopPrice (.inr rfl))
        fun x hx => hx.1) fun _ => ?_
      exact done_spec _
    | error e =>
      refine Spec.bind (keep_spec fun _ _ => .of_eq rfl rfl) fun _ => ?_
      refine Spec.bind (getStopOrderStatus_spec k stopOrderId symbol) fun answer => ?_
      cases answer with
      | error _ => exact done_spec _
      | ok status =>
        dsimp only
        split
        · refine Spec.bind (moved_spec k _ _ (.inl rfl)) fun _ => ?_
          exact done_spec _
        · exact done_spec _

/-! Prices. -/

theorem handlePlaceStopAction_spec (newPeak : Decimal) :
    TaskSpec c ph i (OwesFor ph i k none)
      (handlePlaceStopAction c k symbol side quantity stopLevel newPeak) fun _ =>
      Owes i none := by
  refine Spec.bind (placeInitialStop_spec k symbol side quantity stopLevel) fun placed => ?_
  rcases placed with e | (_ | _)
  case ok.true => exact done_spec _
  all_goals
    -- Only an entry that still tracks the price gets the new peak.
    refine careful_spec k fun e status hf => ?_
    cases hs : e.status <;> simp [hs] at hf
    subst hf
    exact ⟨rfl, rfl⟩

theorem executePriceUpdateAction_spec (action : PriceUpdateAction) :
    TaskSpec c ph i (OwesFor ph i k none) (executePriceUpdateAction c k action) fun _ =>
      Owes i none := by
  cases action with
  | placeStop symbol side quantity stopLevel newPeak =>
    exact handlePlaceStopAction_spec k symbol side quantity stopLevel newPeak
  | adjustStop stopOrderId symbol side quantity newStopLevel newPeak =>
    refine Spec.bind (adjustStopOrder_spec k stopOrderId symbol newStopLevel side quantity)
      fun result => ?_
    cases result with
    | error e => exact done_spec _
    | ok sent =>
      cases sent with
      | some id => exact done_spec _
      | none =>
        refine careful_spec k fun e status hf => ?_
        cases hs : e.status <;> simp [hs] at hf
        subst hf
        exact ⟨rfl, rfl⟩
  | updateStateOnly newPeak newStopLevel =>
    refine Spec.pre (careful_spec k fun e status hf => ?_) fun x hx => hx.1
    cases hs : e.status <;> simp [hs] at hf
    all_goals
      subst hf
      exact ⟨rfl, rfl⟩

theorem readEntry_spec :
    TaskSpec c ph i (Owes i none) (readHandler fun h => h.getEntry k) fun entry x =>
      Owes i none x ∧ (entry.isSome = true → OwesFor ph i k none x) := by
  refine Spec.step (stable_owes none)
    (fun _ => Stable.and (stable_owes none) fun _ _ h hx hsome =>
      stable_owesFor k none h (hx hsome))
    fun w g hw _ => ⟨g, Keeps.refl.taskStep, hw, fun hsome => ⟨hw, fun hk => ?_⟩⟩
  subst hk
  exact hsome

theorem updateEntry_spec (k : String) : Balanced c ph i (updateEntry c price k) := by
  refine Spec.bind (readEntry_spec k) fun entry => ?_
  cases entry with
  | none => exact Spec.ret (stable_owes none) fun _ h => h.1
  | some entry =>
    dsimp only
    cases priceUpdateAction entry price with
    | none => exact Spec.ret (stable_owes none) fun _ h => h.1
    | some action =>
      exact Spec.pre (executePriceUpdateAction_spec k action) fun x hx => hx.2 rfl

theorem updateEntries_spec (ks : List String) : Balanced c ph i (updateEntries c price ks) := by
  induction ks with
  | nil => exact done_spec _
  | cons k ks ih => exact Spec.bind (updateEntry_spec price k) fun _ => ih

theorem onPriceUpdate_spec (price : Decimal) : Balanced c ph i (onPriceUpdate c symbol price) := by
  refine Spec.bind read_spec fun ks => ?_
  exact Spec.bind (updateEntries_spec price ks) fun _ => done_spec _

/-- Every operation keeps to the guarantee and ends owing nothing. -/
theorem operation_spec (op : Operation) :
    Balanced c ph i (op.code c) := by
  have hdone {τ : Type} {t : TrailM β τ}
      (h : Balanced c ph i t) :
      Balanced c ph i (t >>= fun _ => pure ()) :=
    Spec.bind h fun _ => done_spec _
  cases op with
  | cancel k reason => exact hdone (cancel_spec k reason)
  | cancelAsync k reason => exact hdone (cancelAsync_spec k reason)
  | onPrimaryCancelled p => exact hdone (cancelForPrimary_spec .primaryCancelled p)
  | onPrimaryFilled p fillPrice => exact hdone (onPrimaryFilled_spec p fillPrice)
  | onPriceUpdate symbol price => exact hdone (onPriceUpdate_spec symbol price)
  | retryUnavailableEntries =>
    exact hdone (Spec.bind read_spec fun ks => tryRecoverEntries_spec ks _)
  | onPriceSourceDisconnected symbol => exact onPriceSourceDisconnected_spec symbol

end Steps

/-! ## Every interleaving -/

section Runs

variable [DecidableEq ι] {c : Ctx β} {ph : String}

theorem operations_safe (ops : ι → Operation) (w : World β) :
    (operations c ops w).Safe (fun _ => Heeds c ph) (OtherStep ph) (TaskStep ph)
      (fun i => Owes i none) fun _ => none :=
  fun i => operation_spec (ops i) _ rfl

/-- In every run whose steps meet the condition, a terminal status is never changed, and when all
operations have ended the entry names each stop that is live for it. -/
theorem terminal_kept (c : Ctx β) (ph : String) (ops : ι → Operation) (w : World β)
    (hnamed : ∀ id, w.Live ph id → w.Names ph id) (sched : List ι)
    (hg : Run.Guarded Conf.step (Conf.Permits fun _ => Heeds c ph) (operations c ops w) sched) :
    (∀ sched₁ sched₂, sched₁ ++ sched₂ <+: sched →
      ∀ e, (Run.exec Conf.step (operations c ops w) sched₁).state.handler.getEntry ph = some e →
        e.status.isTerminal = true →
        ∃ e', (Run.exec Conf.step (operations c ops w)
            (sched₁ ++ sched₂)).state.handler.getEntry ph = some e' ∧ e'.status = e.status) ∧
    ∀ sched', sched' <+: sched → (Run.exec Conf.step (operations c ops w) sched').Ended →
      ∀ id, (Run.exec Conf.step (operations c ops w) sched').state.Live ph id →
        (Run.exec Conf.step (operations c ops w) sched').state.Names ph id := by
  have hRG : ∀ i j : ι, i ≠ j → ∀ x y : World β × (ι → Option String),
      TaskStep ph i x y → OtherStep ph j x y := fun _ _ hne _ _ h => h.other hne
  have hsafe : (operations c ops w).Safe (fun _ => Heeds c ph) (OtherStep ph) (TaskStep ph)
      (fun i => Owes i none) fun _ => none := operations_safe ops w
  constructor
  · intro sched₁ sched₂ hp e he hterm
    have hsteps := hsafe.guarded_rel (ρ := KeepsEntry ph) hRG (fun _ => .of_eq rfl)
      (fun _ _ _ h => h.entry) hg
    have hrun := Run.exec_rel
      (ρ := fun conf conf' : Conf ι (World β) => KeepsEntry ph conf.state conf'.state)
      (fun _ => .of_eq rfl) (fun _ _ _ h h' => h.trans h') hsteps hp
    obtain ⟨e', he', hkept⟩ := hrun e he
    exact ⟨e', he', hkept hterm⟩
  · intro sched' hp hend id hid
    obtain ⟨g, hsafe', hacc⟩ := hsafe.exec hRG (fun i x y h => h.accounted)
      (fun id hid => .inl (hnamed id hid)) (hg.initial hp)
    rcases hacc id hid with hname | ⟨i, hi⟩
    · exact hname
    · have hnone : g i = none := hsafe'.post hend i
      cases hnone.symm.trans hi

/-- While the entry is open and names no stop, a step meets the condition if no stop is live, or if
the entry names one after it; here the executor knows of no stop. -/
theorem heeds_of_unnamed {o : Op (World β)} {w : World β} (hopen : w.Open ph)
    (hnone : ∀ id, ¬ w.Names ph id)
    (hstop : (∀ id, ¬ w.Live ph id) ∨ ∃ id, (o.run w).2.Names ph id)
    (hstatus : ∀ id symbol s, (c.executor.getStopOrderStatus id symbol w.outside).1 ≠ .ok s) :
    Heeds c ph o w where
  insert _ _ _ := ⟨hopen, fun id hid => absurd hid (hnone id)⟩
  write _ _ := ⟨hopen, fun id hid => absurd hid (hnone id)⟩
  cancel _ _ := fun id hid => absurd hid (hnone id)
  reported id symbol s _ hs := absurd hs (hstatus id symbol s)
  moved id q ho := by
    refine ⟨fun hlive => ?_, fun id' hid' => absurd hid' (hnone id')⟩
    rcases hstop with hdead | ⟨id', e', he', hid'⟩
    · exact absurd hlive (hdead id)
    · -- The result of a modification names no stop in the name of such an entry.
      cases Option.some.inj ho
      have hsame : (w.handler.updateStatus ph (movedStatus id q)).getEntry ph =
          w.handler.getEntry ph := by
        refine getEntry_updateStatus_none fun e he => ?_
        cases hs : e.status with
        | active id₀ => exact absurd ⟨e, he, by rw [hs]; rfl⟩ (hnone id₀)
        | pending | tracking | triggered | cancelled | failed | priceSourceUnavailable =>
          simp [movedStatus, hs]
      exact absurd ⟨e', hsame.symm.trans he', hid'⟩ (hnone id')

/-- The sample order, registered. -/
def registered : World ℕ := ((register Ctx.simulated "p" sampleTrailing).run (.initial 0)).2

/-- The sample order with its stop at the provider. -/
def placed : World ℕ :=
  priceStep Ctx.simulated "BTCUSD" (activated Ctx.simulated "p" sampleTrailing 100 (.initial 0)) 100

/-- The primary order fills, and a price comes in. -/
def fillAndPrice : Bool → Operation
  | false => .onPrimaryFilled "p" 100
  | true => .onPriceUpdate "BTCUSD" 100

theorem terminal_kept_placed :
    (Run.exec Conf.step (operations .simulated fillAndPrice registered)
        (List.replicate 8 false ++ List.replicate 5 true)).state.Live "trailing:p" "s0" ∧
      (Run.exec Conf.step (operations .simulated fillAndPrice registered)
        (List.replicate 8 false ++ List.replicate 5 true)).state.Names "trailing:p" "s0" := by
  have hnamed : ∀ id, registered.Live "trailing:p" id → registered.Names "trailing:p" id := by
    rintro id ⟨o, ho, -⟩
    cases ho
  -- Until the last step the entry names no stop, and that step records the one that is placed.
  have hseen : Run.Guarded Conf.step (fun (conf : Conf Bool (World ℕ)) i =>
      ((conf.state.handler.getEntry "trailing:p").all fun e =>
        !e.status.isTerminal && e.status.stopOrderId.isNone) = true ∧
      (conf.state.liveFor "trailing:p" = [] ∨
        ((conf.step i).state.handler.getEntry "trailing:p").any fun e =>
          e.status.stopOrderId.isSome)) (operations .simulated fillAndPrice registered)
      (List.replicate 8 false ++ List.replicate 5 true) := by
    decide +kernel
  have hlive : (Run.exec Conf.step (operations .simulated fillAndPrice registered)
      (List.replicate 8 false ++ List.replicate 5 true)).state.Live "trailing:p" "s0" :=
    ⟨⟨"trailing:p", "s0", 95⟩, by decide +kernel, rfl⟩
  refine ⟨hlive, (terminal_kept Ctx.simulated "trailing:p" fillAndPrice registered hnamed _
    (hseen.mono fun conf i h o ho => ?_)).2 _ List.prefix_rfl (by decide +kernel) "s0" hlive⟩
  obtain ⟨hfree, hstop⟩ := h
  refine heeds_of_unnamed (fun e he => ?_) (fun id => ?_) ?_ (fun _ _ _ => nofun)
  · rw [he] at hfree
    simp only [Option.all_some, Bool.and_eq_true, Bool.not_eq_true'] at hfree
    exact hfree.1
  · rintro ⟨e, he, hid⟩
    rw [he] at hfree
    simp [hid] at hfree
  · rcases hstop with hnone | hnames
    · left
      rintro id ⟨o, ho, -⟩
      rw [hnone] at ho
      cases ho
    · right
      rw [Conf.state_step ho] at hnames
      obtain ⟨e, he, hsome⟩ := (Option.any_eq_true _ _).mp hnames
      obtain ⟨id, hid⟩ := Option.isSome_iff_exists.mp hsome
      exact ⟨id, e, he, hid⟩

/-- The primary order fills, and the user cancels. -/
def fillAndCancel : Bool → Operation
  | false => .onPrimaryFilled "p" 100
  | true => .cancel "trailing:p" .userRequested

/-- A price moves the stop, and the user cancels. -/
def moveAndCancel : Bool → Operation
  | false => .onPriceUpdate "BTCUSD" 110
  | true => .cancelAsync "trailing:p" .userRequested

/-- The entry is cancelled while `onPrimaryFilled` waits for the price source, and is tracked again
when it goes on. And while the cancellation of the stop is awaited the stop moves: the new one stays
at the provider, and the cancelled entry does not name it. -/
theorem cancelled_entry_tracked :
    ((Run.exec Conf.step (operations .simulated fillAndCancel registered)
        (List.replicate 3 false ++ List.replicate 3 true)).state.handler.getEntry
          "trailing:p").map TrailingEntry.status = some (.cancelled .userRequested) ∧
      ((Run.exec Conf.step (operations .simulated fillAndCancel registered)
        (List.replicate 3 false ++ List.replicate 3 true ++
          List.replicate 5 false)).state.handler.getEntry
            "trailing:p").map TrailingEntry.status = some (.tracking 100 95) ∧
      let conf := Run.exec Conf.step (operations .simulated moveAndCancel placed)
        (List.replicate 1 true ++ List.replicate 5 false ++ List.replicate 4 true)
      conf.Ended ∧ conf.state.liveFor "trailing:p" = [⟨"trailing:p", "s1", 209 / 2⟩] ∧
        (conf.state.handler.getEntry "trailing:p").map TrailingEntry.status =
          some (.cancelled .userRequested) := by
  decide +kernel

end Runs

end Gateway.Trailing
