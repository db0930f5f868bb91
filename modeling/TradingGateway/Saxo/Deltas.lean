import TradingGateway.Lib.JsonMerge
import TradingGateway.Lib.Run
import TradingGateway.Saxo.Orders
import TradingGateway.Websocket.Messages

/-!
# Order deltas (`crates/saxo/src/delta.rs`, `process_order_update` of `websocket.rs`)

The broker streams what changed. The store keeps one snapshot for each subscription, merges each
delta into it and hands the merged snapshot on.

All orders of the account come through one subscription, and so share one snapshot. A delta of one
order is merged into what the deltas of the other orders left behind: fields that it does not carry
are theirs.

* `order_events_determined`: two covered runs with the same messages of an order emit the same
  events for it.
-/

namespace Gateway.Saxo

/-! ## The store -/

/-- Per-subscription snapshots. -/
abbrev SnapshotStore := Table String Json

namespace SnapshotStore

/-- Store an initial full snapshot. -/
def setSnapshot (store : SnapshotStore) (referenceId : String) (snapshot : Json) : SnapshotStore :=
  store.insert referenceId snapshot

/-- Apply a delta and return the merged snapshot. -/
def applyDelta (store : SnapshotStore) (referenceId : String) (delta : Json) :
    Except SaxoError (Json × SnapshotStore) :=
  match store.get referenceId with
  | none => .error (.noSnapshotForRef referenceId)
  | some snapshot =>
    let merged := snapshot.deepMerge delta
    .ok (merged, store.insert referenceId merged)

end SnapshotStore

/-! ## An order resource from JSON -/

def SaxoDuration.fromValue (v : Json) : Option SaxoDuration := do
  guard (v.fits 1)
  let durationType ← v.required 0 ["DurationType"] Json.asStr
  pure { durationType }

def SaxoRelatedOrder.fromValue (v : Json) : Option SaxoRelatedOrder := do
  guard (v.fits 3)
  let orderType ← v.required 0 ["OrderType"] Json.asStr
  let price ← v.optional 1 ["Price"] Json.asF64
  let trailingStopDistanceToMarket ← v.optional 2 ["TrailingStopDistanceToMarket"] Json.asF64
  pure { orderType, price, trailingStopDistanceToMarket }

def SaxoRelatedOpenOrder.fromValue (v : Json) : Option SaxoRelatedOpenOrder := do
  guard (v.fits 4)
  let orderId ← v.required 0 ["OrderId"] Json.asStr
  let orderType ← v.required 1 ["OrderType"] Json.asStr
  let price ← v.optional 2 ["Price"] Json.asF64
  let status ← v.required 3 ["Status"] Json.asStr
  pure { orderId, orderType, price, status }

/-- `none` if the value is no order resource. The order type goes by two names. -/
def SaxoOrder.fromValue (v : Json) : Option SaxoOrder := do
  guard (v.fits 17)
  let orderId ← v.required 0 ["OrderId"] Json.asStr
  let uic ← v.required 1 ["Uic"] Json.asU32
  let assetType ← v.required 2 ["AssetType"] Json.asStr
  let buySell ← v.required 3 ["BuySell"] Json.asStr
  let orderType ← v.required 4 ["OrderType", "OpenOrderType"] Json.asStr
  let amount ← v.required 5 ["Amount"] Json.asF64
  let filledAmount ← v.withDefault 6 ["FilledAmount"] Json.asF64 0
  let price ← v.optional 7 ["Price"] Json.asF64
  let stopPrice ← v.optional 8 ["StopPrice"] Json.asF64
  let trailingStopDistanceToMarket ← v.optional 9 ["TrailingStopDistanceToMarket"] Json.asF64
  let trailingStopStep ← v.optional 10 ["TrailingStopStep"] Json.asF64
  let status ← v.required 11 ["Status"] Json.asStr
  let duration ← v.optional 12 ["Duration"] SaxoDuration.fromValue
  let externalReference ← v.optional 13 ["ExternalReference"] Json.asStr
  let relatedOrders ← v.optional 14 ["RelatedOrders"] (Json.asList SaxoRelatedOrder.fromValue)
  let relatedOpenOrders ←
    v.optional 15 ["RelatedOpenOrders"] (Json.asList SaxoRelatedOpenOrder.fromValue)
  let averageFillPrice ← v.optional 16 ["AverageFillPrice"] Json.asF64
  pure
    { orderId, uic, assetType, buySell, orderType, amount, filledAmount, price, stopPrice
      trailingStopDistanceToMarket, trailingStopStep, status, duration, externalReference
      relatedOrders, relatedOpenOrders, averageFillPrice }

/-! ## The events of a merged snapshot -/

/-- `none` for transient statuses, which generate no event. -/
def saxoStatusToEventType (status : String) (filledAmount : Decimal) : Option OrderEventType :=
  match status with
  | "Working" => if filledAmount > 0 then some .orderPartiallyFilled else some .orderCreated
  | "Filled" | "FinalFill" => some .orderFilled
  | "PartiallyFilled" => some .orderPartiallyFilled
  | "Cancelled" | "Canceled" => some .orderCancelled
  | "Rejected" => some .orderRejected
  | "Expired" => some .orderExpired
  | _ => none

/-- The gateway order of a merged snapshot, `none` if it cannot be fully translated. -/
def translateOrderFromSnapshot (merged : Json) (map : SaxoInstrumentMap) : Option Order := do
  let order ← SaxoOrder.fromValue merged
  let symbol ← (map.resolveUic order.uic order.assetType).toOption
  let side ← (fromSaxoBuySell order.buySell).toOption
  let orderType ← (fromSaxoOrderType order.orderType).toOption
  let status ← (fromSaxoOrderStatus order.status).toOption
  -- unlike in `translateOrder`, an unknown duration is no error
  let timeInForce := (order.duration.bind fun d => (fromSaxoDuration d).toOption).getD .gtc
  let prices := pricesFrom orderType order.price order.stopPrice
  pure
    { id := order.orderId
      clientOrderId := order.externalReference
      symbol
      side
      orderType
      quantity := order.amount
      filledQuantity := order.filledAmount
      remainingQuantity := order.amount - order.filledAmount
      limitPrice := prices.1
      stopPrice := prices.2
      trailingDistance := order.trailingStopDistanceToMarket
      averageFillPrice := order.averageFillPrice
      status
      timeInForce }

/-- A fill that no client order explains. -/
def isForcedLiquidation (order : Json) : Bool :=
  let hasNoExternalRef := match order.get "ExternalReference" with
    | none => true
    | some v => v.isNull || v.asStr == some ""
  let isFilled := match (order.get "Status").bind Json.asStr with
    | some status => status == "Filled" || status == "FinalFill"
    | none => false
  hasNoExternalRef && isFilled

/-- A message of the order feed. -/
inductive OrderFeedEvent where
  /-- An error with code `liquidation` and the details as JSON. -/
  | liquidation (message : String) (details : Json)
  | order (event : OrderEventType) (order : Order)
  deriving DecidableEq, Repr

def liquidationEvent (merged : Json) : OrderFeedEvent :=
  let orderId := ((merged.get "OrderId").bind Json.asStr).getD "unknown"
  let uic := ((merged.get "Uic").bind Json.asU64).getD 0
  .liquidation ("Forced liquidation detected: order " ++ orderId ++ " (UIC " ++ toString uic ++ ")")
    (.obj [("order_id", .str orderId), ("payload", merged), ("uic", .int uic)])

/-- The order event, once the instruments are loaded. -/
def orderEvent (map : Option SaxoInstrumentMap) (merged : Json) : Option OrderFeedEvent := do
  let map ← map
  let status := ((merged.get "Status").bind Json.asStr).getD ""
  let filledAmount := ((merged.get "FilledAmount").bind Json.asF64).getD 0
  let event ← saxoStatusToEventType status filledAmount
  let order ← translateOrderFromSnapshot merged map
  pure (.order event order)

/-- What the reader shares with the rest of the provider. -/
structure OrderFeed where
  /-- The event channel is open. -/
  connected : Bool
  /-- The instruments, once they are loaded. -/
  instrumentMap : Option SaxoInstrumentMap

/-- What is sent for a merged snapshot. -/
def orderReports (feed : OrderFeed) (merged : Json) : List OrderFeedEvent :=
  if feed.connected then
    (if isForcedLiquidation merged then [liquidationEvent merged] else []) ++
      (orderEvent feed.instrumentMap merged).toList
  else []

def orderReferenceId : String := "orders_account"

/-- Merge a delta of the order subscription and send its events. A failed merge is only logged. -/
def processOrderUpdate (feed : OrderFeed) (store : SnapshotStore) (payload : Json) :
    List OrderFeedEvent × SnapshotStore :=
  match store.applyDelta orderReferenceId payload with
  | .error _ => ([], store)
  | .ok (merged, store) => (orderReports feed merged, store)

/-- The events of a delta are those of the merged snapshot. -/
theorem processOrderUpdate_eq (feed : OrderFeed) {store : SnapshotStore} {snapshot : Json}
    (h : store.get orderReferenceId = some snapshot) (payload : Json) :
    processOrderUpdate feed store payload =
      (orderReports feed (snapshot.deepMerge payload),
        store.insert orderReferenceId (snapshot.deepMerge payload)) := by
  unfold processOrderUpdate SnapshotStore.applyDelta
  rw [h]

/-! ## Runs of the order subscription -/

/-- A message of the order subscription. -/
inductive OrderMessage where
  /-- The snapshot of a new subscription. -/
  | snapshot (value : Json)
  | delta (value : Json)
  deriving DecidableEq, Repr

namespace OrderMessage

def value : OrderMessage → Json
  | snapshot value => value
  | delta value => value

/-- The message names the order. -/
def Carries (o : String) (m : OrderMessage) : Prop := m.value.get "OrderId" = some (.str o)

instance (o : String) (m : OrderMessage) : Decidable (m.Carries o) :=
  inferInstanceAs (Decidable (_ = _))

/-- What the reader does with a message. -/
def process (feed : OrderFeed) (store : SnapshotStore) : OrderMessage →
    List OrderFeedEvent × SnapshotStore
  | snapshot value => ([], store.setSnapshot orderReferenceId value)
  | delta value => processOrderUpdate feed store value

/-- What the message makes of a snapshot that only messages of its order have changed. -/
def merge (own : Json) : OrderMessage → Json
  | snapshot value => value
  | delta value => own.deepMerge value

/-- The events of the message over such a snapshot. -/
def reports (feed : OrderFeed) (own : Json) : OrderMessage → List OrderFeedEvent
  | snapshot _ => []
  | delta value => orderReports feed (own.deepMerge value)

end OrderMessage

/-- The messages that name the order. -/
def ownMessages (o : String) (ms : List OrderMessage) : List OrderMessage :=
  ms.filter fun m => m.Carries o

/-- The events that the deltas of one order make the reader emit. -/
def eventsFor (feed : OrderFeed) (o : String) : SnapshotStore → List OrderMessage →
    List OrderFeedEvent
  | _, [] => []
  | store, m :: ms =>
    (if m.Carries o then (m.process feed store).1 else []) ++
      eventsFor feed o (m.process feed store).2 ms

/-! ## Covered runs

Between two messages of one order, the messages of the others change the snapshot. The next delta of
the order undoes that where it writes every key path that they wrote. -/

/-- The events of an order that has the subscription to itself. -/
def ownReports (feed : OrderFeed) : Json → List OrderMessage → List OrderFeedEvent
  | _, [] => []
  | own, m :: ms => m.reports feed own ++ ownReports feed (m.merge own) ms

/-- The update writes every key path that the message writes. The snapshot of a new subscription
replaces all there is, which no update undoes. -/
def OrderMessage.coveredBy (d : Json) : OrderMessage → Bool
  | snapshot _ => false
  | delta value => d.covers value

/-- The messages of the others since the last one of the order, the latest first. -/
def othersSince (o : String) (others : List OrderMessage) (m : OrderMessage) : List OrderMessage :=
  if m.Carries o then [] else m :: others

/-- No message of another order since the order's last writes a key path that its delta lacks. -/
def Covers (o : String) (others : List OrderMessage) : OrderMessage → Prop
  | .snapshot _ => True
  | .delta value =>
    (OrderMessage.delta value).Carries o → ∀ m ∈ others, m.coveredBy value = true

instance (o : String) (others : List OrderMessage) : ∀ m, Decidable (Covers o others m)
  | .snapshot _ => inferInstanceAs (Decidable True)
  | .delta value => inferInstanceAs (Decidable ((OrderMessage.delta value).Carries o → ∀ _ ∈ _, _))

/-- The snapshot after the messages, the latest first. -/
def mergeAll (own : Json) (others : List OrderMessage) : Json :=
  others.foldr (fun m snapshot => m.merge snapshot) own

section

variable {feed : OrderFeed} {o : String} {store : SnapshotStore} {snapshot own : Json}
  {m : OrderMessage} {ms others : List OrderMessage}

theorem OrderMessage.process_eq (h : store.get orderReferenceId = some snapshot)
    (m : OrderMessage) :
    m.process feed store =
      (m.reports feed snapshot, store.insert orderReferenceId (m.merge snapshot)) := by
  cases m with
  | snapshot value => rfl
  | delta value => exact processOrderUpdate_eq feed h value

theorem OrderMessage.ordered_merge (hm : m.value.Ordered) (h : snapshot.Ordered) :
    (m.merge snapshot).Ordered := by
  cases m with
  | snapshot value => exact hm
  | delta value => exact h.deepMerge hm

theorem ordered_mergeAll (hothers : ∀ m ∈ others, m.value.Ordered) (hown : own.Ordered) :
    (mergeAll own others).Ordered := by
  induction others with
  | nil => exact hown
  | cons m others ih =>
    exact m.ordered_merge (hothers m List.mem_cons_self)
      (ih fun m hm => hothers m (List.mem_cons_of_mem _ hm))

/-- An update that covers the messages leaves nothing of them. -/
theorem deepMerge_mergeAll {d : Json} (hd : d.Ordered)
    (hothers : ∀ m ∈ others, m.value.Ordered) (hown : own.Ordered)
    (h : ∀ m ∈ others, m.coveredBy d = true) :
    (mergeAll own others).deepMerge d = own.deepMerge d := by
  induction others with
  | nil => rfl
  | cons m others ih =>
    have hrest : ∀ m ∈ others, m.value.Ordered := fun m hm =>
      hothers m (List.mem_cons_of_mem _ hm)
    refine Eq.trans ?_ (ih hrest fun m hm => h m (List.mem_cons_of_mem _ hm))
    have hm := h m List.mem_cons_self
    cases m with
    | snapshot value => cases hm
    | delta value =>
      exact Json.deepMerge_of_covers (ordered_mergeAll hrest hown)
        (hothers _ List.mem_cons_self) hd hm

/-- A message of the order, in a covered run, does to the stored snapshot what it does to the
order's own. -/
theorem Covers.step (h : Covers o others m) (hm : m.Carries o) (hvalue : m.value.Ordered)
    (hothers : ∀ m ∈ others, m.value.Ordered) (hown : own.Ordered) :
    m.reports feed (mergeAll own others) = m.reports feed own ∧
      m.merge (mergeAll own others) = m.merge own := by
  cases m with
  | snapshot value => exact ⟨rfl, rfl⟩
  | delta value =>
    have hmerge := deepMerge_mergeAll hvalue hothers hown (h hm)
    exact ⟨congrArg (orderReports feed) hmerge, hmerge⟩

/-- The events of an order along a covered run are those of its own messages. -/
theorem eventsFor_eq_reports (hstore : store.get orderReferenceId = some (mergeAll own others))
    (hown : own.Ordered) (hothers : ∀ m ∈ others, m.value.Ordered)
    (hms : ∀ m ∈ ms, m.value.Ordered) (h : Run.Guarded (othersSince o) (Covers o) others ms) :
    eventsFor feed o store ms = ownReports feed own (ownMessages o ms) := by
  -- the store holds the order's own snapshot with the messages of the others since
  induction ms generalizing store own others with
  | nil => rfl
  | cons m ms ih =>
    obtain ⟨hm, hms⟩ := List.forall_mem_cons.mp hms
    obtain ⟨hcovers, hrest⟩ := h
    rw [eventsFor, m.process_eq hstore, ownMessages]
    by_cases hc : m.Carries o
    · obtain ⟨hreports, hmerge⟩ := hcovers.step hc hm hothers hown
      have hnext : (store.insert orderReferenceId (m.merge own)).get orderReferenceId =
          some (mergeAll (m.merge own) []) := store.get_insert_self _ _
      rw [othersSince, if_pos hc] at hrest
      rw [if_pos hc, hreports, hmerge, List.filter_cons_of_pos (by simpa using hc), ownReports]
      exact congrArg _ (ih hnext (m.ordered_merge hm hown) (by simp) hms hrest)
    · have hnext : (store.insert orderReferenceId (m.merge (mergeAll own others))).get
          orderReferenceId = some (mergeAll own (m :: others)) := store.get_insert_self _ _
      rw [othersSince, if_neg hc] at hrest
      rw [if_neg hc, List.filter_cons_of_neg (by simpa using hc), List.nil_append]
      exact ih hnext hown (List.forall_mem_cons.mpr ⟨hm, hothers⟩) hms hrest

end

/-- Two runs from one snapshot that agree on the messages of an order emit the same events for it,
if each of its deltas writes every key path that the messages of the others since its last one
have written. -/
theorem order_events_determined (feed : OrderFeed) (o : String) (store store' : SnapshotStore)
    (own : Json) (ms ms' : List OrderMessage) (hown : ownMessages o ms = ownMessages o ms')
    (hstore : store.get orderReferenceId = some own)
    (hstore' : store'.get orderReferenceId = some own)
    (hordered : own.Ordered ∧ ∀ m ∈ ms ++ ms', m.value.Ordered)
    (h : Run.Guarded (othersSince o) (Covers o) [] ms)
    (h' : Run.Guarded (othersSince o) (Covers o) [] ms') :
    eventsFor feed o store ms = eventsFor feed o store' ms' := by
  obtain ⟨hsnapshot, hvalues⟩ := hordered
  obtain ⟨hms, hms'⟩ := List.forall_mem_append.mp hvalues
  rw [eventsFor_eq_reports hstore hsnapshot (by simp) hms h,
    eventsFor_eq_reports hstore' hsnapshot (by simp) hms' h', hown]

/-- The instruments are loaded and the channel is open. -/
def sampleFeed : OrderFeed := ⟨true, some sampleMap⟩

/-- A subscription without orders. -/
def emptySnapshot : SnapshotStore := SnapshotStore.setSnapshot ∅ orderReferenceId (.obj [])

/-- A delta with every field of a limit order. -/
def fullDelta (id buySell : String) (price : ℤ) (status : String) : OrderMessage :=
  .delta (.obj
    [("Amount", .int 10), ("AssetType", .str "FxSpot"), ("BuySell", .str buySell),
      ("OrderId", .str id), ("OrderType", .str "Limit"), ("Price", .int price),
      ("Status", .str status), ("Uic", .int 21)])

theorem ordered_fullDelta (id buySell : String) (price : ℤ) (status : String) :
    (fullDelta id buySell price status).value.Ordered := by
  have hkeys : ["Amount", "AssetType", "BuySell", "OrderId", "OrderType", "Price", "Status",
      "Uic"].Pairwise (· < ·) := by decide +kernel
  refine .obj hkeys fun x hx => ?_
  simp only [List.mem_cons, List.not_mem_nil, or_false] at hx
  rcases hx with rfl | rfl | rfl | rfl | rfl | rfl | rfl | rfl <;> exact .scalar _

/-- A delta with the new status only. -/
def statusDelta (id status : String) : OrderMessage :=
  .delta (.obj [("OrderId", .str id), ("Status", .str status)])

/-- The limit order that the gateway reports. -/
def reportedOrder (id : String) (side : Side) (price : Decimal) (status : OrderStatus) : Order :=
  { sampleOrder .limit (some price) none with id, side, status }

/-- Orders `A` and `B` send full deltas only. -/
theorem order_events_determined_full :
    eventsFor sampleFeed "A" emptySnapshot
        [fullDelta "A" "Buy" 10 "Working", fullDelta "B" "Sell" 20 "Working",
          fullDelta "A" "Buy" 10 "Cancelled"] =
      eventsFor sampleFeed "A" emptySnapshot
        [fullDelta "A" "Buy" 10 "Working", fullDelta "A" "Buy" 10 "Cancelled"] :=
  order_events_determined sampleFeed "A" emptySnapshot emptySnapshot (.obj []) _ _
    (by decide +kernel) rfl rfl
    ⟨.obj .nil (by simp), by simp [ordered_fullDelta]⟩ (by decide +kernel) (by decide +kernel)

/-- `A` buys at 10 and is cancelled. After a delta of `B`, the cancellation says that `A` sold
at 20. -/
theorem cancellation_reports_other_order :
    ownMessages "A" [fullDelta "A" "Buy" 10 "Working", fullDelta "B" "Sell" 20 "Working",
        statusDelta "A" "Cancelled"] =
      ownMessages "A" [fullDelta "A" "Buy" 10 "Working", statusDelta "A" "Cancelled"] ∧
    eventsFor sampleFeed "A" emptySnapshot
        [fullDelta "A" "Buy" 10 "Working", fullDelta "B" "Sell" 20 "Working",
          statusDelta "A" "Cancelled"] =
      [.order .orderCreated (reportedOrder "A" .buy 10 .open),
        .order .orderCancelled (reportedOrder "A" .sell 20 .cancelled)] ∧
    eventsFor sampleFeed "A" emptySnapshot
        [fullDelta "A" "Buy" 10 "Working", statusDelta "A" "Cancelled"] =
      [.order .orderCreated (reportedOrder "A" .buy 10 .open),
        .order .orderCancelled (reportedOrder "A" .buy 10 .cancelled)] := by
  refine ⟨by decide +kernel, by decide +kernel, by decide +kernel⟩

end Gateway.Saxo
