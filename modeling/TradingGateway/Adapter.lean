import TradingGateway.Error
import TradingGateway.Lib.Text

/-!
# The trading adapter (`crates/core/src/adapter/mod.rs`)

The provider behind the `TradingAdapter` trait, as an environment with its own state `β` of which
nothing is assumed. Only the calls that the handlers make are here, with the clock. What a result
needs of the provider (it accepts every submission, say) is a hypothesis of that result.
-/

namespace Gateway

/-- The calls of a provider with state `β`. -/
structure TradingAdapter (β : Type) where
  submitOrder : OrderRequest → β → Except GatewayError OrderHandle × β
  getOrder : String → β → Except GatewayError Order × β
  modifyOrder : String → ModifyOrderRequest → β → Except GatewayError ModifyOrderResult × β
  cancelOrder : String → β → Except GatewayError CancelOrderResult × β
  /-- The monotonic clock. -/
  now : β → Instant
  /-- Time passes. -/
  sleep : Duration → β → β

namespace TradingAdapter

variable {β : Type} (ad : TradingAdapter β)

/-- Every submission is accepted, and an order reported right after it has the id it was given and
the requested quantity. -/
structure AcceptsSubmits : Prop where
  accepts : ∀ r b, ∃ h b', ad.submitOrder r b = (.ok h, b')
  reports : ∀ {r b h b' o b''}, ad.submitOrder r b = (.ok h, b') →
    ad.getOrder h.id b' = (.ok o, b'') → o.id = h.id ∧ o.quantity = r.quantity

/-- A report is about the order that was asked for. -/
def ReportsAsked : Prop := ∀ {id b o b'}, ad.getOrder id b = (.ok o, b') → o.id = id

/-- Every cancellation is accepted. -/
def AcceptsCancels : Prop := ∀ id b, ∃ r b', ad.cancelOrder id b = (.ok r, b')

/-- The provider's state after some calls; `ids` are the orders that it is asked to cancel. -/
inductive Reaches (b : β) : List String → β → Prop where
  | refl : Reaches b [] b
  | submit {ids : List String} {b' : β} (h : Reaches b ids b') (r : OrderRequest) :
      Reaches b ids (ad.submitOrder r b').2
  | get {ids : List String} {b' : β} (h : Reaches b ids b') (id : String) :
      Reaches b ids (ad.getOrder id b').2
  | modify {ids : List String} {b' : β} (h : Reaches b ids b') (id : String)
      (r : ModifyOrderRequest) : Reaches b ids (ad.modifyOrder id r b').2
  | cancel {ids : List String} {b' : β} (h : Reaches b ids b') (id : String) :
      Reaches b (ids ++ [id]) (ad.cancelOrder id b').2
  | sleep {ids : List String} {b' : β} (h : Reaches b ids b') (delay : Duration) :
      Reaches b ids (ad.sleep delay b')

theorem Reaches.trans {b b' b'' : β} {ids ids' : List String} (h : ad.Reaches b ids b')
    (h' : ad.Reaches b' ids' b'') : ad.Reaches b (ids ++ ids') b'' := by
  induction h' with
  | refl => simpa using h
  | submit _ r ih => exact ih.submit r
  | get _ id ih => exact ih.get id
  | modify _ id r ih => exact ih.modify id r
  | cancel _ id ih => simpa using ih.cancel id
  | sleep _ delay ih => exact ih.sleep delay

/-- The provider never gives an order an id that is in use: `issued b` are the ids in use. -/
structure IssuesIds (issued : β → String → Prop) : Prop where
  fresh : ∀ {r b h b'}, ad.submitOrder r b = (.ok h, b') → ¬ issued b h.id ∧ issued b' h.id
  mono : ∀ {b ids b' id}, ad.Reaches b ids b' → issued b id → issued b' id

end TradingAdapter

/-! ## A simulated provider -/

/-- A bracket order over 10 units with both exits. -/
def sampleBracket : OrderRequest :=
  { symbol := "BTCUSD"
    side := .buy
    quantity := 10
    orderType := .market
    stopLoss := some 90
    takeProfit := some 110 }

/-- The order that a simulated provider reports for a request. -/
def OrderRequest.toOrder (r : OrderRequest) (id : String) : Order where
  id
  clientOrderId := r.clientOrderId
  symbol := r.symbol
  side := r.side
  orderType := r.orderType
  quantity := r.quantity
  filledQuantity := 0
  remainingQuantity := r.quantity
  limitPrice := r.limitPrice
  stopPrice := r.stopPrice
  stopLoss := r.stopLoss
  takeProfit := r.takeProfit
  trailingDistance := r.trailingDistance
  trailingType := r.trailingType
  status := .open
  positionId := r.positionId
  reduceOnly := some r.reduceOnly
  postOnly := some r.postOnly
  hidden := some r.hidden
  displayQuantity := r.displayQuantity
  ocoGroupId := r.ocoGroupId
  timeInForce := r.timeInForce

/-- A provider that numbers the orders, accepts every submission and every cancellation, and cannot
modify an order. Its state is the list of the accepted orders. -/
def TradingAdapter.simulated : TradingAdapter (List (String × OrderRequest)) where
  submitOrder r b :=
    let id := "o" ++ toString b.length
    (.ok { id, status := .open }, (id, r) :: b)
  getOrder id b :=
    match b.lookup id with
    | some r => (.ok (r.toOrder id), b)
    | none => (.error (.orderNotFound id), b)
  modifyOrder _ _ b := (.error (.unsupportedOperation "modify_order" "simulated"), b)
  cancelOrder id b := (.ok ⟨true, ((b.lookup id).getD sampleBracket).toOrder id⟩, b)
  now b := b.length
  sleep _ b := b

theorem TradingAdapter.simulated_acceptsSubmits : simulated.AcceptsSubmits where
  accepts _ _ := ⟨_, _, rfl⟩
  reports {r b h b' o b''} hs hg := by
    cases hs
    simp only [simulated, List.lookup_cons_self, Prod.mk.injEq, Except.ok.injEq] at hg
    obtain ⟨rfl, -⟩ := hg
    exact ⟨rfl, rfl⟩

theorem TradingAdapter.simulated_reportsAsked : simulated.ReportsAsked := by
  intro id b o b' hg
  simp only [simulated] at hg
  split at hg <;> cases hg
  rfl

theorem TradingAdapter.simulated_acceptsCancels : simulated.AcceptsCancels := fun _ _ => ⟨_, _, rfl⟩

/-- The ids in use at the simulated provider, where the order `p` was submitted before. -/
def TradingAdapter.simulatedIssued (b : List (String × OrderRequest)) (id : String) : Prop :=
  id = "p" ∨ ∃ n < b.length, id = "o" ++ toString n

theorem TradingAdapter.simulated_length_le {b b' : List (String × OrderRequest)}
    {ids : List String} (h : simulated.Reaches b ids b') : b.length ≤ b'.length := by
  induction h with
  | refl => exact le_rfl
  | submit _ r ih => exact le_trans ih (Nat.le_succ _)
  | get _ id ih =>
    simp only [simulated]
    split <;> exact ih
  | modify | cancel | sleep => assumption

theorem TradingAdapter.simulated_issuesIds : simulated.IssuesIds simulatedIssued where
  fresh {r b h b'} hs := by
    cases hs
    refine ⟨?_, .inr ⟨b.length, Nat.lt_succ_self _, rfl⟩⟩
    rintro (hp | ⟨n, hn, heq⟩)
    · have := congrArg String.toList hp
      simp at this
    · have hnn : toString b.length = toString n := by simpa using heq
      have := Text.toString_nat_inj hnn
      omega
  mono {b _ b' id} hreach hid := by
    have hle := simulated_length_le hreach
    rcases hid with rfl | ⟨n, hn, rfl⟩
    · exact .inl rfl
    · exact .inr ⟨n, by omega, rfl⟩

end Gateway
