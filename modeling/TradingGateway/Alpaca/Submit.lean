import TradingGateway.Adapter
import TradingGateway.Http.Retry
import TradingGateway.State.Manager

/-!
# Order submission (`crates/alpaca/src/adapter.rs`)

`submit_order` posts the order to the broker and posts it again after a transient failure. Each
attempt reaches the broker or does not, and its response comes back or does not. The broker executes
every request that reaches it, unless an order has the same client order id.

* `one_order_iff`: the call leaves at most one order, and none with an error, exactly if the
  first attempt that gets to the broker is answered with an order, or the broker executes nothing.
-/

namespace Gateway.Alpaca

/-! ## The request -/

structure AlpacaOrderRequest where
  symbol : String
  qty : String
  side : String
  orderType : String
  timeInForce : String
  limitPrice : Option String
  stopPrice : Option String
  orderClass : Option String
  /-- The stop price of the stop-loss leg. -/
  stopLoss : Option String
  /-- The limit price of the take-profit leg. -/
  takeProfit : Option String
  clientOrderId : Option String
  deriving DecidableEq, Repr

/-- The parameters of an order in Alpaca's words. -/
structure AlpacaTranslatedParams where
  symbol : String
  side : String
  orderType : String
  /-- The order type before the transformation for crypto symbols. -/
  originalOrderType : String
  timeInForce : String
  limitPrice : Option Decimal
  stopPrice : Option Decimal
  usePendingSystem : Bool
  hasSlTp : Bool
  deriving DecidableEq, Repr

/-- The request for a plain order; for the native bracket only if the symbol supports it. -/
def buildAlpacaOrderRequest (order : OrderRequest) (t : AlpacaTranslatedParams) :
    AlpacaOrderRequest :=
  if t.usePendingSystem || !t.hasSlTp then
    { symbol := t.symbol
      qty := order.quantity.display
      side := t.side
      orderType := t.orderType
      timeInForce := t.timeInForce
      limitPrice := t.limitPrice.map Decimal.display
      stopPrice := t.stopPrice.map Decimal.display
      orderClass := none
      stopLoss := none
      takeProfit := none
      clientOrderId := order.clientOrderId }
  else
    { symbol := t.symbol
      qty := order.quantity.display
      side := t.side
      orderType := t.originalOrderType
      timeInForce := t.timeInForce
      limitPrice := order.limitPrice.map Decimal.display
      stopPrice := order.stopPrice.map Decimal.display
      orderClass := some "bracket"
      stopLoss := order.stopLoss.map Decimal.display
      takeProfit := order.takeProfit.map Decimal.display
      clientOrderId := order.clientOrderId }

theorem clientOrderId_build (order : OrderRequest) (t : AlpacaTranslatedParams) :
    (buildAlpacaOrderRequest order t).clientOrderId = order.clientOrderId := by
  unfold buildAlpacaOrderRequest
  split <;> rfl

/-! ## The broker -/

/-- The orders that were executed, oldest first. -/
structure Broker where
  orders : List AlpacaOrderRequest
  deriving DecidableEq, Repr

/-- The client order id is that of an earlier order. -/
def Broker.repeats (b : Broker) (clientOrderId : Option String) : Bool :=
  clientOrderId.isSome && b.orders.any fun r => r.clientOrderId = clientOrderId

/-- A request reaches the broker. Whether it is executed. -/
def Broker.take (b : Broker) (r : AlpacaOrderRequest) : Bool × Broker :=
  if b.repeats r.clientOrderId then (false, b) else (true, ⟨b.orders ++ [r]⟩)

/-- No response of the broker comes back: none at all, or an error of something in between. -/
inductive Failure where
  | lost (reason : String)
  | error (response : Http.Response) (isError : response.isSuccess = false)
  deriving DecidableEq

def Failure.response : Failure → Except String Http.Response
  | .lost reason => .error reason
  | .error response _ => .ok response

/-- What comes back of a request that reached the broker: the broker's own response, with the body
for an executed order, or a failure on the way. -/
inductive Reply where
  | returned (body : String)
  | failed (failure : Failure)
  deriving DecidableEq

/-- What becomes of an attempt. -/
inductive Attempt where
  | unreached (failure : Failure)
  | reached (reply : Reply)
  deriving DecidableEq

/-! ## The adapter -/

/-- The adapter and its environment. `κ` is the circuit breaker, `ω` an order as Alpaca reports
it. -/
structure Ctx (κ ω : Type) where
  retryConfig : Http.RetryConfig
  translated : OrderRequest → AlpacaTranslatedParams
  parseResponse : String → Except String ω
  translateAlpacaOrder : ω → Except String Order
  /-- The error of an open circuit breaker. -/
  openError : κ → Option GatewayError
  recordFailure : κ → κ
  /-- The broker's response to a repeated client order id. -/
  rejection : Http.Response
  rejection_isError : rejection.isSuccess = false

structure World (κ : Type) where
  broker : Broker
  breaker : κ
  state : StateManager

variable {κ ω : Type} (c : Ctx κ ω)

/-- The response to a request that reached the broker. -/
def answer (executed : Bool) : Reply → Except String Http.Response
  | .returned body => .ok (if executed then { status := 200, text := body } else c.rejection)
  | .failed failure => failure.response

/-- One attempt to post the request. -/
def send (attempts : ℕ → Attempt) (r : AlpacaOrderRequest) (i : ℕ) (b : Broker) :
    Except String Http.Response × Broker :=
  match attempts i with
  | .unreached failure => (failure.response, b)
  | .reached reply => (answer c (b.take r).1 reply, (b.take r).2)

/-- The order of a response, or why it is none. -/
def readOrder (text : String) : Except GatewayError Order :=
  match c.parseResponse text with
  | .error e => .error (.internal ("Failed to parse response: " ++ e))
  | .ok alpacaOrder =>
    match c.translateAlpacaOrder alpacaOrder with
    | .error e => .error (.internal ("Failed to translate order: " ++ e))
    | .ok order => .ok order

/-- The posts of an order. -/
def postOrder (attempts : ℕ → Attempt) (order : OrderRequest) (b : Broker) :
    Except GatewayError Http.Response × Broker :=
  Http.executeWithRetry "alpaca" c.retryConfig
    (send c attempts (buildAlpacaOrderRequest order (c.translated order))) b

def placeOrderInternal (attempts : ℕ → Attempt) (order : OrderRequest) (b : Broker) :
    Except GatewayError Order × Broker :=
  match postOrder c attempts order b with
  | (.error e, b) => (.error e, b)
  | (.ok response, b) => (readOrder c response.text, b)

def submitOrder (attempts : ℕ → Attempt) (request : OrderRequest) (w : World κ) :
    Except GatewayError OrderHandle × World κ :=
  match c.openError w.breaker with
  | some e => (.error e, w)
  | none =>
    match placeOrderInternal c attempts request w.broker with
    | (.error e, broker) =>
      (.error e,
        { w with
          broker
          breaker := if e.isOutageError then c.recordFailure w.breaker else w.breaker })
    | (.ok order, broker) =>
      (.ok { id := order.id, clientOrderId := order.clientOrderId, status := order.status },
        { w with
          broker
          state := match request.ocoGroupId with
            | some groupId => w.state.addToOcoGroup order.id groupId
            | none => w.state })

/-! ## The attempts -/

/-- The error that a failure is for the caller. -/
def Failure.toError : Failure → GatewayError
  | .lost reason => .providerError ("Request failed: " ++ reason) (some "alpaca")
  | .error response _ => Http.mapErrorResponse response "alpaca"

theorem attemptResult_failure (failure : Failure) :
    Http.attemptResult "alpaca" failure.response = .error failure.toError := by
  cases failure with
  | lost reason => rfl
  | error response h => simp [Failure.response, Http.attemptResult, Failure.toError, h]

/-- One round of the loop: the post and what it means. -/
def attempt (attempts : ℕ → Attempt) (r : AlpacaOrderRequest) (i : ℕ) (b : Broker) :
    Except GatewayError Http.Response × Broker :=
  (Http.attemptResult "alpaca" (send c attempts r i b).1, (send c attempts r i b).2)

section attempt

variable {c} {attempts : ℕ → Attempt} {r : AlpacaOrderRequest} {i : ℕ} {b : Broker}

theorem attempt_unreached {failure : Failure} (h : attempts i = .unreached failure) :
    attempt c attempts r i b = (.error failure.toError, b) := by
  simp [attempt, send, h, attemptResult_failure]

/-- A repeated client order id: nothing is executed, and no response is a success. -/
theorem attempt_repeats {reply : Reply} (h : attempts i = .reached reply)
    (hb : b.repeats r.clientOrderId = true) :
    ∃ e, attempt c attempts r i b = (.error e, b) := by
  cases reply with
  | returned body =>
    exact ⟨Http.mapErrorResponse c.rejection "alpaca", by
      simp [attempt, send, h, answer, Broker.take, hb, Http.attemptResult, c.rejection_isError]⟩
  | failed failure =>
    exact ⟨failure.toError, by
      simp [attempt, send, h, answer, Broker.take, hb, attemptResult_failure]⟩

theorem attempt_returned {body : String} (h : attempts i = .reached (.returned body))
    (hb : b.repeats r.clientOrderId = false) :
    attempt c attempts r i b = (.ok { status := 200, text := body }, ⟨b.orders ++ [r]⟩) := by
  simp [attempt, send, h, answer, Broker.take, hb, Http.attemptResult, Http.Response.isSuccess]

theorem attempt_failed {failure : Failure} (h : attempts i = .reached (.failed failure))
    (hb : b.repeats r.clientOrderId = false) :
    attempt c attempts r i b = (.error failure.toError, ⟨b.orders ++ [r]⟩) := by
  simp [attempt, send, h, answer, Broker.take, hb, attemptResult_failure]

end attempt

/-- The reply to the first attempt that reaches the broker, of those that the loop makes from `i` on
with `n` rounds to go. -/
def firstReply (config : Http.RetryConfig) (attempts : ℕ → Attempt) : ℕ → ℕ → Option Reply
  | 0, _ => none
  | n + 1, i =>
    match attempts i with
    | .reached reply => some reply
    | .unreached failure =>
      if failure.toError.isRetryable && i < config.maxRetries then
        firstReply config attempts n (i + 1)
      else none

/-- What the posts come to at a broker `b` that does not know the client order id. -/
inductive Posted (b : Broker) (r : AlpacaOrderRequest) :
    Option Reply → Except GatewayError Http.Response × Broker → Prop where
  | unreached (e : GatewayError) : Posted b r none (.error e, b)
  | answered (body : String) :
      Posted b r (some (.returned body)) (.ok { status := 200, text := body }, ⟨b.orders ++ [r]⟩)
  /-- The order is executed and the call is not told: it ends with an error, or executes another. -/
  | unanswered (failure : Failure) {result : Except GatewayError Http.Response × Broker}
      (more : List AlpacaOrderRequest) (horders : result.2.orders = b.orders ++ r :: more)
      (hmore : result.1.isOk = true → more ≠ []) : Posted b r (some (.failed failure)) result

section posts

variable {c} {attempts : ℕ → Attempt} {r : AlpacaOrderRequest}

/-- Orders were added to those of `b`; after a success at least one. -/
def Grown (b : Broker) (ok : Bool) (b' : Broker) : Prop :=
  ∃ more, b'.orders = b.orders ++ more ∧ (ok = true → more ≠ [])

theorem grown_retryFrom (n i : ℕ) (last : Option GatewayError) (b : Broker) :
    Grown b (Http.retryFrom c.retryConfig (attempt c attempts r) n i last b).1.isOk
      (Http.retryFrom c.retryConfig (attempt c attempts r) n i last b).2 := by
  refine Http.retryFrom_inv (P := Grown b) ?_ ?_ n i last ⟨[], by simp, by simp⟩
  · rintro ok b' ⟨more, hmore, -⟩
    exact ⟨more, hmore, by simp⟩
  · rintro j b' ⟨more, hmore, -⟩
    cases h : attempts j with
    | unreached failure =>
      rw [attempt_unreached h]
      exact ⟨more, hmore, by simp [Except.isOk, Except.toBool]⟩
    | reached reply =>
      cases hb : b'.repeats r.clientOrderId with
      | true =>
        obtain ⟨e, he⟩ := attempt_repeats (c := c) h hb
        rw [he]
        exact ⟨more, hmore, by simp [Except.isOk, Except.toBool]⟩
      | false =>
        cases reply with
        | returned body =>
          rw [attempt_returned h hb]
          exact ⟨more ++ [r], by simp [hmore], by simp⟩
        | failed failure =>
          rw [attempt_failed h hb]
          exact ⟨more ++ [r], by simp [hmore], by simp⟩

theorem broker_retryFrom_repeats (n i : ℕ) (last : Option GatewayError) {b : Broker}
    (hb : b.repeats r.clientOrderId = true) :
    (Http.retryFrom c.retryConfig (attempt c attempts r) n i last b).2 = b := by
  refine Http.retryFrom_inv (P := fun _ b' => b' = b) (fun _ _ h => h) ?_ n i last rfl
  rintro j b' rfl
  cases h : attempts j with
  | unreached failure => rw [attempt_unreached h]
  | reached reply =>
    obtain ⟨e, he⟩ := attempt_repeats (c := c) h hb
    rw [he]

theorem posted_retryFrom {b : Broker} (hb : b.repeats r.clientOrderId = false) (n i : ℕ)
    (last : Option GatewayError) :
    Posted b r (firstReply c.retryConfig attempts n i)
      (Http.retryFrom c.retryConfig (attempt c attempts r) n i last b) := by
  induction n generalizing i last with
  | zero => exact .unreached _
  | succ n ih =>
    unfold Http.retryFrom firstReply
    cases h : attempts i with
    | unreached failure =>
      rw [attempt_unreached h]
      dsimp only
      split
      · exact ih (i + 1) _
      · exact .unreached _
    | reached reply =>
      cases reply with
      | returned body =>
        rw [attempt_returned h hb]
        exact .answered body
      | failed failure =>
        rw [attempt_failed h hb]
        dsimp only
        split
        · -- The loop goes on at a broker that has the order.
          have hgrown : Grown ⟨b.orders ++ [r]⟩ _ (Http.retryFrom c.retryConfig
              (attempt c attempts r) n (i + 1) (some failure.toError) ⟨b.orders ++ [r]⟩).2 :=
            grown_retryFrom n (i + 1) _ _
          obtain ⟨more, horders, hmore⟩ := hgrown
          exact .unanswered failure more (by simp [horders]) hmore
        · exact .unanswered failure [] rfl (by simp [Except.isOk, Except.toBool])

end posts

/-! ## The call -/

section call

variable {attempts : ℕ → Attempt} {request : OrderRequest} {w : World κ}

/-- At most one order exists because of the call, and none if it ends with an error. -/
def OneOrder (attempts : ℕ → Attempt) (request : OrderRequest) (w : World κ) : Prop :=
  ∃ placed, (submitOrder c attempts request w).2.broker.orders = w.broker.orders ++ placed ∧
    placed.length ≤ 1 ∧ ((submitOrder c attempts request w).1.isOk = false → placed = [])

/-- The caller is told about the order: the broker's response comes back, and it can be read. -/
def Told : Reply → Prop
  | .returned body => (readOrder c body).isOk = true
  | .failed _ => False

variable {c}

theorem broker_submitOrder (hclosed : c.openError w.breaker = none) :
    (submitOrder c attempts request w).2.broker = (postOrder c attempts request w.broker).2 := by
  unfold submitOrder placeOrderInternal
  rw [hclosed]
  dsimp only
  cases postOrder c attempts request w.broker with
  | mk result b =>
    cases result with
    | error e => rfl
    | ok response =>
      dsimp only
      cases readOrder c response.text <;> rfl

/-- A post succeeded, and its response can be read. -/
def isRead (c : Ctx κ ω) : Except GatewayError Http.Response → Bool
  | .error _ => false
  | .ok response => (readOrder c response.text).isOk

theorem isOk_submitOrder (hclosed : c.openError w.breaker = none) :
    (submitOrder c attempts request w).1.isOk =
      isRead c (postOrder c attempts request w.broker).1 := by
  unfold submitOrder placeOrderInternal
  rw [hclosed]
  dsimp only
  cases postOrder c attempts request w.broker with
  | mk result b =>
    cases result with
    | error e => rfl
    | ok response =>
      unfold isRead
      dsimp only
      cases readOrder c response.text <;> rfl

theorem posted_postOrder (hnew : w.broker.repeats request.clientOrderId = false) :
    Posted w.broker (buildAlpacaOrderRequest request (c.translated request))
      (firstReply c.retryConfig attempts (c.retryConfig.maxRetries + 1) 0)
      (postOrder c attempts request w.broker) :=
  posted_retryFrom (by rw [clientOrderId_build]; exact hnew) _ 0 none

/-- What the posts come to decides: an order that the caller is told about, or none. -/
theorem Posted.oneOrder_iff {b : Broker} {r : AlpacaOrderRequest} {first : Option Reply}
    {result : Except GatewayError Http.Response × Broker} (h : Posted b r first result) :
    (∃ placed, result.2.orders = b.orders ++ placed ∧ placed.length ≤ 1 ∧
        (isRead c result.1 = false → placed = [])) ↔
      ∀ reply, first = some reply → Told c reply := by
  cases h with
  | unreached e =>
    constructor
    · intro _ reply hnone
      cases hnone
    · intro _
      exact ⟨[], by simp, by simp, fun _ => rfl⟩
  | answered body =>
    constructor
    · rintro ⟨placed, horders, -, hnone⟩ reply ⟨⟩
      obtain rfl : placed = [r] := (List.append_cancel_left horders).symm
      show (readOrder c body).isOk = true
      by_contra hread
      exact absurd (hnone (by simpa [isRead] using hread)) (by simp)
    · intro htold
      have hread : (readOrder c body).isOk = true := htold _ rfl
      exact ⟨[r], rfl, by simp, fun h => by simp [isRead, hread] at h⟩
  | unanswered failure more horders hmore =>
    constructor
    · rintro ⟨placed, hplaced, hone, hnone⟩ reply -
      obtain rfl : placed = r :: more := List.append_cancel_left (hplaced.symm.trans horders)
      have hnil : more = [] := by simpa using hone
      have hfailed : isRead c result.1 = false := by
        cases hres : result.1 with
        | error e => rfl
        | ok response => exact absurd hnil (hmore (by rw [hres]; rfl))
      exact absurd (hnone hfailed) (by simp)
    · intro htold
      exact (htold _ rfl).elim

/-- A call leaves at most one order, and none with an error, exactly if it does not get to the
broker, or the broker knows its client order id, or the caller is told about the first post that
reaches the broker. -/
theorem one_order_iff :
    OneOrder c attempts request w ↔
      (c.openError w.breaker).isSome = true ∨ w.broker.repeats request.clientOrderId = true ∨
        ∀ reply, firstReply c.retryConfig attempts (c.retryConfig.maxRetries + 1) 0 = some reply →
          Told c reply := by
  unfold OneOrder
  cases hopen : c.openError w.breaker with
  | some e =>
    have hsame : submitOrder c attempts request w = (.error e, w) := by simp [submitOrder, hopen]
    rw [hsame]
    exact ⟨fun _ => .inl rfl, fun _ => ⟨[], by simp, by simp, fun _ => rfl⟩⟩
  | none =>
    rw [broker_submitOrder hopen, isOk_submitOrder hopen]
    cases hrep : w.broker.repeats request.clientOrderId with
    | true =>
      have hsame : (postOrder c attempts request w.broker).2 = w.broker :=
        broker_retryFrom_repeats _ 0 none (by rw [clientOrderId_build]; exact hrep)
      rw [hsame]
      exact ⟨fun _ => .inr (.inl rfl), fun _ => ⟨[], by simp, by simp, fun _ => rfl⟩⟩
    | false =>
      rw [(posted_postOrder hrep).oneOrder_iff]
      simp

end call

/-! ## A response that is lost -/

/-- An adapter whose breaker never opens, at a broker whose responses are order ids. -/
def Ctx.simulated : Ctx Unit String where
  retryConfig := {}
  translated r := ⟨r.symbol, "buy", "market", "market", "gtc", none, none, false, false⟩
  parseResponse := .ok
  translateAlpacaOrder id := .ok (sampleBracket.toOrder id)
  openError _ := none
  recordFailure := id
  rejection :=
    { status := 422, json := some { message := some (some "client_order_id must be unique") } }
  rejection_isError := rfl

def World.simulated : World Unit := ⟨⟨[]⟩, (), .new⟩

/-- Every attempt reaches the broker; the response to the first one is lost. -/
def lostFirst (i : ℕ) : Attempt :=
  if i = 0 then .reached (.failed (.lost "operation timed out")) else .reached (.returned "o2")

/-- Without a client order id the order is executed twice, and the call reports one of them. With a
client order id it is executed once, and the call reports an error. -/
theorem lostFirst_executes :
    ((submitOrder .simulated lostFirst sampleBracket .simulated).2.broker.orders.length = 2 ∧
        (submitOrder .simulated lostFirst sampleBracket .simulated).1 =
          .ok { id := "o2", status := .open } ∧
        ¬ OneOrder .simulated lostFirst sampleBracket .simulated) ∧
      (submitOrder .simulated lostFirst { sampleBracket with clientOrderId := some "a" }
          .simulated).2.broker.orders.length = 1 ∧
        (submitOrder .simulated lostFirst { sampleBracket with clientOrderId := some "a" }
          .simulated).1 = .error (.orderRejected "client_order_id must be unique" none) ∧
        ¬ OneOrder .simulated lostFirst { sampleBracket with clientOrderId := some "a" }
          .simulated := by
  have htwice : (submitOrder .simulated lostFirst sampleBracket
      .simulated).2.broker.orders.length = 2 := by decide +kernel
  have honce : (submitOrder .simulated lostFirst { sampleBracket with clientOrderId := some "a" }
      .simulated).2.broker.orders.length = 1 := by decide +kernel
  have herror : (submitOrder .simulated lostFirst { sampleBracket with clientOrderId := some "a" }
      .simulated).1 = .error (.orderRejected "client_order_id must be unique" none) := by
    decide +kernel
  refine ⟨⟨htwice, by decide +kernel, ?_⟩, honce, herror, ?_⟩
  · rintro ⟨placed, horders, hone, -⟩
    have hlen := congrArg List.length horders
    rw [htwice] at hlen
    have hempty : (World.simulated.broker.orders ++ placed).length = placed.length := rfl
    omega
  · rintro ⟨placed, horders, -, hnone⟩
    rw [hnone (by rw [herror]; rfl)] at horders
    have hlen := congrArg List.length horders
    rw [honce] at hlen
    exact absurd hlen (by decide)

end Gateway.Alpaca
