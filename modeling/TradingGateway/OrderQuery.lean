import Mathlib.Data.List.Sort
import TradingGateway.Lib.Selection
import TradingGateway.Models

/-!
# Order queries (`crates/core/src/models/order.rs`, `crates/mock/src/adapter.rs`)

`get_orders` takes criteria. The mock adapter filters its own orders by them. The adapter of a
broker sends some of the criteria to the broker and translates what it is given.

* `OrderQueryParams.keeps`: the filter. `Mock.getOrders`: the mock adapter.
* `Endpoints`: what the endpoints of a broker list, by scope and by the criteria that are sent.
* `Endpoints.perm_getOrders_iff`: the translations of a list are the orders that the mock adapter
  would list exactly if the broker is sent enough of the criteria (`Endpoints.Honours`).
* `Endpoints.honours_statuses_iff`: the status lists for which that is so.
-/

namespace Gateway

/-- Nanoseconds since the epoch. -/
abbrev DateTime := ℤ

/-- An order with the time of its creation. -/
structure DatedOrder extends Order where
  createdAt : DateTime
  deriving DecidableEq, Repr

structure OrderQueryParams where
  symbol : Option String := none
  status : Option (List OrderStatus) := none
  side : Option Side := none
  clientOrderId : Option String := none
  ocoGroupId : Option String := none
  since : Option DateTime := none
  untilTime : Option DateTime := none
  limit : Option ℕ := none
  deriving DecidableEq, Repr

/-- The filter of the mock adapter. -/
def OrderQueryParams.keeps (params : OrderQueryParams) (o : DatedOrder) : Bool :=
  (params.symbol.all fun symbol => o.symbol = symbol) &&
  (params.status.all fun statuses => o.status ∈ statuses) &&
  (params.side.all fun side => o.side = side) &&
  (params.clientOrderId.all fun id => o.clientOrderId = some id) &&
  (params.ocoGroupId.all fun id => o.ocoGroupId = some id) &&
  (params.since.all fun since => since ≤ o.createdAt) &&
  params.untilTime.all fun untilTime => o.createdAt < untilTime

/-- The newest orders come first. -/
def Mock.getOrders (orders : List DatedOrder) (params : OrderQueryParams) : List DatedOrder :=
  let result := (orders.filter params.keeps).insertionSort fun a b => b.createdAt ≤ a.createdAt
  match params.limit with
  | none => result
  | some limit => result.take limit

/-! ## The endpoints of a broker -/

/-- The orders that a broker lists: the ones that are not over, the ones that are, or both. -/
inductive Scope where
  | open
  | closed
  | all
  deriving DecidableEq, Repr

def Scope.admits (terminal : Bool) : Scope → Bool
  | .open => !terminal
  | .closed => terminal
  | .all => true

/-- The list has the statuses in the scope, and no other. -/
def Scope.Exact (scope : Scope) (statuses : List OrderStatus) : Prop :=
  ∀ s : OrderStatus, scope.admits s.isTerminal = true ↔ s ∈ statuses

/-- The criteria that a broker is sent. -/
structure Sent where
  symbol : Option String := none
  since : Option DateTime := none
  untilTime : Option DateTime := none
  deriving DecidableEq, Repr

/-- `sinceIncluded` and `untilIncluded` tell whether a bound includes the bound itself. -/
def Sent.keeps (sinceIncluded untilIncluded : Bool) (sent : Sent) (o : DatedOrder) : Bool :=
  (sent.symbol.all fun symbol => o.symbol = symbol) &&
  (sent.since.all fun since => since < o.createdAt || sinceIncluded && o.createdAt = since) &&
  sent.untilTime.all fun untilTime =>
    o.createdAt < untilTime || untilIncluded && o.createdAt = untilTime

/-- What the endpoints of a broker list. -/
structure Endpoints {β : Type} (translation : β → Option DatedOrder) where
  /-- The order is over, as the broker sees it. -/
  terminal : β → Bool
  /-- What is listed if the request names no scope. -/
  default : Scope
  sinceIncluded : Bool
  untilIncluded : Bool
  restricts : Sent → β → Bool
  /-- The broker reads the criteria as the gateway does. -/
  restricts_eq : ∀ sent o t, translation o = some t →
    restricts sent o = sent.keeps sinceIncluded untilIncluded t

namespace Endpoints

variable {β : Type} {translation : β → Option DatedOrder}

def gives (e : Endpoints translation) (scope : Option Scope) (sent : Sent) (o : β) : Bool :=
  (scope.getD e.default).admits (e.terminal o) && e.restricts sent o

section honours

variable (e : Endpoints translation) (scope : Option Scope) (sent : Sent)
  (params : OrderQueryParams) (orders : List β)

/-- The order is in the scope and satisfies the criteria that are sent. -/
def lists (o : β) (t : DatedOrder) : Bool :=
  (scope.getD e.default).admits (e.terminal o) && sent.keeps e.sinceIncluded e.untilIncluded t

/-- What satisfies all criteria is listed. -/
def LosesNothing : Prop :=
  ∀ o ∈ orders, ∀ t ∈ translation o, params.keeps t = true → e.lists scope sent o t = true

/-- What is listed satisfies all criteria. -/
def AddsNothing : Prop :=
  ∀ o ∈ orders, ∀ t ∈ translation o, e.lists scope sent o t = true → params.keeps t = true

/-- The list is exact. -/
def Honours : Prop :=
  e.LosesNothing scope sent params orders ∧ e.AddsNothing scope sent params orders

instance : Decidable (e.Honours scope sent params orders) :=
  inferInstanceAs (Decidable ((∀ o ∈ orders, ∀ t ∈ translation o, _ → _) ∧
    ∀ o ∈ orders, ∀ t ∈ translation o, _ → _))

end honours

/-- The endpoints that ignore what cannot be translated. -/
def translatable (translation : β → Option DatedOrder) (terminal : β → Bool) (default : Scope)
    (sinceIncluded untilIncluded : Bool) : Endpoints translation where
  terminal
  default
  sinceIncluded
  untilIncluded
  restricts sent o := (translation o).any (sent.keeps sinceIncluded untilIncluded)
  restricts_eq sent o t h := by rw [h, Option.any_some]

theorem agree_gives_iff (e : Endpoints translation) (scope : Option Scope) (sent : Sent)
    (params : OrderQueryParams) (orders : List β) :
    Selection.Agree translation (e.gives scope sent) params.keeps orders ↔
      e.Honours scope sent params orders := by
  have hgives : ∀ o t, translation o = some t → e.gives scope sent o = e.lists scope sent o t := by
    intro o t ht
    rw [gives, lists, e.restricts_eq sent o t ht]
  constructor
  · intro h
    refine ⟨fun o ho t ht hkeeps => ?_, fun o ho t ht hlists => ?_⟩
    · exact hgives o t ht ▸ (h o ho t ht).mpr hkeeps
    · exact (h o ho t ht).mp (hgives o t ht ▸ hlists)
  · rintro ⟨hloses, hadds⟩ o ho t ht
    rw [hgives o t ht]
    exact ⟨hadds o ho t ht, hloses o ho t ht⟩

/-- A status list alone, at a broker with orders of every status and with the gateway's notion of an
order that is over: the list is exact if the scope has just the statuses of the list. -/
theorem honours_statuses_iff (e : Endpoints translation) (scope : Option Scope)
    (statuses : List OrderStatus) {orders : List β}
    (hterminal : ∀ o t, translation o = some t → e.terminal o = t.status.isTerminal)
    (hall : ∀ s, ∃ o ∈ orders, ∃ t, translation o = some t ∧ t.status = s) :
    e.Honours scope {} { status := some statuses } orders ↔
      (scope.getD e.default).Exact statuses := by
  have hlists : ∀ o t, translation o = some t →
      e.lists scope {} o t = (scope.getD e.default).admits t.status.isTerminal := by
    intro o t ht
    simp [lists, Sent.keeps, hterminal o t ht]
  have hkeeps (t : DatedOrder) :
      OrderQueryParams.keeps { status := some statuses } t = true ↔ t.status ∈ statuses := by
    simp [OrderQueryParams.keeps]
  constructor
  · rintro ⟨hloses, hadds⟩ s
    obtain ⟨o, ho, t, ht, rfl⟩ := hall s
    rw [← hlists o t ht, ← hkeeps]
    exact ⟨hadds o ho t ht, hloses o ho t ht⟩
  · intro h
    refine ⟨fun o _ t ht hkept => ?_, fun o _ t ht hlisted => ?_⟩
    · rw [hlists o t ht]
      exact (h _).mpr ((hkeeps t).mp hkept)
    · rw [hlists o t ht] at hlisted
      exact (hkeeps t).mpr ((h _).mp hlisted)

/-- The translations of what an endpoint lists are what the mock adapter would list. -/
theorem perm_getOrders_iff (e : Endpoints translation) {scope : Option Scope} {sent : Sent}
    {params : OrderQueryParams} {orders given : List β} (hlimit : params.limit = none)
    (hgiven : given.Perm (orders.filter (e.gives scope sent))) :
    (given.filterMap translation).Perm
        (Mock.getOrders (orders.filterMap translation) params) ↔
      e.Honours scope sent params orders := by
  have hmock : (Mock.getOrders (orders.filterMap translation) params).Perm
      (Selection.wanted translation params.keeps orders) := by
    rw [Mock.getOrders, hlimit]
    exact List.perm_insertionSort _ _
  rw [hmock.congr_right, Selection.perm_wanted_iff hgiven, agree_gives_iff]

end Endpoints

end Gateway
