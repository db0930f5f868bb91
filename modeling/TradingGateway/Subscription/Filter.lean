import TradingGateway.Lib.Table
import TradingGateway.Lib.Text
import TradingGateway.Models

/-!
# The subscription filter (`crates/core/src/subscription/filter.rs`)

An index of the subscriptions: for each platform and instrument, and for each platform with the
instrument `*`, the events that are wanted. Events of one key are merged over all subscriptions.

* `filter_refines_scan`: the look-up finds an event exactly if one subscription alone wants it.
-/

namespace Gateway.Subscription

inductive EventKind where
  | quote
  | orderUpdate
  | positionUpdate
  | tradeUpdate
  | accountUpdate
  deriving DecidableEq, Repr

/-- Events subscribed for an instrument. -/
structure SubscribedEvents where
  all : Bool := false
  allCandles : Bool := false
  /-- Timeframes, each as `candle_` and its text. -/
  candleTimeframes : KeySet String := ∅
  events : KeySet EventKind := ∅

namespace SubscribedEvents

def addKind (s : SubscribedEvents) (kind : EventKind) : SubscribedEvents :=
  { s with events := s.events.add kind }

def addTimeframe (s : SubscribedEvents) (key : String) : SubscribedEvents :=
  { s with candleTimeframes := s.candleTimeframes.add key }

def addEvent (s : SubscribedEvents) (event : String) : SubscribedEvents :=
  if event = "*" then { s with all := true }
  else if event = "candle_*" ∨ event = "bars" ∨ event = "bar" then { s with allCandles := true }
  else if event = "quote" ∨ event = "quotes" then s.addKind .quote
  else if event = "order_update" ∨ event = "orders" then s.addKind .orderUpdate
  else if event = "position_update" ∨ event = "positions" then s.addKind .positionUpdate
  else if event = "trade_update" ∨ event = "trades" then s.addKind .tradeUpdate
  else if event = "account_update" then s.addKind .accountUpdate
  else if (Text.afterStart "candle_" event).isSome then s.addTimeframe event
  else
    match Text.afterStart "candles." event with
    | some interval => s.addTimeframe ("candle_" ++ interval)
    | none => s

def matchesCandle (s : SubscribedEvents) (timeframe : Timeframe) : Bool :=
  s.all || s.allCandles || s.candleTimeframes.has ("candle_" ++ timeframe.asStr)

def matchesEvent (s : SubscribedEvents) (kind : EventKind) : Bool := s.all || s.events.has kind

end SubscribedEvents

structure InstrumentSubscription where
  platform : TradingPlatform
  /-- A symbol, or `*`. -/
  instrument : String
  events : List String
  deriving DecidableEq, Repr

/-- A message as the filter sees it: its type, and the symbol and timeframe that it carries. -/
inductive FilterMessage where
  | candle (symbol : String) (timeframe : Timeframe)
  | quoteData (symbol : String)
  | order (symbol : String)
  | position (symbol : String)
  | trade (symbol : String)
  | financing (symbol : String)
  | account
  | connection
  | dataStaleness
  | rateLimit
  | error
  | ping
  | pong
  | backtestComplete
  | eventAck
  | close
  deriving DecidableEq, Repr

def FilterMessage.isSystemEvent : FilterMessage → Bool
  | .connection | .dataStaleness | .rateLimit | .error | .ping | .pong | .backtestComplete => true
  | _ => false

structure SubscriptionFilter where
  subscriptions : Table TradingPlatform (Table String SubscribedEvents)
  /-- Subscriptions with the instrument `*`. -/
  platformWildcards : Table TradingPlatform SubscribedEvents
  /-- Platforms with account events, which have no symbol. -/
  accountSubscriptions : Table TradingPlatform Bool

namespace SubscriptionFilter

def empty : SubscriptionFilter := ⟨∅, ∅, ∅⟩

/-- Enter one subscription. -/
def add (f : SubscriptionFilter) (sub : InstrumentSubscription) : SubscriptionFilter :=
  let f :=
    if sub.events.any fun e => e = "account_update" ∨ e = "*" then
      { f with accountSubscriptions := f.accountSubscriptions.insert sub.platform true }
    else f
  if sub.instrument = "*" then
    let events := (f.platformWildcards.get sub.platform).getD {}
    { f with
      platformWildcards := f.platformWildcards.insert sub.platform
        (sub.events.foldl .addEvent events) }
  else
    let platformSubs := (f.subscriptions.get sub.platform).getD ∅
    let events := (platformSubs.get sub.instrument).getD {}
    { f with
      subscriptions := f.subscriptions.insert sub.platform
        (platformSubs.insert sub.instrument (sub.events.foldl .addEvent events)) }

def new (subscriptions : List InstrumentSubscription) : SubscriptionFilter :=
  subscriptions.foldl add empty

/-- The events of a symbol on a platform, and those of all its symbols. -/
def specific (f : SubscriptionFilter) (platform : TradingPlatform) (symbol : String) :
    Option SubscribedEvents :=
  (f.subscriptions.get platform).bind fun platformSubs => platformSubs.get symbol

def matchesCandle (f : SubscriptionFilter) (platform : TradingPlatform) (symbol : String)
    (timeframe : Timeframe) : Bool :=
  ((f.specific platform symbol).any fun events => events.matchesCandle timeframe) ||
    (f.platformWildcards.get platform).any fun events => events.matchesCandle timeframe

def matchesSimple (f : SubscriptionFilter) (platform : TradingPlatform) (symbol : String)
    (kind : EventKind) : Bool :=
  ((f.specific platform symbol).any fun events => events.matchesEvent kind) ||
    (f.platformWildcards.get platform).any fun events => events.matchesEvent kind

/-- The event is forwarded to the strategies. Without subscriptions everything is. -/
def matchesMessage (f : SubscriptionFilter) (event : FilterMessage) (platform : TradingPlatform) :
    Bool :=
  if f.subscriptions.toList.isEmpty && f.platformWildcards.toList.isEmpty then true
  else if event.isSystemEvent then true
  else
    match event with
    | .candle symbol timeframe => f.matchesCandle platform symbol timeframe
    | .quoteData symbol => f.matchesSimple platform symbol .quote
    | .order symbol => f.matchesSimple platform symbol .orderUpdate
    | .position symbol => f.matchesSimple platform symbol .positionUpdate
    | .trade symbol => f.matchesSimple platform symbol .tradeUpdate
    | .financing symbol => f.matchesSimple platform symbol .tradeUpdate
    | .account => (f.accountSubscriptions.get platform).getD false
    | .pong | .eventAck | .close => false
    | .connection | .dataStaleness | .rateLimit | .error | .backtestComplete | .ping => true

end SubscriptionFilter

/-! ## A scan of the subscriptions -/

/-- The event strings of a kind. -/
def namesOf : EventKind → List String
  | .quote => ["*", "quote", "quotes"]
  | .orderUpdate => ["*", "order_update", "orders"]
  | .positionUpdate => ["*", "position_update", "positions"]
  | .tradeUpdate => ["*", "trade_update", "trades"]
  | .accountUpdate => ["*", "account_update"]

/-- The event strings of a candle. -/
def namesOfCandle (timeframe : Timeframe) : List String :=
  ["*", "candle_*", "bars", "bar", "candle_" ++ timeframe.asStr, "candles." ++ timeframe.asStr]

namespace FilterMessage

/-- The event strings that denote the message. -/
def denotedBy : FilterMessage → List String
  | .candle _ timeframe => namesOfCandle timeframe
  | .quoteData _ => namesOf .quote
  | .order _ => namesOf .orderUpdate
  | .position _ => namesOf .positionUpdate
  | .trade _ | .financing _ => namesOf .tradeUpdate
  | .account => namesOf .accountUpdate
  | _ => []

/-- The symbol that the message carries. -/
def symbol : FilterMessage → Option String
  | .candle symbol _ | .quoteData symbol | .order symbol | .position symbol | .trade symbol
  | .financing symbol => some symbol
  | _ => none

end FilterMessage

/-- The subscription wants the message: it is for the platform, for the symbol or for all symbols
(a message of the account has none), and lists an event string that denotes the message. -/
def InstrumentSubscription.Wants (sub : InstrumentSubscription) (message : FilterMessage)
    (platform : TradingPlatform) : Prop :=
  sub.platform = platform ∧ (∀ symbol ∈ message.symbol, sub.instrument ∈ [symbol, "*"]) ∧
    ∃ event ∈ sub.events, event ∈ message.denotedBy

/-! ## Event strings -/

namespace SubscribedEvents

/-- The message is among the subscribed events. -/
def covers (s : SubscribedEvents) : FilterMessage → Bool
  | .candle _ timeframe => s.matchesCandle timeframe
  | .quoteData _ => s.matchesEvent .quote
  | .order _ => s.matchesEvent .orderUpdate
  | .position _ => s.matchesEvent .positionUpdate
  | .trade _ | .financing _ => s.matchesEvent .tradeUpdate
  | _ => false

variable (s : SubscribedEvents) (event : String)

/-- A string that is none of the fixed names. -/
def Unnamed : Prop :=
  ¬ (event = "candle_*" ∨ event = "bars" ∨ event = "bar") ∧ ∀ kind, event ∉ namesOf kind

theorem unnamed_of_ne (h₁ : event ≠ "*")
    (h₂ : ¬ (event = "candle_*" ∨ event = "bars" ∨ event = "bar"))
    (h₃ : ¬ (event = "quote" ∨ event = "quotes"))
    (h₄ : ¬ (event = "order_update" ∨ event = "orders"))
    (h₅ : ¬ (event = "position_update" ∨ event = "positions"))
    (h₆ : ¬ (event = "trade_update" ∨ event = "trades")) (h₇ : event ≠ "account_update") :
    Unnamed event := by
  refine ⟨h₂, fun kind hmem => ?_⟩
  cases kind <;> simp only [namesOf, List.mem_cons, List.not_mem_nil, or_false] at hmem
  case quote => exact hmem.elim h₁ h₃
  case orderUpdate => exact hmem.elim h₁ h₄
  case positionUpdate => exact hmem.elim h₁ h₅
  case tradeUpdate => exact hmem.elim h₁ h₆
  case accountUpdate => exact hmem.elim h₁ h₇

/-- What an event string does: it is one of the fixed names, or names a timeframe, or is ignored. -/
theorem addEvent_cases :
    (event = "*" ∧ s.addEvent event = { s with all := true }) ∨
    ((event = "candle_*" ∨ event = "bars" ∨ event = "bar") ∧
      s.addEvent event = { s with allCandles := true }) ∨
    (∃ kind, event ∈ (namesOf kind).tail ∧ s.addEvent event = s.addKind kind) ∨
    Unnamed event ∧
      ((∃ rest, event = "candle_" ++ rest ∧ s.addEvent event = s.addTimeframe event) ∨
        (∃ rest, event = "candles." ++ rest ∧
          s.addEvent event = s.addTimeframe ("candle_" ++ rest)) ∨
        (∀ rest, event ≠ "candle_" ++ rest ∧ event ≠ "candles." ++ rest) ∧
          s.addEvent event = s) := by
  unfold addEvent
  by_cases h₁ : event = "*"
  · exact .inl ⟨h₁, if_pos h₁⟩
  rw [if_neg h₁]
  by_cases h₂ : event = "candle_*" ∨ event = "bars" ∨ event = "bar"
  · exact .inr (.inl ⟨h₂, if_pos h₂⟩)
  rw [if_neg h₂]
  refine .inr (.inr ?_)
  by_cases h₃ : event = "quote" ∨ event = "quotes"
  · exact .inl ⟨.quote, by simpa [namesOf] using h₃, if_pos h₃⟩
  rw [if_neg h₃]
  by_cases h₄ : event = "order_update" ∨ event = "orders"
  · exact .inl ⟨.orderUpdate, by simpa [namesOf] using h₄, if_pos h₄⟩
  rw [if_neg h₄]
  by_cases h₅ : event = "position_update" ∨ event = "positions"
  · exact .inl ⟨.positionUpdate, by simpa [namesOf] using h₅, if_pos h₅⟩
  rw [if_neg h₅]
  by_cases h₆ : event = "trade_update" ∨ event = "trades"
  · exact .inl ⟨.tradeUpdate, by simpa [namesOf] using h₆, if_pos h₆⟩
  rw [if_neg h₆]
  by_cases h₇ : event = "account_update"
  · exact .inl ⟨.accountUpdate, by simpa [namesOf] using h₇, if_pos h₇⟩
  rw [if_neg h₇]
  refine .inr ⟨unnamed_of_ne event h₁ h₂ h₃ h₄ h₅ h₆ h₇, ?_⟩
  by_cases h₈ : (Text.afterStart "candle_" event).isSome
  · obtain ⟨rest, hrest⟩ := Option.isSome_iff_exists.mp h₈
    exact .inl ⟨rest, Text.afterStart_eq_some.mp hrest, if_pos h₈⟩
  rw [if_neg h₈]
  refine .inr ?_
  cases h₉ : Text.afterStart "candles." event with
  | some rest => exact .inl ⟨rest, Text.afterStart_eq_some.mp h₉, rfl⟩
  | none =>
    refine .inr ⟨fun rest => ⟨fun h => ?_, fun h => ?_⟩, rfl⟩
    · rw [Text.afterStart_eq_some.mpr h] at h₈
      exact h₈ rfl
    · rw [Text.afterStart_eq_some.mpr h] at h₉
      cases h₉

variable (kind : EventKind) (timeframe : Timeframe) {message : FilterMessage}

theorem matchesEvent_addKind (kind' : EventKind) :
    (s.addKind kind').matchesEvent kind = true ↔ s.matchesEvent kind = true ∨ kind = kind' := by
  unfold matchesEvent addKind
  rw [KeySet.has_add, Bool.or_eq_true, Bool.or_eq_true, Bool.or_eq_true, decide_eq_true_eq,
    or_comm (b := s.events.has kind = true), or_assoc]

/-- The kinds have different names. -/
theorem eq_iff_mem_namesOf {kind kind' : EventKind} (h : event ∈ (namesOf kind').tail) :
    kind = kind' ↔ event ∈ namesOf kind := by
  revert event
  cases kind' <;> cases kind <;> decide

theorem matchesEvent_addEvent :
    (s.addEvent event).matchesEvent kind = true ↔
      s.matchesEvent kind = true ∨ event ∈ namesOf kind := by
  rcases s.addEvent_cases event with ⟨rfl, hs⟩ | ⟨hcandle, hs⟩ | ⟨kind', hmem, hs⟩ | ⟨hunnamed, hs⟩
  · rw [hs]
    refine iff_of_true rfl (.inr ?_)
    cases kind <;> exact List.mem_cons_self
  · have hnot : event ∉ namesOf kind := by
      rcases hcandle with rfl | rfl | rfl <;> cases kind <;> decide
    rw [hs, or_iff_left hnot]
    rfl
  · rw [hs, matchesEvent_addKind, eq_iff_mem_namesOf event hmem]
  · rw [or_iff_left (hunnamed.2 kind)]
    rcases hs with ⟨rest, -, hs⟩ | ⟨rest, -, hs⟩ | ⟨-, hs⟩ <;> rw [hs] <;> rfl

theorem matchesCandle_addTimeframe (key : String) :
    (s.addTimeframe key).matchesCandle timeframe = true ↔
      s.matchesCandle timeframe = true ∨ "candle_" ++ timeframe.asStr = key := by
  unfold matchesCandle addTimeframe
  simp only [KeySet.has_add, Bool.or_eq_true, decide_eq_true_eq]
  rw [or_comm (a := _ = key), or_assoc (c := _ = key)]

theorem candle_ne_candles (a b : String) : "candle_" ++ a ≠ "candles." ++ b := by
  intro h
  have htake := congrArg (fun s => s.toList.take 7) h
  simp at htake

variable {event} in
/-- The name of a kind denotes no candle. -/
theorem not_mem_namesOfCandle {kind : EventKind} (h : event ∈ (namesOf kind).tail)
    (timeframe : Timeframe) : event ∉ namesOfCandle timeframe := by
  revert event
  cases kind <;> cases timeframe <;> decide

variable {event} in
/-- A string that is none of the fixed names denotes a candle only by its timeframe. -/
theorem mem_namesOfCandle_of_unnamed (h : Unnamed event) (timeframe : Timeframe) :
    event ∈ namesOfCandle timeframe ↔
      event = "candle_" ++ timeframe.asStr ∨ event = "candles." ++ timeframe.asStr := by
  obtain ⟨hcandle, hkind⟩ := h
  have hstar : event ≠ "*" := fun hstar => hkind .quote (hstar ▸ List.mem_cons_self)
  simp only [not_or] at hcandle
  simp [namesOfCandle, hstar, hcandle]

theorem matchesCandle_addEvent :
    (s.addEvent event).matchesCandle timeframe = true ↔
      s.matchesCandle timeframe = true ∨ event ∈ namesOfCandle timeframe := by
  rcases s.addEvent_cases event with ⟨rfl, hs⟩ | ⟨hcandle, hs⟩ | ⟨kind, hmem, hs⟩ | ⟨hunnamed, hs⟩
  · rw [hs]
    exact iff_of_true rfl (.inr List.mem_cons_self)
  · rw [hs]
    refine iff_of_true (by simp [matchesCandle]) (.inr ?_)
    rcases hcandle with rfl | rfl | rfl <;> simp [namesOfCandle]
  · rw [hs, or_iff_left (not_mem_namesOfCandle hmem timeframe)]
    rfl
  · rw [mem_namesOfCandle_of_unnamed hunnamed]
    rcases hs with ⟨rest, hrest, hs⟩ | ⟨rest, hrest, hs⟩ | ⟨hnone, hs⟩
    · rw [hs, matchesCandle_addTimeframe, eq_comm (b := event)]
      refine or_congr_right (or_iff_left ?_).symm
      rw [hrest]
      exact candle_ne_candles _ _
    · rw [hs, matchesCandle_addTimeframe, hrest, String.append_right_inj, String.append_right_inj]
      refine or_congr_right ?_
      rw [or_iff_right (Ne.symm (candle_ne_candles _ _)), eq_comm]
    · rw [hs, or_iff_left (not_or.mpr (hnone _))]

/-- An event string adds the messages that it denotes. -/
theorem covers_addEvent (hsymbol : message.symbol.isSome) :
    (s.addEvent event).covers message = true ↔
      s.covers message = true ∨ event ∈ message.denotedBy := by
  cases message with
  | candle _ timeframe => exact s.matchesCandle_addEvent event timeframe
  | quoteData _ => exact s.matchesEvent_addEvent event .quote
  | order _ => exact s.matchesEvent_addEvent event .orderUpdate
  | position _ => exact s.matchesEvent_addEvent event .positionUpdate
  | trade _ | financing _ => exact s.matchesEvent_addEvent event .tradeUpdate
  | account | connection | dataStaleness | rateLimit | error | ping | pong | backtestComplete
  | eventAck | close => cases hsymbol

theorem covers_addEvents (hsymbol : message.symbol.isSome) (events : List String) :
    (events.foldl addEvent s).covers message = true ↔
      s.covers message = true ∨ ∃ event ∈ events, event ∈ message.denotedBy := by
  induction events generalizing s with
  | nil => simp
  | cons event events ih =>
    rw [List.foldl_cons, ih, covers_addEvent _ _ hsymbol, or_assoc]
    simp only [List.mem_cons, exists_eq_or_imp]

theorem covers_default (message : FilterMessage) : covers {} message = false := by
  cases message <;> rfl

end SubscribedEvents

/-! ## The three maps -/

namespace SubscriptionFilter

variable (f : SubscriptionFilter) (sub : InstrumentSubscription) (platform : TradingPlatform)

/-- The subscription asks for the events of the account. -/
def asksAccount (sub : InstrumentSubscription) : Bool :=
  sub.events.any fun e => e = "account_update" ∨ e = "*"

theorem subscriptions_add :
    (f.add sub).subscriptions =
      if sub.instrument = "*" then f.subscriptions
      else
        let platformSubs := (f.subscriptions.get sub.platform).getD ∅
        f.subscriptions.insert sub.platform (platformSubs.insert sub.instrument
          (sub.events.foldl .addEvent ((platformSubs.get sub.instrument).getD {}))) := by
  unfold add
  split_ifs <;> rfl

theorem platformWildcards_add :
    (f.add sub).platformWildcards =
      if sub.instrument = "*" then
        f.platformWildcards.insert sub.platform
          (sub.events.foldl .addEvent ((f.platformWildcards.get sub.platform).getD {}))
      else f.platformWildcards := by
  unfold add
  split_ifs <;> rfl

theorem accountSubscriptions_add :
    (f.add sub).accountSubscriptions =
      if asksAccount sub = true then f.accountSubscriptions.insert sub.platform true
      else f.accountSubscriptions := by
  unfold add asksAccount
  split_ifs <;> rfl

theorem specific_add (symbol : String) :
    (f.add sub).specific platform symbol =
      if sub.platform = platform ∧ sub.instrument = symbol ∧ sub.instrument ≠ "*" then
        some (sub.events.foldl .addEvent ((f.specific platform symbol).getD {}))
      else f.specific platform symbol := by
  -- a platform without subscriptions has an empty map
  have hget (k : String) : ((f.subscriptions.get sub.platform).getD ∅).get k =
      f.specific sub.platform k := by
    unfold specific
    cases f.subscriptions.get sub.platform <;> rfl
  show ((f.add sub).subscriptions.get platform).bind _ = _
  rw [subscriptions_add]
  by_cases hstar : sub.instrument = "*"
  · rw [if_pos hstar, if_neg fun h => h.2.2 hstar]
    rfl
  · rw [if_neg hstar]
    dsimp only
    rw [Table.get_insert]
    by_cases hplatform : sub.platform = platform
    · subst hplatform
      rw [if_pos rfl, Option.bind_some, Table.get_insert, hget, hget]
      by_cases hsymbol : sub.instrument = symbol
      · subst hsymbol
        rw [if_pos rfl, if_pos ⟨rfl, rfl, hstar⟩]
      · rw [if_neg (Ne.symm hsymbol), if_neg fun h => hsymbol h.2.1]
    · rw [if_neg (Ne.symm hplatform), if_neg fun h => hplatform h.1]
      rfl

theorem wildcards_add :
    (f.add sub).platformWildcards.get platform =
      if sub.platform = platform ∧ sub.instrument = "*" then
        some (sub.events.foldl .addEvent ((f.platformWildcards.get platform).getD {}))
      else f.platformWildcards.get platform := by
  rw [platformWildcards_add]
  by_cases hstar : sub.instrument = "*"
  · rw [if_pos hstar, Table.get_insert]
    by_cases hplatform : sub.platform = platform
    · subst hplatform
      rw [if_pos rfl, if_pos ⟨rfl, hstar⟩]
    · rw [if_neg (Ne.symm hplatform), if_neg fun h => hplatform h.1]
  · rw [if_neg hstar, if_neg fun h => hstar h.2]

theorem account_add :
    (f.add sub).accountSubscriptions.get platform =
      if asksAccount sub = true ∧ sub.platform = platform then some true
      else f.accountSubscriptions.get platform := by
  rw [accountSubscriptions_add]
  by_cases hasks : asksAccount sub = true
  · rw [if_pos hasks, Table.get_insert]
    simp only [hasks, true_and, eq_comm]
  · rw [if_neg hasks, if_neg fun h => hasks h.1]

/-! ## All subscriptions -/

variable {platform}

section new

variable {message : FilterMessage} (hsymbol : message.symbol.isSome)

include hsymbol

theorem covers_getD (old : Option SubscribedEvents) (events : List String) :
    (events.foldl SubscribedEvents.addEvent (old.getD {})).covers message = true ↔
      (old.any fun s => s.covers message) = true ∨
        ∃ event ∈ events, event ∈ message.denotedBy := by
  rw [SubscribedEvents.covers_addEvents _ hsymbol]
  cases old with
  | none =>
    rw [Option.getD_none, SubscribedEvents.covers_default]
    rfl
  | some s => rfl

/-- The message is found for the symbol, or for all symbols, if a subscription for the symbol, or
for all, lists it. -/
theorem covers_foldl (subs : List InstrumentSubscription) (symbol : String) :
    (((subs.foldl add f).specific platform symbol).any fun s => s.covers message) = true ∨
        (((subs.foldl add f).platformWildcards.get platform).any fun s => s.covers message) =
          true ↔
      (((f.specific platform symbol).any fun s => s.covers message) = true ∨
        ((f.platformWildcards.get platform).any fun s => s.covers message) = true) ∨
        ∃ sub ∈ subs, sub.platform = platform ∧ sub.instrument ∈ [symbol, "*"] ∧
          ∃ event ∈ sub.events, event ∈ message.denotedBy := by
  induction subs generalizing f with
  | nil => simp
  | cons sub subs ih =>
    have hone : (((f.add sub).specific platform symbol).any fun s => s.covers message) = true ∨
          (((f.add sub).platformWildcards.get platform).any fun s => s.covers message) = true ↔
        (((f.specific platform symbol).any fun s => s.covers message) = true ∨
          ((f.platformWildcards.get platform).any fun s => s.covers message) = true) ∨
          sub.platform = platform ∧ sub.instrument ∈ [symbol, "*"] ∧
            ∃ event ∈ sub.events, event ∈ message.denotedBy := by
      rw [specific_add, wildcards_add]
      by_cases hplatform : sub.platform = platform
      · by_cases hstar : sub.instrument = "*"
        · simp [hplatform, hstar, covers_getD hsymbol, or_assoc]
        · by_cases hsym : sub.instrument = symbol
          · have hne : symbol ≠ "*" := hsym ▸ hstar
            simp [hplatform, hsym, hne, covers_getD hsymbol, or_comm, or_left_comm]
          · simp [hplatform, hsym, hstar]
      · simp [hplatform]
    rw [List.foldl_cons, ih, hone, or_assoc]
    simp only [List.mem_cons (b := sub), exists_eq_or_imp]

end new

variable (subs : List InstrumentSubscription) {message : FilterMessage}

theorem account_foldl :
    ((subs.foldl add f).accountSubscriptions.get platform).getD false = true ↔
      (f.accountSubscriptions.get platform).getD false = true ∨
        ∃ sub ∈ subs, sub.platform = platform ∧ asksAccount sub = true := by
  induction subs generalizing f with
  | nil => simp
  | cons sub subs ih =>
    rw [List.foldl_cons, ih, account_add]
    by_cases hasks : asksAccount sub = true ∧ sub.platform = platform
    · rw [if_pos hasks]
      refine iff_of_true (.inl rfl) (.inr ⟨sub, List.mem_cons_self, hasks.2, hasks.1⟩)
    · rw [if_neg hasks]
      refine or_congr_right ⟨?_, ?_⟩
      · rintro ⟨sub', hmem, h⟩
        exact ⟨sub', List.mem_cons_of_mem sub hmem, h⟩
      · rintro ⟨sub', hmem, hplatform, hasks'⟩
        rcases List.mem_cons.mp hmem with rfl | hmem
        · exact absurd ⟨hasks', hplatform⟩ hasks
        · exact ⟨sub', hmem, hplatform, hasks'⟩

/-- The platform has an entry in one of the two maps of events. -/
def hasPlatform (platform : TradingPlatform) : Prop :=
  (f.subscriptions.get platform).isSome ∨ (f.platformWildcards.get platform).isSome

theorem hasPlatform_add (h : f.hasPlatform platform ∨ sub.platform = platform) :
    (f.add sub).hasPlatform platform := by
  unfold hasPlatform at h ⊢
  rw [subscriptions_add, platformWildcards_add]
  by_cases hplatform : platform = sub.platform
  · by_cases hstar : sub.instrument = "*"
    · rw [if_pos hstar, if_pos hstar, Table.get_insert, if_pos hplatform]
      exact .inr rfl
    · rw [if_neg hstar, if_neg hstar]
      dsimp only
      rw [Table.get_insert, if_pos hplatform]
      exact .inl rfl
  · have hold := h.resolve_right (Ne.symm hplatform)
    split
    · rwa [Table.get_insert, if_neg hplatform]
    · dsimp only
      rwa [Table.get_insert, if_neg hplatform]

theorem hasPlatform_foldl (h : f.hasPlatform platform ∨ ∃ sub ∈ subs, sub.platform = platform) :
    (subs.foldl add f).hasPlatform platform := by
  induction subs generalizing f with
  | nil => exact h.resolve_right fun ⟨_, hmem, _⟩ => List.not_mem_nil hmem
  | cons sub subs ih =>
    refine ih _ ?_
    rcases h with h | ⟨sub', hmem, h⟩
    · exact .inl (f.hasPlatform_add sub (.inl h))
    · rcases List.mem_cons.mp hmem with rfl | hmem
      · exact .inl (f.hasPlatform_add sub' (.inr h))
      · exact .inr ⟨sub', hmem, h⟩

theorem isEmpty_toList_of_get {ν : Type} {t : Table TradingPlatform ν}
    (h : (t.get platform).isSome) : t.toList.isEmpty = false := by
  obtain ⟨v, hv⟩ := Option.isSome_iff_exists.mp h
  rw [← Bool.not_eq_true, List.isEmpty_iff]
  exact List.ne_nil_of_mem (Table.mem_toList.mpr hv)

theorem new_not_empty {subs : List InstrumentSubscription} (hsubs : subs ≠ []) :
    ((new subs).subscriptions.toList.isEmpty && (new subs).platformWildcards.toList.isEmpty) =
      false := by
  obtain ⟨sub, hmem⟩ := List.exists_mem_of_ne_nil subs hsubs
  rcases hasPlatform_foldl empty subs (.inr ⟨sub, hmem, rfl⟩) with h | h
  · rw [new, isEmpty_toList_of_get h, Bool.false_and]
  · rw [new, isEmpty_toList_of_get h, Bool.and_false]

/-- A message with a symbol is looked up under its symbol and under all symbols. -/
theorem matchesMessage_symbol {symbol : String} (hsymbol : message.symbol = some symbol)
    (hne : (f.subscriptions.toList.isEmpty && f.platformWildcards.toList.isEmpty) = false) :
    f.matchesMessage message platform =
      (((f.specific platform symbol).any fun s => s.covers message) ||
        (f.platformWildcards.get platform).any fun s => s.covers message) := by
  unfold matchesMessage
  rw [hne, if_neg Bool.false_ne_true]
  cases message <;> cases hsymbol <;> rfl

theorem matchesMessage_account
    (hne : (f.subscriptions.toList.isEmpty && f.platformWildcards.toList.isEmpty) = false) :
    f.matchesMessage .account platform = (f.accountSubscriptions.get platform).getD false := by
  unfold matchesMessage
  rw [hne, if_neg Bool.false_ne_true]
  rfl

theorem asksAccount_iff :
    asksAccount sub = true ↔ ∃ event ∈ sub.events, event ∈ FilterMessage.account.denotedBy := by
  simp [asksAccount, FilterMessage.denotedBy, namesOf, or_comm]

theorem matchesMessage_new (hkind : message.symbol.isSome ∨ message = .account)
    {subs : List InstrumentSubscription} (hsubs : subs ≠ []) :
    (new subs).matchesMessage message platform = true ↔
      ∃ sub ∈ subs, sub.Wants message platform := by
  have hne := new_not_empty hsubs
  rcases hkind with hkind | rfl
  · obtain ⟨symbol, hsymbol⟩ := Option.isSome_iff_exists.mp hkind
    rw [matchesMessage_symbol _ hsymbol hne, Bool.or_eq_true, new, covers_foldl empty hkind]
    refine (or_iff_right ?_).trans ?_
    · rintro (h | h) <;> cases h
    · simp only [InstrumentSubscription.Wants, hsymbol, Option.mem_some_iff, forall_eq']
  · rw [matchesMessage_account _ hne, new, account_foldl]
    refine (or_iff_right fun h => by cases h).trans ?_
    simp only [InstrumentSubscription.Wants, FilterMessage.symbol, asksAccount_iff,
      Option.not_mem_none, false_implies, implies_true, true_and]

end SubscriptionFilter

open SubscriptionFilter

/-- For a message with a symbol or one of the account, the filter is a scan of the subscriptions
for one that wants the message. So a list that is split is matched part by part, and neither the
order of the subscriptions nor their number matters. -/
theorem filter_refines_scan {message : FilterMessage}
    (hkind : message.symbol.isSome ∨ message = .account) (platform : TradingPlatform) :
    (∀ subs ≠ [], (new subs).matchesMessage message platform = true ↔
      ∃ sub ∈ subs, sub.Wants message platform) ∧
    (∀ subs₁ ≠ [], ∀ subs₂ ≠ [], (new (subs₁ ++ subs₂)).matchesMessage message platform =
      ((new subs₁).matchesMessage message platform ||
        (new subs₂).matchesMessage message platform)) ∧
    ∀ subs ≠ [], ∀ subs', (∀ sub, sub ∈ subs' ↔ sub ∈ subs) →
      (new subs').matchesMessage message platform =
        (new subs).matchesMessage message platform := by
  have hscan {subs : List InstrumentSubscription} (hsubs : subs ≠ []) :
      (new subs).matchesMessage message platform = true ↔
        ∃ sub ∈ subs, sub.Wants message platform :=
    matchesMessage_new hkind hsubs
  refine ⟨fun subs hsubs => hscan hsubs, fun subs₁ h₁ subs₂ h₂ => ?_, fun subs h subs' hsame => ?_⟩
  · rw [Bool.eq_iff_iff, Bool.or_eq_true, hscan (List.append_ne_nil_of_left_ne_nil h₁ subs₂),
      hscan h₁, hscan h₂]
    simp only [List.mem_append, or_and_right, exists_or]
  · have h' : subs' ≠ [] := by
      obtain ⟨sub, hmem⟩ := List.exists_mem_of_ne_nil subs h
      exact List.ne_nil_of_mem ((hsame sub).mpr hmem)
    rw [Bool.eq_iff_iff, hscan h', hscan h]
    simp only [hsame]

/-- Candles of one minute for one instrument, under the old name of the event. -/
def minuteCandles : InstrumentSubscription :=
  ⟨.alpacaPaper, "AAPL", ["candles.1m", "unknown"]⟩

theorem filter_refines_scan_minute :
    (new [minuteCandles]).matchesMessage (.candle "AAPL" .oneMinute) .alpacaPaper = true := by
  refine ((filter_refines_scan (.inl rfl) _).1 _ (List.cons_ne_nil _ _)).mpr
    ⟨minuteCandles, List.mem_singleton_self _, rfl, ?_, "candles.1m", ?_, ?_⟩
  · decide
  · decide
  · decide

end Gateway.Subscription
