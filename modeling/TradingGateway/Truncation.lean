import TradingGateway.Saxo.Orders
import TradingGateway.Websocket.Frames

/-!
# Can a text crash a truncation?

A client order id is cut off after 50 bytes where Saxo's order is built, and a frame of Binance or
Alpaca that cannot be parsed after 200 bytes where it is logged. Both cuts are slices by bytes. A
text with a character across the cut panics.

* `truncations_safe_iff`: the order is built with the longest reference that fits, and the frame is
  processed, exactly if no character lies across a cut.
-/

namespace Gateway

/-- The text is not cut, or cut between two characters. -/
def CutSafe (n : ℕ) (text : String) : Prop := text.utf8ByteSize ≤ n ∨ Utf8.Boundary text n

namespace Saxo

theorem length_utf8 (text : String) : (utf8 text).length = text.utf8ByteSize := by
  rw [utf8, String.toUTF8_eq_toByteArray, ← String.size_toByteArray]
  rfl

theorem toByteArray_take_utf8 (text : String) (n : ℕ) :
    ((utf8 text).take n).toByteArray = text.toByteArray.extract 0 n := by
  apply ByteArray.ext
  apply Array.toList_inj.mp
  rw [List.toList_data_toByteArray]
  simp [utf8, String.toUTF8_eq_toByteArray]

theorem externalReference_some (id : String) :
    externalReference (some id) =
      (Utf8.upTo id (min id.utf8ByteSize 50) >>= fun reference => .ok (some reference)) := by
  unfold externalReference
  dsimp only
  rw [length_utf8, toByteArray_take_utf8, maxExternalReferenceLen]
  split
  · rename_i hlong
    rw [Nat.min_eq_right (by omega), Utf8.upTo, if_pos (by omega)]
    cases String.fromUTF8? (id.toByteArray.extract 0 50) with
    | some cut => rfl
    | none => rfl
  · rename_i hshort
    rw [Nat.min_eq_left (by omega)]
    have hwhole : (Utf8.upTo id id.utf8ByteSize : Checked GatewayError String) = .ok id :=
      Utf8.upTo_eq_ok_iff.mpr ⟨⟨"", by simp⟩, rfl⟩
    rw [hwhole]
    rfl

/-- No panic, and the reference that is sent is as much of the id as fits. -/
def SendsReference (map : SaxoInstrumentMap) (accountKey : String) (request : OrderRequest) :
    Prop :=
  buildOrderRequest map accountKey request ≠ .panic ∧
    ∀ q, buildOrderRequest map accountKey request = .ok q → ∀ id, request.clientOrderId = some id →
      ∃ reference, q.externalReference = some reference ∧ Utf8.Longest reference id 50

theorem sendsReference_iff {map : SaxoInstrumentMap} {accountKey : String}
    {request : OrderRequest} :
    SendsReference map accountKey request ↔
      ∀ id, request.clientOrderId = some id → (map.resolveSymbol request.symbol).isOk →
        CutSafe 50 id := by
  unfold SendsReference buildOrderRequest
  cases map.resolveSymbol request.symbol with
  | error e => simp [Checked.ofExcept, bind, Checked.bind, Except.isOk, Except.toBool]
  | ok info =>
    cases hid : request.clientOrderId with
    | none => simp [Checked.ofExcept, externalReference]
    | some id =>
      have hsafe : CutSafe 50 id ↔
          (Utf8.upTo id (min id.utf8ByteSize 50) : Checked GatewayError String) ≠ .panic := by
        rw [Utf8.upTo_ne_panic_iff, Utf8.boundary_min_iff]
        rfl
      simp only [Checked.ofExcept, Checked.ok_bind, externalReference_some, Option.some.injEq,
        forall_eq', Except.isOk, Except.toBool, forall_true_left]
      rw [hsafe]
      cases hup : (Utf8.upTo id (min id.utf8ByteSize 50) : Checked GatewayError String) with
      | panic => simp [bind, Checked.bind]
      | fail e => exact absurd hup (Utf8.upTo_ne_fail e)
      | ok reference =>
        refine iff_of_true ⟨by simp, ?_⟩ (by simp)
        rintro q ⟨⟩
        exact ⟨reference, rfl, Utf8.longest_of_upTo hup⟩

end Saxo

/-- The order is sent with as much of its id as fits, and the frame is processed at every log level,
exactly if no character of the id lies across byte 50 (of an id that is sent), and none of the frame
across byte 200 (of a frame that is not understood). -/
theorem truncations_safe_iff {μ : Type} (map : Saxo.SaxoInstrumentMap) (accountKey : String)
    (request : OrderRequest) (binance : Binance.Parsers) (alpaca : Alpaca.Parsers)
    (orderEvent : Json → Option μ) (now : ℤ) (platform : TradingPlatform) (text : String) :
    (Saxo.SendsReference map accountKey request ∧
      (∀ debug, Binance.processMarketMessage binance now platform debug text ≠ .panic) ∧
      (∀ debug, Alpaca.processAlpacaMessage alpaca now platform debug text ≠ .panic) ∧
      ∀ debug, Alpaca.processTradingStreamText alpaca orderEvent debug text ≠ .panic) ↔
      (∀ id, request.clientOrderId = some id → (map.resolveSymbol request.symbol).isOk →
        CutSafe 50 id) ∧
      (binance.combined text = none ∨ alpaca.array text = none ∨ alpaca.tradingStream text = none →
        CutSafe 200 text) := by
  have hframe : ∀ {α ν : Type} {parsed : Option α} {f : α → ν} {ignored : ν},
      (∀ debug, parsedOrLogged parsed debug text f ignored ≠ .panic) ↔
        (parsed = none → CutSafe 200 text) := by
    intro α ν parsed f ignored
    constructor
    · intro h hparsed
      exact parsedOrLogged_ne_panic_iff.mp (h true) hparsed rfl
    · intro h debug
      exact parsedOrLogged_ne_panic_iff.mpr fun hparsed _ => h hparsed
  unfold Binance.processMarketMessage Alpaca.processAlpacaMessage Alpaca.processTradingStreamText
  rw [Saxo.sendsReference_iff, hframe, hframe, hframe, or_imp, or_imp]

/-- Letters, and one of two bytes across the cut. -/
def accented (n : ℕ) : String := String.ofList (List.replicate n 'a') ++ String.singleton 'é'

theorem utf8ByteSize_letters (n : ℕ) :
    (String.ofList (List.replicate n 'a')).utf8ByteSize = n := by
  induction n with
  | zero => rfl
  | succ n ih =>
    rw [List.replicate_succ', String.ofList_append, String.utf8ByteSize_append, ih]
    rfl

theorem upTo_accented (n : ℕ) (ε : Type) :
    (Utf8.upTo (accented n) (min (accented n).utf8ByteSize (n + 1)) : Checked ε String) =
      .panic := by
  have hletters := utf8ByteSize_letters n
  have hsize : (accented n).utf8ByteSize = n + 2 := by
    rw [accented, String.utf8ByteSize_append, hletters]
    rfl
  have hwithin : ¬ Utf8.Boundary (accented n) (n + 1) := by
    have h := Utf8.not_boundary_within (p := String.ofList (List.replicate n 'a')) (c := 'é')
      (n := n + 1) "" (by omega) (by rw [hletters]; exact Nat.lt_succ_self _)
    rwa [String.append_empty] at h
  by_contra hne
  have hcut := Utf8.upTo_ne_panic_iff.mp hne
  rw [hsize, Nat.min_eq_right (by omega)] at hcut
  exact hwithin hcut

/-- An id of 49 letters and one of two bytes: the order is not built. With 199 letters, a frame that
is no JSON is not logged. -/
theorem accent_crashes_truncations :
    Saxo.buildOrderRequest Saxo.sampleMap "key"
        { symbol := "EURUSD:FxSpot", side := .buy, quantity := 1, orderType := .market
          clientOrderId := some (accented 49) } = .panic ∧
      Binance.processMarketMessage ⟨fun _ => none, fun _ => none, fun _ => none, fun _ => none,
        fun _ => none⟩ 0 .binanceSpotLive true (accented 199) = .panic := by
  constructor
  · rw [Saxo.buildOrderRequest]
    dsimp only
    rw [Saxo.externalReference_some, upTo_accented 49]
    rfl
  · rw [Binance.processMarketMessage, parsedOrLogged, logExcerpt, upTo_accented 199]
    rfl

end Gateway
