import TradingGateway.Lib.Run
import TradingGateway.Lib.Watermark
import TradingGateway.Oanda.Candles

/-!
# Order and completeness of the polled candles

For one instrument the poll is a reader with a high-water mark (`Lib/Watermark`), whatever the other
instruments do (`tracks_exec`). So the candles are sent in order and none is sent twice. A candle is
lost if it is shown only after a newer closed one: this takes an answer that reaches less far back
than a later one. The requests ask for the same number of candles each time, and then none is lost.

* `candles_once_in_order`: what is sent, for answers that are the ends of a growing history.
* `candle_skipped`: a short answer, and then a longer one.
-/

namespace Gateway.Oanda

variable {codec : Codec} {platform : TradingPlatform} {symbol : String}

/-! ## The reader of one instrument -/

/-- The candles of an answer, if the request succeeded. -/
def CandleAnswer.candles : CandleAnswer → Option (List OandaCandle)
  | .answered status _ (.ok candles) =>
    if 200 ≤ status ∧ status < 300 then some candles else none
  | _ => none

/-- The candle lists that an instrument was answered with. -/
def CandleEvent.responses (symbol : String) : CandleEvent → List (List OandaCandle)
  | .poll answers _ => answers.filterMap fun (s, answer) =>
      if s = symbol then answer.candles else none
  | .cancelled => []

def responses (symbol : String) (events : List CandleEvent) : List (List OandaCandle) :=
  events.flatMap (CandleEvent.responses symbol)

/-- The bars of a candle list. -/
def barsOf (codec : Codec) (platform : TradingPlatform) (symbol : String)
    (candles : List OandaCandle) : List Bar :=
  (candles.filter OandaCandle.complete).filterMap fun c => candleToBar codec symbol c platform

namespace CandlePoll

/-- The bars sent for an instrument. -/
def sentFor (s : CandlePoll) (symbol : String) : List Bar :=
  s.emitted.filter fun b => b.symbol = symbol

/-- The task has sent for the instrument what a reader with a mark passes on of the answers. -/
structure Tracks (codec : Codec) (platform : TradingPlatform) (symbol : String)
    (answers : List (List OandaCandle)) (s : CandlePoll) : Prop where
  mark : s.lastEmitted.get symbol =
    Watermark.mark Bar.timestamp (answers.map (barsOf codec platform symbol))
  sent : s.sentFor symbol =
    Watermark.passed Bar.timestamp (answers.map (barsOf codec platform symbol))

end CandlePoll

open CandlePoll

variable {c : OandaCandle} {bar : Bar} {candles : List OandaCandle} {answer : CandleAnswer}

theorem symbol_of_candleToBar (h : candleToBar codec symbol c platform = some bar) :
    bar.symbol = symbol ∧ c.mid.isSome ∧ codec.parseTime c.time = some bar.timestamp := by
  unfold candleToBar at h
  cases hmid : c.mid with
  | none => rw [hmid] at h; cases h
  | some mid =>
    cases htime : codec.parseTime c.time with
    | none => rw [hmid, htime] at h; cases h
    | some timestamp =>
      rw [hmid, htime] at h
      cases h
      exact ⟨rfl, rfl, rfl⟩

theorem mem_barsOf :
    bar ∈ barsOf codec platform symbol candles ↔
      ∃ c ∈ candles, c.complete = true ∧ candleToBar codec symbol c platform = some bar := by
  unfold barsOf
  rw [List.mem_filterMap]
  refine exists_congr fun c => ?_
  rw [List.mem_filter, and_assoc]

theorem newBars_eq (s : CandlePoll) (bars : List Bar) :
    s.newBars symbol bars = Watermark.fresh Bar.timestamp (s.lastEmitted.get symbol) bars := by
  unfold newBars Watermark.fresh
  cases s.lastEmitted.get symbol with
  | none => rfl
  | some watermark =>
    refine List.filter_congr fun b _ => ?_
    rw [decide_eq_decide]

theorem emit_foldl (symbol : String) (bars : List Bar) (s : CandlePoll) :
    (bars.foldl (emit · symbol) s).emitted = s.emitted ++ bars ∧
      (bars.foldl (emit · symbol) s).lastEmitted.get symbol =
        (bars.getLast?.map Bar.timestamp).or (s.lastEmitted.get symbol) ∧
      (∀ symbol', symbol' ≠ symbol → (bars.foldl (emit · symbol) s).lastEmitted.get symbol' =
        s.lastEmitted.get symbol') := by
  induction bars using List.reverseRecOn with
  | nil => exact ⟨(List.append_nil _).symm, rfl, fun _ _ => rfl⟩
  | append_singleton bars bar ih =>
    rw [List.foldl_append, List.foldl_cons, List.foldl_nil]
    refine ⟨?_, ?_, fun symbol' hne => ?_⟩
    · simp only [emit]
      rw [ih.1, List.append_assoc]
    · simp only [emit]
      rw [Table.get_insert_self, List.getLast?_concat]
      rfl
    · simp only [emit]
      rw [Table.get_insert_ne _ _ hne, ih.2.2 symbol' hne]

theorem pollCandles_of_some (h : answer.candles = some candles) :
    pollCandles answer = .ok (candles.filter OandaCandle.complete) := by
  unfold CandleAnswer.candles at h
  split at h
  · split_ifs at h with hsuccess
    cases h
    simp only [pollCandles]
    rw [if_neg (by omega), if_neg (not_not.mpr hsuccess)]
  · cases h

theorem pollCandles_of_none (h : answer.candles = none) : ∃ e, pollCandles answer = .error e := by
  unfold pollCandles
  split
  · exact ⟨_, rfl⟩
  · rename_i status text body
    split_ifs with hauth hsuccess
    · exact ⟨_, rfl⟩
    · cases body with
      | error e => exact ⟨_, rfl⟩
      | ok candles =>
        simp only [CandleAnswer.candles, if_pos hsuccess] at h
        cases h
    · exact ⟨_, rfl⟩

section run

variable {answers : List (List OandaCandle)} {s : CandlePoll}

theorem tracks_pollSymbol (h : Tracks codec platform symbol answers s) (symbol' : String)
    (answer : CandleAnswer) :
    Tracks codec platform symbol
      (answers ++ (if symbol' = symbol then answer.candles else none).toList)
      (s.pollSymbol codec platform true symbol' answer).2 := by
  unfold pollSymbol
  cases hcandles : answer.candles with
  | none =>
    obtain ⟨e, he⟩ := pollCandles_of_none hcandles
    rw [he, ite_self, Option.toList_none, List.append_nil]
    exact h
  | some candles =>
    rw [pollCandles_of_some hcandles]
    obtain ⟨hemitted, hmark, hothers⟩ :=
      emit_foldl symbol' (s.newBars symbol' (barsOf codec platform symbol' candles)) s
    show Tracks codec platform symbol _ (((s.newBars symbol'
      (barsOf codec platform symbol' candles)).foldl (emit · symbol') s))
    have hown (bar : Bar) (hbar : bar ∈ barsOf codec platform symbol' candles) :
        bar.symbol = symbol' := by
      obtain ⟨c, -, -, hc⟩ := mem_barsOf.mp hbar
      exact (symbol_of_candleToBar hc).1
    by_cases hsymbol : symbol' = symbol
    · subst hsymbol
      rw [if_pos rfl, Option.toList_some]
      refine ⟨?_, ?_⟩
      · rw [hmark, List.map_append, List.map_singleton, Watermark.mark_concat, ← h.mark,
          newBars_eq]
        rfl
      · rw [sentFor, hemitted, List.filter_append, List.map_append, List.map_singleton,
          Watermark.passed_concat, ← h.mark, ← h.sent, newBars_eq]
        congr 1
        refine List.filter_eq_self.mpr fun bar hbar => ?_
        exact decide_eq_true (hown bar ((Watermark.fresh_sublist _).subset hbar))
    · rw [if_neg hsymbol, Option.toList_none, List.append_nil]
      refine ⟨(hothers symbol (Ne.symm hsymbol)).trans h.mark, ?_⟩
      rw [sentFor, hemitted, List.filter_append, ← h.sent]
      refine List.append_right_eq_self.mpr (List.filter_eq_nil_iff.mpr fun bar hbar => ?_)
      rw [newBars_eq] at hbar
      rw [decide_eq_true_eq, hown bar ((Watermark.fresh_sublist _).subset hbar)]
      exact hsymbol

theorem tracks_pollAndEmit (h : Tracks codec platform symbol answers s)
    (polled : List (String × CandleAnswer)) :
    Tracks codec platform symbol
      (answers ++ CandleEvent.responses symbol (.poll polled true))
      (s.pollAndEmit codec platform true polled).2 := by
  unfold pollAndEmit
  generalize hstart : (true, s) = start
  replace h : Tracks codec platform symbol answers start.2 := hstart ▸ h
  clear hstart
  induction polled generalizing start answers with
  | nil =>
    rw [CandleEvent.responses, List.filterMap_nil, List.append_nil]
    exact h
  | cons one polled ih =>
    obtain ⟨symbol', answer⟩ := one
    have hsplit : CandleEvent.responses symbol (.poll ((symbol', answer) :: polled) true) =
        (if symbol' = symbol then answer.candles else none).toList ++
          CandleEvent.responses symbol (.poll polled true) := by
      simp only [CandleEvent.responses, List.filterMap_cons]
      cases (if symbol' = symbol then answer.candles else none) <;> rfl
    rw [hsplit, ← List.append_assoc]
    exact ih _ (tracks_pollSymbol h symbol' answer)

theorem tracks_afterPoll (h : Tracks codec platform symbol answers s) (healthy : Bool) :
    Tracks codec platform symbol answers (s.afterPoll healthy) := by
  unfold afterPoll
  dsimp only
  split_ifs
  · exact ⟨h.mark, h.sent⟩
  · exact ⟨h.mark, h.sent⟩
  · exact ⟨h.mark, h.sent⟩

/-- A task that has not stopped polls different instruments, and its channel is open. -/
def CandleEvent.Legal (s : CandlePoll) : CandleEvent → Prop
  | .poll polled channelOpen =>
    s.stopped = false ∧ (polled.map Prod.fst).Nodup ∧ channelOpen = true
  | .cancelled => True

instance (event : CandleEvent) : Decidable (event.Legal s) := by
  cases event <;> unfold CandleEvent.Legal <;> infer_instance

theorem tracks_step (h : Tracks codec platform symbol answers s) {event : CandleEvent}
    (hlegal : event.Legal s) :
    Tracks codec platform symbol (answers ++ event.responses symbol)
      (event.step codec platform s) := by
  cases event with
  | cancelled =>
    rw [CandleEvent.responses, List.append_nil]
    exact ⟨h.mark, h.sent⟩
  | poll polled channelOpen =>
    obtain ⟨hrunning, -, rfl⟩ := hlegal
    simp only [CandleEvent.step, hrunning, Bool.false_eq_true, if_false]
    split_ifs with hempty
    · rw [List.isEmpty_iff.mp hempty, CandleEvent.responses, List.filterMap_nil, List.append_nil]
      exact h
    · exact tracks_afterPoll (tracks_pollAndEmit h polled) _

theorem tracks_exec (h : Tracks codec platform symbol answers s) {events : List CandleEvent}
    (hlegal : Run.Guarded (CandleEvent.step codec platform) (fun s event => event.Legal s) s
      events) :
    Tracks codec platform symbol (answers ++ responses symbol events)
      (Run.exec (CandleEvent.step codec platform) s events) := by
  induction events generalizing s answers with
  | nil =>
    rw [responses, List.flatMap_nil, List.append_nil]
    exact h
  | cons event events ih =>
    have hrest := ih (tracks_step h hlegal.1) hlegal.2
    rwa [List.append_assoc] at hrest

end run

/-! ## Histories -/

/-- Candles with mid prices, at times that increase, all of them closed but perhaps the newest. -/
structure ValidHistory (codec : Codec) (history : List OandaCandle) : Prop where
  readable : ∀ c ∈ history, c.mid.isSome ∧ (codec.parseTime c.time).isSome
  ordered : history.Pairwise fun c c' =>
    ∀ t ∈ codec.parseTime c.time, ∀ t' ∈ codec.parseTime c'.time, t < t'
  closed : ∀ c ∈ history.dropLast, c.complete = true

instance (history : List OandaCandle) : Decidable (ValidHistory codec history) :=
  decidable_of_iff (_ ∧ _ ∧ _)
    ⟨fun ⟨hreadable, hordered, hclosed⟩ => ⟨hreadable, hordered, hclosed⟩,
      fun h => ⟨h.readable, h.ordered, h.closed⟩⟩

/-- The closed candles stay as they are, and the history does not get shorter. -/
def Grows (history history' : List OandaCandle) : Prop :=
  history.filter OandaCandle.complete <+: history' ∧ history.length ≤ history'.length

instance (history history' : List OandaCandle) : Decidable (Grows history history') :=
  inferInstanceAs (Decidable (_ ∧ _))

/-- Answers, each with the history of its time, which it is an end of. -/
structure ShownFrom (codec : Codec) (shown : List (List OandaCandle × List OandaCandle)) :
    Prop where
  ends : ∀ p ∈ shown, p.2 <:+ p.1
  valid : ∀ p ∈ shown, ValidHistory codec p.1
  grows : shown.Pairwise fun p q => Grows p.1 q.1

instance (shown : List (List OandaCandle × List OandaCandle)) :
    Decidable (ShownFrom codec shown) :=
  decidable_of_iff (_ ∧ _ ∧ _)
    ⟨fun ⟨hends, hvalid, hgrows⟩ => ⟨hends, hvalid, hgrows⟩,
      fun h => ⟨h.ends, h.valid, h.grows⟩⟩

namespace ValidHistory

variable {history : List OandaCandle} (h : ValidHistory codec history)

include h

theorem exists_bar (symbol : String) (platform : TradingPlatform) {c : OandaCandle}
    (hc : c ∈ history) : ∃ bar, candleToBar codec symbol c platform = some bar := by
  obtain ⟨hmid, htime⟩ := h.readable c hc
  obtain ⟨mid, hmid⟩ := Option.isSome_iff_exists.mp hmid
  obtain ⟨t, htime⟩ := Option.isSome_iff_exists.mp htime
  unfold candleToBar
  rw [hmid, htime]
  exact ⟨_, rfl⟩

theorem eq_of_time {c c' : OandaCandle} (hc : c ∈ history) (hc' : c' ∈ history)
    (htime : codec.parseTime c.time = codec.parseTime c'.time) : c = c' := by
  have hnodup : (history.map fun c => codec.parseTime c.time).Nodup := by
    rw [List.Nodup, List.pairwise_map]
    refine h.ordered.imp_of_mem fun {c₁ c₂} hc₁ _ hlt heq => ?_
    obtain ⟨t, ht⟩ := Option.isSome_iff_exists.mp (h.readable c₁ hc₁).2
    exact lt_irrefl t (hlt t ht t (heq ▸ ht))
  exact List.inj_on_of_nodup_map hnodup hc hc' htime

theorem inOrder_barsOf {candles : List OandaCandle} (hends : candles <:+ history) :
    Watermark.InOrder Bar.timestamp (barsOf codec platform symbol candles) := by
  unfold Watermark.InOrder barsOf
  rw [List.pairwise_filterMap]
  refine (h.ordered.sublist (List.filter_sublist.trans hends.sublist)).imp ?_
  intro c c' hlt bar hbar bar' hbar'
  exact hlt _ (symbol_of_candleToBar hbar).2.2 _ (symbol_of_candleToBar hbar').2.2

/-- The closed candles are the history, or all of it but the newest. -/
theorem closed_isPrefix : history.filter OandaCandle.complete <+: history := by
  rcases List.eq_nil_or_concat history with hnil | ⟨older, newest, hconcat⟩
  · rw [hnil]
    exact List.prefix_rfl
  · rw [List.concat_eq_append] at hconcat
    have hclosed := h.closed
    rw [hconcat, List.dropLast_concat] at hclosed
    rw [hconcat, List.filter_append, List.filter_eq_self.mpr hclosed]
    exact List.prefix_append_right_inj older |>.mpr (by
      cases hnewest : newest.complete <;> simp [hnewest])

end ValidHistory

namespace ShownFrom

variable {shown : List (List OandaCandle × List OandaCandle)} (h : ShownFrom codec shown)

include h

theorem inOrder {bars : List Bar}
    (hbars : bars ∈ (shown.map Prod.snd).map (barsOf codec platform symbol)) :
    Watermark.InOrder Bar.timestamp bars := by
  obtain ⟨candles, hcandles, rfl⟩ := List.mem_map.mp hbars
  obtain ⟨p, hp, rfl⟩ := List.mem_map.mp hcandles
  exact (h.valid p hp).inOrder_barsOf (h.ends p hp)

/-- Two closed candles of one time are one candle, in whatever answers they are shown. -/
theorem eq_of_time {p q : List OandaCandle × List OandaCandle} (hp : p ∈ shown) (hq : q ∈ shown)
    {c c' : OandaCandle} (hc : c ∈ p.1 ∧ c.complete = true) (hc' : c' ∈ q.1 ∧ c'.complete = true)
    (htime : codec.parseTime c.time = codec.parseTime c'.time) : c = c' := by
  let Agree (p q : List OandaCandle × List OandaCandle) : Prop :=
    ∀ c c', c ∈ p.1 ∧ c.complete = true → c' ∈ q.1 ∧ c'.complete = true →
      codec.parseTime c.time = codec.parseTime c'.time → c = c'
  -- the later of two histories has the closed candles of both
  have hlater : shown.Pairwise Agree := by
    refine h.grows.imp_of_mem fun {p q} _ hq hgrows c c' hc hc' htime => ?_
    exact (h.valid q hq).eq_of_time (hgrows.1.subset (List.mem_filter.mpr hc)) hc'.1 htime
  have hall := List.Pairwise.forall_of_forall_of_flip
    (fun p hp c c' hc hc' htime => (h.valid p hp).eq_of_time hc.1 hc'.1 htime) hlater
    (hlater.imp fun hagree c c' hc hc' htime => (hagree c' c hc' hc htime.symm).symm)
  exact hall hp hq c c' hc hc' htime

end ShownFrom

/-- Some answer shows the candle before any answer showed a closed candle that is as new. -/
def Timely (codec : Codec) (answers : List (List OandaCandle)) (c : OandaCandle) : Prop :=
  ∃ before candles after, answers = before ++ candles :: after ∧ c ∈ candles ∧
    ∀ candles' ∈ before, ∀ c' ∈ candles', c'.complete = true →
      ∀ t ∈ codec.parseTime c.time, ∀ t' ∈ codec.parseTime c'.time, t' < t

/-- The newest candles of a history. -/
def newest (n : ℕ) (history : List OandaCandle) : List OandaCandle :=
  history.drop (history.length - n)

/-- A closed candle among the newest of a history was among the newest of an earlier one that had a
closed candle not older than it. -/
theorem mem_newest_of_grows {history history' : List OandaCandle}
    (hvalid : ValidHistory codec history) (hvalid' : ValidHistory codec history')
    (hgrows : Grows history history') {n : ℕ} {c' : OandaCandle} (hc : c ∈ newest n history')
    (hc' : c' ∈ history) (hclosed' : c'.complete = true)
    (hle : ∀ t ∈ codec.parseTime c.time, ∀ t' ∈ codec.parseTime c'.time, t ≤ t') :
    c ∈ newest n history := by
  obtain ⟨rest, hrest⟩ := hvalid.closed_isPrefix
  obtain ⟨⟨rest', hrest'⟩, hlength⟩ := hgrows
  have hmem' := List.mem_filter.mpr ⟨hc', hclosed'⟩
  generalize history.filter OandaCandle.complete = closed at hrest hrest' hmem'
  subst hrest hrest'
  unfold newest at hc ⊢
  rw [List.drop_append, List.mem_append] at hc ⊢
  left
  rcases hc with hc | hc
  · -- fewer candles follow it in the earlier history
    rw [List.length_append, List.length_append] at hlength
    refine (List.drop_sublist_drop_left closed ?_).subset hc
    rw [List.length_append, List.length_append]
    omega
  · have hrest := List.mem_of_mem_drop hc
    obtain ⟨t, ht⟩ := Option.isSome_iff_exists.mp
      (hvalid'.readable c (List.mem_append_right closed hrest)).2
    obtain ⟨t', ht'⟩ := Option.isSome_iff_exists.mp
      (hvalid'.readable c' (List.mem_append_left _ hmem')).2
    have hlt := (List.pairwise_append.mp hvalid'.ordered).2.2 c' hmem' c hrest t' ht' t ht
    exact absurd (hle t ht t' ht') (not_le.mpr hlt)

namespace ShownFrom

variable {shown : List (List OandaCandle × List OandaCandle)} (h : ShownFrom codec shown)

include h

/-- Answers of one length show every candle in time. -/
theorem timely_of_newest {n : ℕ} (hnewest : ∀ p ∈ shown, p.2 = newest n p.1) {c : OandaCandle}
    (hc : ∃ p ∈ shown, c ∈ p.2) : Timely codec (shown.map Prod.snd) c := by
  -- the first answer that shows the candle
  obtain ⟨p, hp⟩ : ∃ p, shown.find? (fun p => c ∈ p.2) = some p := by
    obtain ⟨p, hp, hcp⟩ := hc
    exact Option.isSome_iff_exists.mp (List.find?_isSome.mpr ⟨p, hp, decide_eq_true hcp⟩)
  obtain ⟨hcp, before, after, rfl, hbefore⟩ := List.find?_eq_some_iff_append.mp hp
  refine ⟨before.map Prod.snd, p.2, after.map Prod.snd, by simp, of_decide_eq_true hcp, ?_⟩
  intro candles' hcandles' c' hc' hclosed' t ht t' ht'
  obtain ⟨q, hq, rfl⟩ := List.mem_map.mp hcandles'
  have hqmem : q ∈ before ++ p :: after := List.mem_append_left _ hq
  have hpmem : p ∈ before ++ p :: after := List.mem_append_right _ List.mem_cons_self
  by_contra hge
  refine absurd ?_ (by simpa using hbefore q hq)
  rw [hnewest q hqmem]
  refine mem_newest_of_grows (h.valid q hqmem) (h.valid p hpmem)
    ((List.pairwise_append.mp h.grows).2.2 q hq p List.mem_cons_self)
    (hnewest p hpmem ▸ of_decide_eq_true hcp) ((h.ends q hqmem).subset hc') hclosed' ?_
  intro t₁ ht₁ t₁' ht₁'
  cases ht.symm.trans ht₁
  cases ht'.symm.trans ht₁'
  exact not_lt.mp hge

/-- The bar of a candle is passed on in time exactly if the candle is shown in time. -/
theorem timely_iff {p : List OandaCandle × List OandaCandle} (hp : p ∈ shown) {c : OandaCandle}
    (hc : c ∈ p.2) (hclosed : c.complete = true) {bar : Bar}
    (hbar : candleToBar codec symbol c platform = some bar) :
    (∃ before b after, (shown.map Prod.snd).map (barsOf codec platform symbol) =
        before ++ b :: after ∧ bar ∈ b ∧ ∀ b' ∈ before, ∀ y ∈ b', y.timestamp < bar.timestamp) ↔
      Timely codec (shown.map Prod.snd) c := by
  have htime := (symbol_of_candleToBar hbar).2.2
  constructor
  · rintro ⟨before, b, after, hsplit, hmem, hnewer⟩
    obtain ⟨before', rest, hsplit', rfl, hrest⟩ := List.map_eq_append_iff.mp hsplit
    obtain ⟨candles, after', rfl, rfl, rfl⟩ := List.map_eq_cons_iff.mp hrest
    have hshown (candles' : List OandaCandle) (h' : candles' ∈ before' ++ candles :: after') :
        ∃ q ∈ shown, q.2 = candles' := List.mem_map.mp (hsplit' ▸ h')
    obtain ⟨c₁, hc₁, hclosed₁, hbar₁⟩ := mem_barsOf.mp hmem
    obtain ⟨q, hq, rfl⟩ := hshown candles (by simp)
    have hsame : c₁ = c := by
      refine h.eq_of_time hq hp ⟨(h.ends q hq).subset hc₁, hclosed₁⟩
        ⟨(h.ends p hp).subset hc, hclosed⟩ ?_
      rw [htime, (symbol_of_candleToBar hbar₁).2.2]
    refine ⟨before', q.2, after', hsplit', hsame ▸ hc₁, ?_⟩
    intro candles' hcandles' c' hc' hclosed' t ht t' ht'
    obtain ⟨q', hq', rfl⟩ := hshown candles' (List.mem_append_left _ hcandles')
    obtain ⟨bar', hbar'⟩ := (h.valid q' hq').exists_bar symbol platform
      ((h.ends q' hq').subset hc')
    have hlt := hnewer _ (List.mem_map_of_mem hcandles') bar'
      (mem_barsOf.mpr ⟨c', hc', hclosed', hbar'⟩)
    cases htime.symm.trans ht
    cases (symbol_of_candleToBar hbar').2.2.symm.trans ht'
    exact hlt
  · rintro ⟨before, candles, after, hsplit, hmem, hnewer⟩
    refine ⟨before.map (barsOf codec platform symbol), barsOf codec platform symbol candles,
      after.map (barsOf codec platform symbol), by rw [hsplit]; simp,
      mem_barsOf.mpr ⟨c, hmem, hclosed, hbar⟩, ?_⟩
    intro b' hb' y hy
    obtain ⟨candles', hcandles', rfl⟩ := List.mem_map.mp hb'
    obtain ⟨c', hc', hclosed', hy'⟩ := mem_barsOf.mp hy
    exact hnewer candles' hcandles' c' hc' hclosed' _ htime _ (symbol_of_candleToBar hy').2.2

end ShownFrom

theorem tracks_new : Tracks codec platform symbol [] .new := ⟨rfl, rfl⟩

/-- The candles of an instrument are sent strictly in order, and only closed ones. A closed candle
that some answer shows, newer than the first one sent, is sent exactly once if an answer shows it
before any answer showed a closed candle as new, and else never. Answers of one length show every
candle in time. -/
theorem candles_once_in_order (codec : Codec) (platform : TradingPlatform)
    {events : List CandleEvent}
    (hlegal : Run.Guarded (CandleEvent.step codec platform) (fun s event => event.Legal s) .new
      events)
    (symbol : String) {shown : List (List OandaCandle × List OandaCandle)}
    (hshown : responses symbol events = shown.map Prod.snd) (hfrom : ShownFrom codec shown) :
    let sent := (Run.exec (CandleEvent.step codec platform) .new events).sentFor symbol
    sent.Pairwise (fun bar bar' => bar.timestamp < bar'.timestamp) ∧
    (∀ bar ∈ sent, ∃ candles ∈ responses symbol events, ∃ c ∈ candles,
      c.complete = true ∧ candleToBar codec symbol c platform = some bar) ∧
    ∀ first ∈ sent.head?, ∀ candles ∈ responses symbol events, ∀ c ∈ candles, c.complete = true →
      ∀ bar ∈ candleToBar codec symbol c platform, first.timestamp < bar.timestamp →
        (Timely codec (responses symbol events) c → sent.count bar = 1) ∧
        (¬ Timely codec (responses symbol events) c → sent.count bar = 0) ∧
        ∀ n, (∀ p ∈ shown, p.2 = newest n p.1) → sent.count bar = 1 := by
  intro sent
  have hsent : sent = Watermark.passed Bar.timestamp
      ((responses symbol events).map (barsOf codec platform symbol)) :=
    (tracks_exec tracks_new hlegal).sent
  rw [hshown] at hsent ⊢
  have hsorted : ∀ bars ∈ (shown.map Prod.snd).map (barsOf codec platform symbol),
      Watermark.InOrder Bar.timestamp bars := fun bars => hfrom.inOrder
  have hpairwise := (Watermark.passed_spec hsorted).1
  rw [← hsent] at hpairwise
  have hnodup : sent.Nodup := hpairwise.imp fun hlt heq => by
    rw [heq] at hlt
    exact lt_irrefl _ hlt
  refine ⟨hpairwise, fun bar hbar => ?_, ?_⟩
  · rw [hsent, Watermark.mem_passed] at hbar
    obtain ⟨before, bars, after, hsplit, hbar⟩ := hbar
    have hbars : bars ∈ (shown.map Prod.snd).map (barsOf codec platform symbol) := by
      rw [hsplit]
      exact List.mem_append_right _ List.mem_cons_self
    obtain ⟨candles, hcandles, rfl⟩ := List.mem_map.mp hbars
    exact ⟨candles, hcandles, mem_barsOf.mp ((Watermark.fresh_sublist _).subset hbar)⟩
  · intro first hfirst candles hcandles c hc hclosed bar hbar hnewer
    obtain ⟨p, hp, rfl⟩ := List.mem_map.mp hcandles
    have hmem : bar ∈ sent ↔ Timely codec (shown.map Prod.snd) c := by
      rw [← hfrom.timely_iff hp hc hclosed hbar, hsent]
      exact Watermark.mem_passed_iff hsorted (hsent ▸ hfirst) hnewer
    have honce (htimely : Timely codec (shown.map Prod.snd) c) : sent.count bar = 1 :=
      List.count_eq_one_of_mem hnodup (hmem.mpr htimely)
    refine ⟨honce, fun hlate => ?_, fun n hnewest => ?_⟩
    · exact List.count_eq_zero.mpr fun hbar => hlate (hmem.mp hbar)
    · exact honce (hfrom.timely_of_newest hnewest ⟨p, hp, hc⟩)

/-! ## Answers of one length, and of different lengths -/

/-- Times in seconds. -/
def sampleCodec : Codec where
  parseTime
    | "09:00" => some 0
    | "09:01" => some 60
    | "09:02" => some 120
    | _ => none
  parseDecimal _ := some 1

def closedCandle (time : String) : OandaCandle := ⟨time, some ⟨"1", "1", "1", "1"⟩, 7, true⟩

/-- One poll of one instrument, answered with these candles. -/
def answeredWith (candles : List OandaCandle) : CandleEvent :=
  .poll [("EUR_USD", .answered 200 "200 OK" (.ok candles))] true

/-- Each answer has two candles. -/
def pairsShown : List (List OandaCandle × List OandaCandle) :=
  [([closedCandle "09:00", closedCandle "09:01"], [closedCandle "09:00", closedCandle "09:01"]),
    ([closedCandle "09:00", closedCandle "09:01", closedCandle "09:02"],
      [closedCandle "09:01", closedCandle "09:02"])]

def candlesSent (shown : List (List OandaCandle × List OandaCandle)) : List Bar :=
  (Run.exec (CandleEvent.step sampleCodec .oandaPractice) .new
    (shown.map fun p => answeredWith p.2)).sentFor "EUR_USD"

def barAt (timestamp : ℤ) : Bar :=
  ⟨"EUR_USD", "oanda-practice", .oneMinute, timestamp, 1, 1, 1, 1, 7⟩

theorem candles_once_in_order_pairs : (candlesSent pairsShown).count (barAt 120) = 1 := by
  have hlegal : Run.Guarded (CandleEvent.step sampleCodec .oandaPractice)
      (fun s event => event.Legal s) .new (pairsShown.map fun p => answeredWith p.2) := by
    decide +kernel
  have hshown : responses "EUR_USD" (pairsShown.map fun p => answeredWith p.2) =
      pairsShown.map Prod.snd := by
    decide +kernel
  obtain ⟨-, -, hsent⟩ := candles_once_in_order sampleCodec .oandaPractice hlegal "EUR_USD" hshown
    (by decide +kernel)
  exact (hsent (barAt 60) (by decide +kernel) [closedCandle "09:01", closedCandle "09:02"]
    (by decide +kernel) (closedCandle "09:02") (by decide +kernel) rfl (barAt 120)
    (by decide +kernel) (by decide +kernel)).2.2 2 (by decide +kernel)

/-- The second answer is shorter than the third one. -/
def gapShown : List (List OandaCandle × List OandaCandle) :=
  [([closedCandle "09:00"], [closedCandle "09:00"]),
    ([closedCandle "09:00", closedCandle "09:01", closedCandle "09:02"], [closedCandle "09:02"]),
    ([closedCandle "09:00", closedCandle "09:01", closedCandle "09:02"],
      [closedCandle "09:01", closedCandle "09:02"])]

/-- The candle of 09:01 is shown as closed and is newer than the first one sent, but the mark is
past it by then. -/
theorem candle_skipped :
    Run.Guarded (CandleEvent.step sampleCodec .oandaPractice) (fun s event => event.Legal s) .new
      (gapShown.map fun p => answeredWith p.2) ∧
    responses "EUR_USD" (gapShown.map fun p => answeredWith p.2) = gapShown.map Prod.snd ∧
    ShownFrom sampleCodec gapShown ∧
    candleToBar sampleCodec "EUR_USD" (closedCandle "09:01") .oandaPractice = some (barAt 60) ∧
    candlesSent gapShown = [barAt 0, barAt 120] := by
  decide +kernel

end Gateway.Oanda
