import Mathlib.Data.List.Pairwise
import TrxSimulator.Market.Candles

/-! Candles against the ticks that they stand for. A chart draws what a board of its ticks shows, and a board shows all
there is of a bucket as long as nothing returns to one that has been left. -/

namespace TrxSimulator.Market.Candles

open Foundations.Runs Foundations.Groups

section Ticks

variable {add : ℚ → ℚ → ℚ} {timeframe : Timeframe} {s : Chart} {tick : Tick} {ticks : List Tick} {k : ℤ}

def tickKey (timeframe : Timeframe) (tick : Tick) : ℤ := bucketOf timeframe tick.ts

def tickStart (timeframe : Timeframe) (tick : Tick) : Bar := openBar (tickKey timeframe tick) tick

/-- The chart has in its accumulator and on the screen what a board of its ticks has. -/
structure Draws (timeframe : Timeframe) (s : Chart) (b : Board ℤ Bar) : Prop where
  frame : s.timeframe = timeframe
  agg : s.agg = b.current.map fun r => ⟨tfSeconds timeframe, some r.2, none⟩
  key : ∀ r, b.current = some r → r.2.t0 = r.1
  shown : ∀ k, lastBar s.sent k = asSent (b.shown k)

lemma accumulator_of_draws {b : Board ℤ Bar} (h : Draws timeframe s b) :
    accumulator s.timeframe s.agg = ⟨tfSeconds timeframe, b.current.map Prod.snd, none⟩ := by
  rw [h.frame, h.agg]
  cases b.current with
  | none => rfl
  | some r => simp [accumulator]

lemma nextBar_of_draws {b : Board ℤ Bar} (h : Draws timeframe s b) :
    nextBar add (accumulator s.timeframe s.agg) tick =
      gather (tickKey timeframe) (tickStart timeframe) (extendBar add) b tick := by
  rw [accumulator_of_draws h, nextBar, gather]
  cases hcurrent : b.current with
  | none => rfl
  | some r =>
    obtain ⟨k, g⟩ := r
    obtain rfl : g.t0 = k := h.key _ hcurrent
    exact if_congr eq_comm rfl rfl

lemma gather_t0 {b : Board ℤ Bar} (hkey : ∀ r, b.current = some r → r.2.t0 = r.1) :
    (gather (tickKey timeframe) (tickStart timeframe) (extendBar add) b tick).t0 = tickKey timeframe tick := by
  rw [gather]
  split
  · next k g hcurrent =>
    split
    · next hk => exact (hkey _ hcurrent).trans hk
    · rfl
  · rfl

lemma onTick_draws {b : Board ℤ Bar} (h : Draws timeframe s b) :
    Draws timeframe (onTick add s tick)
      (receive (tickKey timeframe) (tickStart timeframe) (extendBar add) b tick) := by
  have ht0 : (gather (tickKey timeframe) (tickStart timeframe) (extendBar add) b tick).t0 = tickKey timeframe tick :=
    gather_t0 h.key
  constructor
  · rw [onTick, emitBar_timeframe]
    exact h.frame
  · rw [onTick, emitBar_agg, nextBar_of_draws h, accumulator_of_draws h]
    rfl
  · rintro r ⟨⟩
    exact ht0
  · intro k
    rw [onTick, lastBar_emitBar, nextBar_of_draws h, ht0]
    by_cases hk : tickKey timeframe tick = k
    · subst hk
      rw [if_pos rfl, receive_shown_self]
    · rw [if_neg hk, receive_shown_ne (Ne.symm hk)]
      exact h.shown k

lemma run_draws (ticks : List Tick) : Draws timeframe (run (onTick add) (opened timeframe) ticks)
    (board (tickKey timeframe) (tickStart timeframe) (extendBar add) ticks) := by
  induction ticks using List.reverseRecOn with
  | nil => exact ⟨rfl, rfl, fun _ h => (nomatch h), fun _ => rfl⟩
  | append_singleton ticks tick ih =>
    rw [run_append, board_append]
    exact onTick_draws ih

lemma foldl_extendBar (bar : Bar) : ticks.foldl (extendBar add) bar =
    { t0 := bar.t0
      o := bar.o
      h := ticks.foldl (fun h t => max h t.price) bar.h
      l := ticks.foldl (fun l t => min l t.price) bar.l
      c := ((ticks.getLast?).map Tick.price).getD bar.c
      v := ticks.foldl (fun v t => add v (size t)) bar.v } := by
  induction ticks using List.reverseRecOn with
  | nil => rfl
  | append_singleton ticks tick ih =>
    rw [List.foldl_append, ih]
    simp [extendBar]

lemma tickBar_eq_group : tickBar timeframe k add ticks =
    group (tickKey timeframe) (tickStart timeframe) (extendBar add) k ticks := by
  rw [tickBar, group]
  cases hfilter : ticks.filter fun t => bucketOf timeframe t.ts = k with
  | nil =>
    have hnil : (ticks.filter fun t => tickKey timeframe t = k) = [] := hfilter
    rw [hnil]
  | cons first rest =>
    have hcons : (ticks.filter fun t => tickKey timeframe t = k) = first :: rest := hfilter
    have hfirst : bucketOf timeframe first.ts = k := by
      have hmem : first ∈ ticks.filter fun t => bucketOf timeframe t.ts = k := by simp [hfilter]
      simpa using (List.mem_filter.mp hmem).2
    rw [hcons]
    simp only [foldl_extendBar, tickStart, openBar, tickKey, hfirst]
    cases rest.getLast? <;> rfl

end Ticks

section Trades

variable {add : ℚ → ℚ → ℚ}

/-- The accumulator of the trades is another one, and nothing else is. -/
def swap (s : Chart) : Chart := { s with agg := s.tradeAgg, tradeAgg := s.agg }

lemma swap_emitBar (s : Chart) (acc : Bar) : swap (emitBar s acc) = emitBar (swap s) acc := by
  by_cases h : ∀ t, s.lastBarTime = some t → t < acc.t0
  · have hswap : ∀ t, (swap s).lastBarTime = some t → t < acc.t0 := h
    rw [emitBar, emitBar, if_pos h, if_pos hswap]
    rfl
  · have hswap : ¬ ∀ t, (swap s).lastBarTime = some t → t < acc.t0 := h
    rw [emitBar, emitBar, if_neg h, if_neg hswap]
    rfl

lemma run_priceTrade (timeframe : Timeframe) (trades : List Tick) :
    swap (run (priceTrade add) (opened timeframe) trades) = run (onTick add) (opened timeframe) trades := by
  have hstep (s : Chart) (trade : Tick) : swap (priceTrade add s trade) = onTick add (swap s) trade :=
    swap_emitBar _ _
  exact run_project hstep (opened timeframe) trades

lemma run_priceTrade_sent (timeframe : Timeframe) (trades : List Tick) :
    (run (priceTrade add) (opened timeframe) trades).sent = (run (onTick add) (opened timeframe) trades).sent := by
  have h : (swap (run (priceTrade add) (opened timeframe) trades)).sent = (run (onTick add) (opened timeframe) trades).sent :=
    congrArg Chart.sent (run_priceTrade timeframe trades)
  exact h

end Trades

section Minutes

variable {sum : List ℚ → ℚ} {timeframe : Timeframe} {s : Chart} {bar m : SubBar} {bars mbs : List SubBar} {k : ℤ}

lemma mem_put (h : m ∈ put mbs bar) : m ∈ mbs ∨ m = bar := by
  induction mbs with
  | nil => exact .inr (by simpa [put] using h)
  | cons x rest ih =>
    rw [put] at h
    split at h
    · obtain rfl | hrest := List.mem_cons.mp h
      · exact .inr rfl
      · exact .inl (List.mem_cons_of_mem _ hrest)
    · obtain rfl | hrest := List.mem_cons.mp h
      · exact .inl List.mem_cons_self
      · exact (ih hrest).imp_left (List.mem_cons_of_mem _)

lemma put_keeps (h : m ∈ mbs) (hne : m.time ≠ bar.time) : m ∈ put mbs bar := by
  induction mbs with
  | nil => cases h
  | cons x rest ih =>
    rw [put]
    obtain rfl | hrest := List.mem_cons.mp h
    · rw [if_neg hne]
      exact List.mem_cons_self
    · split
      · exact List.mem_cons_of_mem _ hrest
      · exact List.mem_cons_of_mem _ (ih hrest)

lemma mem_put_self : bar ∈ put mbs bar := by
  induction mbs with
  | nil => exact List.mem_cons_self
  | cons x rest ih =>
    rw [put]
    split
    · exact List.mem_cons_self
    · exact List.mem_cons_of_mem _ ih

lemma put_distinct (h : mbs.Pairwise fun a b => a.time ≠ b.time) :
    (put mbs bar).Pairwise fun a b => a.time ≠ b.time := by
  induction mbs with
  | nil => exact List.pairwise_singleton _ _
  | cons x rest ih =>
    obtain ⟨hx, hrest⟩ := List.pairwise_cons.mp h
    rw [put]
    split
    · next heq => exact List.pairwise_cons.mpr ⟨fun b hb => heq ▸ hx b hb, hrest⟩
    · next hne =>
      refine List.pairwise_cons.mpr ⟨fun b hb => ?_, ih hrest⟩
      obtain hold | rfl := mem_put hb
      · exact hx b hold
      · exact hne

lemma versions_append : versions (bars ++ [bar]) = put (versions bars) bar := by
  rw [versions, List.foldl_append]
  rfl

lemma versions_distinct : (versions bars).Pairwise fun a b => a.time ≠ b.time := by
  induction bars using List.reverseRecOn with
  | nil => exact List.Pairwise.nil
  | append_singleton bars bar ih =>
    rw [versions_append]
    exact put_distinct ih

lemma mem_versions : m ∈ versions bars ↔ (bars.filter fun b => b.time = m.time).getLast? = some m := by
  induction bars using List.reverseRecOn with
  | nil => simp [versions]
  | append_singleton bars bar ih =>
    rw [versions_append, List.filter_append]
    by_cases htime : bar.time = m.time
    · have hlast : ((bars.filter fun b => b.time = m.time) ++ [bar].filter fun b => b.time = m.time).getLast? =
          some bar := by simp [htime]
      rw [hlast, Option.some.injEq]
      constructor
      · intro hm
        have hdistinct : (put (versions bars) bar).Pairwise fun a b => a.time ≠ b.time := put_distinct versions_distinct
        have hsymm : Std.Symm fun a b : SubBar => a.time ≠ b.time := ⟨fun _ _ h => h.symm⟩
        by_contra hne
        exact hdistinct.forall mem_put_self hm hne htime
      · rintro rfl
        exact mem_put_self
    · have hsame : ((bars.filter fun b => b.time = m.time) ++ [bar].filter fun b => b.time = m.time) =
          bars.filter fun b => b.time = m.time := by simp [htime]
      rw [hsame, ← ih]
      constructor
      · intro hm
        exact (mem_put hm).resolve_right fun heq => htime (heq ▸ rfl)
      · exact fun hm => put_keeps hm (Ne.symm htime)

lemma exists_version (h : m ∈ bars) : ∃ v ∈ versions bars, v ∈ bars ∧ v.time = m.time := by
  cases hlast : (bars.filter fun b => b.time = m.time).getLast? with
  | none =>
    have hmem : m ∈ bars.filter fun b => b.time = m.time := by simp [h]
    rw [List.getLast?_eq_none_iff.mp hlast] at hmem
    cases hmem
  | some v =>
    obtain ⟨hv, htime⟩ := List.mem_filter.mp (List.mem_of_getLast? hlast)
    rw [decide_eq_true_eq] at htime
    exact ⟨v, mem_versions.mpr (htime ▸ hlast), hv, htime⟩

lemma minutesBar_low (h : m ∈ mbs) : (minutesBar sum k mbs).l ≤ m.l := by
  have hmem : m.l ∈ mbs.map SubBar.l := List.mem_map_of_mem h
  rw [minutesBar]
  cases hmin : (mbs.map SubBar.l).min? with
  | none => simp [List.min?_eq_none_iff.mp hmin] at hmem
  | some low => exact (List.min?_eq_some_iff.mp hmin).2 _ hmem

def minuteKey (timeframe : Timeframe) (bar : SubBar) : ℤ := bucketOf timeframe bar.time

structure DrawsMinutes (sum : List ℚ → ℚ) (timeframe : Timeframe) (s : Chart) (b : Board ℤ (List SubBar)) : Prop where
  frame : s.timeframe = timeframe
  agg : s.agg = b.current.map fun r => ⟨tfSeconds timeframe, some (minutesBar sum r.1 r.2), some r.2⟩
  shown : ∀ k, lastBar s.sent k = asSent ((b.shown k).map (minutesBar sum k))

lemma candleKline_of_draws {b : Board ℤ (List SubBar)} (h : DrawsMinutes sum timeframe s b) :
    let mbs := gather (minuteKey timeframe) (fun x => [x]) put b bar
    let next := minutesBar sum (minuteKey timeframe bar) mbs
    candleKline sum s bar = emitBar { s with agg := some ⟨tfSeconds timeframe, some next, some mbs⟩ } next := by
  have hbucket : bar.time / tfSeconds timeframe * tfSeconds timeframe = minuteKey timeframe bar := rfl
  simp only [candleKline, h.frame, h.agg, hbucket]
  cases hcurrent : b.current with
  | none =>
    rw [gather, hcurrent]
    rfl
  | some r =>
    obtain ⟨k, g⟩ := r
    rw [gather, hcurrent]
    by_cases hk : k = minuteKey timeframe bar
    · have hacc : minutesAccumulator (tfSeconds timeframe) (minuteKey timeframe bar)
          (some ⟨tfSeconds timeframe, some (minutesBar sum k g), some g⟩) =
            ⟨tfSeconds timeframe, some (minutesBar sum k g), some g⟩ := if_pos ⟨rfl, congrArg some hk⟩
      simp only [Option.map_some, hacc, if_pos hk]
    · have hacc : minutesAccumulator (tfSeconds timeframe) (minuteKey timeframe bar)
          (some ⟨tfSeconds timeframe, some (minutesBar sum k g), some g⟩) = ⟨tfSeconds timeframe, none, some []⟩ :=
        if_neg fun hboth => hk (Option.some.inj hboth.2)
      simp only [Option.map_some, hacc, if_neg hk]
      rfl

lemma candleKline_draws {b : Board ℤ (List SubBar)} (h : DrawsMinutes sum timeframe s b) :
    DrawsMinutes sum timeframe (candleKline sum s bar) (receive (minuteKey timeframe) (fun x => [x]) put b bar) := by
  rw [candleKline_of_draws h]
  constructor
  · rw [emitBar_timeframe]
    exact h.frame
  · rw [emitBar_agg]
    rfl
  · intro k
    rw [lastBar_emitBar]
    by_cases hk : minuteKey timeframe bar = k
    · subst hk
      rw [receive_shown_self]
      exact if_pos rfl
    · rw [receive_shown_ne (Ne.symm hk)]
      exact (if_neg hk).trans (h.shown k)

lemma run_drawsMinutes (bars : List SubBar) :
    DrawsMinutes sum timeframe (run (candleKline sum) (opened timeframe) bars)
      (board (minuteKey timeframe) (fun x => [x]) put bars) := by
  induction bars using List.reverseRecOn with
  | nil => exact ⟨rfl, rfl, fun _ => rfl⟩
  | append_singleton bars bar ih =>
    rw [run_append, board_append]
    exact candleKline_draws ih

lemma klineBar_eq_group : klineBar timeframe k sum bars =
    (group (minuteKey timeframe) (fun x => [x]) put k bars).map (minutesBar sum k) := by
  rw [klineBar, group]
  cases hfilter : bars.filter fun b => bucketOf timeframe b.time = k with
  | nil =>
    have hnil : (bars.filter fun b => minuteKey timeframe b = k) = [] := hfilter
    rw [hnil]
    rfl
  | cons first rest =>
    have hcons : (bars.filter fun b => minuteKey timeframe b = k) = first :: rest := hfilter
    rw [hcons]
    rfl

/-- Where all that came before of a bucket is one minute, its next version is all there is. -/
lemma put_minute (h : ∀ y ∈ bars, minuteKey timeframe y = minuteKey timeframe bar → y.time = bar.time) :
    ∀ g ∈ group (minuteKey timeframe) (fun x => [x]) put (minuteKey timeframe bar) bars, put g bar = [bar] := by
  have hone (rest : List SubBar) (first : SubBar) (hfirst : first.time = bar.time)
      (hrest : ∀ y ∈ rest, y.time = bar.time) : put (rest.foldl put [first]) bar = [bar] := by
    induction rest generalizing first with
    | nil => simp [put, hfirst]
    | cons y rest ih =>
      have hy := hrest y List.mem_cons_self
      have hput : put [first] y = [y] := by simp [put, hfirst, hy]
      rw [List.foldl_cons, hput]
      exact ih y hy fun z hz => hrest z (List.mem_cons_of_mem _ hz)
  intro g hg
  rw [group] at hg
  split at hg
  · cases hg
  · next first rest hfilter =>
    cases hg
    have hall : ∀ y ∈ first :: rest, y.time = bar.time := by
      intro y hy
      rw [← hfilter, List.mem_filter, decide_eq_true_eq] at hy
      exact h y hy.1 hy.2
    exact hone rest first (hall first List.mem_cons_self) fun y hy => hall y (List.mem_cons_of_mem _ hy)

end Minutes

section Visits

variable {ι : Type} {timeframe : Timeframe} {harmless : ℤ → ℤ → Prop} {times : List ℤ} {t : ℤ}

/-- No tick returns to a bucket that has been left, but for a harmless one. -/
def Visits (timeframe : Timeframe) (harmless : ℤ → ℤ → Prop) (times : List ℤ) : Prop :=
  Guarded (fun seen t => seen ++ [t]) (Stays (bucketOf timeframe) harmless) [] times

lemma visits_before {f : ι → ℤ} {items before after : List ι} (h : Visits timeframe harmless (items.map f))
    (hitems : items = before ++ after) : Guarded (fun seen x => seen ++ [x])
      (Stays (fun x => bucketOf timeframe (f x)) fun y x => harmless (f y) (f x)) [] before := by
  have hmap := (guarded_map f (Stays (bucketOf timeframe) harmless) [] items).mp h
  rw [hitems, guarded_append] at hmap
  have hstays (seen : List ι) (x : ι) : Stays (bucketOf timeframe) harmless (seen.map f) (f x) ↔
      Stays (fun x => bucketOf timeframe (f x)) (fun y x => harmless (f y) (f x)) seen x := by
    simp [Stays, Function.comp_def]
  simpa only [hstays] using hmap.1

lemma returns_of_not_visits (h : ¬ Visits timeframe harmless times) : ∃ before t after, times = before ++ t :: after ∧
    before.getLast?.map (bucketOf timeframe) ≠ some (bucketOf timeframe t) ∧
      ∃ u ∈ before, bucketOf timeframe u = bucketOf timeframe t ∧ ¬ harmless u t := by
  obtain ⟨before, t, after, heq, hnot⟩ := not_guarded_iff.mp h
  rw [run_collect, List.nil_append, Stays, not_or] at hnot
  obtain ⟨hlast, hreturn⟩ := hnot
  push Not at hreturn
  exact ⟨before, t, after, heq, hlast, hreturn⟩

end Visits

section Exactness

variable {add : ℚ → ℚ → ℚ} {sum : List ℚ → ℚ} {timeframe : Timeframe} {times : List ℤ}

lemma ticks_exact {ticks before after : List Tick}
    (h : Visits timeframe (fun _ _ => False) (ticks.map Tick.ts)) (hticks : ticks = before ++ after) (k : ℤ) :
    lastBar (run (onTick add) (opened timeframe) before).sent k = asSent (tickBar timeframe k add before) := by
  have hshown : (board (tickKey timeframe) (tickStart timeframe) (extendBar add) before).shown k =
      group (tickKey timeframe) (tickStart timeframe) (extendBar add) k before := by
    refine exact_of_guarded (fun items x hnew g hg => ?_) (visits_before h hticks) k
    rw [group_none hnew] at hg
    cases hg
  rw [(run_draws before).shown k, tickBar_eq_group]
  exact congrArg asSent hshown

def tickAt (price : ℚ) (ts : ℤ) : Tick := ⟨price, none, ts⟩

lemma ticks_exact_only (h : ∀ ticks : List Tick, ticks.map Tick.ts = times → ∀ before after, ticks = before ++ after →
      ∀ k, lastBar (run (onTick add) (opened timeframe) before).sent k = asSent (tickBar timeframe k add before)) :
    Visits timeframe (fun _ _ => False) times := by
  by_contra hnot
  obtain ⟨before, t, after, rfl, hlast, u, hu, hbucket, -⟩ := returns_of_not_visits hnot
  -- All prices are zero but that of the tick that returns.
  have hexact := h (before.map (tickAt 0) ++ [tickAt 1 t] ++ after.map (tickAt 0))
    (by simp [Function.comp_def, tickAt]) _ _ rfl (bucketOf timeframe t)
  have hlast' : (before.map (tickAt 0)).getLast?.map (tickKey timeframe) ≠ some (tickKey timeframe (tickAt 1 t)) := by
    rw [List.getLast?_map, Option.map_map]
    exact hlast
  have hshown : (board (tickKey timeframe) (tickStart timeframe) (extendBar add)
      (before.map (tickAt 0) ++ [tickAt 1 t])).shown (bucketOf timeframe t) = some (tickStart timeframe (tickAt 1 t)) :=
    shown_start hlast'
  rw [(run_draws _).shown, hshown, tickBar] at hexact
  have hmem : tickAt 0 u ∈ (before.map (tickAt 0)).filter fun x => bucketOf timeframe x.ts = bucketOf timeframe t := by
    rw [List.mem_filter, decide_eq_true_eq]
    exact ⟨List.mem_map_of_mem hu, hbucket⟩
  rw [List.filter_append] at hexact
  cases hfilter : (before.map (tickAt 0)).filter fun x => bucketOf timeframe x.ts = bucketOf timeframe t with
  | nil =>
    rw [hfilter] at hmem
    cases hmem
  | cons first rest =>
    have hfirst : first ∈ before.map (tickAt 0) := by
      refine (List.mem_filter (p := fun x => bucketOf timeframe x.ts = bucketOf timeframe t)).mp ?_ |>.1
      rw [hfilter]
      exact List.mem_cons_self
    obtain ⟨ts, -, rfl⟩ := List.mem_map.mp hfirst
    rw [hfilter] at hexact
    have hopen := congrArg (fun r => r.1.map Candle.o) hexact
    simp [asSent, candle, tickStart, openBar, tickAt] at hopen

lemma minutes_exact {bars before after : List SubBar}
    (h : Visits timeframe (fun u t => u = t) (bars.map SubBar.time)) (hbars : bars = before ++ after) (k : ℤ) :
    lastBar (run (candleKline sum) (opened timeframe) before).sent k = asSent (klineBar timeframe k sum before) := by
  have hshown := @exact_of_guarded _ _ _ _ _ (fun x => [x]) put _ _ (fun items x hsame => put_minute hsame)
    (visits_before h hbars) k
  rw [(run_drawsMinutes before).shown k, klineBar_eq_group]
  exact congrArg (fun g => asSent (g.map (minutesBar sum k))) hshown

def subBarAt (price : ℚ) (time : ℤ) : SubBar := ⟨time, price, price, price, price, 0⟩

lemma minutes_exact_only (h : ∀ bars : List SubBar, bars.map SubBar.time = times → ∀ before after,
      bars = before ++ after → ∀ k,
        lastBar (run (candleKline sum) (opened timeframe) before).sent k = asSent (klineBar timeframe k sum before)) :
    Visits timeframe (fun u t => u = t) times := by
  by_contra hnot
  obtain ⟨before, t, after, rfl, hlast, u, hu, hbucket, hne⟩ := returns_of_not_visits hnot
  have hexact := h (before.map (subBarAt 0) ++ [subBarAt 1 t] ++ after.map (subBarAt 0))
    (by simp [Function.comp_def, subBarAt]) _ _ rfl (bucketOf timeframe t)
  have hlast' : (before.map (subBarAt 0)).getLast?.map (minuteKey timeframe) ≠
      some (minuteKey timeframe (subBarAt 1 t)) := by
    rw [List.getLast?_map, Option.map_map]
    exact hlast
  have hshown : (board (minuteKey timeframe) (fun x => [x]) put
      (before.map (subBarAt 0) ++ [subBarAt 1 t])).shown (bucketOf timeframe t) = some [subBarAt 1 t] :=
    shown_start hlast'
  rw [(run_drawsMinutes _).shown, hshown, klineBar] at hexact
  cases hfilter : (before.map (subBarAt 0) ++ [subBarAt 1 t]).filter fun b =>
      bucketOf timeframe b.time = bucketOf timeframe t with
  | nil =>
    rw [hfilter] at hexact
    cases congrArg Prod.fst hexact
  | cons first rest =>
    -- The other minute has a version at zero, which the bar that starts afresh has lost.
    have hother : subBarAt 0 u ∈ first :: rest := by
      rw [← hfilter, List.mem_filter, decide_eq_true_eq]
      exact ⟨List.mem_append_left _ (List.mem_map_of_mem hu), hbucket⟩
    obtain ⟨v, hversion, hv, htime⟩ := exists_version hother
    have hzero : v.l = 0 := by
      rw [← hfilter] at hv
      obtain hold | hnew := List.mem_append.mp (List.mem_filter.mp hv).1
      · obtain ⟨ts, -, rfl⟩ := List.mem_map.mp hold
        rfl
      · rw [List.mem_singleton.mp hnew] at htime
        exact (hne htime.symm).elim
    rw [hfilter] at hexact
    have hlow : 1 = (minutesBar sum (bucketOf timeframe t) (versions (first :: rest))).l := by
      have hsent := congrArg (fun r => r.1.map Candle.l) hexact
      exact Option.some.inj hsent
    have hle : (minutesBar sum (bucketOf timeframe t) (versions (first :: rest))).l ≤ _ := minutesBar_low hversion
    rw [hzero, ← hlow] at hle
    exact absurd hle (by decide)

lemma accumulator_tfSec (timeframe : Timeframe) (agg : Option Aggregate) :
    (accumulator timeframe agg).tfSec = tfSeconds timeframe := by
  cases agg with
  | none => rfl
  | some acc =>
    rw [accumulator]
    split
    · next h => exact h
    · rfl

lemma nextBar_t0 (agg : Option Aggregate) (tick : Tick) :
    (nextBar add (accumulator timeframe agg) tick).t0 = bucketOf timeframe tick.ts := by
  rw [nextBar, accumulator_tfSec]
  cases (accumulator timeframe agg).bar with
  | none => rfl
  | some bar =>
    simp only
    split
    · next h => exact h.symm
    · rfl

lemma onTick_other {s : Chart} {tick : Tick} {k : ℤ} (hk : bucketOf s.timeframe tick.ts ≠ k) :
    lastBar (onTick add s tick).sent k = lastBar s.sent k := by
  rw [onTick, lastBar_emitBar, nextBar_t0, if_neg hk]

lemma priceTrade_other {s : Chart} {trade : Tick} {k : ℤ} (hk : bucketOf s.timeframe trade.ts ≠ k) :
    lastBar (priceTrade add s trade).sent k = lastBar s.sent k := by
  rw [priceTrade, emitTradeBar, lastBar_emitBar, nextBar_t0, if_neg hk]

lemma candleKline_other {s : Chart} {bar : SubBar} {k : ℤ} (hk : bucketOf s.timeframe bar.time ≠ k) :
    lastBar (candleKline sum s bar).sent k = lastBar s.sent k := by
  simp only [candleKline]
  split
  · rfl
  · rw [lastBar_emitBar]
    exact if_neg hk

/-- Whatever the prices, the candles of a feed are those of its ticks exactly if no tick returns to a bucket that has
been left; a one-minute bar may return if its bucket has had no other minute. What is sent of one bucket leaves the
others alone. -/
theorem bars_exact_iff (add : ℚ → ℚ → ℚ) (sum : List ℚ → ℚ) (timeframe : Timeframe) (times : List ℤ) :
    ((∀ ticks : List Tick, ticks.map Tick.ts = times → ∀ before after, ticks = before ++ after → ∀ k,
        lastBar (run (onTick add) (opened timeframe) before).sent k = asSent (tickBar timeframe k add before)) ↔
      Visits timeframe (fun _ _ => False) times) ∧
    ((∀ trades : List Tick, trades.map Tick.ts = times → ∀ before after, trades = before ++ after → ∀ k,
        lastBar (run (priceTrade add) (opened timeframe) before).sent k = asSent (tickBar timeframe k add before)) ↔
      Visits timeframe (fun _ _ => False) times) ∧
    ((∀ bars : List SubBar, bars.map SubBar.time = times → ∀ before after, bars = before ++ after → ∀ k,
        lastBar (run (candleKline sum) (opened timeframe) before).sent k = asSent (klineBar timeframe k sum before)) ↔
      Visits timeframe (fun u t => u = t) times) ∧
    (∀ (s : Chart) (tick : Tick) (k : ℤ), bucketOf s.timeframe tick.ts ≠ k →
      lastBar (onTick add s tick).sent k = lastBar s.sent k ∧
        lastBar (priceTrade add s tick).sent k = lastBar s.sent k) ∧
    ∀ (s : Chart) (bar : SubBar) (k : ℤ), bucketOf s.timeframe bar.time ≠ k →
      lastBar (candleKline sum s bar).sent k = lastBar s.sent k := by
  have hticks : (∀ ticks : List Tick, ticks.map Tick.ts = times → ∀ before after, ticks = before ++ after → ∀ k,
      lastBar (run (onTick add) (opened timeframe) before).sent k = asSent (tickBar timeframe k add before)) ↔
      Visits timeframe (fun _ _ => False) times := by
    refine ⟨ticks_exact_only, ?_⟩
    rintro h ticks rfl before after heq k
    exact ticks_exact h heq k
  refine ⟨hticks, ?_, ⟨minutes_exact_only, ?_⟩, fun s tick k hk => ⟨onTick_other hk, priceTrade_other hk⟩,
    fun s bar k hk => candleKline_other hk⟩
  · simp only [run_priceTrade_sent]
    exact hticks
  · rintro h bars rfl before after heq k
    exact minutes_exact h heq k

def late : List Tick := [⟨1, none, 0⟩, ⟨2, none, 60⟩, ⟨3, none, 30⟩]

/-- A tick of the minute before replaces the candle of that minute by one of its own. -/
theorem late_tick_replaces :
    lastBar (run (onTick (· + ·)) (opened .m1) late).sent 0 = (some ⟨0, 3, 3, 3, 3⟩, some 0) ∧
      asSent (tickBar .m1 0 (· + ·) late) = (some ⟨0, 1, 3, 1, 3⟩, some 0) := by
  constructor <;> decide +kernel

end Exactness

end TrxSimulator.Market.Candles
