import Mathlib.Data.Int.Init
import Mathlib.Order.Bounds.Basic

/-! The trading sessions of a market by its calendar. Instants are microseconds since the epoch, a Thursday. -/

namespace TrxSimulator.Market.Calendars

inductive MarketSessionState
  | open | closed | preMarket | afterHours | weekend | holiday | maintenance | unknown
deriving DecidableEq

inductive SessionReasonCode
  | marketOpen | weekendClosure | overnightClosure | dailyMaintenance | preMarketWindow | afterHoursWindow
deriving DecidableEq

structure RawEvaluation where
  state : MarketSessionState
  reasonCode : SessionReasonCode
  timezone : String
  nextOpenAt : Option ℤ
  nextCloseAt : Option ℤ
deriving DecidableEq

def minutes (n : ℤ) : ℤ := n * 60000000

def days (n : ℤ) : ℤ := n * 86400000000

/-- Monday is 0. -/
def weekday (t : ℤ) : ℤ := (t / days 1 + 3) % 7

structure ClockTime where
  hour : ℤ
  minute : ℤ
  valid : 0 ≤ hour ∧ hour < 24 ∧ 0 ≤ minute ∧ minute < 60

/-- `t.replace` with the second and the microsecond zero. -/
def replaceTime (t : ℤ) (c : ClockTime) : ℤ := days (t / days 1) + minutes (60 * c.hour + c.minute)

def mostRecentWeekdayAtHour (now wd : ℤ) (c : ClockTime) : ℤ :=
  let candidate := replaceTime now c - days ((weekday now - wd) % 7)
  if now < candidate then candidate - days 7 else candidate

def nextWeekdayAt (now wd : ℤ) (c : ClockTime) : ℤ :=
  let candidate := replaceTime (now + days ((wd - weekday now) % 7)) c
  if candidate ≤ now then candidate + days 7 else candidate

/-- The loop passes a Saturday and a Sunday at most. -/
def nextWeekdayOpen (now : ℤ) (c : ClockTime) : ℤ :=
  if weekday (replaceTime (now + days 1) c) < 5 then replaceTime (now + days 1) c
  else nextWeekdayOpen (replaceTime (now + days 1) c) c
termination_by (7 - weekday now).toNat
decreasing_by
  obtain ⟨hour, minute, hvalid⟩ := c
  simp only [weekday, replaceTime, days, minutes] at *
  omega

def weekEnd : ClockTime := ⟨22, 0, by decide⟩

def maintenanceStart : ClockTime := ⟨21, 0, by decide⟩

def maintenanceEnd : ClockTime := ⟨22, 0, by decide⟩

def preMarketStart : ClockTime := ⟨4, 0, by decide⟩

def marketOpen : ClockTime := ⟨9, 30, by decide⟩

def marketClose : ClockTime := ⟨16, 0, by decide⟩

def afterHoursEnd : ClockTime := ⟨20, 0, by decide⟩

def weekOpen (now : ℤ) : ℤ := mostRecentWeekdayAtHour now 6 weekEnd

def weekClose (now : ℤ) : ℤ := weekOpen now + days 5

def RawEvaluation.opened (timezone : String) (nextCloseAt : ℤ) : RawEvaluation :=
  ⟨.open, .marketOpen, timezone, none, some nextCloseAt⟩

def RawEvaluation.shut (state : MarketSessionState) (reason : SessionReasonCode) (timezone : String)
    (nextOpenAt : ℤ) : RawEvaluation :=
  ⟨state, reason, timezone, some nextOpenAt, none⟩

def forex24_5 (now : ℤ) : RawEvaluation :=
  if weekOpen now ≤ now ∧ now < weekClose now then .opened "UTC" (weekClose now)
  else .shut .weekend .weekendClosure "UTC" (weekOpen now + days 7)

def metals23_5 (now : ℤ) : RawEvaluation :=
  if ¬ (weekOpen now ≤ now ∧ now < weekClose now) then
    .shut .weekend .weekendClosure "UTC" (weekOpen now + days 7)
  else
    let maintStart := replaceTime now maintenanceStart
    let maintEnd := replaceTime now maintenanceEnd
    if maintStart ≤ now ∧ now < maintEnd then .shut .maintenance .dailyMaintenance "UTC" maintEnd
    else
      let nextClose := if now < maintStart then maintStart else maintStart + days 1
      .opened "UTC" (min nextClose (weekClose now))

/-- The New York clock is `offset` away from UTC. -/
def usIndicesCfd (offset now : ℤ) : RawEvaluation :=
  let nowNy := now + offset
  let zone := "America/New_York"
  if 5 ≤ weekday nowNy then .shut .weekend .weekendClosure zone (nextWeekdayAt nowNy 0 marketOpen - offset)
  else if replaceTime nowNy preMarketStart ≤ nowNy ∧ nowNy < replaceTime nowNy marketOpen then
    .shut .preMarket .preMarketWindow zone (replaceTime nowNy marketOpen - offset)
  else if replaceTime nowNy marketOpen ≤ nowNy ∧ nowNy < replaceTime nowNy marketClose then
    .opened zone (replaceTime nowNy marketClose - offset)
  else if replaceTime nowNy marketClose ≤ nowNy ∧ nowNy < replaceTime nowNy afterHoursEnd then
    .shut .afterHours .afterHoursWindow zone (nextWeekdayOpen nowNy marketOpen - offset)
  else
    let nextOpenNy :=
      if nowNy < replaceTime nowNy preMarketStart then replaceTime nowNy marketOpen
      else nextWeekdayOpen nowNy marketOpen
    .shut .closed .overnightClosure zone (nextOpenNy - offset)

/-! Hours of the week. -/

def IsOpen (calendar : ℤ → RawEvaluation) (t : ℤ) : Prop := (calendar t).state = .open

/-- Time since the Monday before. -/
def weekTime (t : ℤ) : ℤ := (t + days 3) % days 7

def dayTime (t : ℤ) : ℤ := t % days 1

lemma replaceTime_eq (t : ℤ) (c : ClockTime) : replaceTime t c = t - dayTime t + minutes (60 * c.hour + c.minute) := by
  simp only [replaceTime, dayTime, days]
  omega

lemma weekOpen_spec (t : ℤ) :
    weekOpen t ≤ t ∧ t < weekOpen t + days 7 ∧ weekTime (weekOpen t) = days 6 + minutes 1320 := by
  unfold weekOpen mostRecentWeekdayAtHour
  dsimp only
  split <;> simp only [replaceTime, weekEnd, weekday, weekTime, days, minutes] at * <;> omega

lemma nextWeekdayAt_spec (t : ℤ) :
    t < nextWeekdayAt t 0 marketOpen ∧ nextWeekdayAt t 0 marketOpen ≤ t + days 7 ∧
      weekTime (nextWeekdayAt t 0 marketOpen) = minutes 570 := by
  unfold nextWeekdayAt
  dsimp only
  split <;> simp only [replaceTime, marketOpen, weekday, weekTime, days, minutes] at * <;> omega

lemma weekday_add (t : ℤ) : weekday (t + days 1) = (weekday t + 1) % 7 := by
  simp only [weekday, days]
  omega

lemma weekday_replaceTime (t : ℤ) (c : ClockTime) : weekday (replaceTime t c) = weekday t := by
  obtain ⟨hour, minute, hvalid⟩ := c
  simp only [weekday, replaceTime, days, minutes]
  omega

lemma replaceTime_add (t : ℤ) (c : ClockTime) : replaceTime (t + days 1) c = replaceTime t c + days 1 := by
  simp only [replaceTime, days]
  omega

lemma replaceTime_replaceTime (t : ℤ) (c : ClockTime) : replaceTime (replaceTime t c) c = replaceTime t c := by
  obtain ⟨hour, minute, hvalid⟩ := c
  simp only [replaceTime, days, minutes]
  omega

lemma nextWeekdayOpen_eq (t : ℤ) (c : ClockTime) (hweekday : weekday t < 5) : nextWeekdayOpen t c =
    replaceTime t c + if weekday t = 4 then days 3 else days 1 := by
  have hnext : ∀ t, nextWeekdayOpen t c = if (weekday t + 1) % 7 < 5 then replaceTime t c + days 1
      else nextWeekdayOpen (replaceTime t c + days 1) c := by
    intro t
    rw [nextWeekdayOpen, replaceTime_add, weekday_add, weekday_replaceTime]
  by_cases hfriday : weekday t = 4
  · rw [hnext, hnext, hnext]
    simp only [weekday_add, weekday_replaceTime, replaceTime_add, replaceTime_replaceTime, hfriday]
    simp [days]
    omega
  · have hlow : 0 ≤ weekday t := by
      simp only [weekday]
      omega
    rw [hnext, if_pos (by omega), if_neg hfriday]

lemma inWeek_iff (t : ℤ) : weekOpen t ≤ t ∧ t < weekClose t ↔
    weekTime t < days 4 + minutes 1320 ∨ days 6 + minutes 1320 ≤ weekTime t := by
  obtain ⟨hle, hlt, hweek⟩ := weekOpen_spec t
  simp only [weekClose, weekTime, days, minutes] at *
  omega

lemma isOpen_forex (t : ℤ) : IsOpen forex24_5 t ↔
    weekTime t < days 4 + minutes 1320 ∨ days 6 + minutes 1320 ≤ weekTime t := by
  rw [← inWeek_iff]
  unfold IsOpen forex24_5
  split <;> simp_all [RawEvaluation.opened, RawEvaluation.shut]

def InGap (t : ℤ) : Prop := minutes 1260 ≤ dayTime t ∧ dayTime t < minutes 1320

lemma inGap_iff (t : ℤ) :
    replaceTime t maintenanceStart ≤ t ∧ t < replaceTime t maintenanceEnd ↔ InGap t := by
  simp only [InGap, replaceTime_eq, maintenanceStart, maintenanceEnd, minutes]
  omega

lemma isOpen_metals (t : ℤ) : IsOpen metals23_5 t ↔
    (weekTime t < days 4 + minutes 1320 ∨ days 6 + minutes 1320 ≤ weekTime t) ∧ ¬ InGap t := by
  rw [← inWeek_iff, ← inGap_iff]
  unfold IsOpen metals23_5
  by_cases hweek : weekOpen t ≤ t ∧ t < weekClose t
  · by_cases hgap : replaceTime t maintenanceStart ≤ t ∧ t < replaceTime t maintenanceEnd
    · simp [hweek, hgap, RawEvaluation.shut]
    · simp only [hweek, hgap, not_true_eq_false, not_false_eq_true, if_false, and_self, RawEvaluation.opened]
  · simp [hweek, RawEvaluation.shut]

lemma isOpen_usIndices (offset t : ℤ) : IsOpen (usIndicesCfd offset) t ↔
    weekday (t + offset) < 5 ∧ minutes 570 ≤ dayTime (t + offset) ∧ dayTime (t + offset) < minutes 960 := by
  have hopen : replaceTime (t + offset) marketOpen ≤ t + offset ∧ t + offset < replaceTime (t + offset) marketClose ↔
      minutes 570 ≤ dayTime (t + offset) ∧ dayTime (t + offset) < minutes 960 := by
    simp only [replaceTime_eq, marketOpen, marketClose, minutes]
    omega
  rw [← hopen]
  unfold IsOpen usIndicesCfd
  dsimp only
  split
  next hweekend =>
    simp only [RawEvaluation.shut, reduceCtorEq, false_iff]
    omega
  next hweekday =>
    have hlt : weekday (t + offset) < 5 := by omega
    split
    next hpre =>
      simp only [RawEvaluation.shut, reduceCtorEq, false_iff]
      omega
    next =>
      split
      next h => simp [RawEvaluation.opened, hlt, h]
      next h =>
        simp only [hlt, h, and_false, iff_false]
        split <;> simp [RawEvaluation.shut]

/-- What is reported of an instant: one state, and a boundary that is the next one. -/
structure Sound (calendar : ℤ → RawEvaluation) (t : ℤ) : Prop where
  one : ∃! state, (calendar t).state = state
  next_open : ¬ IsOpen calendar t → ∀ u, (calendar t).nextOpenAt = some u →
    IsLeast {v | t < v ∧ IsOpen calendar v} u
  next_close : IsOpen calendar t → ∀ u, (calendar t).nextCloseAt = some u →
    IsLeast {v | t < v ∧ ¬ IsOpen calendar v} u

lemma sound_forex (t : ℤ) : Sound forex24_5 t := by
  obtain ⟨hle, hlt, hweek⟩ := weekOpen_spec t
  refine ⟨⟨_, rfl, fun _ h => h.symm⟩, ?_, ?_⟩
  · intro hclosed u hu
    have hout : ¬ (weekOpen t ≤ t ∧ t < weekClose t) := by rwa [inWeek_iff, ← isOpen_forex]
    simp only [forex24_5, if_neg hout, RawEvaluation.shut, Option.some.injEq] at hu
    subst hu
    simp only [isOpen_forex, weekClose, weekTime, days, minutes] at *
    refine ⟨⟨by omega, by omega⟩, ?_⟩
    rintro v ⟨hv, hopen⟩
    omega
  · intro hopen u hu
    have hin : weekOpen t ≤ t ∧ t < weekClose t := by rwa [inWeek_iff, ← isOpen_forex]
    simp only [forex24_5, if_pos hin, RawEvaluation.opened, Option.some.injEq] at hu
    subst hu
    simp only [isOpen_forex, weekClose, weekTime, days, minutes] at *
    refine ⟨⟨by omega, by omega⟩, ?_⟩
    rintro v ⟨hv, hclosed⟩
    omega

/-- Friday from 21:00 to 22:00, the hour of maintenance before the weekend. -/
def FridayGap (t : ℤ) : Prop := days 4 + minutes 1260 ≤ weekTime t ∧ weekTime t < days 4 + minutes 1320

lemma sound_metals_iff (t : ℤ) : Sound metals23_5 t ↔ ¬ FridayGap t := by
  obtain ⟨hle, hlt, hweek⟩ := weekOpen_spec t
  constructor
  · intro h hfriday
    have hin : weekOpen t ≤ t ∧ t < weekClose t := by
      rw [inWeek_iff]
      simp only [FridayGap, days, minutes] at *
      omega
    have hgap : InGap t := by
      simp only [FridayGap, InGap, weekTime, dayTime, days, minutes] at *
      omega
    have hclosed : ¬ IsOpen metals23_5 t := fun hopen => ((isOpen_metals t).mp hopen).2 hgap
    have hnext : (metals23_5 t).nextOpenAt = some (replaceTime t maintenanceEnd) := by
      simp [metals23_5, hin, (inGap_iff t).mpr hgap, RawEvaluation.shut]
    have hopen := (h.next_open hclosed _ hnext).1.2
    rw [isOpen_metals] at hopen
    simp only [replaceTime_eq, maintenanceEnd, FridayGap, weekTime, dayTime, days, minutes] at *
    omega
  · intro hfriday
    refine ⟨⟨_, rfl, fun _ h => h.symm⟩, ?_, ?_⟩
    · intro hclosed u hu
      by_cases hin : weekOpen t ≤ t ∧ t < weekClose t
      · have hgap : InGap t := by
          by_contra hnot
          exact hclosed ((isOpen_metals t).mpr ⟨(inWeek_iff t).mp hin, hnot⟩)
        simp only [metals23_5, hin, (inGap_iff t).mpr hgap, RawEvaluation.shut, and_self, not_true_eq_false, if_false,
          if_true, Option.some.injEq] at hu
        subst hu
        rw [inWeek_iff] at hin
        simp only [isOpen_metals, replaceTime_eq, maintenanceEnd, FridayGap, InGap, weekTime, dayTime, days,
          minutes] at *
        refine ⟨⟨by omega, by omega⟩, ?_⟩
        rintro v ⟨hv, hopen⟩
        omega
      · simp only [metals23_5, hin, RawEvaluation.shut, not_false_eq_true, if_true, Option.some.injEq] at hu
        subst hu
        simp only [isOpen_metals, weekClose, InGap, weekTime, dayTime, days, minutes] at *
        refine ⟨⟨by omega, by omega⟩, ?_⟩
        rintro v ⟨hv, hopen⟩
        omega
    · intro hopen u hu
      obtain ⟨hin, hgap⟩ := (isOpen_metals t).mp hopen
      rw [← inWeek_iff] at hin
      simp only [metals23_5, hin, (inGap_iff t).not.mpr hgap, RawEvaluation.opened, and_self, not_true_eq_false,
        if_false, Option.some.injEq] at hu
      subst hu
      simp only [isOpen_metals, replaceTime_eq, maintenanceStart, weekClose, InGap, weekTime, dayTime, days,
        minutes] at *
      split
      · refine ⟨⟨by omega, by omega⟩, ?_⟩
        rintro v ⟨hv, hclosed⟩
        omega
      · refine ⟨⟨by omega, by omega⟩, ?_⟩
        rintro v ⟨hv, hclosed⟩
        omega

/-- The next opening, by the New York clock. -/
def nextOpening (s : ℤ) : ℤ :=
  if 5 ≤ weekday s then nextWeekdayAt s 0 marketOpen
  else if s < replaceTime s marketOpen then replaceTime s marketOpen
  else nextWeekdayOpen s marketOpen

lemma usIndices_boundary (offset t : ℤ) :
    (¬ IsOpen (usIndicesCfd offset) t → (usIndicesCfd offset t).nextOpenAt = some (nextOpening (t + offset) - offset)) ∧
    (IsOpen (usIndicesCfd offset) t →
      (usIndicesCfd offset t).nextCloseAt = some (replaceTime (t + offset) marketClose - offset)) := by
  have horder : replaceTime (t + offset) preMarketStart < replaceTime (t + offset) marketOpen ∧
      replaceTime (t + offset) marketOpen < replaceTime (t + offset) marketClose ∧
      replaceTime (t + offset) marketClose < replaceTime (t + offset) afterHoursEnd := by
    simp only [replaceTime_eq, preMarketStart, marketOpen, marketClose, afterHoursEnd, minutes]
    omega
  obtain ⟨hpre, hopen, hclose⟩ := horder
  unfold IsOpen usIndicesCfd nextOpening
  dsimp only
  split
  next hweekend => simp [RawEvaluation.shut]
  next =>
    split
    next h => simp [RawEvaluation.shut, h]
    next h =>
      split
      next => simp [RawEvaluation.opened]
      next h' =>
        split
        next hafter =>
          have hpast : ¬ t + offset < replaceTime (t + offset) marketOpen := by omega
          simp [RawEvaluation.shut, hpast]
        next hafter =>
          by_cases hearly : t + offset < replaceTime (t + offset) preMarketStart
          · have hbefore : t + offset < replaceTime (t + offset) marketOpen := by omega
            simp [RawEvaluation.shut, hearly, hbefore]
          · have hpast : ¬ t + offset < replaceTime (t + offset) marketOpen := by omega
            simp [RawEvaluation.shut, hearly, hpast]

lemma sound_usIndices (offset t : ℤ) : Sound (usIndicesCfd offset) t := by
  obtain ⟨hopening, hclosing⟩ := usIndices_boundary offset t
  refine ⟨⟨_, rfl, fun _ h => h.symm⟩, ?_, ?_⟩
  · intro hclosed u hu
    obtain rfl := Option.some.inj ((hopening hclosed).symm.trans hu)
    unfold nextOpening
    split
    next hweekend =>
      obtain ⟨hafter, hbefore, hweek⟩ := nextWeekdayAt_spec (t + offset)
      simp only [isOpen_usIndices, weekday, weekTime, dayTime, days, minutes] at *
      refine ⟨⟨by omega, by omega⟩, ?_⟩
      rintro v ⟨hv, hopen⟩
      omega
    next hweekday =>
      split
      next =>
        simp only [isOpen_usIndices, replaceTime_eq, marketOpen, weekday, dayTime, days, minutes] at *
        refine ⟨⟨by omega, by omega⟩, ?_⟩
        rintro v ⟨hv, hopen⟩
        omega
      next =>
        rw [nextWeekdayOpen_eq _ _ (by omega)]
        split
        next =>
          simp only [isOpen_usIndices, replaceTime_eq, marketOpen, weekday, dayTime, days, minutes] at *
          refine ⟨⟨by omega, by omega⟩, ?_⟩
          rintro v ⟨hv, hopen⟩
          omega
        next =>
          simp only [isOpen_usIndices, replaceTime_eq, marketOpen, weekday, dayTime, days, minutes] at *
          refine ⟨⟨by omega, by omega⟩, ?_⟩
          rintro v ⟨hv, hopen⟩
          omega
  · intro hopen u hu
    obtain rfl := Option.some.inj ((hclosing hopen).symm.trans hu)
    simp only [isOpen_usIndices, replaceTime_eq, marketClose, weekday, dayTime, days, minutes] at *
    refine ⟨⟨by omega, by omega⟩, ?_⟩
    rintro v ⟨hv, hclosed⟩
    omega

/-- The boundaries that are reported are the next ones, but for the gold market on a Friday from 21:00 to 22:00. -/
theorem calendars_sound (offset t : ℤ) :
    Sound forex24_5 t ∧ Sound (usIndicesCfd offset) t ∧ (Sound metals23_5 t ↔ ¬ FridayGap t) :=
  ⟨sound_forex t, sound_usIndices offset t, sound_metals_iff t⟩

/-- On 2 January 1970, a Friday, at 21:30 the market is said to open at 22:00, and is closed then. -/
theorem friday_maintenance : ¬ Sound metals23_5 (days 1 + minutes 1290) ∧
    (metals23_5 (days 1 + minutes 1290)).nextOpenAt = some (days 1 + minutes 1320) ∧
    (metals23_5 (days 1 + minutes 1320)).state = .weekend :=
  ⟨fun h => (sound_metals_iff _).mp h ⟨by decide, by decide⟩, by decide, by decide⟩

end TrxSimulator.Market.Calendars
