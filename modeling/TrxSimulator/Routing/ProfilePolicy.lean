import Mathlib.Algebra.Order.Ring.Rat
import Mathlib.Algebra.Order.Ring.WithTop
import TrxSimulator.Foundations.Runs
import TrxSimulator.Foundations.Streaks

/-! The routing profile of a trader: a candidate has to be confirmed by a streak of evaluations. -/

namespace TrxSimulator.Routing.ProfilePolicy

open Foundations.Runs Foundations.Streaks

inductive Profile
  | internal | review | hedgeCandidate | elite
deriving DecidableEq

def Profile.text : Profile → String
  | .internal => "INTERNAL"
  | .review => "REVIEW"
  | .hedgeCandidate => "HEDGE_CANDIDATE"
  | .elite => "ELITE"

def validProfiles : List Profile := [.internal, .review, .hedgeCandidate, .elite]

def Profile.ofText (s : String) : Option Profile := validProfiles.find? (·.text = s)

inductive Reason
  | insufficientEvidenceTradeCount | insufficientEvidenceAccountAge | insufficientEvidenceWindow
  | streakReset | streakInProgress | streakConfirmedNoChange | streakConfirmedTransition
deriving DecidableEq

def Reason.text : Reason → String
  | .insufficientEvidenceTradeCount => "INSUFFICIENT_EVIDENCE_TRADE_COUNT"
  | .insufficientEvidenceAccountAge => "INSUFFICIENT_EVIDENCE_ACCOUNT_AGE"
  | .insufficientEvidenceWindow => "INSUFFICIENT_EVIDENCE_WINDOW"
  | .streakReset => "STREAK_RESET"
  | .streakInProgress => "STREAK_IN_PROGRESS"
  | .streakConfirmedNoChange => "STREAK_CONFIRMED_NO_CHANGE"
  | .streakConfirmedTransition => "STREAK_CONFIRMED_TRANSITION"

structure Evidence where
  lifetimeTradeCount : ℤ
  windowTradeCount : ℤ
  windowDays : ℤ
  accountAgeDays : ℤ

/-- A threshold is an int, a Decimal or a float, an infinite one included. -/
structure Thresholds where
  minWindowTradeCount : WithTop ℚ
  minAccountAgeDays : WithTop ℚ
  minWindowDays : WithTop ℚ
  transitionStreakRequired : WithTop ℚ

structure CurrentState where
  v2RoutingProfile : Option Profile
  candidateRoutingProfile : Option Profile
  candidateStreak : ℕ
deriving DecidableEq

structure Result where
  candidateRoutingProfile : Option Profile
  candidateStreak : ℕ
  v2RoutingProfileProposed : Option Profile
  evidenceSufficient : Bool
  reasonCode : Reason
  engineVersion : ℕ
deriving DecidableEq

inductive InputError
  | unknownProfile (got : String)
  | negativeEvidence (key : String) (got : ℤ)
  | negativeThreshold (key : String)

def engineVersion : ℕ := 2

def requireInt (key : String) (value : ℤ) : Except InputError Unit :=
  if value < 0 then .error (.negativeEvidence key value) else .ok ()

def requireNumeric (key : String) (value : WithTop ℚ) : Except InputError Unit :=
  if value < 0 then .error (.negativeThreshold key) else .ok ()

def validateInputs (candidate : String) (evidence : Evidence) (thresholds : Thresholds) : Except InputError Profile :=
  match Profile.ofText candidate with
  | none => .error (.unknownProfile candidate)
  | some profile => do
    requireInt "lifetime_trade_count" evidence.lifetimeTradeCount
    requireInt "window_trade_count" evidence.windowTradeCount
    requireInt "window_days" evidence.windowDays
    requireInt "account_age_days" evidence.accountAgeDays
    requireNumeric "min_window_trade_count" thresholds.minWindowTradeCount
    requireNumeric "min_account_age_days" thresholds.minAccountAgeDays
    requireNumeric "min_window_days" thresholds.minWindowDays
    requireNumeric "transition_streak_required" thresholds.transitionStreakRequired
    return profile

/-- The reason why the evidence is insufficient, if it is. -/
def checkEvidence (evidence : Evidence) (thresholds : Thresholds) : Option Reason :=
  if ((evidence.windowTradeCount : ℚ) : WithTop ℚ) < thresholds.minWindowTradeCount then
    some .insufficientEvidenceTradeCount
  else if ((evidence.accountAgeDays : ℚ) : WithTop ℚ) < thresholds.minAccountAgeDays then
    some .insufficientEvidenceAccountAge
  else if ((evidence.windowDays : ℚ) : WithTop ℚ) < thresholds.minWindowDays then some .insufficientEvidenceWindow
  else none

def reached (required : WithTop ℚ) (n : ℕ) : Bool := required ≤ ((n : ℚ) : WithTop ℚ)

def evaluateRoutingProfile (candidate : String) (evidence : Evidence) (current : CurrentState)
    (thresholds : Thresholds) : Except InputError Result := do
  let profile ← validateInputs candidate evidence thresholds
  match checkEvidence evidence thresholds with
  | some reason =>
    return {
      candidateRoutingProfile := current.candidateRoutingProfile
      candidateStreak := current.candidateStreak
      v2RoutingProfileProposed := current.v2RoutingProfile
      evidenceSufficient := false
      reasonCode := reason
      engineVersion := engineVersion }
  | none =>
    let continues := some profile = current.candidateRoutingProfile
    let newStreak := if continues then current.candidateStreak + 1 else 1
    let result : Result := {
      candidateRoutingProfile := some profile
      candidateStreak := newStreak
      v2RoutingProfileProposed := current.v2RoutingProfile
      evidenceSufficient := true
      reasonCode := if continues then .streakInProgress else .streakReset
      engineVersion := engineVersion }
    if some profile = current.v2RoutingProfile then
      return { result with reasonCode := .streakConfirmedNoChange }
    else if reached thresholds.transitionStreakRequired newStreak then
      return { result with
        v2RoutingProfileProposed := some profile
        reasonCode := .streakConfirmedTransition }
    else return result

/-! Evaluations fed with their own results. -/

structure Evaluation where
  candidate : String
  evidence : Evidence

variable (thresholds : Thresholds)

/-- Where the evaluation raises there is no result, and the state is still the one before. -/
def feed (current : CurrentState) (e : Evaluation) : CurrentState :=
  match evaluateRoutingProfile e.candidate e.evidence current thresholds with
  | .error _ => current
  | .ok result =>
    { v2RoutingProfile := result.v2RoutingProfileProposed
      candidateRoutingProfile := result.candidateRoutingProfile
      candidateStreak := result.candidateStreak }

def CurrentState.empty : CurrentState := ⟨none, none, 0⟩

/-- The candidate of an evaluation that is valid and has sufficient evidence. -/
def counted (e : Evaluation) : Option Profile :=
  match validateInputs e.candidate e.evidence thresholds with
  | .error _ => none
  | .ok profile => if checkEvidence e.evidence thresholds = none then some profile else none

lemma reached_succ {required : WithTop ℚ} (n : ℕ) (h : reached required n = true) :
    reached required (n + 1) = true := by
  unfold reached at h ⊢
  apply decide_eq_true
  refine (of_decide_eq_true h).trans ?_
  exact_mod_cast Nat.le_succ n

/-- What the runs of the counted candidates say about the state. -/
def summary (runs : List (Profile × ℕ)) : CurrentState where
  v2RoutingProfile := latest (reached thresholds.transitionStreakRequired) runs
  candidateRoutingProfile := currentItem runs
  candidateStreak := currentLength runs

variable {thresholds}

lemma feed_of_not_counted {e : Evaluation} (h : counted thresholds e = none) (current : CurrentState) :
    feed thresholds current e = current := by
  unfold counted at h
  unfold feed evaluateRoutingProfile
  cases hvalid : validateInputs e.candidate e.evidence thresholds with
  | error => rfl
  | ok profile =>
    rw [hvalid] at h
    cases hcheck : checkEvidence e.evidence thresholds with
    | none => simp [hcheck] at h
    | some reason => rfl

lemma feed_summary {e : Evaluation} {profile : Profile} (h : counted thresholds e = some profile)
    (runs : List (Profile × ℕ)) :
    feed thresholds (summary thresholds runs) e = summary thresholds (extend runs profile) := by
  unfold counted at h
  unfold feed evaluateRoutingProfile
  cases hvalid : validateInputs e.candidate e.evidence thresholds with
  | error => simp [hvalid] at h
  | ok p =>
    rw [hvalid] at h
    cases hcheck : checkEvidence e.evidence thresholds with
    | some reason => simp [hcheck] at h
    | none =>
      obtain rfl : p = profile := by simpa [hcheck] using h
      have hmono := @reached_succ thresholds.transitionStreakRequired
      have hlength := currentLength_extend runs p
      simp only [summary, latest_extend hmono, currentItem_extend, hlength, bind, Except.bind]
      have hcomm : (some p = currentItem runs) = (currentItem runs = some p) := propext eq_comm
      simp only [hcomm]
      generalize (if currentItem runs = some p then currentLength runs + 1 else 1) = streak
      by_cases hconfirmed : some p = latest (reached thresholds.transitionStreakRequired) runs
      · simp [← hconfirmed, pure, Except.pure]
      · by_cases hreached : reached thresholds.transitionStreakRequired streak = true
        · simp [hconfirmed, hreached, pure, Except.pure]
        · simp [hconfirmed, hreached, pure, Except.pure]

lemma run_feed (evaluations : List Evaluation) : run (feed thresholds) .empty evaluations =
    summary thresholds (streaks (evaluations.filterMap (counted thresholds))) := by
  induction evaluations using List.reverseRecOn with
  | nil => rfl
  | append_singleton evaluations e ih =>
    rw [run_append, ih, List.filterMap_append]
    cases h : counted thresholds e with
    | none => simp [h, feed_of_not_counted h]
    | some profile => simp [h, feed_summary h]

/-- The state after any evaluations is what the maximal runs of the counted candidates say, and the evaluations that do
not count change nothing. -/
theorem evaluations_confirm (evaluations : List Evaluation) :
    (∃ runs, MaximalRuns (evaluations.filterMap (counted thresholds)) runs ∧
      run (feed thresholds) .empty evaluations = summary thresholds runs) ∧
    ∀ current e, counted thresholds e = none → feed thresholds current e = current :=
  ⟨⟨_, maximalRuns_streaks _, run_feed evaluations⟩, fun current _ h => feed_of_not_counted h current⟩

end TrxSimulator.Routing.ProfilePolicy
