import Mathlib.Data.List.Induction
import Mathlib.Data.Rat.Floor
import TrxSimulator.Foundations.Runs

/-! The limit on requests: a counter per key in Redis, incremented by every call and given its expiry by the call that
finds it new. Either command may fail, and the process may stop between them. -/

namespace TrxSimulator.RateLimits.Requests

open Foundations.Runs

structure Counter where
  value : ℕ
  expiresAt : Option ℚ
deriving DecidableEq

/-- An unanswered command has been carried out, but the caller sees it fail. -/
inductive Fault
  | none | incrRefused | incrUnanswered | stopped | expireRefused | expireUnanswered
deriving DecidableEq

structure Call where
  now : ℚ
  fault : Fault
deriving DecidableEq

/-- Redis drops a counter when its time has come. -/
def live (key : Option Counter) (now : ℚ) : Option Counter :=
  key.filter fun c => match c.expiresAt with
    | none => true
    | some deadline => now < deadline

def incr (key : Option Counter) : Counter :=
  match key with
  | none => ⟨1, none⟩
  | some c => { c with value := c.value + 1 }

def rateCheck (loadTestMode : Bool) (limit window : ℕ) (key : Option Counter) (c : Call) :
    Option Counter × Option (Bool × ℕ) :=
  if loadTestMode then (key, some (true, 0))
  else
    let counter := incr (live key c.now)
    let dated := { counter with expiresAt := some (c.now + window) }
    let answer := (decide (counter.value ≤ limit), counter.value)
    match c.fault with
    | .incrRefused => (live key c.now, some (true, 0))
    | .incrUnanswered => (some counter, some (true, 0))
    | .stopped => (some counter, none)
    | .expireRefused => (some counter, some (if counter.value = 1 then (true, 0) else answer))
    | .expireUnanswered =>
      if counter.value = 1 then (some dated, some (true, 0)) else (some counter, some answer)
    | .none => (some (if counter.value = 1 then dated else counter), some answer)

def step (limit window : ℕ) (key : Option Counter) (c : Call) : Option Counter :=
  (rateCheck false limit window key c).1

def allows (limit window : ℕ) (key : Option Counter) (c : Call) : Bool :=
  (rateCheck false limit window key c).2.any Prod.fst

def allowed (limit window : ℕ) : Option Counter → List Call → ℕ
  | _, [] => 0
  | key, c :: calls => (allows limit window key c).toNat + allowed limit window (step limit window key c) calls

/-- In a counting window that no failure disturbs, at most `limit` calls are allowed. -/
def Bounded (limit window : ℕ) (calls : List Call) : Prop :=
  ∀ (before : List Call) (first : Call) (rest after : List Call), calls = before ++ (first :: rest) ++ after →
    live (run (step limit window) none before) first.now = none →
    (∀ c ∈ first :: rest, c.fault = .none ∧ c.now < first.now + window) →
    allowed limit window (run (step limit window) none before) (first :: rest) ≤ limit

/-- Once nothing has been asked for a whole window, the next call that Redis answers is allowed. -/
def Recovers (limit window : ℕ) (calls : List Call) : Prop :=
  ∀ before after, calls = before ++ after → ∀ now : ℚ, (∀ c ∈ before, c.now + window ≤ now) →
    allows limit window (run (step limit window) none before) ⟨now, .none⟩ = true

def Fault.setsExpiry : Fault → Bool
  | .none | .expireUnanswered => true
  | _ => false

/-- The call does not take a counter that will never expire up to the limit. -/
def Spares (limit : ℕ) (key : Option Counter) (c : Call) : Prop :=
  c.fault = .incrRefused ∨
    match live key c.now with
    | none => c.fault.setsExpiry = true ∨ 1 < limit
    | some counter => counter.expiresAt.isSome = true ∨ counter.value + 1 < limit

instance decidableSpares (limit : ℕ) (key : Option Counter) (c : Call) : Decidable (Spares limit key c) := by
  unfold Spares
  split <;> infer_instance

/-! What a counter is worth. -/

lemma live_eq_some {key : Option Counter} {now : ℚ} {c : Counter} : live key now = some c ↔
    key = some c ∧ ∀ deadline, c.expiresAt = some deadline → now < deadline := by
  cases key with
  | none => simp [live]
  | some k =>
    rw [live, Option.filter_eq_some_iff]
    constructor
    · rintro ⟨heq, hk⟩
      refine ⟨heq, fun deadline hd => ?_⟩
      simpa [hd] using hk
    · rintro ⟨hk, hdeadline⟩
      refine ⟨hk, ?_⟩
      cases hc : c.expiresAt with
      | none => rfl
      | some deadline => simpa using hdeadline deadline hc

section

variable {limit window : ℕ}

/-- A counter has been incremented at least once, and one that never expires is below the limit. -/
def Free (limit : ℕ) (key : Option Counter) : Prop :=
  ∀ c, key = some c → 1 ≤ c.value ∧ (c.expiresAt = none → c.value < limit)

lemma free_live {key : Option Counter} (h : Free limit key) (now : ℚ) : Free limit (live key now) :=
  fun c hc => h c (live_eq_some.mp hc).1

lemma step_new {key : Option Counter} {c : Call} (h : live key c.now = none) (hf : c.fault ≠ .incrRefused) :
    step limit window key c = some ⟨1, if c.fault.setsExpiry then some (c.now + window) else none⟩ := by
  cases hc : c.fault <;> simp_all [step, rateCheck, incr, Fault.setsExpiry]

lemma step_old {key : Option Counter} {c : Call} {counter : Counter} (h : live key c.now = some counter)
    (hv : 1 ≤ counter.value) (hf : c.fault ≠ .incrRefused) :
    step limit window key c = some { counter with value := counter.value + 1 } := by
  have hne : counter.value ≠ 0 := by omega
  cases hc : c.fault <;> simp_all [step, rateCheck, incr]

lemma step_refused {key : Option Counter} {c : Call} (hf : c.fault = .incrRefused) :
    step limit window key c = live key c.now := by
  simp [step, rateCheck, hf]

lemma free_step_iff {key : Option Counter} (h : Free limit key) (c : Call) :
    Free limit (step limit window key c) ↔ Spares limit key c := by
  unfold Spares
  by_cases hf : c.fault = .incrRefused
  · rw [step_refused hf]
    exact iff_of_true (free_live h _) (.inl hf)
  · simp only [hf, false_or]
    cases hlive : live key c.now with
    | none =>
      rw [step_new hlive hf]
      cases c.fault.setsExpiry <;> simp [Free]
    | some counter =>
      have hvalue : 1 ≤ counter.value := (h counter (live_eq_some.mp hlive).1).1
      rw [step_old hlive hvalue hf]
      cases hexp : counter.expiresAt <;> simp [Free, hexp]

/-- A counter has counted at least one call, and its expiry was set by a call, a window after it. -/
lemma counter_of_calls (calls : List Call) {c : Counter} (hc : run (step limit window) none calls = some c) :
    1 ≤ c.value ∧ ∀ deadline, c.expiresAt = some deadline → ∃ d ∈ calls, deadline = d.now + window := by
  induction calls using List.reverseRecOn generalizing c with
  | nil => simp at hc
  | append_singleton calls d ih =>
    rw [run_append, run_cons, run_nil] at hc
    generalize run (step limit window) none calls = key at hc ih
    have hold : ∀ k, live key d.now = some k →
        1 ≤ k.value ∧ ∀ deadline, k.expiresAt = some deadline → ∃ d' ∈ calls ++ [d], deadline = d'.now + window := by
      intro k hk
      obtain ⟨hvalue, hexpiry⟩ := ih (live_eq_some.mp hk).1
      refine ⟨hvalue, fun deadline hd => ?_⟩
      obtain ⟨d', hd', heq⟩ := hexpiry deadline hd
      exact ⟨d', List.mem_append_left _ hd', heq⟩
    by_cases hf : d.fault = .incrRefused
    · rw [step_refused hf] at hc
      exact hold c hc
    · cases hlive : live key d.now with
      | none =>
        rw [step_new hlive hf] at hc
        obtain rfl := Option.some.inj hc
        refine ⟨le_rfl, fun deadline hd => ⟨d, by simp, ?_⟩⟩
        simp only [Option.ite_none_right_eq_some, Option.some.injEq] at hd
        exact hd.2.symm
      | some k =>
        obtain ⟨hvalue, hexpiry⟩ := hold k hlive
        rw [step_old hlive hvalue hf] at hc
        obtain rfl := Option.some.inj hc
        exact ⟨by simp, hexpiry⟩

lemma allows_answered (key : Option Counter) (now : ℚ) :
    allows limit window key ⟨now, .none⟩ = decide ((incr (live key now)).value ≤ limit) := by
  simp [allows, rateCheck]

lemma allows_iff (key : Option Counter) (now : ℚ) :
    allows limit window key ⟨now, .none⟩ = true ↔ (incr (live key now)).value ≤ limit := by
  rw [allows_answered, decide_eq_true_iff]

lemma exists_quiet (window : ℕ) (calls : List Call) : ∃ now : ℚ, ∀ c ∈ calls, c.now + window ≤ now := by
  induction calls with
  | nil => exact ⟨0, by simp⟩
  | cons c calls ih =>
    obtain ⟨now, hnow⟩ := ih
    refine ⟨max (c.now + window) now, fun d hd => ?_⟩
    cases List.mem_cons.mp hd with
    | inl h => exact h ▸ le_max_left _ _
    | inr h => exact (hnow d h).trans (le_max_right _ _)

lemma recovers_iff (calls : List Call) : Recovers limit window calls ↔
    1 ≤ limit ∧ ∀ before after, calls = before ++ after → Free limit (run (step limit window) none before) := by
  constructor
  · intro h
    constructor
    · have hfirst := h [] calls rfl 0 (by simp)
      rw [allows_iff] at hfirst
      exact hfirst
    · intro before after heq c hc
      refine ⟨(counter_of_calls before hc).1, fun hexp => ?_⟩
      obtain ⟨now, hnow⟩ := exists_quiet window before
      have hnext := h before after heq now hnow
      have hlive : live (run (step limit window) none before) now = some c :=
        live_eq_some.mpr ⟨hc, by simp [hexp]⟩
      rw [allows_iff, hlive] at hnext
      exact hnext
  · rintro ⟨hlimit, hfree⟩ before after heq now hnow
    rw [allows_iff]
    cases hlive : live (run (step limit window) none before) now with
    | none => exact hlimit
    | some c =>
      obtain ⟨hc, hdeadline⟩ := live_eq_some.mp hlive
      have hexp : c.expiresAt = none := by
        cases hd : c.expiresAt with
        | none => rfl
        | some deadline =>
          obtain ⟨d, hmem, rfl⟩ := (counter_of_calls before hc).2 deadline hd
          exact absurd (hdeadline _ hd) (not_lt.mpr (hnow d hmem))
      have hlt := (hfree before after heq c hc).2 hexp
      exact hlt

/-- From `v` on, a counter that lasts allows no more calls than are left up to the limit. -/
lemma allowed_le {v : ℕ} (hv : 1 ≤ v) {deadline : ℚ} {calls : List Call}
    (hcalls : ∀ c ∈ calls, c.fault = .none ∧ c.now < deadline) :
    allowed limit window (some ⟨v, some deadline⟩) calls ≤ limit - v := by
  induction calls generalizing v with
  | nil => simp [allowed]
  | cons c calls ih =>
    obtain ⟨hfault, hnow⟩ := hcalls c List.mem_cons_self
    have hlive : live (some ⟨v, some deadline⟩) c.now = some ⟨v, some deadline⟩ :=
      live_eq_some.mpr ⟨rfl, by simpa using hnow⟩
    have hstep := @step_old limit window _ _ _ hlive hv (by simp [hfault])
    have hrest := ih (by omega : 1 ≤ v + 1) fun d hd => hcalls d (List.mem_cons_of_mem c hd)
    have hallows : allows limit window (some ⟨v, some deadline⟩) c = decide (v + 1 ≤ limit) := by
      have hanswer := @allows_answered limit window (some ⟨v, some deadline⟩) c.now
      rw [hlive, ← hfault] at hanswer
      exact hanswer
    rw [allowed, hstep, hallows]
    by_cases hle : v + 1 ≤ limit
    · simp only [hle, decide_true, Bool.toNat_true]
      omega
    · simp only [hle, decide_false, Bool.toNat_false]
      omega

lemma bounded (calls : List Call) : Bounded limit window calls := by
  rintro before first rest after - hnew hwindow
  obtain ⟨hfault, -⟩ := hwindow first List.mem_cons_self
  generalize run (step limit window) none before = key at hnew
  have hstep := @step_new limit window _ _ hnew (by simp [hfault])
  have hallows : allows limit window key first = decide (1 ≤ limit) := by
    have hanswer := @allows_answered limit window key first.now
    rw [hnew, ← hfault] at hanswer
    exact hanswer
  have hrest := @allowed_le limit window _ le_rfl _ _ fun c hc => hwindow c (List.mem_cons_of_mem first hc)
  rw [allowed, hstep, hallows, hfault]
  simp only [Fault.setsExpiry, if_true]
  by_cases hle : 1 ≤ limit
  · simp only [hle, decide_true, Bool.toNat_true]
    omega
  · simp only [hle, decide_false, Bool.toNat_false]
    omega

/-- The limit bounds every undisturbed window in any case; it lets the key recover exactly if no call ever takes a
counter that has lost its expiry up to the limit. -/
theorem rate_check_recovers_iff (limit window : ℕ) (calls : List Call) :
    (Bounded limit window calls ∧ Recovers limit window calls) ↔
      1 ≤ limit ∧ Guarded (step limit window) (Spares limit) none calls := by
  rw [and_iff_right (bounded calls), recovers_iff]
  apply and_congr_right
  intro _
  have hstart : Free limit none := by simp [Free]
  have hstep : ∀ key c, Free limit key → (Free limit (step limit window key c) ↔ Spares limit key c) :=
    fun key c h => free_step_iff h c
  exact invariant_iff_guarded hstep hstart calls

/-- The first call of eight loses its expiry: the ninth is refused, eleven days later. -/
theorem lost_expiry_blocks :
    let calls : List Call := ⟨0, .expireRefused⟩ :: List.replicate 7 ⟨1, .none⟩
    allows 8 300 (run (step 8 300) none calls) ⟨1000000, .none⟩ = false ∧ ¬ Recovers 8 300 calls := by
  have hblocked : allows 8 300 (run (step 8 300) none (⟨0, .expireRefused⟩ :: List.replicate 7 ⟨1, .none⟩))
      ⟨1000000, .none⟩ = false := by decide +kernel
  refine ⟨hblocked, fun h => ?_⟩
  have hquiet : ∀ c ∈ ⟨0, .expireRefused⟩ :: List.replicate 7 (⟨1, .none⟩ : Call),
      c.now + (300 : ℕ) ≤ (1000000 : ℚ) := by
    decide +kernel
  have hnext := h _ [] (by simp) 1000000 hquiet
  rw [hblocked] at hnext
  simp at hnext

end

end TrxSimulator.RateLimits.Requests
