import Mathlib.Data.List.Induction
import TrxSimulator.Foundations.Decimals
import TrxSimulator.Foundations.Runs

/-! The limit on orders: a sorted set per account in Redis, to which every call adds the time it has read. -/

namespace TrxSimulator.RateLimits.Orders

open Foundations.Decimals Foundations.Runs

/-- A member is the time of a call as printed with six decimals, its score the time itself. -/
structure Entry where
  member : ℤ
  score : ℚ
deriving DecidableEq

structure Key where
  entries : List Entry
  expiresAt : ℚ
deriving DecidableEq

def zremrangebyscore (cutoff : ℚ) (entries : List Entry) : List Entry := entries.filter (cutoff < ·.score)

def zadd (entry : Entry) (entries : List Entry) : List Entry :=
  if entry.member ∈ entries.map Entry.member then
    entries.map fun e => if e.member = entry.member then entry else e
  else entries ++ [entry]

/-- What the key holds when a call begins; Redis drops it when its time has come. -/
def live (key : Option Key) (now : ℚ) : List Entry :=
  match key with
  | none => []
  | some k => if now < k.expiresAt then k.entries else []

def orderRateCheck (limit window : ℕ) (key : Option Key) (now : ℚ) : Key × Bool :=
  let entries := zadd ⟨quantize 6 now, now⟩ (zremrangebyscore (now - window) (live key now))
  (⟨entries, now + window + 5⟩, decide (entries.length ≤ limit))

def step (limit window : ℕ) (key : Option Key) (now : ℚ) : Option Key := some (orderRateCheck limit window key now).1

/-- The times of the calls that are allowed. -/
def allowed (limit window : ℕ) : Option Key → List ℚ → List ℚ
  | _, [] => []
  | key, now :: calls =>
    if (orderRateCheck limit window key now).2 then now :: allowed limit window (step limit window key now) calls
    else allowed limit window (step limit window key now) calls

/-- No call of the window before this one has printed the same time. -/
def Fresh (window : ℕ) (key : Option Key) (now : ℚ) : Prop :=
  ∀ e ∈ live key now, now - window < e.score → e.member ≠ quantize 6 now

instance decidableFresh (window : ℕ) (key : Option Key) (now : ℚ) : Decidable (Fresh window key now) :=
  inferInstanceAs (Decidable (∀ e ∈ live key now, now - window < e.score → e.member ≠ quantize 6 now))

section

variable {limit window : ℕ}

def entry (now : ℚ) : Entry := ⟨quantize 6 now, now⟩

def recent (window : ℕ) (calls : List ℚ) (now : ℚ) : List ℚ := calls.filter (now - window < ·)

/-- The set has one entry for each call of the last window. -/
inductive Exact (window : ℕ) : List ℚ → Option Key → Prop
  | start : Exact window [] none
  | call (calls : List ℚ) (now : ℚ) :
    Exact window (calls ++ [now]) (some ⟨(recent window calls now ++ [now]).map entry, now + window + 5⟩)

lemma recent_recent {calls : List ℚ} {last now : ℚ} (h : last ≤ now) :
    recent window (recent window calls last) now = recent window calls now := by
  rw [recent, recent, List.filter_filter]
  apply List.filter_congr
  intro t _
  rw [Bool.and_eq_left_iff_imp]
  simp only [decide_eq_true_eq]
  intro ht
  linarith

lemma zremrangebyscore_map (cutoff : ℚ) (calls : List ℚ) :
    zremrangebyscore cutoff (calls.map entry) = (calls.filter (cutoff < ·)).map entry := by
  rw [zremrangebyscore, List.filter_map]
  rfl

lemma pruned_eq {calls : List ℚ} {key : Option Key} (h : Exact window calls key) {now : ℚ}
    (horder : (calls ++ [now]).Pairwise (· ≤ ·)) :
    zremrangebyscore (now - window) (live key now) = (recent window calls now).map entry := by
  cases h with
  | start => rfl
  | call front last =>
    obtain ⟨hpast, -, hnow⟩ := List.pairwise_append.mp horder
    have hle : last ≤ now := hnow last (by simp) now (by simp)
    have hfilter : recent window (front ++ [last]) now =
        (recent window front last ++ [last]).filter (now - window < ·) := by
      rw [recent, List.filter_append, List.filter_append, ← recent, ← recent_recent hle, recent]
    rw [hfilter, live]
    split
    next => rw [zremrangebyscore_map]
    next hexpired =>
      have hempty : (recent window front last ++ [last]).filter (now - window < ·) = [] := by
        apply List.filter_eq_nil_iff.mpr
        intro t ht
        have htlast : t ≤ last := by
          cases List.mem_append.mp ht with
          | inl h => exact (List.pairwise_append.mp hpast).2.2 t (List.mem_of_mem_filter h) last (by simp)
          | inr h => exact (List.mem_singleton.mp h).le
        simp only [decide_eq_true_eq, not_lt]
        linarith
      rw [hempty]
      rfl

lemma zadd_fresh {e : Entry} {entries : List Entry} (h : e.member ∉ entries.map Entry.member) :
    zadd e entries = entries ++ [e] := if_neg h

lemma entries_eq {calls : List ℚ} {key : Option Key} (h : Exact window calls key) {now : ℚ}
    (horder : (calls ++ [now]).Pairwise (· ≤ ·)) (hfresh : Fresh window key now) :
    (orderRateCheck limit window key now).1.entries = (recent window calls now ++ [now]).map entry := by
  have hpruned := pruned_eq h horder
  have hnew : (entry now).member ∉ ((recent window calls now).map entry).map Entry.member := by
    rw [← hpruned]
    intro hmem
    obtain ⟨e, he, heq⟩ := List.mem_map.mp hmem
    obtain ⟨hlive, hscore⟩ := List.mem_filter.mp he
    exact hfresh e hlive (by simpa using hscore) heq
  have hadd := zadd_fresh hnew
  rw [← hpruned] at hadd
  rw [List.map_append, ← hpruned]
  exact hadd

lemma exact_step {calls : List ℚ} {key : Option Key} (h : Exact window calls key) {now : ℚ}
    (horder : (calls ++ [now]).Pairwise (· ≤ ·)) (hfresh : Fresh window key now) :
    Exact window (calls ++ [now]) (step limit window key now) := by
  have hentries := @entries_eq limit _ _ _ h _ horder hfresh
  have hkey : step limit window key now = some ⟨(recent window calls now ++ [now]).map entry, now + window + 5⟩ := by
    rw [← hentries]
    rfl
  rw [hkey]
  exact .call calls now

lemma exact_run {calls : List ℚ} (horder : calls.Pairwise (· ≤ ·))
    (hfresh : Guarded (step limit window) (Fresh window) none calls) :
    Exact window calls (run (step limit window) none calls) := by
  induction calls using List.reverseRecOn with
  | nil => exact .start
  | append_singleton calls now ih =>
    obtain ⟨hpast, hnow, -⟩ := (guarded_append _ _ _ _ _).mp hfresh
    rw [run_append]
    exact exact_step (ih (List.pairwise_append.mp horder).1 hpast) horder hnow

lemma allowed_append (key : Option Key) (calls : List ℚ) (now : ℚ) :
    allowed limit window key (calls ++ [now]) = allowed limit window key calls ++
      if (orderRateCheck limit window (run (step limit window) key calls) now).2 then [now] else [] := by
  induction calls generalizing key with
  | nil => rfl
  | cons t calls ih =>
    simp only [List.cons_append, allowed, ih, run_cons]
    split
    · rfl
    · rfl

lemma allowed_sublist (key : Option Key) (calls : List ℚ) : (allowed limit window key calls).Sublist calls := by
  induction calls generalizing key with
  | nil => exact .slnil
  | cons now calls ih =>
    rw [allowed]
    split
    · exact (ih _).cons_cons now
    · exact (ih _).cons now

def during (start : ℚ) (window : ℕ) (t : ℚ) : Bool := start ≤ t ∧ t < start + window

/-- An allowed call counts, with itself, all the calls of any interval that it closes. -/
lemma during_le {calls : List ℚ} {key : Option Key} (h : Exact window calls key) {now start : ℚ}
    (horder : (calls ++ [now]).Pairwise (· ≤ ·)) (hfresh : Fresh window key now)
    (hallowed : (orderRateCheck limit window key now).2 = true) (hnow : during start window now = true) :
    (calls ++ [now]).countP (during start window) ≤ limit := by
  have hcount : (recent window calls now).length + 1 ≤ limit := by
    have hentries := @entries_eq limit _ _ _ h _ horder hfresh
    have hle : (orderRateCheck limit window key now).1.entries.length ≤ limit := of_decide_eq_true hallowed
    rw [hentries, List.length_map, List.length_append] at hle
    exact hle
  simp only [during, decide_eq_true_eq] at hnow
  have hpast : calls.countP (during start window) ≤ (recent window calls now).length := by
    rw [recent, ← List.countP_eq_length_filter]
    apply List.countP_mono_left
    intro t _ ht
    simp only [during, decide_eq_true_eq] at ht ⊢
    linarith [ht.1, hnow.2]
  have hone : [now].countP (during start window) ≤ 1 := List.countP_le_length
  rw [List.countP_append]
  omega

/-- At most `limit` calls are allowed in any interval of a window, if none of them prints the time of another of the
same window. -/
theorem orders_limited (limit window : ℕ) {calls : List ℚ} (horder : calls.Pairwise (· ≤ ·))
    (hfresh : Guarded (step limit window) (Fresh window) none calls) (start : ℚ) :
    (allowed limit window none calls).countP (fun t => start ≤ t ∧ t < start + window) ≤ limit := by
  change (allowed limit window none calls).countP (during start window) ≤ limit
  induction calls using List.reverseRecOn with
  | nil => simp [allowed]
  | append_singleton calls now ih =>
    obtain ⟨hpast, hnow, -⟩ := (guarded_append _ _ _ _ _).mp hfresh
    have hpastorder := (List.pairwise_append.mp horder).1
    have hbefore := ih hpastorder hpast
    have hexact := exact_run hpastorder hpast
    rw [allowed_append]
    by_cases hlast : (orderRateCheck limit window (run (step limit window) none calls) now).2 = true ∧
        during start window now = true
    · have hall := during_le hexact horder hnow hlast.1 hlast.2
      have hsub : (allowed limit window none calls).countP (during start window) ≤ calls.countP (during start window) :=
        (allowed_sublist none calls).countP_le
      rw [List.countP_append] at hall ⊢
      rw [if_pos hlast.1]
      omega
    · rw [List.countP_append]
      split
      next hallowed =>
        have hout : during start window now = false := by
          by_contra hin
          exact hlast ⟨hallowed, Bool.eq_true_of_not_eq_false hin⟩
        simpa [hout] using hbefore
      next => simpa using hbefore

end

/-- Eleven calls that read the same time share one entry, and all are allowed. -/
theorem burst_allowed : 10 < (allowed 10 10 none (List.replicate 11 1000)).countP
    fun t : ℚ => 1000 ≤ t ∧ t < 1000 + (10 : ℕ) := by
  decide +kernel

theorem orders_limited_second : (allowed 1 10 none [1000, 1001, 1020]).countP
    (fun t : ℚ => 1000 ≤ t ∧ t < 1000 + (10 : ℕ)) ≤ 1 := by
  have horder : ([1000, 1001, 1020] : List ℚ).Pairwise (· ≤ ·) := by decide +kernel
  have hfresh : Guarded (step 1 10) (Fresh 10) none [1000, 1001, 1020] := by decide +kernel
  exact orders_limited 1 10 horder hfresh 1000

end TrxSimulator.RateLimits.Orders
