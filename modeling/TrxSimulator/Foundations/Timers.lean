import Mathlib.Data.Finset.Max
import Mathlib.Data.Nat.ModEq
import Mathlib.Tactic.Linarith
import Mathlib.Tactic.Ring

/-! Timers that are polled together. A timer is due when its stamp is older than the timeout, and is then stamped
anew; with polls at a constant period it is due once in every cycle from the first time on, and timers are due
together just when their cycles are in phase. -/

namespace TrxSimulator.Foundations.Timers

section Timer

variable (timeout : ℕ) (poll delay : ℕ → ℕ) (stamp : ℕ)

/-- The stamp of a timer before a poll; `delay` is how long after the poll it has been stamped anew. -/
def stampAt : ℕ → ℕ
  | 0 => stamp
  | k + 1 => if timeout < poll k - stampAt k then poll k + delay k else stampAt k

def Due (k : ℕ) : Prop := timeout < poll k - stampAt timeout poll delay stamp k

instance (k : ℕ) : Decidable (Due timeout poll delay stamp k) :=
  inferInstanceAs (Decidable (timeout < poll k - stampAt timeout poll delay stamp k))

variable (period : ℕ)

/-- The polls from one stamp to the next. -/
def cycle : ℕ := timeout / period + 1

/-- The poll that first finds a timer due. -/
def first (start : ℕ) : ℕ := if stamp + timeout < start then 0 else (stamp + timeout - start) / period + 1

/-- Polls at a constant period, and stamps soon enough after them. -/
structure Regular : Prop where
  pos : 0 < period
  polls : ∀ k, poll k = poll 0 + k * period
  delays : ∀ k, timeout + delay k < cycle timeout period * period

end Timer

section Phases

variable {timeout : ℕ} {poll delay : ℕ → ℕ} {stamp period k : ℕ}

lemma cycle_pos (timeout period : ℕ) : 0 < cycle timeout period := Nat.succ_pos _

lemma stampAt_due (h : Due timeout poll delay stamp k) : stampAt timeout poll delay stamp (k + 1) = poll k + delay k :=
  if_pos h

lemma stampAt_not_due (h : ¬ Due timeout poll delay stamp k) :
    stampAt timeout poll delay stamp (k + 1) = stampAt timeout poll delay stamp k :=
  if_neg h

lemma lt_poll_iff (h : Regular timeout poll delay period) :
    stamp + timeout < poll k ↔ first timeout stamp period (poll 0) ≤ k := by
  rw [h.polls k, first]
  split
  · next hstart => exact ⟨fun _ => Nat.zero_le k, fun _ => by omega⟩
  · next hstart =>
    rw [Nat.succ_le_iff, Nat.div_lt_iff_lt_mul h.pos]
    omega

lemma first_le_cycle {start : ℕ} (hstamp : stamp ≤ start) :
    first timeout stamp period start ≤ cycle timeout period := by
  rw [first, cycle]
  split
  · exact Nat.zero_le _
  · exact Nat.succ_le_succ (Nat.div_le_div_right (by omega))

lemma stampAt_first (h : Regular timeout poll delay period) (hk : k ≤ first timeout stamp period (poll 0)) :
    stampAt timeout poll delay stamp k = stamp := by
  induction k with
  | zero => rfl
  | succ k ih =>
    have hstamp := ih (by omega)
    have hnot : ¬ Due timeout poll delay stamp k := by
      intro hdue
      rw [Due, hstamp] at hdue
      have := (lt_poll_iff h).mp (by omega : stamp + timeout < poll k)
      omega
    rw [stampAt_not_due hnot, hstamp]

lemma due_first (h : Regular timeout poll delay period) :
    Due timeout poll delay stamp (first timeout stamp period (poll 0)) := by
  have hlater : stamp + timeout < poll (first timeout stamp period (poll 0)) := (lt_poll_iff h).mpr le_rfl
  rw [Due, stampAt_first h le_rfl]
  omega

lemma not_due_lt_first (h : Regular timeout poll delay period) (hk : k < first timeout stamp period (poll 0)) :
    ¬ Due timeout poll delay stamp k := by
  intro hdue
  rw [Due, stampAt_first h hk.le] at hdue
  have := (lt_poll_iff h).mp (by omega : stamp + timeout < poll k)
  omega

/-- Within a cycle of the poll that found it due a timer keeps the stamp that it was given then. -/
lemma stampAt_cycle (h : Regular timeout poll delay period) (hdue : Due timeout poll delay stamp k) {j : ℕ}
    (hj : j < cycle timeout period) : stampAt timeout poll delay stamp (k + 1 + j) = poll k + delay k := by
  induction j with
  | zero => exact stampAt_due hdue
  | succ j ih =>
    have hstamp := ih (by omega)
    have hnot : ¬ Due timeout poll delay stamp (k + 1 + j) := by
      have hpolls : poll (k + 1 + j) = poll k + (j + 1) * period := by
        rw [h.polls, h.polls k]
        ring
      have hshort : (j + 1) * period ≤ timeout :=
        (Nat.mul_le_mul_right period (by rw [cycle] at hj; omega)).trans (Nat.div_mul_le_self timeout period)
      rw [Due, hstamp, hpolls]
      omega
    rw [← add_assoc, stampAt_not_due hnot, hstamp]

lemma not_due_in_cycle (h : Regular timeout poll delay period) (hdue : Due timeout poll delay stamp k) {j : ℕ}
    (hpos : 0 < j) (hj : j < cycle timeout period) : ¬ Due timeout poll delay stamp (k + j) := by
  obtain ⟨i, rfl⟩ : ∃ i, j = i + 1 := ⟨j - 1, by omega⟩
  intro hagain
  have hkept := stampAt_cycle h hdue (j := i) (by omega)
  have hpolls : poll (k + (i + 1)) = poll k + (i + 1) * period := by
    rw [h.polls, h.polls k]
    ring
  have hshort : (i + 1) * period ≤ timeout :=
    (Nat.mul_le_mul_right period (by rw [cycle] at hj; omega)).trans (Nat.div_mul_le_self timeout period)
  rw [Due, show k + (i + 1) = k + 1 + i by omega, hkept, show k + 1 + i = k + (i + 1) by omega, hpolls] at hagain
  omega

lemma due_cycle (h : Regular timeout poll delay period) (hdue : Due timeout poll delay stamp k) :
    Due timeout poll delay stamp (k + cycle timeout period) := by
  have hcycle := cycle_pos timeout period
  have hkept := stampAt_cycle h hdue (j := cycle timeout period - 1) (by omega)
  have hpolls : poll (k + cycle timeout period) = poll k + cycle timeout period * period := by
    rw [h.polls, h.polls k]
    ring
  have hlate := h.delays k
  rw [show k + 1 + (cycle timeout period - 1) = k + cycle timeout period by omega] at hkept
  rw [Due, hkept, hpolls]
  omega

lemma due_iff (h : Regular timeout poll delay period) : Due timeout poll delay stamp k ↔
    first timeout stamp period (poll 0) ≤ k ∧ k ≡ first timeout stamp period (poll 0) [MOD cycle timeout period] := by
  have hcycles : ∀ i,
      Due timeout poll delay stamp (first timeout stamp period (poll 0) + cycle timeout period * i) := by
    intro i
    induction i with
    | zero => exact due_first h
    | succ i ih =>
      rw [mul_add_one, ← add_assoc]
      exact due_cycle h ih
  by_cases hk : first timeout stamp period (poll 0) ≤ k
  · obtain ⟨d, rfl⟩ := Nat.exists_eq_add_of_le hk
    have hphase : first timeout stamp period (poll 0) + d ≡ first timeout stamp period (poll 0)
        [MOD cycle timeout period] ↔ d % cycle timeout period = 0 := by
      rw [Nat.add_modEq_left_iff, Nat.dvd_iff_mod_eq_zero]
    have hsplit := Nat.div_add_mod d (cycle timeout period)
    have hcycle := cycle_pos timeout period
    rw [hphase]
    constructor
    · intro hdue
      refine ⟨hk, ?_⟩
      by_contra hne
      apply not_due_in_cycle h (hcycles (d / cycle timeout period)) (Nat.pos_of_ne_zero hne) (Nat.mod_lt d hcycle)
      rwa [add_assoc, hsplit]
    · rintro ⟨-, hzero⟩
      rw [hzero, add_zero] at hsplit
      rw [← hsplit]
      exact hcycles _
  · exact ⟨fun hdue => absurd hdue (not_due_lt_first h (by omega)), fun hdue => absurd hdue.1 hk⟩

end Phases

section Family

variable {ι : Type*} {timers : Finset ι} {timeout period : ℕ} {poll : ℕ → ℕ} {delay : ι → ℕ → ℕ} {stamp : ι → ℕ}

/-- Timers are due together at some poll, and then within a cycle, just when they are in phase. -/
lemma meet_iff (h : ∀ i ∈ timers, Regular timeout poll (delay i) period) (hne : timers.Nonempty)
    (hstamp : ∀ i ∈ timers, stamp i ≤ poll 0) :
    ((∃ k, ∀ i ∈ timers, Due timeout poll (delay i) (stamp i) k) ↔
      ∀ i ∈ timers, ∀ j ∈ timers, first timeout (stamp i) period (poll 0) ≡ first timeout (stamp j) period (poll 0)
        [MOD cycle timeout period]) ∧
    ((∃ k, ∀ i ∈ timers, Due timeout poll (delay i) (stamp i) k) ↔
      ∃ k ≤ cycle timeout period, ∀ i ∈ timers, Due timeout poll (delay i) (stamp i) k) := by
  have hphases : (∃ k, ∀ i ∈ timers, Due timeout poll (delay i) (stamp i) k) →
      ∀ i ∈ timers, ∀ j ∈ timers, first timeout (stamp i) period (poll 0) ≡ first timeout (stamp j) period (poll 0)
        [MOD cycle timeout period] := by
    rintro ⟨k, hk⟩ i hi j hj
    exact ((due_iff (h i hi)).mp (hk i hi)).2.symm.trans ((due_iff (h j hj)).mp (hk j hj)).2
  have hmeet : (∀ i ∈ timers, ∀ j ∈ timers, first timeout (stamp i) period (poll 0) ≡
      first timeout (stamp j) period (poll 0) [MOD cycle timeout period]) →
      ∃ k ≤ cycle timeout period, ∀ i ∈ timers, Due timeout poll (delay i) (stamp i) k := by
    intro hphase
    obtain ⟨last, hlast, hmax⟩ := timers.exists_max_image (fun i => first timeout (stamp i) period (poll 0)) hne
    refine ⟨first timeout (stamp last) period (poll 0), first_le_cycle (hstamp last hlast), ?_⟩
    intro i hi
    exact (due_iff (h i hi)).mpr ⟨hmax i hi, hphase last hlast i hi⟩
  have hsoon : (∃ k ≤ cycle timeout period, ∀ i ∈ timers, Due timeout poll (delay i) (stamp i) k) →
      ∃ k, ∀ i ∈ timers, Due timeout poll (delay i) (stamp i) k := fun ⟨k, _, hk⟩ => ⟨k, hk⟩
  exact ⟨⟨hphases, fun hphase => hsoon (hmeet hphase)⟩, ⟨fun hk => hmeet (hphases hk), hsoon⟩⟩

end Family

end TrxSimulator.Foundations.Timers
