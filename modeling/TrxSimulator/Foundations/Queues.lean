import Mathlib.Data.List.Nodup
import Mathlib.Logic.Function.Iterate
import TrxSimulator.Foundations.Tables

/-! Batches of the same size from the front of a queue, where a batch takes out what is ripe and leaves the rest in
front of all that follows; and tables whose waiting rows are such a queue in the order of their keys. -/

namespace TrxSimulator.Foundations.Queues

open Tables

section Batches

variable {α : Type*} (ripe : α → Bool)

def batch (size : ℕ) (queue : List α) : List α := (queue.take size).filter (!ripe ·) ++ queue.drop size

def stuck (queue : List α) (n : ℕ) : ℕ := (queue.take n).countP (!ripe ·)

/-- How far into the queue so many batches come: each looks first at all that earlier ones have left. -/
def reached (size : ℕ) (queue : List α) : ℕ → ℕ
  | 0 => 0
  | calls + 1 => reached size queue calls + (size - stuck ripe queue (reached size queue calls))

variable {ripe} {size : ℕ} {queue : List α}

lemma batch_left (size n : ℕ) (queue : List α) :
    batch ripe size ((queue.take n).filter (!ripe ·) ++ queue.drop n) =
      (queue.take (n + (size - stuck ripe queue n))).filter (!ripe ·) ++
        queue.drop (n + (size - stuck ripe queue n)) := by
  have hlength : ((queue.take n).filter (!ripe ·)).length = stuck ripe queue n := by
    rw [stuck, List.countP_eq_length_filter]
  have htake : (((queue.take n).filter (!ripe ·)).take size).filter (!ripe ·) =
      ((queue.take n).filter (!ripe ·)).take size := by
    rw [List.filter_eq_self]
    intro a ha
    exact (List.mem_filter.mp (List.mem_of_mem_take ha)).2
  rw [batch, List.take_append, List.drop_append, hlength, List.filter_append, htake, List.append_assoc,
    List.take_add, List.filter_append, List.append_assoc, List.drop_drop]
  by_cases hsize : size ≤ stuck ripe queue n
  · rw [Nat.sub_eq_zero_of_le hsize, List.take_zero, List.filter_nil, List.nil_append, List.nil_append,
      ← List.append_assoc, List.take_append_drop, Nat.add_zero]
  · rw [List.take_of_length_le (hlength.le.trans (not_le.mp hsize).le),
      List.drop_eq_nil_of_le (hlength.le.trans (not_le.mp hsize).le), List.nil_append]

/-- So many batches leave what is not ripe of the part they reach, and all of the rest. -/
lemma batches_eq (size calls : ℕ) (queue : List α) :
    (batch ripe size)^[calls] queue =
      (queue.take (reached ripe size queue calls)).filter (!ripe ·) ++
        queue.drop (reached ripe size queue calls) := by
  induction calls with
  | zero => simp [reached]
  | succ calls ih => rw [Function.iterate_succ_apply', ih, batch_left, reached]

lemma drained_iff (calls : ℕ) :
    (∀ a ∈ (batch ripe size)^[calls] queue, ripe a = false) ↔
      ∀ a ∈ queue.drop (reached ripe size queue calls), ripe a = false := by
  rw [batches_eq]
  constructor
  · intro h a ha
    exact h a (List.mem_append_right _ ha)
  · intro h a ha
    rcases List.mem_append.mp ha with hleft | hrest
    · simpa using (List.mem_filter.mp hleft).2
    · exact h a hrest

lemma stuck_add_le (m n : ℕ) : stuck ripe queue (m + n) ≤ stuck ripe queue m + n := by
  rw [stuck, stuck, List.take_add, List.countP_append]
  have hcount := (List.countP_le_length (p := (!ripe ·)) (l := (queue.drop m).take n)).trans
    (List.length_take_le n (queue.drop m))
  omega

/-- A batch full of what is not ripe is never passed. -/
lemma reached_le {n : ℕ} (h : size ≤ stuck ripe queue n) (calls : ℕ) : reached ripe size queue calls ≤ n := by
  induction calls with
  | zero => exact Nat.zero_le n
  | succ calls ih =>
    have hstuck : stuck ripe queue (reached ripe size queue calls + (n - reached ripe size queue calls)) ≤
        stuck ripe queue (reached ripe size queue calls) + (n - reached ripe size queue calls) := stuck_add_le _ _
    rw [Nat.add_sub_cancel' ih] at hstuck
    rw [reached]
    omega

end Batches

section Waiting

variable {σ ρ : Type*} (rows : σ → Table ρ) (waiting : ρ → Bool) (ripe : σ → ρ → Bool) (settle : ρ → ρ)

def queue (s : σ) : List ℕ := (List.range (rows s).next).filter fun k => ((rows s).get k).any waiting

def ripeKey (s : σ) (k : ℕ) : Bool := ((rows s).get k).any (ripe s)

/-- An attempt at a key settles its row if it waits and is ripe, and nothing else that matters. -/
structure Settles (attempt : σ → ℕ → σ) : Prop where
  rows_attempt : ∀ s k, rows (attempt s k) = (rows s).update k fun r => if waiting r && ripe s r then settle r else r
  ripe_attempt : ∀ s k r, ripe (attempt s k) r = ripe s r
  ripe_settle : ∀ s r, ripe s (settle r) = ripe s r
  waiting_settle : ∀ r, waiting (settle r) = false

variable {rows waiting ripe settle} {attempt : σ → ℕ → σ} {s : σ} {k : ℕ}

lemma mem_queue : k ∈ queue rows waiting s ↔ ∃ r, (rows s).get k = some r ∧ waiting r = true := by
  rw [queue, List.mem_filter, Option.any_eq_true, List.mem_range, and_iff_right_iff_imp]
  rintro ⟨r, hr, -⟩
  exact Table.lt_of_get hr

lemma queue_nodup (s : σ) : (queue rows waiting s).Nodup := List.nodup_range.filter _

lemma ripeKey_attempt (h : Settles rows waiting ripe settle attempt) (s : σ) (j k : ℕ) :
    ripeKey rows ripe (attempt s j) k = ripeKey rows ripe s k := by
  rw [ripeKey, ripeKey, h.rows_attempt, Table.get_update]
  split
  · cases (rows s).get k with
    | none => rfl
    | some r =>
      simp only [Option.map_some, Option.any_some, h.ripe_attempt]
      split
      · exact h.ripe_settle s r
      · rfl
  · cases (rows s).get k with
    | none => rfl
    | some r => exact h.ripe_attempt s j r

lemma queue_attempt (h : Settles rows waiting ripe settle attempt) (s : σ) (j : ℕ) :
    queue rows waiting (attempt s j) =
      (queue rows waiting s).filter fun k => !(decide (k ∈ [j]) && ripeKey rows ripe s k) := by
  rw [queue, queue, List.filter_filter, h.rows_attempt, Table.next_update]
  refine List.filter_congr fun k _ => ?_
  rw [Table.get_update, ripeKey]
  by_cases hk : k = j
  · cases (rows s).get k with
    | none => simp
    | some r => cases hw : waiting r <;> cases hr : ripe s r <;> simp [hk, hw, hr, h.waiting_settle]
  · simp [hk]

lemma attempts_left (h : Settles rows waiting ripe settle attempt) (s : σ) (keys : List ℕ) :
    queue rows waiting (keys.foldl attempt s) =
        (queue rows waiting s).filter (fun k => !(decide (k ∈ keys) && ripeKey rows ripe s k)) ∧
      ∀ k, ripeKey rows ripe (keys.foldl attempt s) k = ripeKey rows ripe s k := by
  induction keys generalizing s with
  | nil => simp
  | cons j keys ih =>
    obtain ⟨hqueue, hripe⟩ := ih (attempt s j)
    refine ⟨?_, fun k => (hripe k).trans (ripeKey_attempt h s j k)⟩
    rw [List.foldl_cons, hqueue, queue_attempt h, List.filter_filter]
    refine List.filter_congr fun k _ => ?_
    rw [ripeKey_attempt h]
    by_cases hk : k = j <;> by_cases hkeys : k ∈ keys <;> cases ripeKey rows ripe s k <;> simp [hk, hkeys]

variable (rows waiting attempt) in
/-- One call: the first so many waiting rows, read before any of them is attempted. -/
def front (size : ℕ) (s : σ) : σ := ((queue rows waiting s).take size).foldl attempt s

lemma filter_take {α : Type*} [DecidableEq α] {p : α → Bool} {size : ℕ} {xs : List α} (h : xs.Nodup) :
    (xs.filter fun x => !(decide (x ∈ xs.take size) && p x)) = batch p size xs := by
  have happart : ∀ x ∈ xs.drop size, x ∉ xs.take size := fun x hx hx' =>
    List.disjoint_take_drop h le_rfl hx' hx
  conv_lhs => rw [← List.take_append_drop size xs, List.filter_append, List.take_append_drop]
  rw [batch]
  congr 1
  · exact List.filter_congr fun x hx => by simp [hx]
  · rw [List.filter_eq_self]
    exact fun x hx => by simp [happart x hx]

lemma queue_front (h : Settles rows waiting ripe settle attempt) (size : ℕ) (s : σ) :
    queue rows waiting (front rows waiting attempt size s) =
        batch (ripeKey rows ripe s) size (queue rows waiting s) ∧
      ∀ k, ripeKey rows ripe (front rows waiting attempt size s) k = ripeKey rows ripe s k := by
  obtain ⟨hqueue, hripe⟩ := attempts_left h s ((queue rows waiting s).take size)
  exact ⟨hqueue.trans (filter_take (queue_nodup s)), hripe⟩

lemma queue_calls (h : Settles rows waiting ripe settle attempt) (size calls : ℕ) (s : σ) :
    queue rows waiting ((front rows waiting attempt size)^[calls] s) =
        (batch (ripeKey rows ripe s) size)^[calls] (queue rows waiting s) ∧
      ∀ k, ripeKey rows ripe ((front rows waiting attempt size)^[calls] s) k = ripeKey rows ripe s k := by
  induction calls with
  | zero => simp
  | succ calls ih =>
    obtain ⟨hqueue, hripe⟩ := queue_front h size ((front rows waiting attempt size)^[calls] s)
    rw [Function.iterate_succ_apply', Function.iterate_succ_apply', hqueue, ih.1]
    exact ⟨by rw [funext ih.2], fun k => (hripe k).trans (ih.2 k)⟩

lemma row_attempts (h : Settles rows waiting ripe settle attempt) {r r' : ρ} (hr : r' = r ∨ r' = settle r)
    (hk : (rows s).get k = some r') (keys : List ℕ) :
    ∃ r'', (rows (keys.foldl attempt s)).get k = some r'' ∧ (r'' = r ∨ r'' = settle r) := by
  induction keys generalizing s r' with
  | nil => exact ⟨r', hk, hr⟩
  | cons j keys ih =>
    have hnext : ∃ r'', (rows (attempt s j)).get k = some r'' ∧ (r'' = r ∨ r'' = settle r) := by
      rw [h.rows_attempt, Table.get_update, hk]
      split
      · refine ⟨_, rfl, ?_⟩
        dsimp only
        rcases hr with rfl | rfl
        · split
          · exact .inr rfl
          · exact .inl rfl
        · rw [h.waiting_settle]
          exact .inr rfl
      · exact ⟨r', rfl, hr⟩
    obtain ⟨r'', hk', hr'⟩ := hnext
    exact ih hr' hk'

lemma row_calls (h : Settles rows waiting ripe settle attempt) {r : ρ} (hk : (rows s).get k = some r)
    (size calls : ℕ) :
    ∃ r', (rows ((front rows waiting attempt size)^[calls] s)).get k = some r' ∧ (r' = r ∨ r' = settle r) := by
  induction calls with
  | zero => exact ⟨r, hk, .inl rfl⟩
  | succ calls ih =>
    obtain ⟨r', hk', hr'⟩ := ih
    rw [Function.iterate_succ_apply']
    exact row_attempts h hr' hk' _

/-- So many calls settle every row that is ripe exactly if they reach past the last of them. -/
lemma settled_iff (h : Settles rows waiting ripe settle attempt) (done : ρ → Prop)
    (hwaiting : ∀ r, waiting r = true → ¬ done r) (hdone : ∀ r, done (settle r)) (size calls : ℕ) (s : σ) :
    (∀ k r, (rows s).get k = some r → waiting r = true → ripe s r = true →
        ∃ r', (rows ((front rows waiting attempt size)^[calls] s)).get k = some r' ∧ done r') ↔
      ∀ k ∈ (queue rows waiting s).drop (reached (ripeKey rows ripe s) size (queue rows waiting s) calls),
        ripeKey rows ripe s k = false := by
  rw [← drained_iff, ← (queue_calls h size calls s).1]
  constructor
  · intro hall k hk
    by_contra hripe
    rw [Bool.not_eq_false, ripeKey, Option.any_eq_true] at hripe
    obtain ⟨r, hr, hripe⟩ := hripe
    obtain ⟨r', hr', hrow⟩ := row_calls h hr size calls
    obtain ⟨r'', hr'', hleft⟩ := mem_queue.mp hk
    obtain rfl : r' = r'' := Option.some.inj (hr'.symm.trans hr'')
    rcases hrow with rfl | rfl
    · obtain ⟨r'', hr'', hfinal⟩ := hall k r' hr hleft hripe
      obtain rfl : r' = r'' := Option.some.inj (hr'.symm.trans hr'')
      exact hwaiting _ hleft hfinal
    · exact Bool.false_ne_true ((h.waiting_settle r).symm.trans hleft)
  · intro hleft k r hr hwait hripe
    obtain ⟨r', hr', hrow⟩ := row_calls h hr size calls
    rcases hrow with rfl | rfl
    · have hkey := hleft k (mem_queue.mpr ⟨r', hr', hwait⟩)
      rw [ripeKey, hr, Option.any_some, hripe] at hkey
      cases hkey
    · exact ⟨_, hr', hdone r⟩

/-- Nothing behind a full batch of rows that are not ripe is ever touched, however many calls are made. -/
lemma starved (h : Settles rows waiting ripe settle attempt) {size n : ℕ} {r : ρ}
    (hstuck : size ≤ stuck (ripeKey rows ripe s) (queue rows waiting s) n) (hk : k ∈ (queue rows waiting s).drop n)
    (hr : (rows s).get k = some r) (calls : ℕ) :
    (rows ((front rows waiting attempt size)^[calls] s)).get k = some r := by
  have hleft : k ∈ queue rows waiting ((front rows waiting attempt size)^[calls] s) := by
    rw [(queue_calls h size calls s).1, batches_eq]
    exact List.mem_append_right _ (List.drop_subset_drop_left _ (reached_le hstuck calls) hk)
  obtain ⟨r', hr', hrow⟩ := row_calls h hr size calls
  obtain ⟨r'', hr'', hwaits⟩ := mem_queue.mp hleft
  obtain rfl : r' = r'' := Option.some.inj (hr'.symm.trans hr'')
  rcases hrow with rfl | rfl
  · exact hr'
  · exact absurd ((h.waiting_settle r).symm.trans hwaits) Bool.false_ne_true

end Waiting

end TrxSimulator.Foundations.Queues
