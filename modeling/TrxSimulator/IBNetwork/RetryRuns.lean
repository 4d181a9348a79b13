import TrxSimulator.IBNetwork.Retries

/-! Whatever generators run beside each other, and whatever happens between their steps: one obligation for a source,
for the introducer of its user, under the rule and of the amount that one of them has read. -/

namespace TrxSimulator.IBNetwork.Retries

open Foundations.Tables Foundations.Decimals Foundations.Outcomes Foundations.Runs Foundations.Sweeps
open Money Accounts Generated Reach
open Accruals hiding step processExecution generatePerLotObligation isActive
open Triggers hiding step opened
open Holds (introducer sourceUser perLot_user percent_user attributed_introducer)
open Resolution
open Links (Network Attribution)

section Generators

variable {s s' : Sources} {kind : Kind} {pk : ℕ} {row x : Row}

section Introducers

/-- The row belongs to the introducer of its source. -/
structure Introduced (s : Sources) (row : Row) : Prop where
  introducer : Holds.introducer s row.kind row.source = some row.referral
  direct : ∀ o, row = .lot o → o.ruleType = .perLot ∧ o.sourceEventType = .perLotExecution

lemma Applied.introduced (h : Applied s row) : Introduced s row := by
  cases row with
  | lot o =>
    obtain ⟨event, account, a, r, rate, hevent, -, -, hattribution, hreferral, -, -, -, htype, hsource, -⟩ := h
    refine ⟨?_, fun o' heq => ?_⟩
    · exact (perLot_user hevent hattribution).trans (congrArg some hreferral)
    · cases heq
      exact ⟨htype, hsource⟩
  | percent o =>
    obtain ⟨basis, a, r, hbasis, hfirst, hreferral, -⟩ := h
    refine ⟨?_, fun o' heq => by cases heq⟩
    exact (attributed_introducer hfirst (percent_user hbasis)).trans (congrArg some hreferral)

lemma introducer_same (h : Same s s') : introducer s' kind pk = introducer s kind pk := by
  have haccount : accountUser s' = accountUser s := by
    funext account
    rw [accountUser, accountUser, h.accounts]
  have huser : sourceUser s' kind pk = sourceUser s kind pk := by
    rcases kind with _ | kind
    · simp only [sourceUser, haccount, h.events]
    · cases kind <;> simp only [sourceUser, haccount, h.enrollments, h.deposits, h.brokerLedger]
  simp only [introducer, huser, h.network]

lemma accountUser_mono {account user : ℕ}
    (h : ∀ i a, s.books.accounts.get i = some a → s'.books.accounts.get i = some a)
    (huser : accountUser s account = some user) : accountUser s' account = some user := by
  obtain ⟨a, ha, hu⟩ := Option.bind_eq_some_iff.mp huser
  exact Option.bind_eq_some_iff.mpr ⟨a, h account a ha, hu⟩

lemma sourceUser_mono {user : ℕ}
    (haccounts : ∀ i a, s.books.accounts.get i = some a → s'.books.accounts.get i = some a)
    (hevents : ∀ i e, s.books.events.get i = some e → s'.books.events.get i = some e)
    (henrollments : ∀ i e, s.enrollments.get i = some e → s'.enrollments.get i = some e)
    (hdeposits : ∀ i d, s.deposits.get i = some d → ∃ d', s'.deposits.get i = some d' ∧ d'.user = d.user)
    (hrows : ∀ i r, s.brokerLedger.get i = some r → s'.brokerLedger.get i = some r)
    (h : sourceUser s kind pk = some user) : sourceUser s' kind pk = some user := by
  rcases kind with _ | _ | _ | _ | _
  · obtain ⟨e, he, hu⟩ := Option.bind_eq_some_iff.mp h
    exact Option.bind_eq_some_iff.mpr ⟨e, hevents pk e he, accountUser_mono haccounts hu⟩
  · obtain ⟨e, he, hu⟩ := Option.bind_eq_some_iff.mp h
    exact Option.bind_eq_some_iff.mpr ⟨e, henrollments pk e he, hu⟩
  · obtain ⟨d, hd, hu⟩ := Option.bind_eq_some_iff.mp h
    obtain ⟨d', hd', huser⟩ := hdeposits pk d hd
    exact Option.bind_eq_some_iff.mpr ⟨d', hd', huser.trans hu⟩
  all_goals
    obtain ⟨row, hrow, hu⟩ := Option.bind_eq_some_iff.mp h
    obtain ⟨account, haccount, hu⟩ := Option.bind_eq_some_iff.mp hu
    refine Option.bind_eq_some_iff.mpr ⟨row, hrows pk row hrow, ?_⟩
    exact Option.bind_eq_some_iff.mpr ⟨account, haccount, accountUser_mono haccounts hu⟩

lemma creditDeposit_user (now : ℤ) (d : Deposit) : (creditDeposit now d).user = d.user := by
  rw [creditDeposit]
  split <;> rfl

/-- Nobody changes hands: an account, an execution or a payment stays its user's, and a user his introducer's. -/
lemma introducer_step {r : ℕ} (hs : Kept s) (act : Act) (h : introducer s kind pk = some r) :
    introducer (Triggers.step s act) kind pk = some r := by
  have hgrows (t : Sources) (huser : ∀ user, sourceUser s kind pk = some user → sourceUser t kind pk = some user)
      (hattributions : t.books.network.attributions = s.books.network.attributions ∨
        ∃ a, t.books.network.attributions = s.books.network.attributions.insert a) :
      introducer t kind pk = some r := by
    obtain ⟨user, hu, h⟩ := Option.bind_eq_some_iff.mp h
    obtain ⟨a, ha, hr⟩ := Option.map_eq_some_iff.mp h
    refine Option.bind_eq_some_iff.mpr ⟨user, huser user hu, Option.map_eq_some_iff.mpr ⟨a, ?_, hr⟩⟩
    obtain heq | ⟨new, heq⟩ := hattributions
    · rw [heq, ha]
    · rw [heq, Table.first_insert, ha, Option.some_or]
  have hsame {i : ℕ} {d : Deposit} (hd : s.deposits.get i = some d) :
      ∃ d', s.deposits.get i = some d' ∧ d'.user = d.user := ⟨d, hd, rfl⟩
  cases act with
  | wait | addRule | changeRule => exact hgrows _ (fun _ hu => hu) (.inl rfl)
  | network action => exact hgrows _ (fun _ hu => hu) (network_attributions _ action)
  | openAccount account =>
    refine hgrows _ (fun _ => ?_) (.inl rfl)
    exact sourceUser_mono (fun _ _ h => Table.get_insert_of_get h _) (fun _ _ h => h) (fun _ _ h => h)
      (fun _ _ h => hsame h) (fun _ _ h => h)
  | execute event =>
    refine hgrows _ (fun _ => ?_) (.inl rfl)
    exact sourceUser_mono (fun _ _ h => h) (fun _ _ h => Table.get_insert_of_get h _) (fun _ _ h => h)
      (fun _ _ h => hsame h) (fun _ _ h => h)
  | enroll enrollment =>
    refine hgrows _ (fun _ => ?_) (.inl rfl)
    exact sourceUser_mono (fun _ _ h => h) (fun _ _ h => h) (fun _ _ h => Table.get_insert_of_get h _)
      (fun _ _ h => hsame h) (fun _ _ h => h)
  | requestDeposit deposit =>
    refine hgrows _ (fun _ => ?_) (.inl rfl)
    exact sourceUser_mono (fun _ _ h => h) (fun _ _ h => h) (fun _ _ h => h)
      (fun _ d h => ⟨d, Table.get_insert_of_get h _, rfl⟩) (fun _ _ h => h)
  | creditDeposit deposit =>
    refine hgrows _ (fun _ => ?_) (.inl rfl)
    refine sourceUser_mono (fun _ _ h => h) (fun _ _ h => h) (fun _ _ h => h) (fun i d h => ?_) (fun _ _ h => h)
    by_cases hi : i = deposit
    · subst hi
      exact ⟨_, Table.get_update_self h _, creditDeposit_user s.now d⟩
    · exact ⟨d, (Table.get_update_ne _ hi _).trans h, rfl⟩
  | bookRevenue row =>
    refine hgrows _ (fun _ => ?_) (.inl rfl)
    exact sourceUser_mono (fun _ _ h => h) (fun _ _ h => h) (fun _ _ h => h)
      (fun _ _ h => hsame h) (fun _ _ h => Table.get_insert_of_get h _)
  | sweep kind' cutoff batchSize =>
    rw [Triggers.step, introducer_same (sweepTriggers_unmoved hs kind' cutoff batchSize).2.1, h]
  | sweepNetwork batchSize reached =>
    rw [Triggers.step, introducer_same (sweepNetwork_settling hs batchSize reached).2, h]

lemma introducer_insertRow (row : Row) : introducer (insertRow s row) kind pk = introducer s kind pk := by
  apply introducer_same
  cases row with
  | lot o =>
    simp only [insertRow, insertLot]
    split <;> exact ⟨rfl, rfl, rfl, rfl, rfl, rfl, rfl, rfl⟩
  | percent o =>
    simp only [insertRow, insertPercent]
    split <;> exact ⟨rfl, rfl, rfl, rfl, rfl, rfl, rfl, rfl⟩

lemma owner_of_introducer {r : ℕ} (h : introducer s .perLot pk = some r) :
    ∃ event, s.books.events.get pk = some event ∧ ownerOf s.books event = some r := by
  obtain ⟨user, hu, h⟩ := Option.bind_eq_some_iff.mp h
  obtain ⟨event, hevent, hu⟩ := Option.bind_eq_some_iff.mp hu
  obtain ⟨a, ha, hr⟩ := Option.map_eq_some_iff.mp h
  obtain ⟨account, haccount, hu⟩ := Option.bind_eq_some_iff.mp hu
  exact ⟨event, hevent, ownerOf_eq_some.mpr ⟨account, user, a.1, a.2, haccount, hu, ha, hr⟩⟩

end Introducers

section Inserts

variable (hs : Kept s) (hrow : Introduced s row) (hstored : ∀ x, Stored s x → Introduced s x)

include hs hrow in
lemma kept_insertLot {o : Obligation} (heq : row = .lot o) : Kept (insertRow s (.lot o)) := by
  subst heq
  rw [insertRow, insertLot]
  split
  · exact hs
  · next hfree =>
    obtain ⟨htype, hsource⟩ := hrow.direct o rfl
    obtain ⟨event, hevent, howner⟩ := owner_of_introducer hrow.introducer
    have hnone : lotCount s.books o.sourceEventId = 0 := by
      rw [lotCount, Table.count_eq_zero_iff]
      intro i x hx
      rw [decide_eq_false_iff_not]
      rintro ⟨hxsource, hxid⟩
      obtain ⟨hxtype, xevent, hxevent, hxowner⟩ := hs.owned i x hx hxsource
      rw [hxid] at hxevent
      obtain rfl := Option.some.inj (hevent.symm.trans hxevent)
      have hreferral : x.referral = o.referral := Option.some.inj (hxowner.symm.trans howner)
      refine hfree (Table.exists?_iff.mpr ⟨i, x, hx, ?_⟩)
      simp [sameKey, hreferral, hxtype, htype, hxsource, hsource, hxid]
    refine ⟨fun i x hx hxsource => ?_, fun kind pk => ?_⟩
    · obtain hold | ⟨-, rfl⟩ := Table.get_insert_some hx
      · exact hs.owned i x hold hxsource
      · exact ⟨htype, event, hevent, howner⟩
    · cases kind with
      | percent kind => exact hs.once (.percent kind) pk
      | perLot =>
        have honce := hs.once .perLot pk
        by_cases hpk : pk = o.sourceEventId
        · subst hpk
          rw [obligationCount, lotCount, Table.count_insert]
          rw [lotCount] at hnone
          split <;> omega
        · rw [obligationCount, lotCount, Table.count_insert, if_neg (by simp [Ne.symm hpk])]
          exact honce

include hs hrow hstored in
lemma kept_insertPercent {o : PercentObligation} (heq : row = .percent o) : Kept (insertRow s (.percent o)) := by
  subst heq
  rw [insertRow, insertPercent]
  split
  · exact hs
  · next hfree =>
    have hnone : percentCount s o.kind o.sourceEventId = 0 := by
      rw [percentCount, Table.count_eq_zero_iff]
      intro i x hx
      rw [decide_eq_false_iff_not]
      rintro ⟨hkind, hid⟩
      have hintroduced := (hstored (.percent x) ⟨i, hx⟩).introducer
      simp only [Row.kind, Row.source, hkind, hid] at hintroduced
      have hreferral : x.referral = o.referral := Option.some.inj (hintroduced.symm.trans hrow.introducer)
      refine hfree (Table.exists?_iff.mpr ⟨i, x, hx, ?_⟩)
      simp [samePercentKey, hreferral, hkind, hid]
    refine ⟨hs.owned, fun kind pk => ?_⟩
    cases kind with
    | perLot => exact hs.once .perLot pk
    | percent kind =>
      have honce := hs.once (.percent kind) pk
      by_cases hkey : kind = o.kind ∧ pk = o.sourceEventId
      · obtain ⟨rfl, rfl⟩ := hkey
        rw [obligationCount, percentCount, Table.count_insert]
        rw [percentCount] at hnone
        split <;> omega
      · rw [obligationCount, percentCount, Table.count_insert, if_neg]
        · exact honce
        · rw [decide_eq_true_iff]
          rintro ⟨rfl, rfl⟩
          exact hkey ⟨rfl, rfl⟩

include hs hrow hstored in
lemma kept_insertRow : Kept (insertRow s row) := by
  cases row with
  | lot o => exact kept_insertLot hs hrow rfl
  | percent o => exact kept_insertPercent hs hrow hstored rfl

end Inserts

end Generators

section Runs

variable {s : Workers} {row : Row}

def Held (s : Workers) (row : Row) : Prop := Stored s.sources row ∨ ∃ d, s.drafts.get d = some (some row)

structure Orderly (s : Workers) : Prop where
  kept : Kept s.sources
  introduced : ∀ row, Held s row → Introduced s.sources row

lemma drop_some {d d' : ℕ} (h : (drop s d).drafts.get d' = some (some row)) : s.drafts.get d' = some (some row) := by
  obtain ⟨row', hrow, heq⟩ := Table.get_update_some h
  split at heq
  · cases heq
  · exact heq ▸ hrow

lemma step_held (hs : Orderly s) (a : Action) (x : Row) (h : Held (step s a) x) : Held s x ∨ Applied s.sources x := by
  cases a with
  | read kind source =>
    rw [step, read] at h
    split at h
    · exact .inl h
    · next row hdraft =>
      obtain hx | ⟨d, hd⟩ := h
      · exact .inl (.inl hx)
      · obtain hold | ⟨-, heq⟩ := Table.get_insert_some hd
        · exact .inl (.inr ⟨d, hold⟩)
        · cases heq
          exact .inr (draft_applied hdraft).2.2
  | look d =>
    rw [step, look] at h
    split at h
    · exact .inl h
    · split at h
      · obtain hx | ⟨d', hd'⟩ := h
        · exact .inl (.inl hx)
        · exact .inl (.inr ⟨d', drop_some hd'⟩)
      · exact .inl h
  | insert d =>
    rw [step, insert] at h
    split at h
    · exact .inl h
    · next row hrow =>
      obtain hx | ⟨d', hd'⟩ := h
      · obtain hold | rfl := stored_insertRow hx
        · exact .inl (.inl hold)
        · exact .inl (.inr ⟨d, Option.join_eq_some_iff.mp hrow⟩)
      · exact .inl (.inr ⟨d', drop_some hd'⟩)
  | sources act =>
    obtain hx | hd := h
    · obtain hold | ⟨kind, pk, hdraft⟩ := stored_step hs.kept act hx
      · exact .inl (.inl hold)
      · exact .inr (draft_applied hdraft).2.2
    · exact .inl (.inr hd)

lemma step_introducer {kind : Kind} {pk r : ℕ} (hs : Orderly s) (a : Action)
    (h : introducer s.sources kind pk = some r) : introducer (step s a).sources kind pk = some r := by
  cases a with
  | read kind source =>
    rw [step, read]
    split <;> exact h
  | look d =>
    rw [step, look]
    split
    · exact h
    · split <;> exact h
  | insert d =>
    rw [step, insert]
    split
    · exact h
    · exact (introducer_insertRow _).trans h
  | sources act => exact introducer_step hs.kept act h

lemma step_orderly (hs : Orderly s) (a : Action) : Orderly (step s a) := by
  refine ⟨?_, fun row hrow => ?_⟩
  · cases a with
    | read kind source =>
      rw [step, read]
      split <;> exact hs.kept
    | look d =>
      rw [step, look]
      split
      · exact hs.kept
      · split <;> exact hs.kept
    | insert d =>
      rw [step, insert]
      split
      · exact hs.kept
      · next row hrow =>
        have hdrafted : Held s row := .inr ⟨d, Option.join_eq_some_iff.mp hrow⟩
        exact kept_insertRow hs.kept (hs.introduced row hdrafted) fun x hx => hs.introduced x (.inl hx)
    | sources act => exact step_kept hs.kept act
  · have hbefore : Introduced s.sources row :=
      (step_held hs a row hrow).elim (hs.introduced row) Applied.introduced
    exact ⟨step_introducer hs a hbefore.introducer, hbefore.direct⟩

variable (now : ℤ) (network : Network) (rules : Table Rule) (percentages : ℕ → Option Percentage)
  (accounts : Table TradingAccount)

def start : Workers := opened (Triggers.opened now network rules percentages accounts)

lemma not_held_start (row : Row) : ¬ Held (start now network rules percentages accounts) row := by
  rintro (hstored | ⟨d, hd⟩)
  · cases row with
    | lot o =>
      obtain ⟨-, i, hi⟩ := hstored
      cases hi
    | percent o =>
      obtain ⟨i, hi⟩ := hstored
      cases hi
  · cases hd

lemma start_orderly : Orderly (start now network rules percentages accounts) :=
  ⟨opened_kept now network rules percentages accounts, fun row hrow => (not_held_start _ _ _ _ _ row hrow).elim⟩

variable (acts : List Action)

/-- The rule of a commission is the one that is in force, the introducer's own before everybody's; and however often
and with whatever beside it a generator runs, its source gets one obligation at most, of the amount that rule gave when
it was read, for an introducer who was active then. -/
theorem commissions_once :
    (∀ (b : Books) (referral : ℕ) (ruleType : RuleType) (atTime : ℤ) (x : Except AccrualError (Option (ℕ × Rule))),
      resolveApplicableRule b referral ruleType atTime = x ↔ Decided b referral ruleType atTime x) ∧
    (∀ kind pk, obligationCount (run step (start now network rules percentages accounts) acts).sources kind pk ≤ 1) ∧
    (∀ row, Stored (run step (start now network rules percentages accounts) acts).sources row →
      ∃ before after, acts = before ++ after ∧
        Applied (run step (start now network rules percentages accounts) before).sources row) ∧
    ∀ referral, (∀ before after, acts = before ++ after →
        Accruals.isActive (run step (start now network rules percentages accounts) before).sources.books referral =
          false) →
      ∀ row, Stored (run step (start now network rules percentages accounts) acts).sources row →
        row.referral ≠ referral := by
  have hstart := start_orderly now network rules percentages accounts
  have hinv := fun s a (hs : Orderly s) => step_orderly hs a
  have htraced (row : Row) (h : Stored (run step (start now network rules percentages accounts) acts).sources row) :
      ∃ before after, acts = before ++ after ∧
        Applied (run step (start now network rules percentages accounts) before).sources row :=
    (run_traced (P := Held) (Q := fun s row => Applied s.sources row) hinv (fun s a x hs => step_held hs a x) hstart
      (.inl h)).resolve_left (not_held_start now network rules percentages accounts row)
  refine ⟨fun b referral ruleType atTime x => resolve_eq_iff, ?_, htraced, fun referral hfrozen row hrow => ?_⟩
  · exact (run_invariant hinv hstart acts).kept.once
  · obtain ⟨before, after, heq, happlied⟩ := htraced row hrow
    rintro rfl
    have hactive : Accruals.isActive (run step (start now network rules percentages accounts) before).sources.books
        row.referral = true := by
      cases row with
      | lot o =>
        obtain ⟨-, -, -, -, -, -, -, -, -, -, hactive, -⟩ := happlied
        exact hactive
      | percent o =>
        obtain ⟨-, -, -, -, -, -, hactive, -⟩ := happlied
        exact hactive
    rw [hfrozen before after heq] at hactive
    cases hactive

end Runs

end TrxSimulator.IBNetwork.Retries
