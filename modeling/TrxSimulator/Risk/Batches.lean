import TrxSimulator.Risk.Sweeps

/-! What a step may do to accounts and positions, and what holds of the work that scans and connections have begun. -/

namespace TrxSimulator.Risk.Batches

open Foundations.Tables Foundations.Outcomes Foundations.Decimals
open Challenges.Evaluation Challenges.Drawdown Market.Symbols Market.Pnl
open Trading.Writers (TradeError)
open Trading.Levels (Row Merge closeRow mergeRow editRow)
open Liquidation Sweeps

/-- The account keeps its engine, and one of the margin engine its status. -/
def Steady (_ : ℕ) (a a' : ChallengeAccount) : Prop :=
  a'.accountType = a.accountType ∧ (marginEngine a.accountType = true → a'.status = a.status)

/-- A row that is gone stays gone, and no row changes its account. -/
def Persists (t t' : Table (Option Row)) : Prop :=
  ∀ i p, t.get i = some p → ∃ p', t'.get i = some p' ∧ ∀ row' ∈ p', ∃ row ∈ p, row'.account = row.account

def Stocked (t : Table (Option Row)) : Prop := ∀ i row, t.get i = some (some row) → (getSpec row.symbol).isSome

structure Frame (b b' : Book) : Prop where
  accounts : Table.Related Steady b.desk.accounts b'.desk.accounts
  positions : Persists b.positions b'.positions
  stocked : Stocked b.positions → Stocked b'.positions
  panels : b'.panels = b.panels
  sweeps : b'.sweeps = b.sweeps

def Known (b : Book) (account position : ℕ) : Prop :=
  ∃ p, b.positions.get position = some p ∧ ∀ row ∈ p, row.account = account

/-- Only an account of a drawdown engine is to be suspended, and a position of a connection's batch that is neither
to be closed nor failed is gone. -/
structure WorkOk (b : Book) (work : Batch) : Prop where
  drawdown : work.suspends = true → ∀ a, b.desk.accounts.get work.account = some a →
    marginEngine a.accountType = false
  known : ∀ job ∈ work.jobs, Known b work.account job.position
  handled : work.live = true → ∀ i ∈ work.positions,
    i ∈ work.jobs.map Job.position ∨ i ∈ work.failed ∨ b.positions.get i = some none

structure PanelOk (b : Book) (p : Panel) : Prop where
  engine : ∀ a, b.desk.accounts.get p.account = some a → a.accountType = p.memory.accountType
  known : ∀ q ∈ p.positions, Known b p.account q.1

structure Sound (b : Book) : Prop where
  stocked : Stocked b.positions
  panels : ∀ j p, b.panels.get j = some p → PanelOk b p
  sweeps : ∀ j works, b.sweeps.get j = some works → ∀ work ∈ works, WorkOk b work

section Frames

variable {r : Arithmetic} {b b' : Book} {s t : Desk} {k : ℕ} {a : ChallengeAccount}

lemma steady_refl (t : Table ChallengeAccount) : Table.Related Steady t t :=
  Table.related_refl fun _ _ _ => ⟨rfl, fun _ => rfl⟩

lemma steady_trans {t u v : Table ChallengeAccount} (h : Table.Related Steady t u) (h' : Table.Related Steady u v) :
    Table.Related Steady t v :=
  h.trans h' fun _ _ _ _ hab hbc => ⟨hbc.1.trans hab.1, fun hm => (hbc.2 (by rwa [hab.1])).trans (hab.2 hm)⟩

lemma steady_update {t : Table ChallengeAccount} {f : ChallengeAccount → ChallengeAccount}
    (h : ∀ a, t.get k = some a → Steady k a (f a)) : Table.Related Steady t (t.update k f) :=
  Table.related_update (fun _ _ _ => ⟨rfl, fun _ => rfl⟩) h

lemma steady_drawdown {t : Table ChallengeAccount} {f : ChallengeAccount → ChallengeAccount}
    (htype : ∀ a, (f a).accountType = a.accountType)
    (h : ∀ a, t.get k = some a → marginEngine a.accountType = false) : Table.Related Steady t (t.update k f) :=
  steady_update fun a ha => ⟨htype a, fun hm => absurd hm (by rw [h a ha]; exact Bool.false_ne_true)⟩

lemma persists_refl (t : Table (Option Row)) : Persists t t := fun _ p hp => ⟨p, hp, fun row hrow => ⟨row, hrow, rfl⟩⟩

lemma frame_refl (b : Book) : Frame b b := ⟨steady_refl _, persists_refl _, id, rfl, rfl⟩

lemma riskRule_accounts {rule : RiskRule} (h : getOrCreateRiskRule s k a = .ok (t, rule)) :
    t.accounts = s.accounts := by
  rw [getOrCreateRiskRule] at h
  split at h
  · rw [Except.ok.injEq, Prod.mk.injEq] at h
    rw [h.1]
  · simp only [bind_eq_ok, pure_eq_ok, Prod.mk.injEq] at h
    obtain ⟨_, -, _, -, rfl, -⟩ := h
    rfl

lemma violations_margin {rule : RiskRule} (h : marginEngine a.accountType = true) : violations s k a rule = [] := by
  simp [violations, h]

lemma enforce_steady {found : List TradingViolation} (h : checkAndEnforceRisk s k a = .ok (t, found))
    (htype : ∀ a₀, s.accounts.get k = some a₀ → a₀.accountType = a.accountType) :
    Table.Related Steady s.accounts t.accounts := by
  simp only [checkAndEnforceRisk, bind_eq_ok, Prod.exists] at h
  obtain ⟨u, rule, hrule, h⟩ := h
  have haccounts := riskRule_accounts hrule
  have hpeak : Table.Related Steady s.accounts
      (u.accounts.update k fun a => { a with peakBalance := raisedPeak a.toTradingAccount }) := by
    rw [haccounts]
    exact steady_update fun _ _ => ⟨rfl, fun _ => rfl⟩
  split at h
  · simp only [pure_eq_ok, Prod.mk.injEq] at h
    rw [← h.1]
    exact hpeak
  · next hfound =>
    simp only [pure_eq_ok, Prod.mk.injEq] at h
    rw [← h.1]
    refine steady_trans hpeak (steady_drawdown (fun _ => rfl) fun a₁ ha₁ => ?_)
    obtain ⟨a₀, ha₀, hsame⟩ := Table.Related.back hpeak ha₁
    rw [hsame.1, htype a₀ ha₀, ← Bool.not_eq_true]
    intro hmargin
    exact hfound (by rw [violations_margin hmargin]; rfl)

lemma realize_steady {pnl : ℚ} {a' : ChallengeAccount} (h : realize s k a pnl = .ok (t, a')) :
    Table.Related Steady s.accounts t.accounts ∧ a'.accountType = a.accountType := by
  simp only [realize, bind_eq_ok, pure_eq_ok, Prod.mk.injEq] at h
  obtain ⟨_, -, _, -, _, -, rfl, rfl⟩ := h
  exact ⟨steady_update fun _ _ => ⟨rfl, fun _ => rfl⟩, rfl⟩

lemma closeRow_row {p row : Row} {closeQty : Option ℚ} (h : closeRow p closeQty = .ok (some row)) :
    row.account = p.account ∧ row.symbol = p.symbol := by
  rw [closeRow] at h
  split at h
  · cases h
    exact ⟨rfl, rfl⟩
  · split at h
    · cases h
    · simp only [bind_eq_ok, pure_eq_ok, Option.some.injEq] at h
      obtain ⟨_, -, rfl⟩ := h
      exact ⟨rfl, rfl⟩

lemma lockedRow_some {i : ℕ} {p : Row} (h : lockedRow b k i = some p) :
    b.positions.get i = some (some p) ∧ p.account = k := by
  rw [lockedRow, Option.filter_eq_some_iff, Option.bind_eq_some_iff] at h
  obtain ⟨⟨_, hget, rfl⟩, haccount⟩ := h
  exact ⟨hget, by simpa using haccount⟩

lemma persists_update {t : Table (Option Row)} {i : ℕ} {p : Row} {row : Option Row} (hrow : t.get i = some (some p))
    (hsame : ∀ row' ∈ row, row'.account = p.account) : Persists t (t.update i fun _ => row) := by
  intro j old hold
  by_cases hij : j = i
  · subst hij
    rw [hrow, Option.some.injEq] at hold
    subst hold
    exact ⟨row, Table.get_update_self hrow _, fun row' hrow' => ⟨p, rfl, hsame row' hrow'⟩⟩
  · exact ⟨old, (Table.get_update_ne t hij _).trans hold, fun row' hrow' => ⟨row', hrow', rfl⟩⟩

lemma stocked_update {t : Table (Option Row)} {i : ℕ} {p : Row} {row : Option Row} (hrow : t.get i = some (some p))
    (hsame : ∀ row' ∈ row, row'.symbol = p.symbol) (h : Stocked t) : Stocked (t.update i fun _ => row) := by
  intro j row' hrow'
  obtain ⟨old, hold, hnew⟩ := Table.get_update_some hrow'
  split at hnew
  · rw [hsame row' hnew.symm]
    exact h i p hrow
  · exact h j row' (hnew ▸ hold)

lemma closePosition_frame {i : ℕ} {mem : Row} {closeQty : Option ℚ} {closePx : ℚ} {result : CloseResult}
    (h : closePosition r b k i mem closeQty closePx = .ok (b', result)) :
    Frame b b' ∧ (result = .alreadyClosed → lockedRow b k i = none) ∧
      (∀ status, result = .closed status → closeQty = none → b'.positions.get i = some none) := by
  rw [closePosition] at h
  split at h
  · next hnone =>
    rw [Except.ok.injEq, Prod.mk.injEq] at h
    obtain ⟨rfl, rfl⟩ := h
    exact ⟨frame_refl b, fun _ => hnone, fun _ hclosed => (nomatch hclosed)⟩
  · next p hlocked =>
    obtain ⟨hrow, haccount⟩ := lockedRow_some hlocked
    dsimp only at h
    split at h
    · rw [Except.ok.injEq, Prod.mk.injEq] at h
      obtain ⟨rfl, rfl⟩ := h
      exact ⟨frame_refl b, fun hclosed => (nomatch hclosed), fun _ hclosed => (nomatch hclosed)⟩
    · next hbounds =>
      split at h
      · rw [Except.ok.injEq, Prod.mk.injEq] at h
        obtain ⟨rfl, rfl⟩ := h
        exact ⟨frame_refl b, fun hclosed => (nomatch hclosed), fun _ hclosed => (nomatch hclosed)⟩
      · simp only [bind_eq_ok, pure_eq_ok, mapError_eq_ok, require_eq_ok, Prod.exists, Prod.mk.injEq] at h
        obtain ⟨a, ha, desk, a', hrealize, row, hclose, desk', found, hrisk, rfl, rfl⟩ := h
        obtain ⟨hsteady, htype⟩ := realize_steady hrealize
        have henforced := enforce_steady hrisk fun a₀ ha₀ => by
          obtain ⟨a₁, ha₁, hsame⟩ := Table.Related.back hsteady ha₀
          rw [ha, Option.some.injEq] at ha₁
          rw [hsame.1, ← ha₁, htype]
        refine ⟨⟨steady_trans hsteady henforced, persists_update hrow fun row' hrow' => ?_,
          stocked_update hrow fun row' hrow' => ?_, rfl, rfl⟩, fun hclosed => (nomatch hclosed), fun _ _ hfull => ?_⟩
        · rw [hrow'] at hclose
          exact (closeRow_row hclose).1
        · rw [hrow'] at hclose
          exact (closeRow_row hclose).2
        · subst hfull
          rw [closeRow, Option.getD_none] at hclose
          rw [Option.getD_none] at hbounds
          rw [if_neg hbounds, if_pos rfl, Except.ok.injEq] at hclose
          subst hclose
          exact Table.get_update_self hrow _

lemma openPosition_frame (row : Row) : Frame b (openPosition b row) := by
  rw [openPosition]
  split
  · exact frame_refl b
  · split
    · next hopen =>
      refine ⟨steady_refl _, fun i p hp => ⟨p, Table.get_insert_of_get hp _, fun row hrow => ⟨row, hrow, rfl⟩⟩,
        fun h i row' hrow' => ?_, rfl, rfl⟩
      obtain hold | ⟨-, hnew⟩ := Table.get_insert_some hrow'
      · exact h i row' hold
      · have hlot := hopen.2
        rw [Trading.Executions.lotSizeOk] at hlot
        rw [Option.some.inj hnew]
        split at hlot
        · cases hlot
        · next hspec =>
          rw [hspec]
          rfl
    · exact frame_refl b

lemma saveRow_frame {i : ℕ} {f : Row → Except TradeError Row}
    (h : ∀ p row, f p = .ok row → row.account = p.account ∧ row.symbol = p.symbol) : Frame b (saveRow b i f) := by
  rw [saveRow]
  split
  · exact frame_refl b
  · next p hp =>
    obtain ⟨_, hrow, rfl⟩ := Option.bind_eq_some_iff.mp hp
    refine commit_rule b _ (frame_refl b) fun s' hs' => ?_
    obtain ⟨row, hf, rfl⟩ := map_eq_ok.mp hs'
    obtain ⟨haccount, hsymbol⟩ := h p row hf
    refine ⟨steady_refl _, persists_update hrow fun row' hrow' => ?_, stocked_update hrow fun row' hrow' => ?_, rfl, rfl⟩
    · rw [← Option.some.inj hrow', haccount]
    · rw [← Option.some.inj hrow', hsymbol]

lemma mergeRow_row {p row : Row} {m : Merge} (h : mergeRow p m = .ok row) :
    row.account = p.account ∧ row.symbol = p.symbol := by
  rw [mergeRow, guard_eq_ok] at h
  simp only [bind_eq_ok, pure_eq_ok] at h
  obtain ⟨-, _, -, _, -, _, -, _, -, rfl⟩ := h
  exact ⟨rfl, rfl⟩

lemma editRow_row {p row : Row} {sl tp : Option ℚ} (h : editRow p sl tp = .ok row) :
    row.account = p.account ∧ row.symbol = p.symbol := by
  simp only [editRow, bind_eq_ok, pure_eq_ok] at h
  obtain ⟨_, -, _, -, rfl⟩ := h
  exact ⟨rfl, rfl⟩

lemma hard_margin {rule : RiskRule} {lotSize : ℚ} {openPositionsCount : ℕ} {symbol : String}
    (h : marginEngine a.accountType = true) :
    (lotErrors a rule lotSize symbol ++ positionsErrors rule openPositionsCount ++ dailyLossErrors s k a rule ++
      drawdownErrors a rule).any OrderError.hard = false := by
  have hlot : (lotErrors a rule lotSize symbol).any OrderError.hard = false := by
    rw [lotErrors, if_pos h]
    split <;> rfl
  have hpositions : (positionsErrors rule openPositionsCount).any OrderError.hard = false := by
    rw [positionsErrors]
    split <;> rfl
  have hloss : (dailyLossErrors s k a rule).any OrderError.hard = false := by
    rw [dailyLossErrors, if_pos h]
    split <;> rfl
  have hdrawdown : (drawdownErrors a rule).any OrderError.hard = false := by
    rw [drawdownErrors, if_pos h]
    split <;> rfl
  rw [List.any_append, List.any_append, List.any_append, hlot, hpositions, hloss, hdrawdown]
  rfl

lemma validate_steady {lotSize : ℚ} {openPositionsCount : ℕ} {symbol : String} {errors : List OrderError}
    (ha : s.accounts.get k = some a)
    (h : validateOrderRisk s k a lotSize openPositionsCount symbol = .ok (t, errors)) :
    Table.Related Steady s.accounts t.accounts := by
  rw [validateOrderRisk] at h
  split at h
  · rw [Except.ok.injEq, Prod.mk.injEq] at h
    rw [← h.1]
    exact steady_refl _
  · simp only [bind_eq_ok, Prod.exists] at h
    obtain ⟨u, rule, hrule, h⟩ := h
    have haccounts := riskRule_accounts hrule
    split at h
    · next hhard =>
      simp only [pure_eq_ok, Prod.mk.injEq] at h
      rw [← h.1, ← haccounts]
      refine steady_drawdown (fun _ => rfl) fun a₀ ha₀ => ?_
      rw [haccounts, ha, Option.some.injEq] at ha₀
      rw [← ha₀, ← Bool.not_eq_true]
      intro hmargin
      rw [hard_margin hmargin] at hhard
      cases hhard
    · simp only [pure_eq_ok, Prod.mk.injEq] at h
      rw [← h.1, haccounts]
      exact steady_refl _

lemma validateOrder_frame (lotSize : ℚ) (openPositionsCount : ℕ) (symbol : String) :
    Frame b (validateOrder b k lotSize openPositionsCount symbol) := by
  rw [validateOrder]
  split
  · exact frame_refl b
  · next a ha =>
    refine commit_rule b _ (frame_refl b) fun s' hs' => ?_
    obtain ⟨⟨desk, errors⟩, hvalidate, rfl⟩ := map_eq_ok.mp hs'
    exact ⟨validate_steady ha hvalidate, persists_refl _, id, rfl, rfl⟩

lemma setStatus_frame {status : AccountStatus}
    (h : ∀ a, b.desk.accounts.get k = some a → marginEngine a.accountType = false) : Frame b (setStatus b k status) :=
  ⟨steady_drawdown (fun _ => rfl) h, persists_refl _, id, rfl, rfl⟩

lemma finish_frame {work : Batch} (h : WorkOk b work) (fails : Bool) : Frame b (finish b work fails) := by
  rw [finish]
  split
  · exact frame_refl b
  · next hsuspends =>
    rw [not_or, Bool.not_eq_false] at hsuspends
    split
    · split
      · exact setStatus_frame (h.drawdown hsuspends.1)
      · exact frame_refl b
    · split
      · exact frame_refl b
      · exact setStatus_frame (h.drawdown hsuspends.1)

end Frames

section Invariant

variable {r : Arithmetic} {b b' : Book} {k : ℕ}

lemma known_frame {i : ℕ} (h : Frame b b') (hk : Known b k i) : Known b' k i := by
  obtain ⟨p, hp, haccount⟩ := hk
  obtain ⟨p', hp', hsame⟩ := h.positions i p hp
  refine ⟨p', hp', fun row' hrow' => ?_⟩
  obtain ⟨row, hrow, heq⟩ := hsame row' hrow'
  rw [heq, haccount row hrow]

lemma gone_frame {i : ℕ} (h : Frame b b') (hgone : b.positions.get i = some none) :
    b'.positions.get i = some none := by
  obtain ⟨p', hp', hsame⟩ := h.positions i none hgone
  cases p' with
  | none => exact hp'
  | some row' =>
    obtain ⟨row, hrow, -⟩ := hsame row' rfl
    cases hrow

lemma engine_frame {p : Accounts.AccountType → Prop} (h : Frame b b')
    (hp : ∀ a, b.desk.accounts.get k = some a → p a.accountType) (a' : ChallengeAccount)
    (ha' : b'.desk.accounts.get k = some a') : p a'.accountType := by
  obtain ⟨a, ha, hsame⟩ := Table.Related.back h.accounts ha'
  rw [hsame.1]
  exact hp a ha

lemma workOk_frame {work : Batch} (h : Frame b b') (hw : WorkOk b work) : WorkOk b' work := by
  refine ⟨fun hs => ?_, fun job hjob => known_frame h (hw.known job hjob), fun hlive i hi => ?_⟩
  · exact engine_frame (p := fun t => marginEngine t = false) h (hw.drawdown hs)
  · exact (hw.handled hlive i hi).imp_right (Or.imp_right (gone_frame h))

lemma panelOk_frame {panel : Panel} (h : Frame b b') (hp : PanelOk b panel) : PanelOk b' panel :=
  ⟨engine_frame (p := fun t => t = panel.memory.accountType) h hp.engine,
    fun q hq => known_frame h (hp.known q hq)⟩

lemma sound_frame (h : Frame b b') (hs : Sound b) : Sound b' := by
  refine ⟨h.stocked hs.stocked, fun j p hp => ?_, fun j works hworks work hwork => ?_⟩
  · rw [h.panels] at hp
    exact panelOk_frame h (hs.panels j p hp)
  · rw [h.sweeps] at hworks
    exact workOk_frame h (hs.sweeps j works hworks work hwork)

lemma sound_setSweep {j : ℕ} {rest : List Batch} (hs : Sound b) (h : ∀ work ∈ rest, WorkOk b work) :
    Sound (setSweep b j rest) := by
  refine ⟨hs.stocked, fun i p hp => ?_, fun i works hworks work hwork => ?_⟩
  · exact ⟨(hs.panels i p hp).engine, (hs.panels i p hp).known⟩
  · have hok : WorkOk b work := by
      obtain ⟨old, hold, hnew⟩ := Table.get_update_some hworks
      split at hnew
      · exact h work (hnew ▸ hwork)
      · exact hs.sweeps i old hold work (hnew ▸ hwork)
    exact ⟨hok.drawdown, hok.known, hok.handled⟩

lemma sound_insert {works : List Batch} (hs : Sound b) (h : ∀ work ∈ works, WorkOk b work) :
    Sound { b with sweeps := b.sweeps.insert works } := by
  refine ⟨hs.stocked, fun i p hp => ?_, fun i works' hworks' work hwork => ?_⟩
  · exact ⟨(hs.panels i p hp).engine, (hs.panels i p hp).known⟩
  · have hok : WorkOk b work := by
      obtain hold | ⟨-, hnew⟩ := Table.get_insert_some hworks'
      · exact hs.sweeps i works' hold work hwork
      · exact h work (hnew ▸ hwork)
    exact ⟨hok.drawdown, hok.known, hok.handled⟩

lemma workOk_rest {work : Batch} {job : Job} {jobs : List Job} {failed : List ℕ}
    (lastStatus : Option AccountStatus) (hjobs : work.jobs = job :: jobs) (hw : WorkOk b work) (h : Frame b b')
    (hfailed : work.failed ⊆ failed)
    (hjob : job.position ∈ failed ∨ b'.positions.get job.position = some none) :
    WorkOk b' { work with jobs, failed, lastStatus } := by
  have hok := workOk_frame h hw
  refine ⟨hok.drawdown, fun j hj => hok.known j (hjobs ▸ List.mem_cons_of_mem _ hj), fun hlive i hi => ?_⟩
  rcases hok.handled hlive i hi with hlater | hdone | hgone
  · rw [hjobs, List.map_cons, List.mem_cons] at hlater
    rcases hlater with rfl | hlater
    · exact Or.inr hjob
    · exact Or.inl hlater
  · exact Or.inr (Or.inl (hfailed hdone))
  · exact Or.inr (Or.inr hgone)

lemma gone_of_unlocked {i : ℕ} (h : lockedRow b k i = none) (hk : Known b k i) : b.positions.get i = some none := by
  obtain ⟨p, hp, haccount⟩ := hk
  cases p with
  | none => exact hp
  | some row =>
    rw [lockedRow, hp, Option.bind_some, id, Option.filter_eq_none_iff] at h
    exact absurd (haccount row rfl) (by simpa using h row rfl)

lemma attempt_sound {work work' : Batch} {job : Job} {jobs : List Job} {fails : Bool}
    (hjobs : work.jobs = job :: jobs) (hw : WorkOk b work)
    (h : attempt r b { work with jobs } job fails = some (b', work')) : Frame b b' ∧ WorkOk b' work' := by
  have hknown := hw.known job (hjobs ▸ List.mem_cons_self)
  have hfailed : WorkOk b { work with jobs, failed := work.failed ++ [job.position] } :=
    workOk_rest work.lastStatus hjobs hw (frame_refl b) (List.subset_append_left _ _)
      (Or.inl (List.mem_append_right _ List.mem_cons_self))
  rw [attempt] at h
  split at h
  · cases h
    exact ⟨frame_refl b, hfailed⟩
  · split at h
    · cases h
      exact ⟨frame_refl b, hfailed⟩
    · cases h
    · next hclose =>
      cases h
      obtain ⟨hframe, hunlocked, -⟩ := closePosition_frame hclose
      have hgone := gone_frame hframe (gone_of_unlocked (hunlocked rfl) hknown)
      have hrest := workOk_rest work.lastStatus hjobs hw hframe (List.Subset.refl _) (Or.inr hgone)
      exact ⟨hframe, hrest⟩
    · next status hclose =>
      cases h
      obtain ⟨hframe, -, hfull⟩ := closePosition_frame hclose
      have hrest := workOk_rest (some status) hjobs hw hframe (List.Subset.refl _) (Or.inr (hfull status rfl rfl))
      exact ⟨hframe, hrest⟩

lemma next_sound (hs : Sound b) (sweep : ℕ) (fails : Bool) :
    Sound (next r b sweep fails) ∧ Table.Related Steady b.desk.accounts (next r b sweep fails).desk.accounts := by
  rw [next]
  split
  · next work rest hsweep =>
    have hall := hs.sweeps sweep (work :: rest) hsweep
    have hwork := hall work List.mem_cons_self
    have hrest : ∀ later ∈ rest, WorkOk b later := fun later hlater => hall later (List.mem_cons_of_mem _ hlater)
    split
    · have hframe := finish_frame hwork fails
      exact ⟨sound_setSweep (sound_frame hframe hs) fun later hlater => workOk_frame hframe (hrest later hlater),
        hframe.accounts⟩
    · next job jobs hjobs =>
      split
      · exact ⟨sound_setSweep hs fun later hlater => (nomatch hlater), steady_refl _⟩
      · next b' work' hattempt =>
        obtain ⟨hframe, hwork'⟩ := attempt_sound hjobs hwork hattempt
        refine ⟨sound_setSweep (sound_frame hframe hs) fun later hlater => ?_, hframe.accounts⟩
        rcases List.mem_cons.mp hlater with rfl | hlater
        · exact hwork'
        · exact workOk_frame hframe (hrest later hlater)
  · exact ⟨hs, steady_refl _⟩

end Invariant

end TrxSimulator.Risk.Batches
