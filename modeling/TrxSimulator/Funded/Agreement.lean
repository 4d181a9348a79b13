import TrxSimulator.Funded.Links

/-! A funded request and its withdrawal end together, and neither end is taken back, as long as no event
has settled the request before the second update of its approval. -/

namespace TrxSimulator.Funded.Agreement

open Foundations.Runs Foundations.Tables Foundations.Outcomes Foundations.Decimals Money Accounts
open Wallets.Ledger Payouts.Records Payouts.StateMachine Payouts.Orchestrator Funded.Payouts Payouts.Machine
open Payouts.Effects Payouts.Safety Links

def inProgress (f : FundedStatus) (w : WithdrawalStatus) : Prop :=
  (f = .approved ∨ f = .processing) ∧ (w = .approved ∨ w = .processing)

def Agreed (f : FundedStatus) (w : WithdrawalStatus) : Prop :=
  (f = .completed ∧ w = .completed) ∨ (f = .failed ∧ w = .failed) ∨ inProgress f w

def Settled (f : FundedStatus) : Prop := f = .completed ∨ f = .failed

lemma compatible_agreed : Compatible Agreed where
  approved := Or.inr (Or.inr ⟨Or.inl rfl, Or.inl rfl⟩)
  recorded := Or.inr (Or.inr ⟨Or.inl rfl, Or.inr rfl⟩)
  completed := Or.inl ⟨rfl, rfl⟩
  failed := Or.inr (Or.inl ⟨rfl, rfl⟩)
  running f w h hw := by
    rcases h with ⟨-, rfl⟩ | ⟨-, rfl⟩ | ⟨rfl | rfl, -⟩
    · cases hw
    · cases hw
    · rfl
    · rfl
  marked f w h hf := by
    rcases h with ⟨rfl, -⟩ | ⟨rfl, -⟩ | ⟨hprogress, -⟩
    · cases hf
    · cases hf
    · exact Or.inr (Or.inr ⟨hprogress, Or.inr rfl⟩)

lemma agreed_processing {f : FundedStatus} {w : WithdrawalStatus} (h : Agreed f w) (hf : f.terminal = false) :
    Agreed .processing w := by
  rcases h with ⟨rfl, -⟩ | ⟨rfl, -⟩ | ⟨-, hw⟩
  · cases hf
  · cases hf
  · exact Or.inr (Or.inr ⟨Or.inr rfl, hw⟩)

def Unsettled (s : Platform) : Action → Prop
  | .recordRequest i => ∀ x ∈ s.internals.get i, x.stage.isRecorded = true →
      ∀ f ∈ s.fundedPayouts.get x.request,
        f.status.terminal = false ∨ otherActive s f.enrollment x.request = true
  | _ => True

instance decidableUnsettled (s : Platform) : ∀ a, Decidable (Unsettled s a)
  | .recordRequest i => inferInstanceAs (Decidable (∀ x ∈ s.internals.get i, _ → ∀ _ ∈ _, _ ∨ _))
  | .previewWithdrawal _ _ | .claimSubmission _ _ | .finishSubmission _ _ | .receiveEvent _ _ _ _
  | .resolveEvent _ | .processWebhookEvent _ | .scanAttempt _ _ | .finishReconciliation _ _
  | .approveSimPayout _ _ | .approveInternalPayout _ _ | .submitInternal _ _ | .recordWithdrawal _
  | .readFundedPayout _ _ _ | .createFundedPayout _ | .trade _ _ | .credit _ _ _ _ | .debit _ _ _ _
  | .openWallet _ | .wait _ => inferInstanceAs (Decidable True)

variable {p : Action → Prop} {s s' : Platform}

lemma unsettled_request {i : ℕ} {x : Internal} {f : FundedPayoutRequest} {batchId payoutId : String}
    (h : Unsettled s (.recordRequest i)) (hx : s.internals.get i = some x)
    (hstage : x.stage = .recorded batchId payoutId) (hf : s.fundedPayouts.get x.request = some f)
    (hsingle : otherActive s f.enrollment x.request = false) : f.status.terminal = false := by
  rcases h x hx (by rw [hstage]; rfl) f hf with hactive | hother
  · exact hactive
  · rw [hsingle] at hother
    cases hother

lemma settled_terminal {f : FundedStatus} (h : Settled f) : f.terminal = true := by
  rcases h with rfl | rfl <;> rfl

lemma kept_of_update {r r' : ℕ} {f g : FundedPayoutRequest} {F : FundedPayoutRequest → FundedPayoutRequest}
    (hg : s.fundedPayouts.get r' = some g) (hf : s.fundedPayouts.get r = some f)
    (hopen : Settled f.status → (F f).status = f.status) (hsettled : Settled g.status) :
    ∃ g', (s.fundedPayouts.update r F).get r' = some g' ∧ g'.status = g.status := by
  by_cases hr : r' = r
  · subst hr
    obtain rfl : f = g := Option.some.inj (hf.symm.trans hg)
    exact ⟨F f, Table.get_update_self hf F, hopen hsettled⟩
  · exact ⟨g, (Table.get_update_ne _ hr F).trans hg, rfl⟩

lemma settled_effect (h : Linked Agreed s) (e : Effect p s s')
    (hp : ∀ i, p (.recordRequest i) → Unsettled s (.recordRequest i))
    {r : ℕ} {g : FundedPayoutRequest} (hg : s.fundedPayouts.get r = some g) (hsettled : Settled g.status) :
    ∃ g', s'.fundedPayouts.get r = some g' ∧ g'.status = g.status := by
  have hopen : ∀ {f : FundedPayoutRequest} {st : FundedStatus}, f.status.terminal = false →
      Settled f.status → st = f.status := by
    intro f st hactive hs
    rw [settled_terminal hs] at hactive
    cases hactive
  cases e with
  | fundedCompleted w r₀ wr f account event revenue handlers called active owner advances =>
    exact kept_of_update hg called.request (hopen active) hsettled
  | fundedFailed w r₀ wr f account restored event entries handlers called active owner amount advances =>
    exact kept_of_update hg called.request (hopen active) hsettled
  | simApproved r₀ f f' account balance l entries revenue request pending owner amount terms posted =>
    exact kept_of_update hg request (hopen (by rw [pending]; rfl)) hsettled
  | internalApproved r₀ adminUser f f' account balance entries request pending owner amount terms =>
    exact kept_of_update hg request (hopen (by rw [pending]; rfl)) hsettled
  | reversed i x account restored entries found claimed owner amount =>
    obtain ⟨-, f, hf, happroved⟩ := h.unrecorded i x found (by rw [claimed]; rfl)
    exact kept_of_update hg hf (hopen (by rw [happroved]; rfl)) hsettled
  | noted i x stage note found progress =>
    obtain ⟨f, hf, -⟩ := h.opened i x found
    exact kept_of_update hg hf (fun _ => rfl) hsettled
  | requested i x f batchId payoutId found recorded request single recorder =>
    exact kept_of_update hg request (hopen (unsettled_request (hp i recorder) found recorded request single))
      hsettled
  | created d draft f found single creator enrollment account profit cut split link pending =>
    exact ⟨g, Table.get_insert_of_get hg f, rfl⟩
  | applied submissions handlers reconciliations happlied advances =>
    cases happlied <;> exact ⟨g, hg, rfl⟩
  | _ => exact ⟨g, hg, rfl⟩

lemma agreed_step (s : Platform) (action : Action) (h : Sound s ∧ Linked Agreed s) (hguard : Unsettled s action) :
    (Sound (step s action) ∧ Linked Agreed (step s action)) ∧
      ∀ r g, s.fundedPayouts.get r = some g → Settled g.status →
        ∃ g', (step s action).fundedPayouts.get r = some g' ∧ g'.status = g.status := by
  have e : Effect (Unsettled s) s (step s action) := step_effect s action hguard
  obtain ⟨hsound, hlater⟩ := sound_effect h.1 e
  refine ⟨⟨hsound, linked_effect compatible_agreed h.1 h.2 e hlater ?_⟩, fun r g hg hsettled =>
    settled_effect h.2 e (fun _ h => h) hg hsettled⟩
  intro i x f batchId payoutId hi hx hstage hf hsingle st hst
  exact agreed_processing hst (unsettled_request hi hx hstage hf hsingle)

lemma linked_opening {R : FundedStatus → WithdrawalStatus → Prop} (h : Opening s)
    (hfunded : ∀ r f, s.fundedPayouts.get r = some f → f.withdrawalRequest = none) : Linked R s where
  links r f w hf hw := by
    rw [hfunded r f hf] at hw
    cases hw
  single r r' f g w hf _ hw := by
    rw [hfunded r f hf] at hw
    cases hw
  opened i x hx := by
    rw [h.internals] at hx
    cases hx
  once i j x y hx := by
    rw [h.internals] at hx
    cases hx
  unrecorded i x hx := by
    rw [h.internals] at hx
    cases hx
  unmatched i x n e hx := by
    rw [h.internals] at hx
    cases hx
  legacy i e w r f hi := by
    rw [h.handlers] at hi
    cases hi

lemma settled_run (h : Sound s ∧ Linked Agreed s) {acts : List Action} (hg : Guarded step Unsettled s acts)
    {r : ℕ} {f : FundedPayoutRequest} (hf : s.fundedPayouts.get r = some f) (hsettled : Settled f.status) :
    ∃ f', (run step s acts).fundedPayouts.get r = some f' ∧ f'.status = f.status := by
  induction acts generalizing s f with
  | nil => exact ⟨f, hf, rfl⟩
  | cons action acts ih =>
    obtain ⟨hnext, hkept⟩ := agreed_step s action h hg.1
    obtain ⟨g, hgget, hstatus⟩ := hkept r f hf hsettled
    obtain ⟨g', hg', hstatus'⟩ := ih hnext hg.2 hgget (hstatus ▸ hsettled)
    exact ⟨g', hg', hstatus'.trans hstatus⟩

/-- In every run whose second updates come in time, a request and its withdrawal agree in every state
reached, and a completed or failed request stays so. -/
theorem funded_run_agrees (s : Platform) (h : Opening s)
    (hfunded : ∀ r f, s.fundedPayouts.get r = some f → f.withdrawalRequest = none)
    (acts bcts : List Action) (hg : Guarded step Unsettled s (acts ++ bcts)) :
    (∀ r f w, (run step s acts).fundedPayouts.get r = some f → f.withdrawalRequest = some w →
      ∃ wr, (run step s acts).withdrawals.get w = some wr ∧ Agreed f.status wr.status) ∧
    ∀ r f, (run step s acts).fundedPayouts.get r = some f → Settled f.status →
      ∃ f', (run step s (acts ++ bcts)).fundedPayouts.get r = some f' ∧ f'.status = f.status := by
  obtain ⟨hacts, hbcts⟩ := (guarded_append step Unsettled s acts bcts).mp hg
  have hrun : Sound (run step s acts) ∧ Linked Agreed (run step s acts) :=
    guarded_invariant (fun s action h hok => (agreed_step s action h hok).1)
      ⟨opening_sound h, linked_opening h hfunded⟩ hacts
  refine ⟨fun r f w hf hw => ?_, fun r f hf hsettled => ?_⟩
  · obtain ⟨wr, hwr, -, -, hagreed⟩ := hrun.2.links r f w hf hw
    exact ⟨wr, hwr, hagreed⟩
  · rw [run_append]
    exact settled_run hrun hbcts hf hsettled

def fundedAccount : TradingAccount where
  user := some 3
  accountType := .funded
  balance := ⟨1100000, by decide⟩
  equity := ⟨1100000, by decide⟩
  peakBalance := ⟨1100000, by decide⟩
  initialBalance := some ⟨1000000, by decide⟩

def fundedDesk (fundedType : FundedType) : Platform where
  ledger := { wallets := Table.empty, transactions := Table.empty }
  accounts := Table.ofList [fundedAccount]
  entries := Table.empty
  revenue := Table.empty
  withdrawals := Table.empty
  attempts := Table.empty
  events := Table.empty
  enrollments := Table.ofList
    [{ user := 3, funded := true, fundedAccount := some 0,
       fundedConfig := some { fundedType := fundedType, profitSplitPct := ⟨8000, by decide⟩,
                              minPayoutUsd := ⟨5000, by decide⟩, minTradingDays := 5 } }]
  fundedPayouts := Table.empty
  submissions := Table.empty
  handlers := Table.empty
  reconciliations := Table.empty
  internals := Table.empty
  drafts := Table.empty
  now := 0

def visit : Visit where
  emailVerified := true
  termsAccepted := true
  otpVerified := true
  kycApproved := true
  accountActive := true
  tradingDays := 9
  cryptoCurrency := "btc"
  walletAddress := "bc1q"

def accepted : List Action :=
  [.readFundedPayout 3 0 visit, .createFundedPayout 0, .approveInternalPayout 0 1,
    .submitInternal 0 (.accepted "B9" "P9" "CREATING" 1), .recordWithdrawal 0]

def finishedEvent : List Action :=
  [.receiveEvent "P9" "B9" "FINISHED" ⟨none, ""⟩, .resolveEvent 0, .processWebhookEvent 0, .processWebhookEvent 0]

lemma fundedDesk_opening (fundedType : FundedType) : Opening (fundedDesk fundedType) where
  attempts k := rfl
  handlers i := rfl
  internals i := rfl
  events e row h := by cases h
  untouched w wr h := by cases h
  refunds i row k h := by cases h
  legacy i row w reference h := by cases h

theorem funded_run_agrees_example : ∃ f wr,
    (run step (fundedDesk .internal) (accepted ++ .recordRequest 0 :: finishedEvent)).fundedPayouts.get 0 = some f ∧
    f.status = .completed ∧
    (run step (fundedDesk .internal) (accepted ++ .recordRequest 0 :: finishedEvent)).withdrawals.get 0 = some wr ∧
    Agreed f.status wr.status := by
  obtain ⟨f, hf, hstatus, hw⟩ : ∃ f,
      (run step (fundedDesk .internal) (accepted ++ .recordRequest 0 :: finishedEvent)).fundedPayouts.get 0 = some f ∧
      f.status = .completed ∧ f.withdrawalRequest = some 0 := by decide +kernel
  obtain ⟨wr, hwr, hagreed⟩ := (funded_run_agrees (fundedDesk .internal) (fundedDesk_opening .internal)
    (fun r f h => by cases h) (accepted ++ .recordRequest 0 :: finishedEvent) [] (by decide +kernel)).1 0 f 0 hf hw
  exact ⟨f, wr, hf, hstatus, hwr, hagreed⟩

/-- An event that completes the payout between the two updates is undone by the second one, for good. -/
theorem late_update_reopens :
    ((run step (fundedDesk .internal) (accepted ++ finishedEvent)).fundedPayouts.get 0).map (·.status) =
      some .completed ∧
    ((run step (fundedDesk .internal) (accepted ++ finishedEvent ++ [.recordRequest 0])).fundedPayouts.get 0).map
      (·.status) = some .processing ∧
    ((run step (fundedDesk .internal) (accepted ++ finishedEvent ++ [.recordRequest 0])).withdrawals.get 0).map
      (·.status) = some .completed := by
  decide +kernel

end TrxSimulator.Funded.Agreement
