import TrxSimulator.Payouts.Effects
import TrxSimulator.Withdrawals.Otp

/-! Approval and rejection of withdrawals. An admin selects withdrawals that are pending when the page is read; the
approvals, the rejection and the submission each look again in a transaction of their own. -/

namespace TrxSimulator.Withdrawals.Reviews

open Foundations.Tables Foundations.Outcomes Foundations.Decimals Foundations.Runs Money Accounts Wallets.Ledger
open Payouts.Records (Platform WithdrawalRequest WithdrawalStatus PayoutNote PayoutError lockWithdrawal)
open Payouts.Orchestrator (SubmissionResult)
open Otp (Challenge FeeConfig OtpError)

structure Approval where
  requiredApprovals : ℕ
  firstApprovedBy : Option ℕ
  secondApprovedBy : Option ℕ
deriving DecidableEq

inductive Kind
  | automatic | firstApprove | approve | retry | reject
deriving DecidableEq

inductive Stage
  | selected | authorized
  | walletRead (wallet : ℕ)
  | refused (message : String)
  | done
deriving DecidableEq

/-- One withdrawal of one click of an admin, or the submission that follows a finalization. -/
structure Click where
  kind : Kind
  admin : Option ℕ
  withdrawal : ℕ
  stage : Stage
deriving DecidableEq

structure Desk where
  platform : Platform
  approvals : ℕ → Approval
  clicks : Table Click
  feeConfig : FeeConfig
  superusers : List ℕ

def statusText : WithdrawalStatus → String
  | .pending => "pending"
  | .approved => "approved"
  | .rejected => "rejected"
  | .processing => "processing"
  | .completed => "completed"
  | .failed => "failed"

def rejectionNote (withdrawal : ℕ) : PayoutNote :=
  .other ("Refund — retiro #" ++ (toString withdrawal ++ " rechazado por admin"))

def setLedger (s : Desk) (ledger : WalletLedger PayoutNote) : Desk :=
  { s with platform := { s.platform with ledger := ledger } }

def setClick (s : Desk) (click : ℕ) (stage : Stage) : Desk :=
  { s with clicks := s.clicks.update click fun c => { c with stage := stage } }

def setApproval (s : Desk) (withdrawal : ℕ) (approval : Approval) : Desk :=
  { s with approvals := Function.update s.approvals withdrawal approval }

section Finalization

def createWithdrawal (s : Desk) (wr : WithdrawalRequest) (requiredApprovals : ℕ) : Desk :=
  { s with
    platform := { s.platform with withdrawals := s.platform.withdrawals.insert wr }
    approvals := Function.update s.approvals s.platform.withdrawals.next ⟨requiredApprovals, none, none⟩
    clicks := if requiredApprovals = 1 then
        s.clicks.insert ⟨.automatic, none, s.platform.withdrawals.next, .authorized⟩
      else s.clicks }

/-- `_finalize` with the challenge as the request has read it, and the submission it begins if no admin is needed. -/
def finalizeWithdrawal (s : Desk) (walletId : ℕ) (seen : Challenge) : Except OtpError Desk := do
  let wallet ← (s.platform.ledger.wallet walletId).mapError .ledger
  if s.platform.withdrawals.exists? fun wr => wr.user = seen.user ∧ wr.status = .pending then
    .error .pendingWithdrawalExists
  else do
    let amount ← require (Otp.finalAmount wallet seen) (.nothingToWithdraw walletId)
    if amount ≤ 0 then .error (.nothingToWithdraw walletId)
    else if amount < 20 then .error .belowMinimumWithdrawal
    else do
      let currency ← require (Otp.currencyByAssetNetwork seen.asset seen.network) (.unknownRoute seen.asset seen.network)
      let fee := Otp.calculateWithdrawalFee s.feeConfig amount
      let debit ← (debitWallet s.platform.ledger walletId amount .withdraw
        { note := some (.other ("Retiro #" ++ (currency.toUpper ++ " → " ++ seen.walletAddress.take 16 ++
            "… (pendiente)"))),
          initiatedBy := some seen.user }).mapError .ledger
      let amountUsd ← Otp.columnOf 12 "amount_usd" amount
      let feeAmount ← Otp.columnOf 12 "fee_amount" fee.2.1
      let netAmount ← Otp.columnOf 12 "net_amount" fee.2.2
      if seen.status ≠ .verified then .error (.challengeNotVerifiable 0 seen.status)
      else pure (createWithdrawal (setLedger s debit.1)
        { user := seen.user, amountUsd := amountUsd, netAmount := some netAmount, feeAmount := some feeAmount,
          cryptoCurrency := currency, walletAddress := seen.walletAddress, status := .pending, npBatchId := "",
          npPayoutId := "", npPayoutStatus := "", cryptoAmount := none, reviewedBy := none }
        (if 1000 < amount then 2 else 1))

def finalize (s : Desk) (seen : Challenge) : Desk :=
  let wallet := getOrCreateWallet s.platform.ledger seen.user
  let s := setLedger s wallet.1
  commit s (finalizeWithdrawal s wallet.2 seen)

end Finalization

section Admins

/-- What an action filters the selected rows by. -/
def selectable (s : Desk) (kind : Kind) (withdrawal : ℕ) : Bool :=
  (s.platform.withdrawals.get withdrawal).any (fun wr => wr.status = .pending) &&
    match kind with
    | .automatic => false
    | .retry => (s.approvals withdrawal).requiredApprovals = 1
    | .firstApprove | .approve | .reject => true

def select (s : Desk) (kind : Kind) (admin withdrawal : ℕ) : Desk :=
  if admin ∈ s.superusers ∧ selectable s kind withdrawal = true then
    { s with clicks :=
        s.clicks.insert ⟨kind, some admin, withdrawal, if kind = .retry then .authorized else .selected⟩ }
  else s

def firstApprove (s : Desk) (withdrawal admin : ℕ) : Desk :=
  let a := s.approvals withdrawal
  if (s.platform.withdrawals.get withdrawal).any (fun wr => wr.status = .pending) = true ∧ 1 < a.requiredApprovals ∧
      a.firstApprovedBy = none then
    setApproval s withdrawal { a with firstApprovedBy := some admin }
  else s

def applySecondApproval (s : Desk) (withdrawal actor : ℕ) : Except String Desk := do
  let wr ← require (s.platform.withdrawals.get withdrawal) "WithdrawalRequest matching query does not exist."
  let a := s.approvals withdrawal
  if wr.status ≠ .pending then
    .error ("#" ++ toString withdrawal ++ ": ya no está pendiente (status=" ++ statusText wr.status ++ ").")
  else if a.requiredApprovals ≤ 1 then pure s
  else do
    let first ← require a.firstApprovedBy
      ("#" ++ toString withdrawal ++ ": requiere primera aprobación (retiro > $1,000) antes de esta.")
    if first = actor then
      .error ("#" ++ toString withdrawal ++ ": el mismo admin no puede dar ambas aprobaciones.")
    else if a.secondApprovedBy = none then
      pure (setApproval s withdrawal { a with secondApprovedBy := some actor })
    else pure s

def secondApproval (s : Desk) (click : ℕ) : Desk :=
  match s.clicks.get click with
  | some ⟨.approve, some admin, withdrawal, .selected⟩ =>
    match applySecondApproval s withdrawal admin with
    | .ok s => setClick s click .authorized
    | .error message => setClick s click (.refused message)
  | _ => s

/-- Only an approval is submitted in the name of its admin. -/
def Click.actor (c : Click) : Option ℕ := if c.kind = .approve then c.admin else none

def preview (s : Desk) (click : ℕ) : Desk :=
  match s.clicks.get click with
  | none => s
  | some c =>
    if c.stage = .authorized then
      let s := setClick s click .done
      commit s ((Payouts.Orchestrator.previewWithdrawal s.platform c.withdrawal c.actor).map fun platform =>
        { s with platform })
    else s

/-- A withdrawal that is not pending any more is skipped. -/
def rejectWithdrawal (s : Desk) (withdrawal walletId admin : ℕ) : Except PayoutError Desk := do
  let wr ← lockWithdrawal s.platform withdrawal
  if wr.status ≠ .pending then pure s
  else do
    let rejected := s.platform.setWithdrawal withdrawal fun wr =>
      { wr with status := .rejected, reviewedBy := some admin }
    let credited ← (creditWallet rejected.ledger walletId wr.amountUsd.value .correction
      { note := some (rejectionNote withdrawal), initiatedBy := some admin }).mapError .ledger
    pure { s with platform := { rejected with ledger := credited.1 } }

/-- The preview of a rejection resolves which wallet to lock, and nothing else. -/
def previewRefund (s : Desk) (click : ℕ) : Desk :=
  match s.clicks.get click with
  | some ⟨.reject, some _, withdrawal, .selected⟩ =>
    match s.platform.withdrawals.get withdrawal with
    | none => s
    | some wr =>
      let wallet := getOrCreateWallet s.platform.ledger wr.user
      setClick (setLedger s wallet.1) click (.walletRead wallet.2)
  | _ => s

def reject (s : Desk) (click : ℕ) : Desk :=
  match s.clicks.get click with
  | some ⟨.reject, some admin, withdrawal, .walletRead walletId⟩ =>
    let s := setClick s click .done
    commit s (rejectWithdrawal s withdrawal walletId admin)
  | _ => s

def recordFirst (s : Desk) (click : ℕ) : Desk :=
  match s.clicks.get click with
  | some ⟨.firstApprove, some admin, withdrawal, .selected⟩ => setClick (firstApprove s withdrawal admin) click .done
  | _ => s

end Admins

inductive Action
  | finalize (seen : Challenge)
  | select (kind : Kind) (admin withdrawal : ℕ)
  | firstApprove (click : ℕ)
  | secondApproval (click : ℕ)
  | preview (click : ℕ)
  | claimSubmission (submission : ℕ) (estimate : Option ℚ)
  | finishSubmission (submission : ℕ) (result : SubmissionResult)
  | previewRefund (click : ℕ)
  | reject (click : ℕ)
  | otherCredit (walletId : ℕ) (amount : ℚ) (txType : TxType) (text : String)
  | otherDebit (walletId : ℕ) (amount : ℚ) (txType : TxType) (text : String)
  | setFee (feeConfig : FeeConfig)

/-- The notes of the other services of the wallet do not read like that of a rejection. -/
def ownNote (text : String) : Bool := ¬ "Refund — retiro #".toList.isPrefixOf text.toList

def step (s : Desk) : Action → Desk
  | .finalize seen => finalize s seen
  | .select kind admin withdrawal => select s kind admin withdrawal
  | .firstApprove click => recordFirst s click
  | .secondApproval click => secondApproval s click
  | .preview click => preview s click
  | .claimSubmission submission estimate =>
    { s with platform := Payouts.Orchestrator.claimSubmission s.platform submission estimate }
  | .finishSubmission submission result =>
    { s with platform := Payouts.Orchestrator.finishSubmission s.platform submission result }
  | .previewRefund click => previewRefund s click
  | .reject click => reject s click
  | .otherCredit walletId amount txType text =>
    if ownNote text = true then
      commit s ((creditWallet s.platform.ledger walletId amount txType { note := some (.other text) }).map fun r =>
        setLedger s r.1)
    else s
  | .otherDebit walletId amount txType text =>
    if ownNote text = true then
      commit s ((debitWallet s.platform.ledger walletId amount txType { note := some (.other text) }).map fun r =>
        setLedger s r.1)
    else s
  | .setFee feeConfig => { s with feeConfig := feeConfig }

def opened (wallets : Table Wallet) (feeConfig : FeeConfig) (superusers : List ℕ) : Desk where
  platform :=
    { ledger := { wallets := wallets, transactions := .empty }, accounts := .empty, entries := .empty, revenue := .empty,
      withdrawals := .empty, attempts := .empty, events := .empty, enrollments := .empty, fundedPayouts := .empty,
      submissions := .empty, handlers := .empty, reconciliations := .empty, internals := .empty, drafts := .empty,
      now := 0 }
  approvals _ := ⟨1, none, none⟩
  clicks := .empty
  feeConfig := feeConfig
  superusers := superusers

end TrxSimulator.Withdrawals.Reviews
