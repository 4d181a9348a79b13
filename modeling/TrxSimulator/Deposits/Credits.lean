import TrxSimulator.Deposits.Pending

/-! The credits of the deposits: one row for each credited wallet deposit, and which deposit a callback is
applied to. -/

namespace TrxSimulator.Deposits.Credits

open Foundations.Tables Foundations.Outcomes Foundations.Decimals Foundations.Runs Money Wallets.Ledger Callbacks
open Pending (depositCallback_eq_ok applyAnswer_keeps openDesk)

/-- An identifier of a payload as it was sent; a value is the text `str` makes of it. -/
inductive IdField
  | missing | null
  | value (text : String)
deriving DecidableEq

def IdField.text : IdField → String
  | .missing => ""
  | .null => "None"
  | .value text => text

def IdField.given : IdField → Bool
  | .value text => text ≠ ""
  | _ => false

structure Payload where
  paymentId : IdField
  orderId : Option ℕ
  status : Status
  actuallyPaid : Option ℚ
  payCurrency : String

def Payload.ipn (p : Payload) : Ipn where
  paymentId := p.paymentId.text
  orderId := p.orderId
  status := p.status
  actuallyPaid := p.actuallyPaid
  payCurrency := p.payCurrency

def Identified (s : Desk) (p : Payload) (deposit : ℕ) : Prop :=
  (p.paymentId.given = true ∧ ∃ d, s.deposits.get deposit = some d ∧ d.paymentId = some p.paymentId.text) ∨
    p.orderId = some deposit

/-- The text of an absent payment id is found on no deposit, or first on the one of the order id. -/
def Unambiguous (s : Desk) (p : Payload) : Prop :=
  p.paymentId.given = true ∨
    ∀ deposit d, s.deposits.latest (fun d => d.paymentId = some p.paymentId.text) = some (deposit, d) →
      p.orderId = some deposit

structure CreditedOnce (s : Desk) : Prop where
  rows : ∀ i row k, s.ledger.transactions.get i = some row → row.deposit = some k →
    ∃ d, s.deposits.get k = some d ∧ d.credited = true ∧ d.challengeProduct = none ∧
      row.amount.units = d.amountUsd.units
  once : ∀ i j row row' k, s.ledger.transactions.get i = some row → s.ledger.transactions.get j = some row' →
    row.deposit = some k → row'.deposit = some k → i = j

section Lookup

variable {s : Desk} {p : Payload} {deposit : ℕ}

lemma findDeposit_cases (h : findDeposit s p.ipn = some deposit) :
    (∃ d, s.deposits.latest (fun d => d.paymentId = some p.paymentId.text) = some (deposit, d)) ∨
      (s.deposits.latest (fun d => d.paymentId = some p.paymentId.text) = none ∧ p.orderId = some deposit) := by
  rw [findDeposit] at h
  split at h
  · next d hlatest =>
    cases h
    exact Or.inl ⟨d, hlatest⟩
  · next hlatest =>
    obtain ⟨k, hk, hget⟩ := Option.bind_eq_some_iff.mp h
    obtain ⟨d, -, rfl⟩ := Option.map_eq_some_iff.mp hget
    exact Or.inr ⟨hlatest, hk⟩

lemma findDeposit_of_latest {d : Deposit}
    (h : s.deposits.latest (fun d => d.paymentId = some p.paymentId.text) = some (deposit, d)) :
    findDeposit s p.ipn = some deposit := by
  rw [findDeposit, show p.ipn.paymentId = p.paymentId.text from rfl, h]

lemma identified_iff : (∀ k, findDeposit s p.ipn = some k → Identified s p k) ↔ Unambiguous s p := by
  constructor
  · intro h
    by_cases hgiven : p.paymentId.given = true
    · exact Or.inl hgiven
    · refine Or.inr fun k d hlatest => ?_
      rcases h k (findDeposit_of_latest hlatest) with ⟨hid, -⟩ | horder
      · exact absurd hid hgiven
      · exact horder
  · intro h k hk
    rcases findDeposit_cases hk with ⟨d, hlatest⟩ | ⟨-, horder⟩
    · obtain ⟨hget, hid⟩ := Table.latest_some hlatest
      rcases h with hgiven | horder
      · exact Or.inl ⟨hgiven, d, hget, of_decide_eq_true hid⟩
      · exact Or.inr (horder k d hlatest)
    · exact Or.inr horder

end Lookup

section Steps

variable {s s' : Desk} {deposit : ℕ} {d : Deposit} {ipn : Ipn} {fulfilled : Bool}

inductive Posted (s : Desk) (deposit : ℕ) (d : Deposit) (r : WalletLedger String × Bool) : Prop
  | none (h : r.1.transactions = s.ledger.transactions)
  | credit (row : WalletTransaction String) (hdeposit : row.deposit = some deposit)
      (hamount : row.amount.units = d.amountUsd.units) (hwallet : d.challengeProduct = .none)
      (hcredited : r.2 = true) (h : r.1.transactions = s.ledger.transactions.insert row)

lemma addPending_transactions {l l' : WalletLedger String} {w : ℕ} {n : ℤ} (h : addPending l w n = .ok l') :
    l'.transactions = l.transactions := by
  simp only [addPending, bind_eq_ok, pure_eq_ok] at h
  obtain ⟨_, -, _, -, rfl⟩ := h
  rfl

lemma creditDeposit_posted {l : WalletLedger String} (hwallet : d.challengeProduct = none)
    (h : creditDeposit s deposit d ipn = .ok l) : Posted s deposit d (l, true) := by
  simp only [creditDeposit, bind_eq_ok, mapError_eq_ok] at h
  obtain ⟨credit, hc, h⟩ := h
  obtain ⟨v, balance, amount, -, hv, hamount, -, rfl⟩ := creditWallet_cents.mp hc
  have hrow : l.transactions = s.ledger.transactions.insert
      { wallet := (getOrCreateWallet s.ledger d.user).2, txType := .deposit, amount := amount,
        balanceAfter := balance, deposit := some deposit, internalTransfer := none, initiatedBy := none,
        note := some ("NowPayments #" ++ ipn.paymentId ++ " " ++ d.cryptoCurrency.toUpper) } := by
    rw [← getOrCreateWallet_transactions s.ledger d.user]
    split at h
    · exact addPending_transactions h
    · rw [pure_eq_ok] at h
      rw [← h]
      rfl
  exact .credit _ rfl hamount hwallet rfl hrow

lemma settleIpn_posted {r : WalletLedger String × Bool} (h : settleIpn s deposit d ipn fulfilled = .ok r) :
    Posted s deposit d r := by
  rw [settleIpn] at h
  split at h
  · cases hp : d.challengeProduct with
    | some product =>
      simp only [hp] at h
      split at h
      · split at h
        · cases h
          exact .none rfl
        · cases h
      · cases h
        exact .none rfl
    | none =>
      simp only [hp] at h
      obtain ⟨l, hl, rfl⟩ := map_eq_ok.mp h
      exact creditDeposit_posted hp hl
  · split at h
    · obtain ⟨l, hl, rfl⟩ := map_eq_ok.mp h
      exact .none ((addPending_transactions hl).trans (getOrCreateWallet_transactions _ _))
    · cases h
      exact .none rfl

lemma CreditedOnce.rewrite {k : ℕ} {f : Deposit → Deposit} (h : CreditedOnce s)
    (hf : ∀ d, s.deposits.get k = some d → d.credited = true → (f d).credited = true ∧
      (f d).challengeProduct = d.challengeProduct ∧ (f d).amountUsd = d.amountUsd)
    (hledger : s'.ledger.transactions = s.ledger.transactions) (hdeposits : s'.deposits = s.deposits.update k f) :
    CreditedOnce s' where
  rows i row j hi hj := by
    obtain ⟨d, hd, hcredited, hwallet, hamount⟩ := h.rows i row j (hledger ▸ hi) hj
    rw [hdeposits]
    by_cases hjk : j = k
    · subst hjk
      obtain ⟨hfc, hfw, hfa⟩ := hf d hd hcredited
      exact ⟨f d, Table.get_update_self hd f, hfc, hfw.trans hwallet, by rw [hfa, hamount]⟩
    · exact ⟨d, (Table.get_update_ne _ hjk f).trans hd, hcredited, hwallet, hamount⟩
  once := by
    rw [hledger]
    exact h.once

lemma CreditedOnce.of_eq (h : CreditedOnce s) (hledger : s'.ledger.transactions = s.ledger.transactions)
    (hdeposits : s'.deposits = s.deposits) : CreditedOnce s' :=
  h.rewrite (k := 0) (f := fun d => d) (fun _ _ hcredited => ⟨hcredited, rfl, rfl⟩) hledger
    (hdeposits.trans (Table.update_id _ _).symm)

lemma creditedOnce_create (h : CreditedOnce s) (user : ℕ) (amount : Numeric 12 2) (currency : String)
    (product : Option ℕ) : CreditedOnce (s.create user amount currency product) where
  rows i row k hi hk := by
    rw [Desk.create, getOrCreateWallet_transactions] at hi
    obtain ⟨d, hd, hrest⟩ := h.rows i row k hi hk
    exact ⟨d, Table.get_insert_of_get hd _, hrest⟩
  once := by
    rw [Desk.create, getOrCreateWallet_transactions]
    exact h.once

lemma CreditedOnce.credit {row : WalletTransaction String} (h : CreditedOnce s)
    (hd : s.deposits.get deposit = some d) (huncredited : d.credited = false) (hrow : row.deposit = some deposit)
    (hamount : row.amount.units = d.amountUsd.units) (hwallet : d.challengeProduct = none)
    (hledger : s'.ledger.transactions = s.ledger.transactions.insert row)
    (hdeposits : s'.deposits = s.deposits.update deposit (applyIpn ipn true)) : CreditedOnce s' := by
  have hnone : ∀ i row', s.ledger.transactions.get i = some row' → row'.deposit ≠ some deposit := by
    intro i row' hi hk
    obtain ⟨d', hd', hcredited, -⟩ := h.rows i row' deposit hi hk
    rw [hd, Option.some.injEq] at hd'
    rw [hd', hcredited] at huncredited
    cases huncredited
  constructor
  · intro i row' k hi hk
    rw [hledger] at hi
    rw [hdeposits]
    rcases Table.get_insert_some hi with hold | ⟨-, rfl⟩
    · have hne : k ≠ deposit := by
        rintro rfl
        exact hnone i row' hold hk
      obtain ⟨d', hd', hrest⟩ := h.rows i row' k hold hk
      exact ⟨d', (Table.get_update_ne _ hne _).trans hd', hrest⟩
    · obtain rfl : deposit = k := Option.some.inj (hrow.symm.trans hk)
      exact ⟨applyIpn ipn true d, Table.get_update_self hd _, rfl, hwallet, hamount⟩
  · intro i j row₁ row₂ k hi hj hk hk'
    rw [hledger] at hi hj
    rcases Table.get_insert_some hi with hold | ⟨hinext, rfl⟩ <;>
      rcases Table.get_insert_some hj with hold' | ⟨hjnext, rfl⟩
    · exact h.once i j row₁ row₂ k hold hold' hk hk'
    · exact (hnone i row₁ hold (hk.trans (hk'.symm.trans hrow))).elim
    · exact (hnone j row₂ hold' (hk'.trans (hk.symm.trans hrow))).elim
    · exact hinext.trans hjnext.symm

lemma creditedOnce_callback (h : CreditedOnce s) (hok : depositCallback s deposit ipn fulfilled = .ok s') :
    CreditedOnce s' := by
  obtain ⟨d, hd, ⟨-, rfl⟩ | ⟨huncredited, r, hr, rfl⟩⟩ := depositCallback_eq_ok hok
  · exact h
  · cases settleIpn_posted hr with
    | none hsame =>
      refine h.rewrite (k := deposit) (fun d' hd' hcredited => ?_) hsame rfl
      rw [hd, Option.some.injEq] at hd'
      rw [← hd', huncredited] at hcredited
      cases hcredited
    | credit row hrow hamount hwallet hcredited hledger =>
      have hdeposits : s.deposits.update deposit (applyIpn ipn r.2) =
          s.deposits.update deposit (applyIpn ipn true) := by rw [hcredited]
      exact h.credit hd huncredited hrow hamount hwallet hledger hdeposits

lemma creditedOnce_step (s : Desk) (action : Action) (h : CreditedOnce s) : CreditedOnce (step s action) := by
  cases action with
  | deposit user amountUsd cryptoCurrency =>
    rw [step, depositView]
    split
    · exact h
    · exact creditedOnce_create h user amountUsd cryptoCurrency none
  | challengePurchase user productId cryptoCurrency =>
    rw [step, challengePurchaseView]
    split
    · exact h
    · exact creditedOnce_create h user _ cryptoCurrency (some productId)
  | answer creation answer =>
    rw [step, storeAnswer]
    split
    · exact h
    · next deposit _ =>
      refine h.rewrite (k := deposit) (fun d _ hcredited => ?_) rfl rfl
      unfold applyAnswer
      split
      · split <;> exact ⟨hcredited, rfl, rfl⟩
      · exact ⟨hcredited, rfl, rfl⟩
  | callback ipn =>
    rw [step, receiveCallback]
    split
    · exact h
    · exact h.of_eq rfl rfl
  | handle callback fulfilled =>
    rw [step, handleCallback]
    split
    · exact h
    · next deposit ipn _ =>
      have hbase : CreditedOnce { s with callbacks := s.callbacks.update callback fun _ => none } :=
        h.of_eq rfl rfl
      refine commit_rule _ _ ?_ fun s' hok => ?_
      · exact hbase
      · exact creditedOnce_callback hbase hok
  | pollRead deposit =>
    rw [step, pollRead]
    split
    · exact h
    · split
      · exact h.of_eq rfl rfl
      · exact h
  | pollWrite poll reported =>
    rw [step, pollWrite]
    split
    · exact h
    · next deposit seen _ =>
      cases reported with
      | none => exact h.of_eq rfl rfl
      | some status =>
        dsimp only
        split
        · exact h.of_eq rfl rfl
        · exact h.rewrite (k := deposit) (f := fun d => { d with status := status })
            (fun d _ hcredited => ⟨hcredited, rfl, rfl⟩) rfl rfl

end Steps

section Frames

variable {s s' : Desk} {callback deposit : ℕ} {ipn : Ipn}

lemma depositCallback_callbacks {fulfilled : Bool} (h : depositCallback s deposit ipn fulfilled = .ok s') :
    s'.callbacks = s.callbacks ∧ ∀ j, j ≠ deposit → s'.deposits.get j = s.deposits.get j := by
  obtain ⟨d, -, ⟨-, rfl⟩ | ⟨-, r, -, rfl⟩⟩ := depositCallback_eq_ok h
  · exact ⟨rfl, fun _ _ => rfl⟩
  · exact ⟨rfl, fun j hj => Table.get_update_ne _ hj _⟩

lemma handle_frame (s : Desk) (callback : ℕ) (fulfilled : Bool) :
    (step s (.handle callback fulfilled)).callbacks = s.callbacks.update callback (fun _ => none) ∨
      (step s (.handle callback fulfilled)) = s := by
  rw [step, handleCallback]
  split
  · exact Or.inr rfl
  · next deposit ipn _ =>
    exact Or.inl (commit_rule _ _ rfl fun s' hok => (depositCallback_callbacks hok).1)

lemma handle_deposits {fulfilled : Bool}
    (h : ∀ found ∈ (s.callbacks.get callback).join, found.1 = deposit) {j : ℕ} (hj : j ≠ deposit) :
    (step s (.handle callback fulfilled)).deposits.get j = s.deposits.get j := by
  rw [step, handleCallback]
  split
  · rfl
  · next k ipn hfound =>
    obtain rfl : k = deposit := h (k, ipn) hfound
    exact commit_rule _ _ rfl fun s' hok => (depositCallback_callbacks hok).2 j hj

structure Received (s : Desk) (callback deposit : ℕ) : Prop where
  bound : callback < s.callbacks.next
  found : ∀ found ∈ (s.callbacks.get callback).join, found.1 = deposit

lemma Received.of_eq (h : Received s callback deposit) (hsame : s'.callbacks = s.callbacks) :
    Received s' callback deposit := ⟨hsame ▸ h.bound, hsame ▸ h.found⟩

lemma step_received (h : Received s callback deposit) (action : Action) :
    Received (step s action) callback deposit := by
  cases action with
  | deposit user amountUsd cryptoCurrency =>
    rw [step, depositView]
    split <;> exact h.of_eq rfl
  | challengePurchase user productId cryptoCurrency =>
    rw [step, challengePurchaseView]
    split <;> exact h.of_eq rfl
  | answer creation answer =>
    rw [step, storeAnswer]
    split <;> exact h.of_eq rfl
  | callback ipn =>
    rw [step, receiveCallback]
    split
    · exact h
    · refine ⟨h.bound.trans (Nat.lt_succ_self _), ?_⟩
      rw [Table.get_insert, if_neg h.bound.ne]
      exact h.found
  | handle c fulfilled =>
    rcases handle_frame s c fulfilled with hupdate | hsame
    · refine ⟨by rw [hupdate]; exact h.bound, ?_⟩
      rw [hupdate, Table.get_update]
      split
      · intro found hfound
        cases hget : s.callbacks.get callback with
        | none => rw [hget] at hfound; cases hfound
        | some x => rw [hget] at hfound; cases hfound
      · exact h.found
    · rw [hsame]
      exact h
  | pollRead deposit =>
    rw [step, pollRead]
    split
    · exact h
    · split <;> exact h.of_eq rfl
  | pollWrite poll reported =>
    rw [step, pollWrite]
    split
    · exact h
    · cases reported with
      | none => exact h.of_eq rfl
      | some status =>
        dsimp only
        split <;> exact h.of_eq rfl

lemma received_of_found (h : findDeposit s ipn = some deposit) :
    Received (step s (.callback ipn)) s.callbacks.next deposit := by
  rw [step, receiveCallback, h]
  refine ⟨Nat.lt_succ_self _, ?_⟩
  rw [Table.get_insert_next]
  rintro found hfound
  rw [Option.join_some, Option.mem_def, Option.some.injEq] at hfound
  rw [← hfound]

end Frames

/-- Whatever happens before a callback is handled, it writes only to the deposit it was received for. -/
theorem deposits_credited_once (s : Desk) (h : CreditedOnce s) (acts : List Action) :
    CreditedOnce (run step s acts) ∧
    (∀ p : Payload, (∀ k, findDeposit (run step s acts) p.ipn = some k → Identified (run step s acts) p k) ↔
      Unambiguous (run step s acts) p) ∧
    ∀ (p : Payload) k, findDeposit (run step s acts) p.ipn = some k → ∀ later fulfilled j, j ≠ k →
      (run step (run step s acts) (.callback p.ipn :: later ++
        [.handle (run step s acts).callbacks.next fulfilled])).deposits.get j =
      (run step (run step s acts) (.callback p.ipn :: later)).deposits.get j := by
  refine ⟨run_invariant creditedOnce_step h acts, fun p => identified_iff, ?_⟩
  intro p k hk later fulfilled j hj
  have hreceived : Received (run step (run step s acts) (.callback p.ipn :: later))
      (run step s acts).callbacks.next k :=
    run_invariant (I := fun t => Received t (run step s acts).callbacks.next k)
      (fun t action ht => step_received ht action) (received_of_found hk) later
  rw [run_append]
  exact handle_deposits hreceived.found hj

lemma openDesk_creditedOnce : CreditedOnce openDesk where
  rows i row k hi := by cases hi
  once i j row row' k hi := by cases hi

theorem deposits_credited_once_example :
    CreditedOnce (run step openDesk (Pending.payment .finished)) ∧
      ∃ row, (run step openDesk (Pending.payment .finished)).ledger.transactions.get 0 = some row ∧
        row.deposit = some 0 ∧ row.amount.units = 2500 := by
  refine ⟨(deposits_credited_once openDesk openDesk_creditedOnce (Pending.payment .finished)).1, ?_⟩
  obtain ⟨row, hrow⟩ : ∃ row, (run step openDesk (Pending.payment .finished)).ledger.transactions.get 0 =
      some row := by
    rw [← Option.isSome_iff_exists]
    decide +kernel
  refine ⟨row, hrow, ?_⟩
  have hfields : ((run step openDesk (Pending.payment .finished)).ledger.transactions.get 0).map
      (fun r => (r.deposit, r.amount.units)) = some (some 0, 2500) := by decide +kernel
  rw [hrow, Option.map_some, Option.some.injEq, Prod.mk.injEq] at hfields
  exact hfields

def twoDeposits : List Action :=
  [.deposit 7 ⟨2500, by norm_num⟩ "btc", .answer 0 (some { paymentId := "", payAmount := none, status := none }),
    .deposit 8 ⟨9000, by norm_num⟩ "btc", .answer 1 (some { paymentId := "P2", payAmount := none, status := none })]

def finishedOrder (order : ℕ) : Payload where
  paymentId := .missing
  orderId := some order
  status := .finished
  actuallyPaid := none
  payCurrency := ""

/-- A callback for the second order without a payment id credits the first deposit. -/
theorem missing_payment_id_credits_other :
    findDeposit (run step openDesk twoDeposits) (finishedOrder 1).ipn = some 0 ∧
    ¬ Identified (run step openDesk twoDeposits) (finishedOrder 1) 0 ∧
    ((run step openDesk (twoDeposits ++ [.callback (finishedOrder 1).ipn, .handle 0 true])).deposits.get 0).map
      Deposit.credited = some true ∧
    ((run step openDesk (twoDeposits ++ [.callback (finishedOrder 1).ipn, .handle 0 true])).deposits.get 1).map
      Deposit.credited = some false := by
  refine ⟨by decide +kernel, ?_, by decide +kernel, by decide +kernel⟩
  rintro (⟨hgiven, -⟩ | horder)
  · cases hgiven
  · cases horder

end TrxSimulator.Deposits.Credits
