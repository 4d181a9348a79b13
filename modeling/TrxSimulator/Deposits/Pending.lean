import TrxSimulator.Foundations.Runs
import TrxSimulator.Deposits.Callbacks

/-! The pending balance of a user's wallet against the deposits that are confirming. -/

namespace TrxSimulator.Deposits.Pending

open Foundations.Runs Foundations.Tables Foundations.Outcomes Foundations.Decimals Money Wallets.Ledger
open Callbacks

def weight (d : Deposit) : ℤ := if d.credited = false ∧ d.status = .confirming then d.amountUsd.units else 0

def confirming (s : Desk) (user : ℕ) : ℤ :=
  s.deposits.total fun _ d => if d.user = user then weight d else 0

def held (l : WalletLedger String) (user : ℕ) : ℤ :=
  l.wallets.total fun _ w => if w.user = user then w.pendingBalance.units else 0

def pendingChange (d : Deposit) (ipn : Ipn) : ℤ :=
  if ipn.status.creditedStatus then
    if d.challengeProduct = none ∧ d.status = .confirming then -d.amountUsd.units else 0
  else if ipn.status = .confirming ∧ d.status ≠ .confirming then d.amountUsd.units else 0

section Wallets

variable {l l' : WalletLedger String} {u w : ℕ} {δ : ℤ}

/-- The wallet side of a step on a user's pending balance. -/
structure Moved (l l' : WalletLedger String) (user : ℕ) (δ : ℤ) : Prop where
  held : ∀ u, held l' u = held l u + if u = user then δ else 0
  unique : UniqueUsers l → UniqueUsers l'

lemma Moved.refl (l : WalletLedger String) (u : ℕ) : Moved l l u 0 :=
  ⟨fun v => by simp, id⟩

lemma Moved.trans {l'' : WalletLedger String} {δ' : ℤ} (h : Moved l l' u δ) (h' : Moved l' l'' u δ') :
    Moved l l'' u (δ + δ') := by
  refine ⟨fun v => ?_, fun hu => h'.unique (h.unique hu)⟩
  rw [h'.held, h.held, add_assoc]
  split <;> simp

lemma held_eq {v : Wallet} (h : UniqueUsers l) (hw : l.wallets.get w = some v) :
    held l v.user = v.pendingBalance.units := by
  rw [held, Table.total_eq_single hw, if_pos rfl]
  intro j b hb hj
  exact if_neg fun hu => hj (h j w b v hb hw hu)

lemma moved_getOrCreate (l : WalletLedger String) (u user : ℕ) : Moved l (getOrCreateWallet l u).1 user 0 := by
  refine ⟨fun v => ?_, fun h => uniqueUsers_getOrCreate h u⟩
  rw [ite_self, add_zero]
  rcases getOrCreateWallet_cases l u with ⟨_, _, -, -, h⟩ | ⟨-, h⟩
  · rw [h]
  · rw [h, held, Table.total_insert, held, newWallet]
    simp only [default, ite_self, add_zero]

lemma moved_credit {n : ℤ} {t : TxType} {refs : References String} {r : WalletLedger String × ℕ}
    (h : creditWallet l w (scaled 2 n) t refs = .ok r) (user : ℕ) : Moved l r.1 user 0 := by
  obtain ⟨v, balance, amount, -, hv, -, -, rfl⟩ := creditWallet_cents.mp h
  refine ⟨fun u => ?_, fun h =>
    uniqueUsers_update (f := fun w => { w with availableBalance := balance }) h fun _ => rfl⟩
  rw [ite_self, add_zero]
  exact Table.total_update_of_eq fun _ _ => rfl

lemma moved_addPending {v : Wallet} {n : ℤ} (hv : l.wallets.get w = some v)
    (h : addPending l w n = .ok l') : Moved l l' v.user n := by
  simp only [addPending, bind_eq_ok, mapError_eq_ok, WalletLedger.wallet, require_eq_ok, hv,
    Option.some.injEq, pure_eq_ok, store_scaled] at h
  obtain ⟨v', rfl, balance, hbalance, rfl⟩ := h
  refine ⟨fun u => ?_, fun h => uniqueUsers_update (f := fun w => { w with pendingBalance := balance }) h fun _ => rfl⟩
  have hsum := Table.total_update hv (fun w => { w with pendingBalance := balance })
    (fun _ w => if w.user = u then w.pendingBalance.units else 0)
  simp only [held] at hsum ⊢
  by_cases hu : v.user = u
  · rw [if_pos hu, if_pos hu] at hsum
    rw [if_pos hu.symm]
    omega
  · rw [if_neg hu, if_neg hu] at hsum
    rw [if_neg (Ne.symm hu)]
    omega

end Wallets

section Callbacks

variable {s s' : Desk} {deposit : ℕ} {d : Deposit} {ipn : Ipn} {fulfilled : Bool}

lemma moved_creditDeposit {l : WalletLedger String} (h : creditDeposit s deposit d ipn = .ok l) :
    Moved s.ledger l d.user (if d.status = .confirming then -d.amountUsd.units else 0) := by
  simp only [creditDeposit, bind_eq_ok, mapError_eq_ok] at h
  obtain ⟨credit, hc, h⟩ := h
  have hcreated := moved_getOrCreate s.ledger d.user d.user
  have hcredited := hcreated.trans (moved_credit hc d.user)
  rw [add_zero] at hcredited
  by_cases hs : d.status = .confirming
  · rw [if_pos hs] at h
    rw [if_pos hs]
    obtain ⟨v, balance, amount, -, hv, -, -, rfl⟩ := creditWallet_cents.mp hc
    obtain ⟨v', hv', hu⟩ := getOrCreateWallet_get s.ledger d.user
    rw [hv, Option.some.injEq] at hv'
    subst hv'
    have hpending := moved_addPending (post_wallets_self _ _ _ _ _ _ hv) h
    simp only [hu] at hpending
    simpa using hcredited.trans hpending
  · rw [if_neg hs, pure_eq_ok] at h
    rw [if_neg hs, ← h]
    exact hcredited


lemma settleIpn_moved {r : WalletLedger String × Bool} (h : settleIpn s deposit d ipn fulfilled = .ok r) :
    Moved s.ledger r.1 d.user (pendingChange d ipn) ∧
      (r.2 = true → ipn.status.creditedStatus = true) := by
  unfold settleIpn at h
  rw [pendingChange]
  split at h
  · next hcredited =>
    rw [if_pos hcredited]
    cases hp : d.challengeProduct with
    | some product =>
      simp only [hp] at h
      rw [if_neg (by simp)]
      refine ⟨?_, fun _ => hcredited⟩
      split at h
      · split at h
        · cases h
          exact Moved.refl _ _
        · cases h
      · cases h
        exact Moved.refl _ _
    | none =>
      simp only [hp] at h
      cases hl : creditDeposit s deposit d ipn with
      | error e => simp [hl, Except.map] at h
      | ok l =>
        simp only [hl, Except.map, Except.ok.injEq] at h
        subst h
        refine ⟨?_, fun _ => hcredited⟩
        simpa using moved_creditDeposit hl
  · next hcredited =>
    rw [if_neg hcredited]
    rw [Bool.not_eq_true] at hcredited
    split at h
    · next hconfirming =>
      rw [if_pos hconfirming]
      obtain ⟨v, hv, hu⟩ := getOrCreateWallet_get s.ledger d.user
      cases hl : addPending (getOrCreateWallet s.ledger d.user).1 (getOrCreateWallet s.ledger d.user).2
          d.amountUsd.units with
      | error e => simp [hl, Except.map] at h
      | ok l =>
        simp only [hl, Except.map, Except.ok.injEq] at h
        subst h
        refine ⟨?_, fun hc => (nomatch hc)⟩
        have hpending := moved_addPending hv hl
        rw [hu] at hpending
        simpa using (moved_getOrCreate s.ledger d.user d.user).trans hpending
    · next hconfirming =>
      rw [if_neg hconfirming]
      cases h
      exact ⟨Moved.refl _ _, fun hc => (nomatch hc)⟩

lemma depositCallback_eq_ok (h : depositCallback s deposit ipn fulfilled = .ok s') :
    ∃ d, s.deposits.get deposit = some d ∧
      ((d.credited = true ∧ s' = s) ∨
        (d.credited = false ∧ ∃ r, settleIpn s deposit d ipn fulfilled = .ok r ∧
          s' = { s with ledger := r.1, deposits := s.deposits.update deposit (applyIpn ipn r.2) })) := by
  simp only [depositCallback, bind_eq_ok, require_eq_ok] at h
  obtain ⟨d, hd, h⟩ := h
  refine ⟨d, hd, ?_⟩
  split at h
  · next hc => exact Or.inl ⟨hc, (pure_eq_ok.mp h).symm⟩
  · next hc =>
    rw [bind_eq_ok] at h
    obtain ⟨r, hr, h⟩ := h
    split at h
    · exact Or.inr ⟨by simpa using hc, r, hr, (pure_eq_ok.mp h).symm⟩
    · cases h

end Callbacks

section Runs

/-- An uncredited deposit enters or leaves `confirming` only through a callback, and leaves it only
when the callback credits the wallet. -/
def Tracked (s : Desk) : Action → Prop
  | .answer creation answer =>
    ∀ deposit ∈ (s.creations.get creation).join, ∀ d ∈ s.deposits.get deposit, d.credited = false →
      (d.status = .confirming ↔ (applyAnswer answer d).status = .confirming)
  | .handle callback _ =>
    ∀ call ∈ (s.callbacks.get callback).join, ∀ d ∈ s.deposits.get call.1, d.credited = false →
      d.status = .confirming →
        call.2.status = .confirming ∨ (call.2.status.creditedStatus = true ∧ d.challengeProduct = none)
  | .pollWrite poll reported =>
    ∀ read ∈ (s.polls.get poll).join, ∀ status ∈ reported, ∀ d ∈ s.deposits.get read.1,
      d.credited = false → (d.status = .confirming ↔ status = .confirming)
  | _ => True

instance decidableTracked (s : Desk) : ∀ a, Decidable (Tracked s a)
  | .answer _ _ | .handle _ _ | .pollWrite _ _ => inferInstanceAs (Decidable (∀ _ ∈ _, _))
  | .deposit _ _ _ | .challengePurchase _ _ _ | .callback _ | .pollRead _ => inferInstanceAs (Decidable True)

structure Tallied (s : Desk) : Prop where
  unique : UniqueUsers s.ledger
  held : ∀ u, held s.ledger u = confirming s u
  deposits : ∀ i d, s.deposits.get i = some d → 0 ≤ d.amountUsd.units
  products : ∀ i p, s.products.get i = some p → 0 ≤ p.priceUsd.units

variable {s s' : Desk}

lemma weight_nonneg {d : Deposit} (h : 0 ≤ d.amountUsd.units) : 0 ≤ weight d := by
  rw [weight]
  split
  · exact h
  · exact le_rfl

lemma confirming_nonneg (h : Tallied s) (u : ℕ) : 0 ≤ confirming s u := by
  refine Table.total_nonneg fun i d hd => ?_
  split
  · exact weight_nonneg (h.deposits i d hd)
  · exact le_rfl

lemma total_weight_update {t : Table Deposit} {i : ℕ} {d : Deposit} {f : Deposit → Deposit}
    (hd : t.get i = some d) (hf : (f d).user = d.user) (u : ℕ) :
    ((t.update i f).total fun _ d => if d.user = u then weight d else 0) =
      (t.total fun _ d => if d.user = u then weight d else 0) +
        if u = d.user then weight (f d) - weight d else 0 := by
  have hsum := Table.total_update hd f (fun _ d => if d.user = u then weight d else 0)
  simp only [hf] at hsum
  by_cases hu : d.user = u
  · rw [if_pos hu, if_pos hu] at hsum
    rw [if_pos hu.symm]
    omega
  · rw [if_neg hu, if_neg hu] at hsum
    rw [if_neg (Ne.symm hu)]
    omega

lemma tallied_update {i : ℕ} {d : Deposit} {l : WalletLedger String} (f : Deposit → Deposit)
    (h : Tallied s) (hd : s.deposits.get i = some d) (hf : ∀ d, (f d).user = d.user)
    (hamount : ∀ d, (f d).amountUsd = d.amountUsd) (hl : Moved s.ledger l d.user (weight (f d) - weight d))
    (hledger : s'.ledger = l) (hdeposits : s'.deposits = s.deposits.update i f)
    (hproducts : s'.products = s.products) : Tallied s' := by
  refine ⟨hledger ▸ hl.unique h.unique, fun u => ?_, fun j d' hd' => ?_, hproducts ▸ h.products⟩
  · rw [confirming, hdeposits, total_weight_update hd (hf d), hledger, hl.held, h.held, confirming]
  · rw [hdeposits] at hd'
    obtain ⟨a, ha, rfl⟩ := Table.get_update_some hd'
    split
    · rw [hamount]
      exact h.deposits j a ha
    · exact h.deposits j a ha

lemma tallied_of_eq (h : Tallied s) (hledger : s'.ledger = s.ledger) (hdeposits : s'.deposits = s.deposits)
    (hproducts : s'.products = s.products) : Tallied s' := by
  refine ⟨hledger ▸ h.unique, fun u => ?_, hdeposits ▸ h.deposits, hproducts ▸ h.products⟩
  rw [confirming, hdeposits, hledger]
  exact h.held u

lemma tallied_create {user : ℕ} {amount : Numeric 12 2} {currency : String} {product : Option ℕ}
    (h : Tallied s) (h0 : 0 ≤ amount.units) : Tallied (s.create user amount currency product) := by
  have hl := moved_getOrCreate s.ledger user user
  refine ⟨hl.unique h.unique, fun u => ?_, fun i d hd => ?_, h.products⟩
  · simp only [Desk.create, confirming, Table.total_insert, weight]
    rw [hl.held, h.held, confirming]
    simp [weight]
  · rcases Table.get_insert_some hd with hd | ⟨-, rfl⟩
    · exact h.deposits i d hd
    · exact h0

lemma weight_eq_of_iff {d d' : Deposit} (hc : d'.credited = d.credited) (ha : d'.amountUsd = d.amountUsd)
    (h : d.credited = false → (d.status = .confirming ↔ d'.status = .confirming)) : weight d' = weight d := by
  rw [weight, weight, hc, ha]
  cases hcredited : d.credited with
  | true => simp
  | false => simp only [h hcredited, true_and]

lemma weight_applyIpn {d : Deposit} {ipn : Ipn} {credited : Bool} (hd : d.credited = false)
    (hcredits : credited = true → ipn.status.creditedStatus = true)
    (htracked : d.status = .confirming →
      ipn.status = .confirming ∨ (ipn.status.creditedStatus = true ∧ d.challengeProduct = none)) :
    weight (applyIpn ipn credited d) - weight d = pendingChange d ipn := by
  have hnot : ipn.status.creditedStatus = true → ipn.status ≠ .confirming := by
    intro h he
    rw [he] at h
    cases h
  have hfalse : ipn.status = .confirming → credited = false := by
    intro h
    rw [← Bool.not_eq_true]
    exact fun hc => hnot (hcredits hc) h
  simp only [weight, applyIpn, pendingChange, hd, true_and]
  by_cases hs : d.status = .confirming
  · rcases htracked hs with hc | ⟨hc, hp⟩
    · simp [hs, hc, hfalse hc, Status.creditedStatus]
    · simp [hs, hp, hc, hnot hc]
  · by_cases hc : ipn.status = .confirming
    · simp [hs, hc, hfalse hc, Status.creditedStatus]
    · simp [hs, hc]

lemma tallied_handle {callback : ℕ} {fulfilled : Bool} (h : Tallied s)
    (htracked : Tracked s (.handle callback fulfilled)) : Tallied (handleCallback s callback fulfilled) := by
  unfold handleCallback
  cases hcall : (s.callbacks.get callback).join with
  | none => exact h
  | some call =>
    obtain ⟨deposit, ipn⟩ := call
    have hbase : Tallied { s with callbacks := s.callbacks.update callback fun _ => none } :=
      tallied_of_eq h rfl rfl rfl
    simp only
    refine commit_rule _ _ ?_ fun s' hok => ?_
    · exact hbase
    · obtain ⟨d, hd, ⟨-, rfl⟩ | ⟨huncredited, r, hr, rfl⟩⟩ := depositCallback_eq_ok hok
      · exact hbase
      · obtain ⟨hmoved, hcredits⟩ := settleIpn_moved hr
        have hweight := weight_applyIpn huncredited hcredits
          fun hconf => htracked (deposit, ipn) hcall d hd huncredited hconf
        rw [← hweight] at hmoved
        exact tallied_update (applyIpn ipn r.2) hbase hd (fun _ => rfl) (fun _ => rfl) hmoved rfl rfl rfl

lemma applyAnswer_keeps (answer : Option Answer) (d : Deposit) :
    (applyAnswer answer d).user = d.user ∧ (applyAnswer answer d).amountUsd = d.amountUsd ∧
      (applyAnswer answer d).credited = d.credited := by
  unfold applyAnswer
  split
  · split <;> exact ⟨rfl, rfl, rfl⟩
  · exact ⟨rfl, rfl, rfl⟩

lemma tallied_missing {i : ℕ} {f : Deposit → Deposit} (h : Tallied s) (hd : s.deposits.get i = none)
    (hledger : s'.ledger = s.ledger) (hdeposits : s'.deposits = s.deposits.update i f)
    (hproducts : s'.products = s.products) : Tallied s' := by
  have hget : s'.deposits.get = s.deposits.get := by rw [hdeposits, Table.update_of_get_none hd]
  refine ⟨hledger ▸ h.unique, fun u => ?_, fun j d hj => ?_, hproducts ▸ h.products⟩
  · rw [hledger, h.held]
    refine Table.total_ext fun j => ?_
    rw [hget]
  · rw [hget] at hj
    exact h.deposits j d hj

lemma tallied_rewrite {i : ℕ} (f : Deposit → Deposit) (h : Tallied s) (hf : ∀ d, (f d).user = d.user)
    (hamount : ∀ d, (f d).amountUsd = d.amountUsd) (hcredited : ∀ d, (f d).credited = d.credited)
    (hstatus : ∀ d ∈ s.deposits.get i, d.credited = false →
      (d.status = .confirming ↔ (f d).status = .confirming))
    (hledger : s'.ledger = s.ledger) (hdeposits : s'.deposits = s.deposits.update i f)
    (hproducts : s'.products = s.products) : Tallied s' := by
  cases hd : s.deposits.get i with
  | none => exact tallied_missing h hd hledger hdeposits hproducts
  | some d =>
    have hweight := weight_eq_of_iff (hcredited d) (hamount d) (hstatus d hd)
    refine tallied_update f h hd hf hamount ?_ hledger hdeposits hproducts
    rw [hweight, sub_self]
    exact Moved.refl _ _

lemma tallied_step (s : Desk) (a : Action) (h : Tallied s) (htracked : Tracked s a) : Tallied (step s a) := by
  cases a with
  | deposit user amountUsd cryptoCurrency =>
    simp only [step, depositView]
    split
    · exact h
    · next hmin => exact tallied_create h (by rw [minimumDeposit] at hmin; omega)
  | challengePurchase user productId cryptoCurrency =>
    simp only [step, challengePurchaseView]
    split
    · exact h
    · next product hp =>
      have h0 := h.products productId product hp
      exact tallied_create h h0
  | answer creation answer =>
    simp only [step, storeAnswer]
    cases hc : (s.creations.get creation).join with
    | none => exact h
    | some deposit =>
      exact tallied_rewrite (applyAnswer answer) h (fun d => (applyAnswer_keeps answer d).1)
        (fun d => (applyAnswer_keeps answer d).2.1) (fun d => (applyAnswer_keeps answer d).2.2)
        (htracked deposit hc) rfl rfl rfl
  | callback ipn =>
    simp only [step, receiveCallback]
    split
    · exact h
    · exact tallied_of_eq h rfl rfl rfl
  | handle callback fulfilled => exact tallied_handle h htracked
  | pollRead deposit =>
    simp only [step, pollRead]
    split
    · exact h
    · split
      · exact tallied_of_eq h rfl rfl rfl
      · exact h
  | pollWrite poll reported =>
    simp only [step, pollWrite]
    cases hp : (s.polls.get poll).join with
    | none => exact h
    | some read =>
      obtain ⟨deposit, seen⟩ := read
      cases reported with
      | none => exact tallied_of_eq h rfl rfl rfl
      | some status =>
        simp only
        split
        · exact tallied_of_eq h rfl rfl rfl
        · exact tallied_rewrite (fun d => { d with status := status }) h (fun _ => rfl) (fun _ => rfl) (fun _ => rfl)
            (htracked (deposit, seen) hp status rfl) rfl rfl rfl

def openDesk : Desk where
  products := Table.empty
  deposits := Table.empty
  ledger := { wallets := Table.empty, transactions := Table.empty }
  creations := Table.empty
  callbacks := Table.empty
  polls := Table.empty

lemma openDesk_tallied : Tallied openDesk where
  unique i j v w hv _ _ := by cases hv
  held _ := rfl
  deposits i d hd := by cases hd
  products i p hp := by cases hp

def payment (last : Status) : List Action :=
  [.deposit 7 ⟨2500, by decide⟩ "btc", .answer 0 (some { paymentId := "P1", payAmount := none, status := none }),
    .callback { paymentId := "P1", orderId := none, status := .confirming, actuallyPaid := none, payCurrency := "" },
    .handle 0 true,
    .callback { paymentId := "P1", orderId := none, status := last, actuallyPaid := none, payCurrency := "" },
    .handle 1 true]

end Runs

end TrxSimulator.Deposits.Pending
