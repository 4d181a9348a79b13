import TrxSimulator.Foundations.Runs
import TrxSimulator.Trading.Writers

/-! Reconciliation of a trading account's stored balance with its stored rows and the losses written off. -/

namespace TrxSimulator.Trading.Reconciliation

open Foundations.Runs Foundations.Tables Foundations.Outcomes Foundations.Decimals Money Charges Writers
open Wallets.Drift (Lifted)
open Accounts (TradingAccount EventType)

/-- What a row of the negative balance guard records as written off, in cents. -/
def writtenOff : EntryMeta → ℤ
  | .negativeBalanceGuard shortfall _ _ => cents shortfall
  | _ => 0

def posted (s : Floor) (k : ℕ) : ℤ := s.entries.total fun _ e => if e.account = k then e.amount.units else 0

def shortfalls (s : Floor) (k : ℕ) : ℤ := s.entries.total fun _ e => if e.account = k then writtenOff e.info else 0

def balance (s : Floor) (k : ℕ) : ℤ := (s.accounts.get k).elim 0 fun a => a.balance.units

def drift (s : Floor) (k : ℕ) : ℤ := balance s k - (posted s k + shortfalls s k)

/-- Rows that post so many cents to an account, with no balance written. -/
structure Posts (s s' : Floor) (k : ℕ) (n : ℤ) : Prop where
  accounts : s'.accounts = s.accounts
  drift : ∀ j, drift s' j = drift s j - if k = j then n else 0

section Posting

variable {s s' s'' : Floor} {k j : ℕ} {m n : ℤ} {x y : ℚ}

lemma posts_of_eq (ha : s'.accounts = s.accounts) (he : s'.entries = s.entries) : Posts s s' k 0 := by
  refine ⟨ha, fun j => ?_⟩
  simp [drift, balance, posted, shortfalls, ha, he]

lemma Posts.trans (h : Posts s s' k m) (h' : Posts s' s'' k n) : Posts s s'' k (m + n) := by
  refine ⟨h'.accounts.trans h.accounts, fun j => ?_⟩
  rw [h'.drift, h.drift]
  split <;> ring

lemma drift_of_ok {α : Type} {r r' : α} (h : (.ok (s', r) : Except TradeError (Floor × α)) = .ok (s'', r'))
    (hs : drift s' j = drift s j) : drift s'' j = drift s j := by
  rw [Except.ok.injEq, Prod.mk.injEq] at h
  rw [← h.1, hs]

lemma column_ok {d p : ℕ} {name : String} {v : Numeric d p} (h : column d p name x = .ok v) :
    store d p x = some v := require_eq_ok.mp h

lemma postEntry_posts {t : EventType} {info : EntryMeta} (h : postEntry s k t x y info = .ok s') :
    Posts s s' k (cents x + writtenOff info) ∧ |cents x| < 10 ^ 18 := by
  simp only [postEntry, bind_eq_ok, pure_eq_ok] at h
  obtain ⟨amount, hamount, balanceAfter, -, rfl⟩ := h
  have hcents := store_cents.mp (column_ok hamount)
  refine ⟨⟨rfl, fun j => ?_⟩, hcents ▸ amount.fits⟩
  simp only [drift, balance, posted, shortfalls, Table.total_insert, hcents]
  split <;> ring

lemma postEntryIf_posts {t : EventType} {info : EntryMeta} {p : Prop} [Decidable p]
    (h : postEntryIf p s k t x y info = .ok s') :
    Posts s s' k (if p then cents x + writtenOff info else 0) ∧ (p → |cents x| < 10 ^ 18) := by
  rw [postEntryIf] at h
  by_cases hp : p
  · rw [if_pos hp] at h ⊢
    obtain ⟨hposts, hfits⟩ := postEntry_posts h
    exact ⟨hposts, fun _ => hfits⟩
  · rw [if_neg hp, Except.ok.injEq] at h
    rw [if_neg hp]
    exact ⟨posts_of_eq (by rw [h]) (by rw [h]), fun hyes => absurd hyes hp⟩

lemma saved_drift {a : TradingAccount} {b : Numeric 12 2} {f : TradingAccount → TradingAccount}
    (h : Posts s s' k n) (ha : s.accounts.get k = some a) (hf : ∀ a, (f a).balance = b)
    (hb : b.units = a.balance.units + n) :
    drift { s' with accounts := s'.accounts.update k f } j = drift s j := by
  have hmove : drift { s' with accounts := s'.accounts.update k f } j =
      drift s' j + (((s.accounts.update k f).get j).elim 0 (fun a => a.balance.units) - balance s j) := by
    simp only [drift, balance, posted, shortfalls, h.accounts]
    ring
  rw [hmove, h.drift]
  by_cases hjk : k = j
  · subst hjk
    rw [if_pos rfl, Table.get_update_self ha, balance, ha, Option.elim_some, Option.elim_some, hf, hb]
    ring
  · rw [if_neg hjk, Table.get_update_ne _ (Ne.symm hjk), balance]
    ring

lemma saveBalance_drift {a : TradingAccount} {balance : ℚ} (h : Posts s s' k n) (ha : s.accounts.get k = some a)
    (hs : saveBalance s' k balance = .ok s'')
    (hb : |cents balance| < 10 ^ 12 → cents balance = a.balance.units + n) : drift s'' j = drift s j := by
  simp only [saveBalance, bind_eq_ok, pure_eq_ok] at hs
  obtain ⟨b, hstore, rfl⟩ := hs
  have hcents := store_cents.mp (column_ok hstore)
  refine saved_drift h ha (fun _ => rfl) ?_
  rw [← hcents]
  exact hb (hcents ▸ b.fits)

lemma saveBalanceEquity_drift {a : TradingAccount} {balance equity : ℚ} (h : Posts s s' k n)
    (ha : s.accounts.get k = some a) (hs : saveBalanceEquity s' k balance equity = .ok s'')
    (hb : cents balance = a.balance.units + n) : drift s'' j = drift s j := by
  simp only [saveBalanceEquity, bind_eq_ok, pure_eq_ok] at hs
  obtain ⟨b, hstore, e, -, rfl⟩ := hs
  refine saved_drift h ha (fun _ => rfl) ?_
  rw [← store_cents.mp (column_ok hstore), hb]

end Posting

section Opening

variable {s s' : Floor} {k j : ℕ} {f : Fill} {c : OpeningCharges} {a : TradingAccount} {info : EntryMeta}

lemma execute_posts {r : ℕ × Bool} (h : execute s k f = .ok (s', r)) : Posts s s' k 0 := by
  rw [execute] at h
  split at h
  · next id existing _ =>
    rw [guard_eq_ok] at h
    simp only [bind_eq_ok, pure_eq_ok, Prod.mk.injEq] at h
    obtain ⟨-, avgPrice, -, qty, -, rfl, -⟩ := h
    exact posts_of_eq rfl rfl
  · simp only [bind_eq_ok, pure_eq_ok, Prod.mk.injEq] at h
    obtain ⟨qty, -, avgPrice, -, rfl, -⟩ := h
    exact posts_of_eq rfl rfl

def rowCents (c : OpeningCharges) : ℤ :=
  (if 0 < c.commission then cents (negate c.commissionPosted) else 0) +
    if 0 < c.spread then cents (negate c.spreadPosted) else 0

def Explained (c : OpeningCharges) (balance : ℤ) : Prop :=
  (0 < c.commission ∨ 0 < c.spread) → |cents c.balance| < 10 ^ 12 →
    (0 < c.commission → |cents (negate c.commissionPosted)| < 10 ^ 18) →
    (0 < c.spread → |cents (negate c.spreadPosted)| < 10 ^ 18) → cents c.balance = balance + rowCents c

lemma postCharges_drift (h : postCharges s k c info = .ok s') (ha : s.accounts.get k = some a)
    (hinfo : writtenOff info = 0) (hc : Explained c a.balance.units) : drift s' j = drift s j := by
  simp only [postCharges, bind_eq_ok] at h
  obtain ⟨s1, hcommission, s2, hspread, hsave⟩ := h
  obtain ⟨hposts1, hfits1⟩ := postEntryIf_posts hcommission
  obtain ⟨hposts2, hfits2⟩ := postEntryIf_posts hspread
  have hposts := hposts1.trans hposts2
  rw [hinfo, add_zero, add_zero] at hposts
  by_cases hcharged : 0 < c.commission ∨ 0 < c.spread
  · rw [if_pos hcharged] at hsave
    exact saveBalance_drift hposts ha hsave fun hfits => hc hcharged hfits hfits1 hfits2
  · rw [if_neg hcharged, pure_eq_ok] at hsave
    rw [not_or] at hcharged
    rw [← hsave, hposts.drift, if_neg hcharged.1, if_neg hcharged.2]
    simp

lemma allocated_explained {commission spread : ℚ} (h : allocated a.balance.value commission spread = .ok c) :
    Explained c a.balance.units := by
  simp only [allocated, bind_eq_ok, pure_eq_ok, mapError_eq_ok, Prod.exists] at h
  obtain ⟨posted, commissionPosted, spreadPosted, hallocate, rfl⟩ := h
  exact cents_allocated hallocate

lemma dbOpenPositionAtomic_drift {o : Open} {r : OpenResult} (h : dbOpenPositionAtomic s o = .ok (s', r)) :
    drift s' j = drift s j := by
  simp only [dbOpenPositionAtomic, bind_eq_ok, require_eq_ok] at h
  obtain ⟨a, ha, h⟩ := h
  split at h
  · exact drift_of_ok h rfl
  · simp only [bind_eq_ok, pure_eq_ok, Prod.exists, Prod.mk.injEq] at h
    obtain ⟨s1, position, merged, hexecute, charges, hcharges, s2, hpost, rfl, -⟩ := h
    have hposts := execute_posts hexecute
    rw [postCharges_drift hpost (hposts.accounts ▸ ha) rfl (allocated_explained hcharges), hposts.drift]
    simp

def CommissionExact (balance commission : ℚ) : Prop :=
  0 < commission → ¬ Broken balance (-commission) ∧ ¬ Lifted commission

def TriggerExact (s : Floor) (t : Trigger) : Prop :=
  t.spreadFeeEnabled = false → ∀ po ∈ s.orders.get t.order, po.status = .pending →
    ∀ a ∈ s.accounts.get po.account, CommissionExact a.balance.value t.commission

lemma charges_explained {t : Trigger} {spread : ℚ} (hspread : t.spread = .ok spread)
    (h : t.charges a.balance.value spread = .ok c)
    (hexact : t.spreadFeeEnabled = false → CommissionExact a.balance.value t.commission) :
    Explained c a.balance.units := by
  cases henabled : t.spreadFeeEnabled with
  | true =>
    simp only [Trigger.charges, henabled, if_true] at h
    exact allocated_explained h
  | false =>
    simp only [Trigger.spread, Trigger.charges, henabled, Bool.false_eq_true, if_false, pure_eq_ok] at hspread h
    subst hspread
    subst h
    intro hcharged hbalance hfits _
    have hpos : 0 < t.commission := by simpa using hcharged
    have hmax : max t.commission 0 = t.commission := max_eq_left hpos.le
    obtain ⟨hbroken, hlifted⟩ := hexact henabled hpos
    simp only [hmax, minus, sub_eq_add_neg] at hbalance hfits ⊢
    have hrow := cents_negate hpos.le (hfits hpos) hlifted
    have hsmall := abs_lt_of_cents_context (hbalance.trans (by norm_num))
    simp only [rowCents, hpos, if_true, lt_irrefl, if_false, add_zero, hrow]
    exact (cents_plus_iff hsmall).mpr hbroken

lemma drift_setStatus (s : Floor) (order : ℕ) (status : OrderStatus) :
    drift (setStatus s order status) j = drift s j := rfl

/-- A trigger that opens its order: it is pending, early and refused by nothing, and its fill and charges are written. -/
structure OpensOrder (s s' : Floor) (t : Trigger) (po : PendingOrder) (a : TradingAccount) (id : ℕ) (merged : Bool) :
    Prop where
  row : s.orders.get t.order = some po
  pending : po.status = .pending
  early : t.due = false
  atPrice : t.refusedAtPrice = none
  account : s.accounts.get po.account = some a
  byLimits : t.refusedByLimits = none
  written : ∃ spread s1 charges s2, t.spread = .ok spread ∧ execute s po.account (t.fill po) = .ok (s1, id, merged) ∧
    t.charges a.balance.value spread = .ok charges ∧
    postCharges s1 po.account charges (.opening po.symbol po.side id (some t.order)) = .ok s2 ∧
    s' = setStatus s2 t.order (.triggered id)

/-- A trigger that raises nothing leaves the floor as it was but for the status of its order, or opens it. -/
lemma trigger_ok {t : Trigger} {r : TriggerResult} (h : triggerPendingOrderCore s t = .ok (s', r)) :
    (r = .notPending ∧ s' = s) ∨ (r = .expired ∧ s' = setStatus s t.order .expired) ∨
      (∃ code, r = .rejected code ∧ s' = setStatus s t.order .rejected) ∨
      ∃ po a id merged, r = .triggered id merged ∧ OpensOrder s s' t po a id merged := by
  rw [triggerPendingOrderCore] at h
  split at h
  · cases h
    exact Or.inl ⟨rfl, rfl⟩
  · next po hrow =>
    dsimp only at h
    split at h
    · cases h
      exact Or.inl ⟨rfl, rfl⟩
    · next hpending =>
      split at h
      · cases h
        exact Or.inr (Or.inl ⟨rfl, rfl⟩)
      · next hearly =>
        split at h
        · cases h
          exact Or.inr (Or.inr (Or.inl ⟨_, rfl, rfl⟩))
        · cases h
          exact Or.inr (Or.inr (Or.inl ⟨_, rfl, rfl⟩))
        · next a hprice ha =>
          obtain ⟨spread, hspread, h⟩ := bind_eq_ok.mp h
          split at h
          · cases h
            exact Or.inr (Or.inr (Or.inl ⟨_, rfl, rfl⟩))
          · next hlimits =>
            simp only [bind_eq_ok, pure_eq_ok, Prod.exists, Prod.mk.injEq] at h
            obtain ⟨s1, position, merged, hexecute, charges, hcharges, s2, hpost, rfl, rfl⟩ := h
            exact Or.inr (Or.inr (Or.inr ⟨po, a, position, merged, rfl, hrow, not_not.mp hpending,
              Bool.eq_false_iff.mpr hearly, hprice, ha, hlimits, spread, s1, charges, s2, hspread, hexecute, hcharges,
              hpost, rfl⟩))

lemma triggerPendingOrderCore_drift {t : Trigger} {r : TriggerResult} (h : triggerPendingOrderCore s t = .ok (s', r))
    (hexact : TriggerExact s t) : drift s' j = drift s j := by
  obtain ⟨-, rfl⟩ | ⟨-, rfl⟩ | ⟨code, -, rfl⟩ | ⟨po, a, id, merged, -, hopens⟩ := trigger_ok h
  · rfl
  · exact drift_setStatus _ _ _
  · exact drift_setStatus _ _ _
  · obtain ⟨spread, s1, charges, s2, hspread, hexecute, hcharges, hpost, rfl⟩ := hopens.written
    have hposts := execute_posts hexecute
    have ha := hopens.account
    have hexplained := charges_explained hspread hcharges fun hoff => hexact hoff po hopens.row hopens.pending a ha
    rw [drift_setStatus, postCharges_drift hpost (hposts.accounts ▸ ha) rfl hexplained, hposts.drift]
    simp

end Opening

section Closing

variable {s s' : Floor} {k j : ℕ} {a : TradingAccount} {c : Close}

def CloseExact (s : Floor) (c : Close) : Prop :=
  (lockedPosition s c).isSome → ∀ a ∈ s.accounts.get c.account, ∀ pnl ∈ c.pnlAccount,
    ¬ Broken a.balance.value pnl

lemma realize_posts {p : Position} {pnl safe equity : ℚ} (h : realize s a c p pnl = .ok (s', safe, equity))
    (hexact : ¬ Broken a.balance.value pnl) :
    ∃ n, Posts s s' c.account n ∧ cents safe = a.balance.units + n := by
  simp only [realize, bind_eq_ok, pure_eq_ok, Prod.mk.injEq] at h
  obtain ⟨s1, hrow, s2, hguard, rfl, rfl, -⟩ := h
  obtain ⟨hposts1, hfits⟩ := postEntry_posts hrow
  obtain ⟨hposts2, -⟩ := postEntryIf_posts hguard
  refine ⟨_, hposts1.trans hposts2, ?_⟩
  have hsum := (cents_plus_iff (abs_balance_add_lt hfits)).mpr hexact
  rcases le_or_gt 0 (plus a.balance.value pnl) with hle | hlt
  · rw [min_eq_right hle, max_eq_left hle, hsum]
    simp [writtenOff]
  · rw [min_eq_left hlt.le, max_eq_right hlt.le, if_pos (abs_pos.mpr hlt.ne), abs_of_neg hlt]
    simp only [writtenOff, cents_neg, cents_zero, hsum]
    ring

lemma reducePosition_posts {position : ℕ} {p : Position} {qty : ℚ}
    (h : reducePosition s position p qty = .ok s') : Posts s s' k 0 := by
  rw [reducePosition] at h
  split at h
  · rw [Except.ok.injEq] at h
    subst h
    exact posts_of_eq rfl rfl
  · simp only [bind_eq_ok, pure_eq_ok] at h
    obtain ⟨rest, -, rfl⟩ := h
    exact posts_of_eq rfl rfl

lemma closePosition_drift {r : CloseResult} (h : closePosition s c = .ok (s', r)) (hexact : CloseExact s c) :
    drift s' j = drift s j := by
  rw [closePosition] at h
  split at h
  · exact drift_of_ok h rfl
  · next p hp =>
    dsimp only at h
    split at h
    · exact drift_of_ok h rfl
    · split at h
      · exact drift_of_ok h rfl
      · split at h
        · exact drift_of_ok h rfl
        · next pnl hpnl =>
          simp only [bind_eq_ok, require_eq_ok, pure_eq_ok, Prod.exists, Prod.mk.injEq] at h
          obtain ⟨a, ha, s1, safe, equity, hrealize, s2, hreduce, s3, hsave, rfl, -⟩ := h
          obtain ⟨n, hposts, hcents⟩ := realize_posts hrealize (hexact (by rw [hp]; rfl) a ha pnl hpnl)
          have hall := hposts.trans (reducePosition_posts hreduce)
          rw [add_zero] at hall
          exact saveBalanceEquity_drift hall ha hsave hcents

lemma closeNext_posts {f : ForceClose} {rows : List (ℕ × String)} {running final : ℚ}
    (h : rows.foldlM (closeNext f) (s, running) = .ok (s', final)) :
    Posts s s' f.account (roundedSum (rows.map fun r => f.pnl r.1)) ∧
      final = running + (rows.map fun r => f.pnl r.1).sum := by
  induction rows generalizing s running with
  | nil =>
    rw [List.foldlM_nil, pure_eq_ok, Prod.mk.injEq] at h
    obtain ⟨rfl, rfl⟩ := h
    exact ⟨posts_of_eq rfl rfl, by simp⟩
  | cons r rows ih =>
    rw [List.foldlM_cons, bind_eq_ok] at h
    obtain ⟨⟨s1, next⟩, hnext, h⟩ := h
    simp only [closeNext, bind_eq_ok, pure_eq_ok, Prod.mk.injEq] at hnext
    obtain ⟨s2, hrow, rfl, rfl⟩ := hnext
    obtain ⟨hposts, hfinal⟩ := ih h
    obtain ⟨hrow, -⟩ := postEntry_posts hrow
    have hdelete : Posts s2 (deletePosition s2 r.1) f.account 0 := posts_of_eq rfl rfl
    have hall := (hrow.trans hdelete).trans hposts
    have hnone : writtenOff (.adminForceClose r.2) = 0 := rfl
    rw [hnone, add_zero, add_zero] at hall
    refine ⟨?_, ?_⟩
    · rwa [List.map_cons, roundedSum, List.map_cons, List.sum_cons]
    · rw [hfinal, List.map_cons, List.sum_cons]
      ring

def BatchesExact (s : Floor) (f : ForceClose) : Prop :=
  ∀ a ∈ s.accounts.get f.account, BatchExact a.balance.units ((f.batch s).map fun r => f.pnl r.1)

lemma forceClose_drift {f : ForceClose} (h : forceClose s f = .ok s') (hexact : BatchesExact s f) :
    drift s' j = drift s j := by
  simp only [forceClose, bind_eq_ok, require_eq_ok, Prod.exists] at h
  obtain ⟨a, ha, s1, running, hbatch, hsave⟩ := h
  obtain ⟨hposts, rfl⟩ := closeNext_posts hbatch
  exact saveBalanceEquity_drift hposts ha hsave ((cents_batch_iff _ _).mpr (hexact a ha))

end Closing

section Runs

variable {j : ℕ}

lemma ruleEntry_drift {s s' : Floor} {k : ℕ} {message : String} (h : ruleEntry s k message = .ok s') :
    drift s' j = drift s j := by
  simp only [ruleEntry, bind_eq_ok, require_eq_ok] at h
  obtain ⟨a, -, h⟩ := h
  rw [(postEntry_posts h).1.drift]
  simp [writtenOff]

/-- No half cent parts the balance that a call writes from the rows that it posts. -/
def Exact (s : Floor) : Call → Prop
  | .triggerPendingOrder t => TriggerExact s t
  | .closeWs c | .closeDaemon c => CloseExact s c
  | .forceClose f => BatchesExact s f
  | .openPosition _ | .placeOrder .. | .ruleEntry .. => True

instance decidableExact (s : Floor) : ∀ c : Call, Decidable (Exact s c)
  | .triggerPendingOrder t => by
    unfold Exact TriggerExact CommissionExact
    infer_instance
  | .closeWs c => by
    unfold Exact CloseExact
    infer_instance
  | .closeDaemon c => by
    unfold Exact CloseExact
    infer_instance
  | .forceClose f => by
    unfold Exact BatchesExact
    infer_instance
  | .openPosition _ | .placeOrder .. | .ruleEntry .. => .isTrue trivial

lemma commit_drift {α : Type} {s : Floor} {x : Except TradeError (Floor × α)}
    (h : ∀ s' r, x = .ok (s', r) → drift s' j = drift s j) : drift (commit s (x.map Prod.fst)) j = drift s j := by
  refine commit_rule _ _ rfl fun s' hok => ?_
  obtain ⟨r, hr, rfl⟩ := map_eq_ok.mp hok
  exact h r.1 r.2 hr

lemma call_drift (s : Floor) (c : Call) (hexact : Exact s c) : drift (call s c) j = drift s j := by
  cases c with
  | openPosition o => exact commit_drift fun _ _ => dbOpenPositionAtomic_drift
  | placeOrder account symbol side qty => rfl
  | triggerPendingOrder t => exact commit_drift fun _ _ h => triggerPendingOrderCore_drift h hexact
  | closeWs c => exact commit_drift fun _ _ h => closePosition_drift h hexact
  | closeDaemon c => exact commit_drift fun _ _ h => closePosition_drift h hexact
  | forceClose f =>
    rw [call]
    exact commit_rule _ _ rfl fun _ h => forceClose_drift h hexact
  | ruleEntry account message =>
    rw [call]
    exact commit_rule _ _ rfl fun _ h => ruleEntry_drift h

/-- From any start and through any calls that no half cent parts, the balance moves by what is posted and by
what the guard writes off. -/
theorem balance_reconciled (s : Floor) (calls : List Call) (hexact : Guarded call Exact s calls) (k : ℕ) :
    balance (run call s calls) k = balance s k + (posted (run call s calls) k - posted s k) +
      (shortfalls (run call s calls) k - shortfalls s k) := by
  have hframe := guarded_frame (I := fun _ => True) (f := fun s => drift s k) (fun _ _ _ _ => trivial)
    (fun s c _ hc => call_drift s c hc) trivial hexact
  simp only [drift] at hframe
  omega

def oneAccount : Floor where
  accounts := Table.empty.insert
    { user := none, accountType := .retail, balance := .ofUnits 10000, equity := .ofUnits 10000,
      peakBalance := .ofUnits 10000, initialBalance := none }
  entries := Table.empty
  positions := Table.empty
  orders := Table.empty

def marketOpen (commission spreadRevenue : ℚ) : Call :=
  .openPosition
    { account := 0, fill := ⟨"EUR/USD", .buy, 1, 11 / 10, false⟩, commission, spreadRevenue, admitted := true }

def placeMicroLot : Call := .placeOrder 0 "EUR/USD" .buy (.ofUnits 10000)

def triggerOf (order : ℕ) (spreadCharge : Option ℚ) (commission : ℚ) : Call :=
  .triggerPendingOrder
    { order, due := false, executionPrice := 1, refusedAtPrice := none, spreadFeeEnabled := spreadCharge.isSome,
      spreadCharge, refusedByLimits := none, nettingMode := false, commission }

def closeOf (position : ℕ) (closeQty : Option ℚ) (pnl : ℚ) : Close :=
  { account := 0, position, closeQty, pnlAccount := some pnl, newBalance := 0, newEquity := 0, reason := "manual" }

def tradingDay : List Call :=
  [marketOpen (31 / 1000) (24 / 1000), placeMicroLot, triggerOf 0 (some (1 / 3)) (2 / 3),
    .closeWs (closeOf 0 (some (1 / 2)) (251 / 100)), .closeDaemon (closeOf 0 none (-300)), marketOpen 0 0,
    .forceClose { account := 0, symbol := none, pnl := fun i => i + 1 / 1000 }]

theorem balance_reconciled_example :
    balance (run call oneAccount tradingDay) 0 = balance oneAccount 0 +
      (posted (run call oneAccount tradingDay) 0 - posted oneAccount 0) +
      (shortfalls (run call oneAccount tradingDay) 0 - shortfalls oneAccount 0) :=
  balance_reconciled oneAccount tradingDay (by decide +kernel) 0

/-- Balance and posted cents of an account that starts with 100.00: a loss beyond the balance, a close and a
commission that end on a half cent, and a batch of two fractions of a cent. -/
theorem rows_alone_do_not_reconcile :
    (fun s => (balance s 0, posted s 0)) (run call oneAccount [marketOpen 0 0, .closeWs (closeOf 0 none (-150))]) =
        (0, -15000) ∧
      (fun s => (balance s 0, posted s 0))
        (run call oneAccount [marketOpen 0 0, .closeDaemon (closeOf 0 none (-5 / 1000))]) = (10000, -1) ∧
      (fun s => (balance s 0, posted s 0))
        (run call oneAccount [placeMicroLot, triggerOf 0 none (5 / 1000)]) =
        (10000, -1) ∧
      (fun s => (balance s 0, posted s 0))
        (run call oneAccount [marketOpen 0 0, marketOpen 0 0,
          .forceClose { account := 0, symbol := none, pnl := fun _ => 4 / 1000 }]) = (10001, 0) := by
  decide +kernel

end Runs

end TrxSimulator.Trading.Reconciliation
