import TrxSimulator.Withdrawals.Authorized

/-! Where withdrawals go. The form reads the active wallet, the challenge freezes its address, and the
withdrawal is opened from the challenge, at any later time, without another look at the wallets. -/

namespace TrxSimulator.Withdrawals.Destinations

open Foundations.Tables Foundations.Outcomes Foundations.Decimals Foundations.Runs Money Accounts Wallets.Ledger
open Otp Effects Authorized
open Addresses (Registry Route VerifiedWallet due onRoute)

/-- The tellers, and the forms of `withdraw_view` that are valid but have not created their challenge. -/
structure Desk where
  teller : Teller
  forms : Table (Option Payload)

/-- `WithdrawForm.clean` and the payload that the view makes of it. -/
def withdrawForm (s : Teller) (user wallet : ℕ) (crypto : String) (amountUsd : Option Balance) (withdrawAll : Bool) :
    Option Payload :=
  (s.registry.wallets.get wallet).bind fun w =>
    if w.user = user ∧ w.status = .active ∧ currencyByAssetNetwork w.asset w.network = some crypto then
      some { user := user, purpose := .withdrawal, amountUsd := amountUsd, withdrawAll := withdrawAll,
             asset := w.asset, network := w.network, walletAddress := w.address }
    else none

inductive Action
  | submitForm (user wallet : ℕ) (crypto : String) (amountUsd : Option Balance) (withdrawAll : Bool)
  | createChallenge (form : ℕ) (code : String) (now : ℤ)
  | teller (action : Otp.Action)

def asksWithdrawal (action : Otp.Action) : Bool := (requested action).any fun p => p.purpose = .withdrawal

/-- A challenge for a withdrawal comes from a form and from nowhere else. -/
def step (cfg : Settings) (s : Desk) : Action → Desk
  | .submitForm user wallet crypto amountUsd withdrawAll =>
    match withdrawForm s.teller user wallet crypto amountUsd withdrawAll with
    | some p => { s with forms := s.forms.insert (some p) }
    | none => s
  | .createChallenge form code now =>
    match (s.forms.get form).join with
    | some p => { teller := create cfg s.teller p code now, forms := s.forms.update form fun _ => none }
    | none => s
  | .teller action =>
    if asksWithdrawal action = true then s else { s with teller := Otp.step cfg s.teller action }

def challenged (c : Challenge) : Option Payload :=
  if c.purpose = .withdrawal ∧ c.status.nonTerminal = true then some c.toPayload else none

def finalizing (c : Call) : Option Payload :=
  if c.seen.purpose = .withdrawal ∧ c.seen.status = .verified then some c.seen.toPayload else none

/-- The withdrawals that may still be opened: forms, living challenges, and requests that saw one verified. -/
def underway (s : Desk) : List Payload :=
  s.forms.rows.filterMap (fun r => r.2) ++ s.teller.challenges.rows.filterMap (fun r => challenged r.2) ++
    s.teller.calls.rows.filterMap fun r => r.2.bind finalizing

def routeOf (p : Payload) : Route := ⟨p.user, p.asset, p.network⟩

def nextDue (r : Registry) (call : ℕ) : Option VerifiedWallet :=
  match r.calls.get call with
  | some (pk :: _) => (r.wallets.get pk).filter (due r.clock)
  | _ => none

/-- An activation leaves the destination of every withdrawal under way in place. -/
def Undisturbed (s : Desk) : Action → Prop
  | .teller (.addresses (.activateNext call _)) =>
    ∀ w ∈ nextDue s.teller.registry call, ∀ p ∈ underway s, routeOf p = w.toRoute → p.walletAddress = w.address
  | _ => True

def Active (r : Registry) (route : Route) (address : String) : Prop :=
  ∃ i w, r.wallets.get i = some w ∧ w.toRoute = route ∧ w.status = .active ∧ w.address = address

/-- The address of the active wallet of the route. -/
def Destination (r : Registry) (route : Route) (address : String) : Prop :=
  Active r route address ∧ ∀ a, Active r route a → a = address

structure Destined (s s' : Teller) (w : Withdrawal) : Prop where
  challenge : ∃ k c, w.otpChallenge = some k ∧ s.challenges.get k = some c ∧ w.user = c.user ∧
    currencyByAssetNetwork c.asset c.network = some w.cryptoCurrency ∧
    Destination s.registry ⟨c.user, c.asset, c.network⟩ w.walletAddress
  debited : ∃ t row, w.debitTx = some t ∧ s.ledger.transactions.get t = none ∧
    s'.ledger.transactions.get t = some row ∧ row.txType = .withdraw ∧ row.amount.units = -w.amountUsd.units

variable {cfg : Settings} {s s' : Teller} {p : Payload}

section Wallets

variable {r r' : Registry} {route : Route} {address : String} {cooldown : ℤ}

lemma active_of_wallets (h : r'.wallets = r.wallets) (ha : Active r route address) : Active r' route address := by
  rwa [Active, h]

lemma active_insert {w : VerifiedWallet} (h : r'.wallets = r.wallets.insert w) (ha : Active r route address) :
    Active r' route address := by
  obtain ⟨i, v, hv, hrest⟩ := ha
  exact ⟨i, v, h ▸ Table.get_insert_of_get hv w, hrest⟩

lemma active_activated {pk : ℕ} {pending : VerifiedWallet} {now : ℤ} (hpending : r.wallets.get pk = some pending)
    (hrows : ∀ i, r'.wallets.get i = (r.wallets.get i).map (Addresses.replaced pk pending.toRoute now i))
    (hdue : pending.status ≠ .active) (hsame : route = pending.toRoute → address = pending.address)
    (ha : Active r route address) : Active r' route address := by
  by_cases hroute : route = pending.toRoute
  · refine ⟨pk, Addresses.activate now pending, ?_, hroute.symm, rfl, (hsame hroute).symm⟩
    rw [hrows, hpending, Option.map_some, Addresses.replaced, if_pos rfl]
  · obtain ⟨i, v, hv, hvroute, hactive, haddress⟩ := ha
    refine ⟨i, v, ?_, hvroute, hactive, haddress⟩
    rw [hrows, hv, Option.map_some, Addresses.replaced, if_neg, if_neg]
    · intro hon
      exact hroute (hvroute ▸ (Addresses.onRoute_iff.mp hon).1)
    · rintro rfl
      rw [hpending, Option.some.injEq] at hv
      exact hdue (hv ▸ hactive)

lemma destination_of_active (hs : Addresses.Sound cooldown r) (ha : Active r route address) :
    Destination r route address := by
  refine ⟨ha, fun a ha' => ?_⟩
  obtain ⟨i, v, hv, hvroute, hactive, rfl⟩ := ha
  obtain ⟨j, w, hw, hwroute, hactive', rfl⟩ := ha'
  obtain rfl := hs.unique hv hw (hvroute.trans hwroute.symm) (hactive.trans hactive'.symm) (Or.inl hactive)
  rw [hv, Option.some.injEq] at hw
  rw [hw]

lemma activateNext_active {call delay : ℕ} (hsame : ∀ w ∈ nextDue r call, route = w.toRoute → address = w.address)
    (ha : Active r route address) : Active (Addresses.activateNext r call delay) route address := by
  rw [Addresses.activateNext]
  split
  · exact ha
  · exact ha
  · next pk rest hcall =>
    refine commit_rule _ _ ?_ fun r' hok => ?_
    · exact ha
    · obtain ⟨-, rfl | ⟨pending, hpending, hdue, -, hrows⟩⟩ := Addresses.tryActivate_ok hok
      · exact ha
      · have hnext : nextDue r call = some pending := by
          rw [nextDue, hcall]
          exact Option.filter_eq_some_iff.mpr ⟨hpending, hdue⟩
        refine active_activated hpending hrows ?_ (hsame pending (hnext ▸ rfl)) ha
        rw [(Addresses.due_iff.mp hdue).1]
        simp

lemma tryActivate_due (delay : ℕ) {pk : ℕ} {pending : VerifiedWallet} (hs : Addresses.Sound cooldown r)
    (hget : r.wallets.get pk = some pending) (hdue : due r.clock pending = true) :
    ∃ r', Addresses.tryActivate r pk delay = .ok r' ∧
      r'.wallets.get pk = some (Addresses.activate (r.clock + delay) pending) := by
  have hfree : (Addresses.deactivateOld r.wallets pending.toRoute (r.clock + delay)).exists?
      (onRoute pending.toRoute .active) = false := by
    rw [Bool.eq_false_iff]
    intro hexists
    obtain ⟨i, v, hv, hon⟩ := Table.exists?_iff.mp hexists
    obtain ⟨hroute, hactive⟩ := Addresses.onRoute_iff.mp hon
    rcases Addresses.deactivateOld_get r.wallets pending.toRoute (r.clock + delay) i with hsame | ⟨u, -, -, -, hold⟩
    · rw [hsame] at hv
      cases hfirst : r.wallets.first (onRoute pending.toRoute .active) with
      | none =>
        rw [Table.first_none hfirst hv] at hon
        cases hon
      | some row =>
        obtain ⟨j, u⟩ := row
        obtain ⟨hu, hon'⟩ := Table.first_some hfirst
        obtain ⟨hroute', hactive'⟩ := Addresses.onRoute_iff.mp hon'
        obtain rfl := hs.unique hu hv (hroute'.trans hroute.symm) (hactive'.trans hactive.symm) (Or.inl hactive')
        rw [Addresses.deactivateOld, hfirst, Table.get_update_self hu, hu, Option.some.injEq] at hsame
        rw [← hsame] at hactive'
        cases hactive'
    · rw [hold, Option.some.injEq] at hv
      rw [← hv] at hactive
      cases hactive
  simp only [Addresses.tryActivate, hget, hdue, Bool.true_eq_false, if_false, hfree, Bool.false_eq_true]
  refine ⟨_, rfl, ?_⟩
  rcases Addresses.deactivateOld_get r.wallets pending.toRoute (r.clock + delay) pk with hsame | ⟨v, hv, -, hactive, -⟩
  · exact Table.get_update_self (hsame.trans hget) _
  · rw [hget, Option.some.injEq] at hv
    rw [← hv, (Addresses.due_iff.mp hdue).1] at hactive
    cases hactive

lemma activateNext_stale {call delay : ℕ} {w : VerifiedWallet} (hs : Addresses.Sound cooldown r)
    (hnext : nextDue r call = some w) (hother : address ≠ w.address) :
    ¬ Active (Addresses.activateNext r call delay) w.toRoute address := by
  have hlater : Addresses.Sound cooldown (Addresses.activateNext r call delay) :=
    Addresses.step_sound hs (.activateNext call delay)
  suffices hactive : Active (Addresses.activateNext r call delay) w.toRoute w.address from fun ha =>
    hother ((destination_of_active hlater hactive).2 address ha)
  rw [nextDue] at hnext
  split at hnext
  · next pk rest hcall =>
    obtain ⟨hget, hdue⟩ := Option.filter_eq_some_iff.mp hnext
    have hrest : Addresses.Sound cooldown { r with calls := r.calls.update call fun _ => rest } :=
      ⟨hs.registered, hs.timed, hs.cooled, hs.order⟩
    obtain ⟨r', hok, hactive⟩ := tryActivate_due delay hrest hget hdue
    have hafter : Addresses.activateNext r call delay = r' := by
      simp only [Addresses.activateNext, hcall, hok]
      rfl
    rw [hafter]
    exact ⟨pk, Addresses.activate (r.clock + delay) w, hactive, rfl, rfl, rfl⟩
  · cases hnext

end Wallets

section Tellers

variable {wrong : ℕ → Bool}

def Waiting (s : Teller) (p : Payload) : Prop :=
  (∃ k c, s.challenges.get k = some c ∧ challenged c = some p) ∨ ∃ i c, s.call i = some c ∧ finalizing c = some p

lemma challenged_iff {c : Challenge} : challenged c = some p ↔
    c.purpose = .withdrawal ∧ c.status.nonTerminal = true ∧ c.toPayload = p := by
  rw [challenged]
  split
  · next h => simp [h.1, h.2]
  · next h =>
    constructor
    · exact nofun
    · rintro ⟨hpurpose, hlive, -⟩
      exact (h ⟨hpurpose, hlive⟩).elim

lemma finalizing_iff {c : Call} : finalizing c = some p ↔
    c.seen.purpose = .withdrawal ∧ c.seen.status = .verified ∧ c.seen.toPayload = p := by
  rw [finalizing]
  split
  · next h => simp [h.1, h.2]
  · next h =>
    constructor
    · exact nofun
    · rintro ⟨hpurpose, hverified, -⟩
      exact (h ⟨hpurpose, hverified⟩).elim

lemma waiting_challenge {s : Teller} {t : Table Challenge} (h : Table.Related (fun i => Evolves (wrong i)) s.challenges t)
    {k : ℕ} {c : Challenge} (hc : t.get k = some c) (hp : challenged c = some p) :
    ∃ a, s.challenges.get k = some a ∧ challenged a = some p := by
  obtain ⟨a, ha, he⟩ := h.back hc
  obtain ⟨hpurpose, hlive, rfl⟩ := challenged_iff.mp hp
  refine ⟨a, ha, challenged_iff.mpr ⟨?_, he.nonTerminal hlive, he.payload.symm⟩⟩
  exact (congrArg Payload.purpose he.payload).symm.trans hpurpose

lemma challenges_step {s : Teller} (hcalls : CallsOk s) (action : Otp.Action) {k : ℕ} {c : Challenge}
    (hc : (Otp.step cfg s action).challenges.get k = some c) (hp : challenged c = some p) :
    (∃ a, s.challenges.get k = some a ∧ challenged a = some p) ∨ requested action = some p := by
  cases (Effects.step_effect cfg hcalls action).1 with
  | quiet h => exact Or.inl (waiting_challenge h.challenges hc hp)
  | created t new hchallenges _ hpayload _ hinsert =>
    rw [hinsert] at hc
    rcases Table.get_insert_some hc with hold | ⟨-, rfl⟩
    · exact Or.inl (waiting_challenge hchallenges hold hp)
    · rw [hpayload, ← (challenged_iff.mp hp).2.2]
      exact Or.inr rfl
  | withdrawn l hl htransactions hquiet f howner hpurpose hseen =>
    exact Or.inl (waiting_challenge (f.challenges ▸ used_evolves hseen f.verified) hc hp)

lemma call_setCall {s : Teller} {call i : ℕ} {o : Option Call} {c : Call} (h : (s.setCall call o).call i = some c) :
    o = some c ∨ s.call i = some c := by
  rw [Teller.call, Option.join_eq_some_iff] at h
  obtain ⟨x, hx, heq⟩ := Table.get_update_some h
  split at heq
  · exact Or.inl heq.symm
  · rw [Teller.call, hx, ← heq]
    exact Or.inr rfl

def SeenBefore (s : Teller) (c : Call) : Prop :=
  (∃ j c', s.call j = some c' ∧ c'.seen = c.seen) ∨
    ∃ k row, s.challenges.get k = some row ∧ row.toPayload = c.seen.toPayload ∧ row.status.nonTerminal = true

lemma seenBefore_same {s : Teller} {i : ℕ} {c : Call} (h : s.call i = some c) : SeenBefore s c :=
  Or.inl ⟨i, c, h, rfl⟩

lemma seenBefore_calls {s t : Teller} {i : ℕ} {c : Call} (ht : t.calls = s.calls) (h : t.call i = some c) :
    SeenBefore s c := by
  rw [Teller.call, ht] at h
  exact seenBefore_same h

lemma expireIfStale_seen {s : Teller} {call i : ℕ} {now : ℤ} {c : Call} (h : (expireIfStale s call now).call i = some c)
    (hverified : c.seen.status = .verified) : SeenBefore s c := by
  rw [expireIfStale] at h
  split at h
  · exact seenBefore_same h
  · split at h
    · rcases call_setCall h with hnew | hold
      · cases hnew
        cases hverified
      · exact seenBefore_same hold
    · exact seenBefore_same h

lemma resendChallenge_seen {s : Teller} {call i : ℕ} {now : ℤ} {c : Call}
    (h : (resendChallenge cfg s call now).call i = some c) (hverified : c.seen.status = .verified) : SeenBefore s c := by
  rw [resendChallenge] at h
  split at h
  · exact seenBefore_same h
  · split at h
    · exact seenBefore_same h
    · dsimp only at h
      split at h
      · exact expireIfStale_seen h hverified
      · next c' hc' =>
        split at h
        · exact expireIfStale_seen h hverified
        · next hpending =>
          rw [not_or, not_not] at hpending
          rcases call_setCall h with hnew | hold
          · cases hnew
            rw [hpending.1] at hverified
            cases hverified
          · exact expireIfStale_seen hold hverified

lemma verify_seen {s : Teller} {call i : ℕ} {code : String} {now : ℤ} {c : Call}
    (h : (verify cfg s call code now).call i = some c) : SeenBefore s c := by
  rw [verify] at h
  split at h
  · exact seenBefore_same h
  · next c' hc' =>
    split at h
    · exact seenBefore_same h
    · next hopen =>
      rw [not_or, not_not, not_not] at hopen
      rcases call_setCall h with hnew | hold
      · split at hnew
        · next row hrow =>
          cases hnew
          obtain ⟨hget, hverified⟩ := verifyChallenge_verified hrow
          obtain ⟨a, ha, he⟩ := (verify_challenges cfg code now hc' hopen.1 hopen.2).back hget
          exact Or.inr ⟨_, a, ha, he.payload.symm, he.nonTerminal (by rw [hverified]; rfl)⟩
        · cases hnew
      · exact seenBefore_same hold

lemma finalize_seen {s : Teller} {call i : ℕ} {now : ℤ} {c : Call}
    (h : (finalize cfg s call now).call i = some c) : SeenBefore s c := by
  have hset : ∀ {t : Teller}, t.calls = (s.setCall call none).calls → t.call i = some c → SeenBefore s c := by
    intro t ht hc
    rw [Teller.call, ht] at hc
    rcases call_setCall hc with hnew | hold
    · cases hnew
    · exact seenBefore_same hold
  rw [finalize] at h
  split at h
  · exact seenBefore_same h
  · split at h
    · exact seenBefore_same h
    · dsimp only at h
      split at h
      · revert h
        refine commit_rule (motive := fun t : Teller => t.call i = some c → SeenBefore s c) _ _ ?_ fun s' hok => ?_
        · exact hset rfl
        · obtain ⟨registry, -, rfl⟩ := finalizeAddress_ok hok
          exact hset rfl
      · revert h
        refine commit_rule (motive := fun t : Teller => t.call i = some c → SeenBefore s c) _ _ ?_ fun s' hok => ?_
        · exact hset rfl
        · exact hset (finalizeWithdrawal_ok hok).2

lemma call_step {s : Teller} (action : Otp.Action) {i : ℕ} {c : Call} (h : (Otp.step cfg s action).call i = some c)
    (hverified : c.seen.status = .verified) : SeenBefore s c := by
  cases action with
  | create payload code now =>
    revert h
    refine commit_rule (motive := fun t : Teller => t.call i = some c → SeenBefore s c) _ _ ?_ fun s' hok => ?_
    · exact seenBefore_calls rfl
    · obtain ⟨t, new, -, -, -, -, -, rfl⟩ := createChallenge_ok hok
      exact seenBefore_calls rfl
  | openChallenge user challenge purpose =>
    rw [Otp.step, openChallenge] at h
    split at h
    · exact seenBefore_same h
    · next row hrow =>
      split at h
      · rw [Teller.call, Option.join_eq_some_iff] at h
        rcases Table.get_insert_some h with hold | ⟨-, hnew⟩
        · exact seenBefore_same (Option.join_eq_some_iff.mpr hold)
        · cases hnew
          exact Or.inr ⟨challenge, row, hrow, rfl, by rw [hverified]; rfl⟩
      · exact seenBefore_same h
  | expireIfStale call now => exact expireIfStale_seen h hverified
  | resendChallenge call now => exact resendChallenge_seen h hverified
  | storeResend call code now =>
    rw [Otp.step, storeResend] at h
    split at h
    · exact seenBefore_same h
    · split at h
      · exact seenBefore_same h
      · rcases call_setCall h with hnew | hold
        · cases hnew
        · exact seenBefore_same hold
  | verify call code now => exact verify_seen h
  | finalize call now => exact finalize_seen h
  | otherCredit walletId amount txType =>
    rw [Otp.step, otherCredit] at h
    split at h
    · exact seenBefore_same h
    · revert h
      refine commit_rule (motive := fun t : Teller => t.call i = some c → SeenBefore s c) _ _ ?_ fun s' hok => ?_
      · exact seenBefore_calls rfl
      · obtain ⟨r, -, rfl⟩ := map_eq_ok.mp hok
        exact seenBefore_calls rfl
  | otherDebit walletId amount txType =>
    rw [Otp.step, otherDebit] at h
    split at h
    · exact seenBefore_same h
    · revert h
      refine commit_rule (motive := fun t : Teller => t.call i = some c → SeenBefore s c) _ _ ?_ fun s' hok => ?_
      · exact seenBefore_calls rfl
      · obtain ⟨r, -, rfl⟩ := map_eq_ok.mp hok
        exact seenBefore_calls rfl
  | review | setFee | addresses => exact seenBefore_same h

lemma waiting_step {s : Teller} (hcalls : CallsOk s) (action : Otp.Action) (h : Waiting (Otp.step cfg s action) p) :
    Waiting s p ∨ requested action = some p := by
  rcases h with ⟨k, c, hc, hp⟩ | ⟨i, c, hc, hp⟩
  · exact (challenges_step hcalls action hc hp).imp_left fun ⟨a, ha, hpa⟩ => Or.inl ⟨k, a, ha, hpa⟩
  · obtain ⟨hpurpose, hverified, rfl⟩ := finalizing_iff.mp hp
    rcases call_step action hc hverified with ⟨j, c', hc', hseen⟩ | ⟨k, row, hrow, hpayload, hlive⟩
    · refine Or.inl (Or.inr ⟨j, c', hc', finalizing_iff.mpr ?_⟩)
      rw [hseen]
      exact ⟨hpurpose, hverified, rfl⟩
    · refine Or.inl (Or.inl ⟨k, row, hrow, challenged_iff.mpr ⟨?_, hlive, hpayload⟩⟩)
      exact (congrArg Payload.purpose hpayload).trans hpurpose

section Registries

variable {s : Teller}

lemma finalizeWithdrawal_registry {s' : Teller} {walletId challenge : ℕ} {seen : Challenge}
    (h : finalizeWithdrawal s walletId challenge seen = .ok s') : s'.registry = s.registry := by
  simp only [finalizeWithdrawal, bind_eq_ok, mapError_eq_ok, require_eq_ok, guard_eq_ok, createWithdrawal,
    Except.ok.injEq, markChallengeUsed_eq_ok] at h
  obtain ⟨-, -, -, -, -, -, -, -, -, ⟨l, row⟩, -, -, -, -, -, -, -, -, -, created, ⟨-, rfl⟩, -, rfl⟩ := h
  rfl

lemma finalizeAddress_registry {s' : Teller} {challenge : ℕ} {seen : Challenge} {now : ℤ}
    (h : finalizeAddress cfg s challenge seen now = .ok s') :
    ∃ w, Addresses.Registered cfg.addressCooldown w ∧ Addresses.createPendingWallet s.registry w = .ok s'.registry := by
  simp only [finalizeAddress, bind_eq_ok, mapError_eq_ok, markChallengeUsed_eq_ok] at h
  obtain ⟨registry, hcreated, -, rfl⟩ := h
  exact ⟨_, ⟨rfl, now, rfl, rfl⟩, hcreated⟩

/-- What a request does to the wallets: nothing, a new pending one, or an action of the wallets' own. -/
inductive Touches (cooldown : ℤ) (r r' : Registry) (action : Otp.Action) : Prop
  | same (h : r' = r)
  | created (w : VerifiedWallet) (hregistered : Addresses.Registered cooldown w)
      (hcreated : Addresses.createPendingWallet r w = .ok r')
  | addresses (a : Addresses.Action) (haction : action = .addresses a) (h : r' = Addresses.step cooldown r a)

lemma finalize_touches (call : ℕ) (now : ℤ) :
    Touches cfg.addressCooldown s.registry (finalize cfg s call now).registry (.finalize call now) := by
  rw [finalize]
  split
  · exact .same rfl
  · split
    · exact .same rfl
    · dsimp only
      split
      · refine commit_rule (motive := fun t : Teller => Touches _ s.registry t.registry _) _ _ ?_ fun s' hok => ?_
        · exact .same rfl
        · obtain ⟨w, hregistered, hcreated⟩ := finalizeAddress_registry hok
          exact .created w hregistered hcreated
      · refine commit_rule (motive := fun t : Teller => Touches _ s.registry t.registry _) _ _ ?_ fun s' hok => ?_
        · exact .same rfl
        · have hregistry := finalizeWithdrawal_registry hok
          exact .same hregistry

lemma expireIfStale_registry (call : ℕ) (now : ℤ) : (expireIfStale s call now).registry = s.registry := by
  rw [expireIfStale]
  split
  · rfl
  · split <;> rfl

lemma teller_touches (action : Otp.Action) :
    Touches cfg.addressCooldown s.registry (Otp.step cfg s action).registry action := by
  cases action with
  | create payload code now =>
    refine commit_rule (motive := fun t : Teller => Touches _ s.registry t.registry _) _ _ ?_ fun s' hok => ?_
    · exact .same rfl
    · obtain ⟨t, new, -, -, -, -, -, rfl⟩ := createChallenge_ok hok
      exact .same rfl
  | openChallenge user challenge purpose =>
    rw [Otp.step, openChallenge]
    split
    · exact .same rfl
    · split <;> exact .same rfl
  | expireIfStale call now => exact .same (expireIfStale_registry call now)
  | resendChallenge call now =>
    rw [Otp.step, resendChallenge]
    split
    · exact .same rfl
    · split
      · exact .same rfl
      · dsimp only
        split
        · exact .same (expireIfStale_registry call now)
        · split <;> exact .same (expireIfStale_registry call now)
  | storeResend call code now =>
    rw [Otp.step, storeResend]
    split
    · exact .same rfl
    · split <;> exact .same rfl
  | verify call code now =>
    rw [Otp.step, verify]
    split
    · exact .same rfl
    · split <;> exact .same rfl
  | finalize call now => exact finalize_touches call now
  | otherCredit walletId amount txType =>
    rw [Otp.step, otherCredit]
    split
    · exact .same rfl
    · refine commit_rule (motive := fun t : Teller => Touches _ s.registry t.registry _) _ _ ?_ fun s' hok => ?_
      · exact .same rfl
      · obtain ⟨r, -, rfl⟩ := map_eq_ok.mp hok
        exact .same rfl
  | otherDebit walletId amount txType =>
    rw [Otp.step, otherDebit]
    split
    · exact .same rfl
    · refine commit_rule (motive := fun t : Teller => Touches _ s.registry t.registry _) _ _ ?_ fun s' hok => ?_
      · exact .same rfl
      · obtain ⟨r, -, rfl⟩ := map_eq_ok.mp hok
        exact .same rfl
  | review | setFee => exact .same rfl
  | addresses a => exact .addresses a rfl rfl

lemma touches_sound {r r' : Registry} {cooldown : ℤ} {action : Otp.Action} (h : Touches cooldown r r' action)
    (hs : Addresses.Sound cooldown r) : Addresses.Sound cooldown r' := by
  cases h with
  | same h => rwa [h]
  | created w hregistered hcreated =>
    obtain ⟨hfree, rfl⟩ := Addresses.createPendingWallet_ok hcreated
    exact Addresses.Effect.sound (.created w hregistered hfree rfl rfl) hs.registered hs
  | addresses a haction h => exact h ▸ Addresses.step_sound hs a

lemma touches_active {r r' : Registry} {route : Route} {address : String} {cooldown : ℤ} {action : Otp.Action}
    (h : Touches cooldown r r' action)
    (hsame : ∀ call delay, action = .addresses (.activateNext call delay) →
      ∀ w ∈ nextDue r call, route = w.toRoute → address = w.address)
    (ha : Active r route address) : Active r' route address := by
  cases h with
  | same h => rwa [h]
  | created w hregistered hcreated =>
    obtain ⟨hfree, rfl⟩ := Addresses.createPendingWallet_ok hcreated
    exact active_insert rfl ha
  | addresses a haction h =>
    rw [h]
    cases a with
    | register => exact active_of_wallets rfl ha
    | insertPending registration =>
      rw [Addresses.step, Addresses.insertPending]
      split
      · exact ha
      · refine commit_rule (motive := fun t : Registry => Active t route address) _ _ ?_ fun r' hok => ?_
        · exact active_of_wallets rfl ha
        · obtain ⟨-, rfl⟩ := Addresses.createPendingWallet_ok hok
          exact active_insert rfl ha
    | getActiveWallet route =>
      rw [Addresses.step, Addresses.getActiveWallet]
      split
      · exact ha
      · split <;> exact active_of_wallets rfl ha
    | sweepActivateDueWallets batchSize => exact active_of_wallets rfl ha
    | activateNext call delay => exact activateNext_active (hsame call delay haction) ha
    | wait seconds => exact active_of_wallets rfl ha

end Registries

section Withdrawals

variable {s : Teller} {i : ℕ} {w : Withdrawal}

/-- A withdrawal is opened by a finalization, from the challenge as the request saw it. -/
structure Opened (s s' : Teller) (c : Call) (w : Withdrawal) : Prop where
  verified : c.seen.status = .verified
  purpose : c.seen.purpose = .withdrawal
  user : w.user = c.seen.user
  address : w.walletAddress = c.seen.walletAddress
  currency : currencyByAssetNetwork c.seen.asset c.seen.network = some w.cryptoCurrency
  otpChallenge : w.otpChallenge = some c.challenge
  debited : ∃ t row, w.debitTx = some t ∧ s.ledger.transactions.get t = none ∧
    s'.ledger.transactions.get t = some row ∧ row.txType = .withdraw ∧ row.amount.units = -w.amountUsd.units

lemma not_inserted {s' : Teller} (h : Table.Related (fun _ v v' => v' = { v with status := v'.status })
    s.withdrawals s'.withdrawals) (hnone : s.withdrawals.get i = none) : s'.withdrawals.get i ≠ some w := by
  intro hw
  obtain ⟨v, hv, -⟩ := h.back hw
  rw [hnone] at hv
  cases hv

lemma opened_of_finalized {t s' : Teller} {c : Call} (f : Finalized t s')
    (hrows : t.ledger.transactions = s.ledger.transactions) (hseen : f.seen = c.seen)
    (hchallenge : f.challenge = c.challenge) (hpurpose : c.seen.purpose = .withdrawal) : Opened s s' c f.withdrawal where
  verified := (congrArg Challenge.status hseen).symm.trans f.verified
  purpose := hpurpose
  user := f.user.trans (congrArg (fun c : Challenge => c.user) hseen)
  address := f.address.trans (congrArg (fun c : Challenge => c.walletAddress) hseen)
  currency := by
    rw [← hseen]
    exact f.currency
  otpChallenge := f.otpChallenge.trans (congrArg some hchallenge)
  debited := by
    obtain ⟨row, hrow, htype, hamount⟩ : ∃ row, s'.ledger.transactions.get t.ledger.transactions.next = some row ∧
        row.txType = .withdraw ∧ row.amount.units = -f.withdrawal.amountUsd.units := by
      rw [f.ledger]
      exact ⟨_, Table.get_insert_next _ _, rfl, f.amountUnits⟩
    refine ⟨_, row, f.debitTx, ?_, hrow, htype, hamount⟩
    rw [hrows, Table.get_next]

lemma finalize_opened {call : ℕ} {now : ℤ} (hnone : s.withdrawals.get i = none)
    (hw : (finalize cfg s call now).withdrawals.get i = some w) :
    ∃ c, s.call call = some c ∧ Opened s (finalize cfg s call now) c w := by
  cases hc : s.call call with
  | none =>
    simp only [finalize, hc] at hw
    rw [hnone] at hw
    cases hw
  | some c =>
    refine ⟨c, rfl, ?_⟩
    by_cases hready : c.stage = .resending ∨ c.seen.status ≠ .verified
    · simp only [finalize, hc, if_pos hready] at hw
      rw [hnone] at hw
      cases hw
    · cases hpurpose : c.seen.purpose with
      | addressChange =>
        simp only [finalize, hc, if_neg hready, hpurpose] at hw
        revert hw
        refine commit_rule (motive := fun t : Teller => t.withdrawals.get i = some w → _) _ _ ?_ fun s' hok => ?_
        · intro hw
          rw [show (s.setCall call none).withdrawals = s.withdrawals from rfl, hnone] at hw
          cases hw
        · obtain ⟨registry, -, rfl⟩ := finalizeAddress_ok hok
          intro hw
          rw [show (s.setCall call none).withdrawals = s.withdrawals from rfl, hnone] at hw
          cases hw
      | withdrawal =>
        simp only [finalize, hc, if_neg hready, hpurpose] at hw ⊢
        revert hw
        refine commit_rule (motive := fun t : Teller => t.withdrawals.get i = some w → Opened s t c w) _ _ ?_
          fun s' hok => ?_
        · intro hw
          rw [show (s.setCall call none).withdrawals = s.withdrawals from rfl, hnone] at hw
          cases hw
        · intro hw
          obtain ⟨⟨f, hchallenge, hseen, -⟩, -⟩ := finalizeWithdrawal_ok hok
          rw [f.withdrawals] at hw
          rcases Table.get_insert_some hw with hold | ⟨-, rfl⟩
          · rw [show (s.setCall call none).withdrawals = s.withdrawals from rfl, hnone] at hold
            cases hold
          · exact opened_of_finalized f (getOrCreateWallet_transactions s.ledger c.seen.user) hseen hchallenge hpurpose

lemma step_opened (hcalls : CallsOk s) (action : Otp.Action) (hnone : s.withdrawals.get i = none)
    (hw : (Otp.step cfg s action).withdrawals.get i = some w) :
    ∃ call c, s.call call = some c ∧ Opened s (Otp.step cfg s action) c w := by
  have hunchanged : ∀ s' : Teller, s'.withdrawals = s.withdrawals → s'.withdrawals.get i ≠ some w := by
    intro s' hsame hw'
    rw [hsame, hnone] at hw'
    cases hw'
  cases action with
  | finalize call now =>
    obtain ⟨c, hc, hopened⟩ := finalize_opened hnone hw
    exact ⟨call, c, hc, hopened⟩
  | create payload code now =>
    revert hw
    refine commit_rule (motive := fun t : Teller => t.withdrawals.get i = some w → _) _ _ ?_ fun s' hok => ?_
    · exact fun hw => (hunchanged { s with ledger := _ } rfl hw).elim
    · obtain ⟨t, new, -, -, -, -, -, rfl⟩ := createChallenge_ok hok
      exact fun hw => (hunchanged { s with ledger := _ } rfl hw).elim
  | openChallenge user challenge purpose =>
    refine (hunchanged _ ?_ hw).elim
    rw [Otp.step, openChallenge]
    split
    · rfl
    · split <;> rfl
  | expireIfStale call now => exact (not_inserted (expireIfStale_effect hcalls call now).1.withdrawals hnone hw).elim
  | resendChallenge call now =>
    exact (not_inserted (resendChallenge_effect hcalls call now).1.withdrawals hnone hw).elim
  | storeResend call code now =>
    exact (not_inserted (storeResend_effect hcalls call code now).1.withdrawals hnone hw).elim
  | verify call code now => exact (not_inserted (verify_effect hcalls call code now).1.withdrawals hnone hw).elim
  | review withdrawal status =>
    have hrel : Table.Related (fun _ v v' => v' = { v with status := v'.status }) s.withdrawals
        (s.withdrawals.update withdrawal fun w => { w with status := status }) :=
      Table.related_update (fun _ _ _ => rfl) fun _ _ => rfl
    exact (not_inserted hrel hnone hw).elim
  | otherCredit walletId amount txType =>
    exact (not_inserted (otherCredit_effect hcalls walletId amount txType).1.withdrawals hnone hw).elim
  | otherDebit walletId amount txType =>
    exact (not_inserted (otherDebit_effect hcalls walletId amount txType).1.withdrawals hnone hw).elim
  | setFee | addresses => exact (hunchanged _ rfl hw).elim

end Withdrawals

end Tellers

section Desks

variable {s : Desk}

lemma mem_underway : p ∈ underway s ↔ (∃ i, s.forms.get i = some (some p)) ∨ Waiting s.teller p := by
  have hcall : (∃ i c, s.teller.call i = some c ∧ finalizing c = some p) ↔
      ∃ i o, s.teller.calls.get i = some o ∧ o.bind finalizing = some p := by
    constructor
    · rintro ⟨i, c, hc, hp⟩
      exact ⟨i, some c, Option.join_eq_some_iff.mp hc, hp⟩
    · rintro ⟨i, o, ho, hp⟩
      obtain ⟨c, rfl, hc⟩ := Option.bind_eq_some_iff.mp hp
      exact ⟨i, c, Option.join_eq_some_iff.mpr ho, hc⟩
  rw [underway, List.mem_append, List.mem_append, Waiting, hcall, or_assoc]
  simp only [List.mem_filterMap, Prod.exists, Table.mem_rows]
  refine or_congr ⟨?_, ?_⟩ Iff.rfl
  · rintro ⟨i, o, ho, rfl⟩
    exact ⟨i, ho⟩
  · rintro ⟨i, hi⟩
    exact ⟨i, some p, hi, rfl⟩

lemma Waiting.purpose {s : Teller} (h : Waiting s p) : p.purpose = .withdrawal := by
  rcases h with ⟨k, c, -, hp⟩ | ⟨i, c, -, hp⟩
  · obtain ⟨hpurpose, -, rfl⟩ := challenged_iff.mp hp
    exact hpurpose
  · obtain ⟨hpurpose, -, rfl⟩ := finalizing_iff.mp hp
    exact hpurpose

structure Sound (cfg : Settings) (s : Desk) : Prop where
  calls : CallsOk s.teller
  wallets : Addresses.Sound cfg.addressCooldown s.teller.registry

/-- Every withdrawal under way is destined for the active wallet of its route. -/
def Directed (s : Desk) : Prop := ∀ p ∈ underway s, Active s.teller.registry (routeOf p) p.walletAddress

lemma teller_sound (h : Sound cfg s) (action : Otp.Action) (forms : Table (Option Payload)) :
    Sound cfg ⟨Otp.step cfg s.teller action, forms⟩ :=
  ⟨(Effects.step_effect cfg h.calls action).2, touches_sound (teller_touches action) h.wallets⟩

lemma step_sound (h : Sound cfg s) (action : Action) : Sound cfg (step cfg s action) := by
  cases action with
  | submitForm user wallet crypto amountUsd withdrawAll =>
    rw [step]
    split
    · exact ⟨h.calls, h.wallets⟩
    · exact h
  | createChallenge form code now =>
    rw [step]
    split
    · next p hp => exact teller_sound h (.create p code now) _
    · exact h
  | teller action =>
    rw [step]
    split
    · exact h
    · exact teller_sound h action s.forms

lemma withdrawForm_active {s : Teller} {user wallet : ℕ} {crypto : String} {amountUsd : Option Balance}
    {withdrawAll : Bool} (h : withdrawForm s user wallet crypto amountUsd withdrawAll = some p) :
    Active s.registry (routeOf p) p.walletAddress := by
  obtain ⟨w, hw, h⟩ := Option.bind_eq_some_iff.mp h
  split at h
  · next hok =>
    obtain ⟨huser, hactive, -⟩ := hok
    cases h
    exact ⟨wallet, w, hw, by rw [routeOf, ← huser], hactive, rfl⟩
  · cases h

lemma step_directed (hs : Sound cfg s) (h : Directed s) (action : Action) (hguard : Undisturbed s action) :
    Directed (step cfg s action) := by
  cases action with
  | submitForm user wallet crypto amountUsd withdrawAll =>
    rw [step]
    split
    · next p hform =>
      intro q hq
      rcases mem_underway.mp hq with ⟨i, hi⟩ | hwaiting
      · rcases Table.get_insert_some hi with hold | ⟨-, hnew⟩
        · exact h q (mem_underway.mpr (Or.inl ⟨i, hold⟩))
        · cases hnew
          exact withdrawForm_active hform
      · exact h q (mem_underway.mpr (Or.inr hwaiting))
    · exact h
  | createChallenge form code now =>
    rw [step]
    split
    · next p hp =>
      intro q hq
      refine touches_active (@teller_touches cfg _ (.create p code now)) nofun (h q (mem_underway.mpr ?_))
      rcases mem_underway.mp hq with ⟨i, hi⟩ | hwaiting
      · obtain ⟨o, ho, heq⟩ := Table.get_update_some hi
        split at heq
        · cases heq
        · exact Or.inl ⟨i, heq ▸ ho⟩
      · rcases waiting_step hs.calls (.create p code now) hwaiting with hold | hnew
        · exact Or.inr hold
        · cases hnew
          exact Or.inl ⟨form, Option.join_eq_some_iff.mp hp⟩
    · exact h
  | teller action =>
    rw [step]
    split
    · exact h
    · next hother =>
      intro q hq
      have hold : q ∈ underway s := by
        refine mem_underway.mpr ((mem_underway.mp hq).imp_right fun hwaiting => ?_)
        rcases waiting_step hs.calls action hwaiting with hold | hnew
        · exact hold
        · refine (hother ?_).elim
          rw [asksWithdrawal, hnew, Option.any_some, hwaiting.purpose]
          rfl
      refine touches_active (teller_touches action) ?_ (h q hold)
      rintro call delay rfl w hw hroute
      exact hguard w hw q hold hroute

lemma step_destined (hs : Sound cfg s) (h : Directed s) (action : Action) {i : ℕ} {w : Withdrawal}
    (hnone : s.teller.withdrawals.get i = none) (hw : (step cfg s action).teller.withdrawals.get i = some w) :
    Destined s.teller (step cfg s action).teller w := by
  have hteller : ∀ action, (Otp.step cfg s.teller action).withdrawals.get i = some w →
      Destined s.teller (Otp.step cfg s.teller action) w := by
    intro action hw
    obtain ⟨call, c, hc, ho⟩ := step_opened hs.calls action hnone hw
    obtain ⟨row, hrow, hpayload, -⟩ := hs.calls call c hc
    have hwaiting : Waiting s.teller c.seen.toPayload :=
      Or.inr ⟨call, c, hc, finalizing_iff.mpr ⟨ho.purpose, ho.verified, rfl⟩⟩
    have hactive := h _ (mem_underway.mpr (Or.inr hwaiting))
    refine ⟨⟨c.challenge, row, ho.otpChallenge, hrow, ?_, ?_, ?_⟩, ho.debited⟩
    · rw [ho.user, hpayload]
    · rw [hpayload]
      exact ho.currency
    · rw [ho.address, hpayload]
      exact destination_of_active hs.wallets hactive
  cases action with
  | submitForm user wallet crypto amountUsd withdrawAll =>
    rw [step] at hw
    split at hw
    · rw [hnone] at hw
      cases hw
    · rw [hnone] at hw
      cases hw
  | createChallenge form code now =>
    rw [step] at hw ⊢
    split at hw
    · next p hp =>
      exact hteller (.create p code now) hw
    · rw [hnone] at hw
      cases hw
  | teller action =>
    rw [step] at hw ⊢
    split at hw
    · rw [hnone] at hw
      cases hw
    · next hother =>
      rw [if_neg hother]
      exact hteller action hw

end Desks

instance decidableUndisturbed (s : Desk) : ∀ a, Decidable (Undisturbed s a)
  | .teller (.addresses (.activateNext call _)) => inferInstanceAs (Decidable
      (∀ w ∈ nextDue s.teller.registry call, ∀ p ∈ underway s, routeOf p = w.toRoute → p.walletAddress = w.address))
  | .submitForm _ _ _ _ _ | .createChallenge _ _ _ | .teller (.create _ _ _) | .teller (.openChallenge _ _ _)
  | .teller (.expireIfStale _ _) | .teller (.resendChallenge _ _) | .teller (.storeResend _ _ _)
  | .teller (.verify _ _ _) | .teller (.finalize _ _) | .teller (.review _ _) | .teller (.otherCredit _ _ _)
  | .teller (.otherDebit _ _ _) | .teller (.setFee _) | .teller (.addresses (.register _ _ _))
  | .teller (.addresses (.insertPending _)) | .teller (.addresses (.getActiveWallet _))
  | .teller (.addresses (.sweepActivateDueWallets _)) | .teller (.addresses (.wait _)) =>
    inferInstanceAs (Decidable True)

section Runs

def opened (wallets : Table Wallet) (clock : ℤ) (feeConfig : FeeConfig) : Desk where
  teller := Authorized.opened wallets (Addresses.opened clock) feeConfig
  forms := .empty

lemma opened_sound (cfg : Settings) (wallets : Table Wallet) (clock : ℤ) (feeConfig : FeeConfig) :
    Sound cfg (opened wallets clock feeConfig) :=
  ⟨(Authorized.opened_sound wallets (Addresses.opened clock) feeConfig).1,
    Addresses.opened_sound cfg.addressCooldown clock⟩

lemma opened_directed (wallets : Table Wallet) (clock : ℤ) (feeConfig : FeeConfig) :
    Directed (opened wallets clock feeConfig) := by
  intro p hp
  rcases mem_underway.mp hp with ⟨i, hi⟩ | ⟨k, c, hc, -⟩ | ⟨i, c, hc, -⟩
  · cases hi
  · cases hc
  · cases hc

lemma disturbed_stale {s : Desk} {call delay : ℕ} (hs : Sound cfg s)
    (h : ¬ Undisturbed s (.teller (.addresses (.activateNext call delay)))) :
    ∃ p ∈ underway (step cfg s (.teller (.addresses (.activateNext call delay)))),
      ¬ Active (step cfg s (.teller (.addresses (.activateNext call delay)))).teller.registry (routeOf p)
        p.walletAddress := by
  simp only [Undisturbed, not_forall] at h
  obtain ⟨w, hw, p, hp, hroute, hother⟩ := h
  refine ⟨p, hp, ?_⟩
  rw [hroute]
  exact activateNext_stale hs.wallets hw hother

/-- In a run whose activations leave the destinations under way in place, every withdrawal goes to the active
wallet of its moment; any other activation leaves a withdrawal under way to an address that is not active. -/
theorem withdrawals_to_active_wallets (cfg : Settings) (wallets : Table Wallet) (clock : ℤ) (feeConfig : FeeConfig)
    (acts : List Action) :
    (Guarded (step cfg) Undisturbed (opened wallets clock feeConfig) acts →
      ∀ before action after, acts = before ++ action :: after → ∀ i w,
        (run (step cfg) (opened wallets clock feeConfig) before).teller.withdrawals.get i = none →
        (run (step cfg) (opened wallets clock feeConfig) (before ++ [action])).teller.withdrawals.get i = some w →
        Destined (run (step cfg) (opened wallets clock feeConfig) before).teller
          (run (step cfg) (opened wallets clock feeConfig) (before ++ [action])).teller w) ∧
    ∀ call delay, ¬ Undisturbed (run (step cfg) (opened wallets clock feeConfig) acts)
        (.teller (.addresses (.activateNext call delay))) →
      ∃ p ∈ underway (run (step cfg) (opened wallets clock feeConfig)
          (acts ++ [.teller (.addresses (.activateNext call delay))])),
        ¬ Active (run (step cfg) (opened wallets clock feeConfig)
          (acts ++ [.teller (.addresses (.activateNext call delay))])).teller.registry (routeOf p) p.walletAddress := by
  have hopened := opened_sound cfg wallets clock feeConfig
  refine ⟨?_, fun call delay hdisturbed => ?_⟩
  · rintro hguard before action after rfl i w hnone hw
    obtain ⟨hbefore, -⟩ := (guarded_append _ _ _ _ _).mp hguard
    obtain ⟨hs, hdirected⟩ := guarded_invariant (I := fun s => Sound cfg s ∧ Directed s)
      (fun s action h hok => ⟨step_sound h.1 action, step_directed h.1 h.2 action hok⟩)
      ⟨hopened, opened_directed wallets clock feeConfig⟩ hbefore
    rw [run_append] at hw ⊢
    exact step_destined hs hdirected action hnone hw
  · have hs := run_invariant (I := Sound cfg) (fun _ action h => step_sound h action) hopened acts
    rw [run_append]
    exact disturbed_stale hs hdisturbed

def ownRoute : Route := ⟨7, "USDT", "TRC20"⟩

/-- A first address is registered and activated, and a second one waits; then a withdrawal is asked for. -/
def secondWaiting : List Action :=
  [.teller (.addresses (.register ownRoute "T1" none)), .teller (.addresses (.insertPending 0)),
    .teller (.addresses (.wait 86400)), .teller (.addresses (.getActiveWallet ownRoute)),
    .teller (.addresses (.activateNext 0 0)), .teller (.addresses (.register ownRoute "T2" none)),
    .teller (.addresses (.insertPending 1)), .submitForm 7 0 "usdttrc20" (some ⟨5000, by norm_num⟩) false,
    .createChallenge 0 "123456" 86400, .teller (.openChallenge 7 0 .withdrawal), .teller (.verify 0 "123456" 86460)]

def secondActivated : List Action :=
  [.teller (.addresses (.wait 86400)), .teller (.addresses (.sweepActivateDueWallets 200)),
    .teller (.addresses (.activateNext 1 0))]

def funded : Desk :=
  opened (Table.ofList [{ newWallet 7 with availableBalance := .ofUnits 10000 }]) 0 ⟨.ofUnits 0, false⟩

theorem withdrawals_to_active_wallets_waiting : ∃ w,
    (run (step authorizedSettings) funded (secondWaiting ++ [.teller (.finalize 0 86461)])).teller.withdrawals.get 0 =
      some w ∧ w.walletAddress = "T1" ∧
    Destined (run (step authorizedSettings) funded secondWaiting).teller
      (run (step authorizedSettings) funded (secondWaiting ++ [.teller (.finalize 0 86461)])).teller w := by
  obtain ⟨w, hw, haddress⟩ : ∃ w,
      (run (step authorizedSettings) funded (secondWaiting ++ [.teller (.finalize 0 86461)])).teller.withdrawals.get 0 =
        some w ∧ w.walletAddress = "T1" := by
    decide +kernel
  refine ⟨w, hw, haddress, ?_⟩
  exact (withdrawals_to_active_wallets authorizedSettings _ 0 _ (secondWaiting ++ [.teller (.finalize 0 86461)])).1
    (by decide +kernel) secondWaiting (.teller (.finalize 0 86461)) [] rfl 0 w (by decide +kernel) hw

/-- The second address replaces the first between the code and the retried finalization, which pays the first. -/
theorem replaced_address_paid :
    (run (step authorizedSettings) funded (secondWaiting ++ secondActivated)).teller.withdrawals.get 0 = none ∧
    ((run (step authorizedSettings) funded (secondWaiting ++ secondActivated)).teller.registry.wallets.rows.map
      fun r => (r.2.address, r.2.status)) = [("T1", .deactivated), ("T2", .active)] ∧
    ((run (step authorizedSettings) funded
      (secondWaiting ++ secondActivated ++ [.teller (.finalize 0 172801)])).teller.withdrawals.get 0).map
        (fun w => (w.user, w.walletAddress, w.status)) = some (7, "T1", .pending) := by
  decide +kernel

end Runs

end TrxSimulator.Withdrawals.Destinations
