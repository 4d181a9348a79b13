import TrxSimulator.Foundations.Outcomes
import TrxSimulator.Foundations.Runs

/-! Withdrawal addresses. A new address waits out its cooldown as a pending wallet; whoever first finds it
due, a reader or the sweep, activates it in place of the active one. -/

namespace TrxSimulator.Withdrawals.Addresses

open Foundations.Tables Foundations.Outcomes Foundations.Runs

inductive WalletStatus
  | pendingCooldown | active | deactivated | rejected
deriving DecidableEq

structure Route where
  user : ℕ
  asset : String
  network : String
deriving DecidableEq

structure VerifiedWallet extends Route where
  address : String
  status : WalletStatus
  verifiedAt : Option ℤ
  cooldownUntil : Option ℤ
  activatedAt : Option ℤ
  deactivatedAt : Option ℤ
  createdByChallenge : Option ℕ
deriving DecidableEq

inductive WalletError
  | addressChangeAlreadyPending
  | uniqueViolation (constraint : String)
deriving DecidableEq

/-- The table, the requests under way and the time: registrations that have read the clock, and callers that
have found wallets due. -/
structure Registry where
  wallets : Table VerifiedWallet
  registrations : Table (Option VerifiedWallet)
  calls : Table (List ℕ)
  clock : ℤ

def onRoute (route : Route) (status : WalletStatus) (w : VerifiedWallet) : Bool :=
  w.toRoute = route ∧ w.status = status

def pendingWallet (cooldown : ℤ) (route : Route) (address : String) (challenge : Option ℕ) (now : ℤ) :
    VerifiedWallet where
  toRoute := route
  address := address
  status := .pendingCooldown
  verifiedAt := some now
  cooldownUntil := some (now + cooldown)
  activatedAt := none
  deactivatedAt := none
  createdByChallenge := challenge

def createPendingWallet (s : Registry) (w : VerifiedWallet) : Except WalletError Registry :=
  if s.wallets.exists? (onRoute w.toRoute .pendingCooldown) then .error .addressChangeAlreadyPending
  else .ok { s with wallets := s.wallets.insert w }

def due (clock : ℤ) (w : VerifiedWallet) : Bool :=
  w.status = .pendingCooldown ∧ w.cooldownUntil.any (· ≤ clock)

def deactivate (now : ℤ) (w : VerifiedWallet) : VerifiedWallet :=
  { w with status := .deactivated, deactivatedAt := some now }

def activate (now : ℤ) (w : VerifiedWallet) : VerifiedWallet :=
  { w with status := .active, activatedAt := some now }

def deactivateOld (wallets : Table VerifiedWallet) (route : Route) (now : ℤ) : Table VerifiedWallet :=
  match wallets.first (onRoute route .active) with
  | some (pk, _) => wallets.update pk (deactivate now)
  | none => wallets

/-- The transaction of `_try_activate`; its second reading of the clock is `delay` later. -/
def tryActivate (s : Registry) (pk : ℕ) (delay : ℕ) : Except WalletError Registry :=
  match s.wallets.get pk with
  | none => .ok s
  | some pending =>
    if due s.clock pending = false then .ok s
    else
      let now := s.clock + delay
      let wallets := deactivateOld s.wallets pending.toRoute now
      if wallets.exists? (onRoute pending.toRoute .active) then .error (.uniqueViolation "vww_one_active_per_route")
      else .ok { s with wallets := wallets.update pk (activate now), clock := now }

/-- The first half of `create_pending_wallet`: the cooldown is counted from here. -/
def register (cooldown : ℤ) (s : Registry) (route : Route) (address : String) (challenge : Option ℕ) : Registry :=
  { s with registrations := s.registrations.insert (some (pendingWallet cooldown route address challenge s.clock)) }

def insertPending (s : Registry) (registration : ℕ) : Registry :=
  match (s.registrations.get registration).join with
  | none => s
  | some w =>
    let s := { s with registrations := s.registrations.update registration fun _ => none }
    commit s (createPendingWallet s w)

def getActiveWallet (s : Registry) (route : Route) : Registry :=
  match s.wallets.first (onRoute route .pendingCooldown) with
  | none => s
  | some (pk, pending) =>
    if due s.clock pending then { s with calls := s.calls.insert [pk] } else s

def sweepActivateDueWallets (s : Registry) (batchSize : ℕ) : Registry :=
  { s with calls := s.calls.insert (((s.wallets.rows.filter fun r => due s.clock r.2).map Prod.fst).take batchSize) }

def activateNext (s : Registry) (call : ℕ) (delay : ℕ) : Registry :=
  match s.calls.get call with
  | none | some [] => s
  | some (pk :: rest) =>
    let s := { s with calls := s.calls.update call fun _ => rest }
    commit s (tryActivate s pk delay)

inductive Action
  | register (route : Route) (address : String) (challenge : Option ℕ)
  | insertPending (registration : ℕ)
  | getActiveWallet (route : Route)
  | sweepActivateDueWallets (batchSize : ℕ)
  | activateNext (call delay : ℕ)
  | wait (seconds : ℕ)
deriving DecidableEq

def step (cooldown : ℤ) (s : Registry) : Action → Registry
  | .register route address challenge => register cooldown s route address challenge
  | .insertPending registration => insertPending s registration
  | .getActiveWallet route => getActiveWallet s route
  | .sweepActivateDueWallets batchSize => sweepActivateDueWallets s batchSize
  | .activateNext call delay => activateNext s call delay
  | .wait seconds => { s with clock := s.clock + seconds }

def opened (clock : ℤ) : Registry where
  wallets := .empty
  registrations := .empty
  calls := .empty
  clock := clock

section Effects

variable {cooldown : ℤ} {s s' : Registry}

def Registered (cooldown : ℤ) (w : VerifiedWallet) : Prop :=
  w.status = .pendingCooldown ∧ ∃ n, w.verifiedAt = some n ∧ w.cooldownUntil = some (n + cooldown)

def AllRegistered (cooldown : ℤ) (s : Registry) : Prop :=
  ∀ i w, s.registrations.get i = some (some w) → Registered cooldown w

def replaced (pk : ℕ) (route : Route) (now : ℤ) (i : ℕ) (v : VerifiedWallet) : VerifiedWallet :=
  if i = pk then activate now v else if onRoute route .active v then deactivate now v else v

inductive Effect (cooldown : ℤ) (s s' : Registry) : Prop
  | quiet (hwallets : s'.wallets = s.wallets) (hclock : s.clock ≤ s'.clock)
  | created (w : VerifiedWallet) (hregistered : Registered cooldown w)
      (hfree : ∀ i v, s.wallets.get i = some v → v.toRoute = w.toRoute → v.status ≠ .pendingCooldown)
      (hwallets : s'.wallets = s.wallets.insert w) (hclock : s'.clock = s.clock)
  | activated (pk : ℕ) (pending : VerifiedWallet) (hget : s.wallets.get pk = some pending)
      (hdue : due s.clock pending = true) (hclock : s.clock ≤ s'.clock)
      (hrows : ∀ i, s'.wallets.get i =
        (s.wallets.get i).map (replaced pk pending.toRoute s'.clock i))

lemma onRoute_iff {route : Route} {status : WalletStatus} {w : VerifiedWallet} :
    onRoute route status w = true ↔ w.toRoute = route ∧ w.status = status := by
  rw [onRoute, decide_eq_true_iff]

lemma due_iff {clock : ℤ} {w : VerifiedWallet} :
    due clock w = true ↔ w.status = .pendingCooldown ∧ ∃ t, w.cooldownUntil = some t ∧ t ≤ clock := by
  rw [due, decide_eq_true_iff, Option.any_eq_true]
  simp

lemma deactivateOld_get (wallets : Table VerifiedWallet) (route : Route) (now : ℤ) (i : ℕ) :
    (deactivateOld wallets route now).get i = wallets.get i ∨
      ∃ v, wallets.get i = some v ∧ v.toRoute = route ∧ v.status = .active ∧
        (deactivateOld wallets route now).get i = some (deactivate now v) := by
  rw [deactivateOld]
  split
  · next pk v hfirst =>
    obtain ⟨hget, hv⟩ := Table.first_some hfirst
    obtain ⟨hroute, hactive⟩ := onRoute_iff.mp hv
    by_cases hi : i = pk
    · subst hi
      exact Or.inr ⟨v, hget, hroute, hactive, Table.get_update_self hget _⟩
    · exact Or.inl (Table.get_update_ne _ hi _)
  · exact Or.inl rfl

lemma tryActivate_ok {pk delay : ℕ} (h : tryActivate s pk delay = .ok s') :
    s'.registrations = s.registrations ∧ (s' = s ∨ ∃ pending, s.wallets.get pk = some pending ∧
      due s.clock pending = true ∧ s.clock ≤ s'.clock ∧
      ∀ i, s'.wallets.get i = (s.wallets.get i).map (replaced pk pending.toRoute s'.clock i)) := by
  rw [tryActivate] at h
  split at h
  · cases h
    exact ⟨rfl, Or.inl rfl⟩
  · next pending hget =>
    split at h
    · cases h
      exact ⟨rfl, Or.inl rfl⟩
    · next hdue =>
      rw [Bool.not_eq_false] at hdue
      simp only [guard_eq_ok, Except.ok.injEq] at h
      obtain ⟨hfree, rfl⟩ := h
      have hpending := (due_iff.mp hdue).1
      have hnone : ∀ i v, (deactivateOld s.wallets pending.toRoute (s.clock + delay)).get i = some v →
          v.toRoute = pending.toRoute → v.status ≠ .active := by
        intro i v hv hroute hactive
        rw [Bool.not_eq_true] at hfree
        have hbad := Table.exists?_false hfree hv
        rw [onRoute_iff.mpr ⟨hroute, hactive⟩] at hbad
        cases hbad
      have hne : ∀ i v, s.wallets.get i = some v → v.status = .active → i ≠ pk := by
        rintro i v hv hactive rfl
        rw [hget, Option.some.injEq] at hv
        rw [hv, hactive] at hpending
        cases hpending
      refine ⟨rfl, Or.inr ⟨pending, hget, hdue, by simp, fun i => ?_⟩⟩
      by_cases hi : i = pk
      · subst hi
        rcases deactivateOld_get s.wallets pending.toRoute (s.clock + delay) i with hsame | ⟨v, hv, -, hactive, -⟩
        · rw [Table.get_update_self (hsame.trans hget), hget, Option.map_some, replaced, if_pos rfl]
        · exact (hne i v hv hactive rfl).elim
      · rw [Table.get_update_ne _ hi]
        rcases deactivateOld_get s.wallets pending.toRoute (s.clock + delay) i with
          hsame | ⟨v, hv, hroute, hactive, hold⟩
        · rw [hsame]
          cases hv : s.wallets.get i with
          | none => rfl
          | some v =>
            rw [Option.map_some, replaced, if_neg hi, if_neg]
            intro hon
            obtain ⟨hroute, hactive⟩ := onRoute_iff.mp hon
            exact hnone i v (hsame.trans hv) hroute hactive
        · rw [hold, hv, Option.map_some, replaced, if_neg hi, if_pos (onRoute_iff.mpr ⟨hroute, hactive⟩)]

lemma tryActivate_effect {pk delay : ℕ} (h : tryActivate s pk delay = .ok s') :
    Effect cooldown s s' ∧ s'.registrations = s.registrations := by
  obtain ⟨hregistrations, rfl | ⟨pending, hget, hdue, hclock, hrows⟩⟩ := tryActivate_ok h
  · exact ⟨.quiet rfl le_rfl, rfl⟩
  · exact ⟨.activated pk pending hget hdue hclock hrows, hregistrations⟩

lemma Effect.of_eq {t : Registry} (h : Effect cooldown t s') (hwallets : t.wallets = s.wallets)
    (hclock : t.clock = s.clock) : Effect cooldown s s' := by
  cases h with
  | quiet hsame hle => exact .quiet (hsame.trans hwallets) (hclock ▸ hle)
  | created w hregistered hfree hinsert hclock' =>
    rw [hwallets] at hfree hinsert
    exact .created w hregistered hfree hinsert (hclock'.trans hclock)
  | activated pk pending hget hdue hle hrows =>
    rw [hclock] at hdue hle
    rw [hwallets] at hget hrows
    exact .activated pk pending hget hdue hle hrows

lemma createPendingWallet_ok {w : VerifiedWallet} (h : createPendingWallet s w = .ok s') :
    (∀ i v, s.wallets.get i = some v → v.toRoute = w.toRoute → v.status ≠ .pendingCooldown) ∧
      s' = { s with wallets := s.wallets.insert w } := by
  rw [createPendingWallet, guard_eq_ok, Except.ok.injEq, Bool.not_eq_true] at h
  refine ⟨fun i v hv hroute hpending => ?_, h.2.symm⟩
  have hbad := Table.exists?_false h.1 hv
  rw [onRoute_iff.mpr ⟨hroute, hpending⟩] at hbad
  cases hbad

lemma step_effect (h : AllRegistered cooldown s) (action : Action) :
    Effect cooldown s (step cooldown s action) ∧ AllRegistered cooldown (step cooldown s action) := by
  cases action with
  | register route address challenge =>
    refine ⟨.quiet rfl le_rfl, fun i w hw => ?_⟩
    rcases Table.get_insert_some hw with hold | ⟨-, hnew⟩
    · exact h i w hold
    · cases hnew
      exact ⟨rfl, s.clock, rfl, rfl⟩
  | insertPending registration =>
    rw [step, insertPending]
    split
    · exact ⟨.quiet rfl le_rfl, h⟩
    · next w hw =>
      have hregistered : Registered cooldown w := h registration w (Option.join_eq_some_iff.mp hw)
      have hrest : AllRegistered cooldown
          { s with registrations := s.registrations.update registration fun _ => none } := by
        intro i v hv
        obtain ⟨v', hv', heq⟩ := Table.get_update_some hv
        split at heq
        · cases heq
        · rw [← heq] at hv'
          exact h i v hv'
      refine commit_rule _ _ ?_ fun s' hok => ?_
      · exact ⟨.quiet rfl le_rfl, hrest⟩
      · obtain ⟨hfree, rfl⟩ := createPendingWallet_ok hok
        exact ⟨.created w hregistered hfree rfl rfl, hrest⟩
  | getActiveWallet route =>
    rw [step, getActiveWallet]
    split
    · exact ⟨.quiet rfl le_rfl, h⟩
    · split <;> exact ⟨.quiet rfl le_rfl, h⟩
  | sweepActivateDueWallets batchSize => exact ⟨.quiet rfl le_rfl, h⟩
  | activateNext call delay =>
    rw [step, activateNext]
    split
    · exact ⟨.quiet rfl le_rfl, h⟩
    · exact ⟨.quiet rfl le_rfl, h⟩
    · next pk rest _ =>
      refine commit_rule _ _ ?_ fun s' hok => ?_
      · exact ⟨.quiet rfl le_rfl, h⟩
      · obtain ⟨heffect, hregistrations⟩ : Effect cooldown _ s' ∧ _ := tryActivate_effect hok
        exact ⟨heffect.of_eq rfl rfl, by rw [AllRegistered, hregistrations]; exact h⟩
  | wait seconds => exact ⟨.quiet rfl (by simp [step]), h⟩

end Effects

/-- On each route the wallets are taken up in the order in which they were created. -/
structure Sound (cooldown : ℤ) (s : Registry) : Prop where
  registered : AllRegistered cooldown s
  timed : ∀ i v, s.wallets.get i = some v → ∃ n, v.verifiedAt = some n ∧ v.cooldownUntil = some (n + cooldown)
  cooled : ∀ i v, s.wallets.get i = some v → v.status = .active →
    ∃ t a, v.cooldownUntil = some t ∧ v.activatedAt = some a ∧ t ≤ a ∧ a ≤ s.clock
  order : ∀ i j v w, s.wallets.get i = some v → s.wallets.get j = some w → v.toRoute = w.toRoute → i < j →
    v.status ≠ .pendingCooldown ∧ (w.status ≠ .pendingCooldown → v.status ≠ .active)

section Steps

variable {cooldown : ℤ} {s s' : Registry} {i j : ℕ} {v w : VerifiedWallet}

lemma Sound.unique (h : Sound cooldown s) (hv : s.wallets.get i = some v) (hw : s.wallets.get j = some w)
    (hroute : v.toRoute = w.toRoute) (hstatus : v.status = w.status)
    (hlive : v.status = .active ∨ v.status = .pendingCooldown) : i = j := by
  have hlt : ∀ i j v w, s.wallets.get i = some v → s.wallets.get j = some w → v.toRoute = w.toRoute →
      v.status = w.status → (v.status = .active ∨ v.status = .pendingCooldown) → ¬ i < j := by
    intro i j v w hv hw hroute hstatus hlive hij
    obtain ⟨hpending, hactive⟩ := h.order i j v w hv hw hroute hij
    rcases hlive with ha | hp
    · refine hactive ?_ ha
      rw [← hstatus, ha]
      exact nofun
    · exact hpending hp
  have h1 := hlt i j v w hv hw hroute hstatus hlive
  have h2 := hlt j i w v hw hv hroute.symm hstatus.symm (hstatus ▸ hlive)
  omega

lemma replaced_toRoute (pk : ℕ) (route : Route) (now : ℤ) (i : ℕ) (v : VerifiedWallet) :
    (replaced pk route now i v).toRoute = v.toRoute := by
  rw [replaced]
  split
  · rfl
  · split <;> rfl

lemma Effect.sound (h : Effect cooldown s s') (hregistered : AllRegistered cooldown s') (hs : Sound cooldown s) :
    Sound cooldown s' := by
  cases h with
  | quiet hwallets hclock =>
    refine ⟨hregistered, hwallets ▸ hs.timed, ?_, hwallets ▸ hs.order⟩
    intro i v hv hactive
    obtain ⟨t, a, ht, ha, hle, hnow⟩ := hs.cooled i v (hwallets ▸ hv) hactive
    exact ⟨t, a, ht, ha, hle, hnow.trans hclock⟩
  | created w hw hfree hwallets hclock =>
    refine ⟨hregistered, ?_, ?_, ?_⟩
    · intro i v hv
      rw [hwallets] at hv
      rcases Table.get_insert_some hv with hold | ⟨-, rfl⟩
      · exact hs.timed i v hold
      · exact hw.2
    · intro i v hv hactive
      rw [hwallets] at hv
      rcases Table.get_insert_some hv with hold | ⟨-, rfl⟩
      · rw [hclock]
        exact hs.cooled i v hold hactive
      · rw [hw.1] at hactive
        cases hactive
    · intro i j v v' hv hv' hroute hij
      rw [hwallets] at hv hv'
      rcases Table.get_insert_some hv with hold | ⟨hi, rfl⟩
      · rcases Table.get_insert_some hv' with hold' | ⟨-, rfl⟩
        · exact hs.order i j v v' hold hold' hroute hij
        · exact ⟨hfree i v hold hroute, fun hne => (hne hw.1).elim⟩
      · rcases Table.get_insert_some hv' with hold' | ⟨hj, -⟩
        · have hlt := Table.lt_of_get hold'
          omega
        · omega
  | activated pk pending hget hdue hclock hrows =>
    obtain ⟨hpending, t, ht, htclock⟩ := due_iff.mp hdue
    refine ⟨hregistered, ?_, ?_, ?_⟩
    · intro i v' hv'
      rw [hrows, Option.map_eq_some_iff] at hv'
      obtain ⟨v, hv, rfl⟩ := hv'
      obtain ⟨n, hn, hcool⟩ := hs.timed i v hv
      refine ⟨n, ?_⟩
      rw [replaced]
      split
      · exact ⟨hn, hcool⟩
      · split <;> exact ⟨hn, hcool⟩
    · intro i v' hv' hactive
      rw [hrows, Option.map_eq_some_iff] at hv'
      obtain ⟨v, hv, rfl⟩ := hv'
      rw [replaced] at hactive ⊢
      split at hactive
      · next hi =>
        rw [hi, hget, Option.some.injEq] at hv
        rw [if_pos hi, ← hv]
        exact ⟨t, s'.clock, ht, rfl, htclock.trans hclock, le_rfl⟩
      · next hi =>
        split at hactive
        · cases hactive
        · next hon =>
          obtain ⟨t', a, ht', ha, hle, hnow⟩ := hs.cooled i v hv hactive
          rw [if_neg hi, if_neg hon]
          exact ⟨t', a, ht', ha, hle, hnow.trans hclock⟩
    · intro i j v₁ w₁ hv hw hroute hij
      rw [hrows, Option.map_eq_some_iff] at hv hw
      obtain ⟨v, hv, rfl⟩ := hv
      obtain ⟨w, hw, rfl⟩ := hw
      rw [replaced_toRoute, replaced_toRoute] at hroute
      obtain ⟨hvpending, hactive⟩ := hs.order i j v w hv hw hroute hij
      have hi : i ≠ pk := by
        rintro rfl
        rw [hget, Option.some.injEq] at hv
        exact hvpending (hv ▸ hpending)
      by_cases hon : onRoute pending.toRoute .active v = true
      · rw [replaced, if_neg hi, if_pos hon]
        exact ⟨nofun, fun _ => nofun⟩
      · rw [replaced, if_neg hi, if_neg hon]
        refine ⟨hvpending, fun hne => ?_⟩
        by_cases hj : j = pk
        · rw [hj, hget, Option.some.injEq] at hw
          intro hv'
          exact hon (onRoute_iff.mpr ⟨hw ▸ hroute, hv'⟩)
        · rw [replaced, if_neg hj] at hne
          split at hne
          · next hw' =>
            refine hactive ?_
            rw [(onRoute_iff.mp hw').2]
            exact nofun
          · exact hactive hne

lemma step_sound (hs : Sound cooldown s) (action : Action) : Sound cooldown (step cooldown s action) := by
  obtain ⟨heffect, hregistered⟩ := step_effect hs.registered action
  exact heffect.sound hregistered hs

lemma opened_sound (cooldown clock : ℤ) : Sound cooldown (opened clock) where
  registered i w hw := by cases hw
  timed i v hv := by cases hv
  cooled i v hv := by cases hv
  order i j v w hv := by cases hv

lemma run_sound (cooldown clock : ℤ) (acts : List Action) :
    Sound cooldown (run (step cooldown) (opened clock) acts) :=
  run_invariant (I := Sound cooldown) (fun _ action hs => step_sound hs action) (opened_sound cooldown clock) acts

lemma step_replaces (hs : Sound cooldown s) (action : Action) {v' : VerifiedWallet}
    (hv : s.wallets.get i = some v) (hinactive : v.status ≠ .active)
    (hv' : (step cooldown s action).wallets.get i = some v') (hactive : v'.status = .active)
    (hw : s.wallets.get j = some w) (hroute : w.toRoute = v.toRoute) (hwactive : w.status = .active) :
    ∃ w', (step cooldown s action).wallets.get j = some w' ∧ w'.status = .deactivated := by
  have hkept : (step cooldown s action).wallets.get i = some v → False := by
    intro hsame
    rw [hv', Option.some.injEq] at hsame
    exact hinactive (hsame ▸ hactive)
  cases (step_effect hs.registered action).1 with
  | quiet hwallets => exact (hkept (hwallets ▸ hv)).elim
  | created new _ _ hwallets => exact (hkept (hwallets ▸ Table.get_insert_of_get hv new)).elim
  | activated pk pending hget hdue _ hrows =>
    have hi : i = pk := by
      by_contra hi
      rw [hrows, hv, Option.map_some, replaced, if_neg hi] at hv' hkept
      split at hv'
      · cases hv'
        cases hactive
      · next hon => exact hkept (by rw [if_neg hon])
    have hj : j ≠ pk := by
      rintro rfl
      rw [hi, hw, Option.some.injEq] at hv
      exact hinactive (hv ▸ hwactive)
    rw [hi, hget, Option.some.injEq] at hv
    refine ⟨deactivate (step cooldown s action).clock w, ?_, rfl⟩
    rw [hrows, hw, Option.map_some, replaced, if_neg hj,
      if_pos (onRoute_iff.mpr ⟨hroute.trans (congrArg _ hv).symm, hwactive⟩)]

lemma step_deactivated (hs : Sound cooldown s) (action : Action) (hv : s.wallets.get i = some v)
    (hdeactivated : v.status = .deactivated) : (step cooldown s action).wallets.get i = some v := by
  cases (step_effect hs.registered action).1 with
  | quiet hwallets => rwa [hwallets]
  | created new _ _ hwallets => exact hwallets ▸ Table.get_insert_of_get hv new
  | activated pk pending hget hdue _ hrows =>
    have hi : i ≠ pk := by
      rintro rfl
      rw [hget, Option.some.injEq] at hv
      have hpending := (due_iff.mp hdue).1
      rw [hv, hdeactivated] at hpending
      cases hpending
    have hon : ¬ onRoute pending.toRoute .active v = true := by
      intro hon
      rw [(onRoute_iff.mp hon).2] at hdeactivated
      cases hdeactivated
    rw [hrows, hv, Option.map_some, replaced, if_neg hi, if_neg hon]

lemma run_deactivated (hs : Sound cooldown s) (acts : List Action) (hv : s.wallets.get i = some v)
    (hdeactivated : v.status = .deactivated) : (run (step cooldown) s acts).wallets.get i = some v := by
  have hrun : Sound cooldown (run (step cooldown) s acts) ∧
      (run (step cooldown) s acts).wallets.get i = some v :=
    run_invariant (I := fun t => Sound cooldown t ∧ t.wallets.get i = some v)
      (fun t action ht => ⟨step_sound ht.1 action, step_deactivated ht.1 action ht.2 hdeactivated⟩) ⟨hs, hv⟩ acts
  exact hrun.2

end Steps

theorem wallets_cool_down (cooldown clock : ℤ) (acts : List Action) :
    (∀ i j v w, (run (step cooldown) (opened clock) acts).wallets.get i = some v →
      (run (step cooldown) (opened clock) acts).wallets.get j = some w → v.toRoute = w.toRoute →
      v.status = w.status → v.status = .active ∨ v.status = .pendingCooldown → i = j) ∧
    (∀ i v, (run (step cooldown) (opened clock) acts).wallets.get i = some v → v.status = .active →
      ∃ t a, v.cooldownUntil = some t ∧ v.activatedAt = some a ∧ t ≤ a ∧
        a ≤ (run (step cooldown) (opened clock) acts).clock) ∧
    (∀ action i j v v' w, (run (step cooldown) (opened clock) acts).wallets.get i = some v → v.status ≠ .active →
      (run (step cooldown) (opened clock) (acts ++ [action])).wallets.get i = some v' → v'.status = .active →
      (run (step cooldown) (opened clock) acts).wallets.get j = some w → w.toRoute = v.toRoute →
      w.status = .active → ∃ w', (run (step cooldown) (opened clock) (acts ++ [action])).wallets.get j = some w' ∧
        w'.status = .deactivated) ∧
    ∀ later i v, (run (step cooldown) (opened clock) acts).wallets.get i = some v → v.status = .deactivated →
      (run (step cooldown) (opened clock) (acts ++ later)).wallets.get i = some v ∧
      ∀ j w, (run (step cooldown) (opened clock) (acts ++ later)).wallets.get j = some w →
        w.toRoute = v.toRoute → w.status = .active → i < j ∧
        ∃ n, w.verifiedAt = some n ∧ w.cooldownUntil = some (n + cooldown) ∧
          n + cooldown ≤ (run (step cooldown) (opened clock) (acts ++ later)).clock := by
  have hs := run_sound cooldown clock acts
  refine ⟨fun i j v w hv hw => hs.unique hv hw, hs.cooled, ?_, ?_⟩
  · intro action i j v v' w hv hinactive hv' hactive hw hroute hwactive
    rw [run_append] at hv' ⊢
    exact step_replaces hs action hv hinactive hv' hactive hw hroute hwactive
  · intro later i v hv hdeactivated
    have hlater := run_sound cooldown clock (acts ++ later)
    have hkept : (run (step cooldown) (opened clock) (acts ++ later)).wallets.get i = some v := by
      rw [run_append]
      exact run_deactivated hs later hv hdeactivated
    refine ⟨hkept, fun j w hw hroute hactive => ?_⟩
    obtain ⟨n, hn, hcool⟩ := hlater.timed j w hw
    obtain ⟨t, a, ht, -, hle, hnow⟩ := hlater.cooled j w hw hactive
    rw [hcool, Option.some.injEq] at ht
    refine ⟨?_, n, hn, hcool, by rw [ht]; exact hle.trans hnow⟩
    rcases lt_trichotomy i j with hlt | rfl | hgt
    · exact hlt
    · rw [hkept, Option.some.injEq] at hw
      rw [← hw, hdeactivated] at hactive
      cases hactive
    · refine ((hlater.order j i w v hw hkept hroute hgt).2 ?_ hactive).elim
      rw [hdeactivated]
      exact nofun

end TrxSimulator.Withdrawals.Addresses
