import TrxSimulator.Risk.Sweeps

/-! The rules that an account checks whenever it is saved: the profit target, the drawdown and the equity, one after
the other, with the entries they write to its ledger. -/

namespace TrxSimulator.Risk.AccountRules

open Foundations.Runs Foundations.Decimals Money Accounts Challenges.Evaluation Challenges.Drawdown
open Sweeps (blocked)

structure RuledAccount extends ChallengeAccount where
  drawdown : Numeric 5 2
deriving DecidableEq

inductive Message
  | advancedToPhase2 | nowFunded | suspendedByDrawdown | balanceExhausted
deriving DecidableEq

def Message.text : Message → String
  | .advancedToPhase2 => "Avanzó a Fase 2"
  | .nowFunded => "Cuenta ahora es Funded"
  | .suspendedByDrawdown => "Cuenta suspendida por drawdown"
  | .balanceExhausted => "Cuenta suspendida — balance agotado"

structure RuleEntry where
  eventType : EventType
  amount : Balance
  balanceAfter : Balance
  msg : Message
deriving DecidableEq

def ruleEntry (a : RuledAccount) (msg : Message) : RuleEntry where
  eventType := .adjustment
  amount := .ofUnits 0
  balanceAfter := a.balance
  msg := msg

def tierInitial : Tier → Option Balance
  | .k10 => some (.ofUnits 1000000)
  | .k50 => some (.ofUnits 5000000)
  | .k100 => some (.ofUnits 10000000)
  | .k25 => none

def targetReached (a : RuledAccount) : Bool :=
  !marginEngine a.accountType &&
    a.profitTarget.any fun target => decide (plus target.value a.equity.value ≤ a.balance.value)

def checkTarget (a : RuledAccount) : RuledAccount × List RuleEntry :=
  if targetReached a then
    match a.phase with
    | .phase1 => ({ a with phase := .phase2 }, [ruleEntry a .advancedToPhase2])
    | .phase2 => ({ a with phase := .funded }, [ruleEntry a .nowFunded])
    | .funded => (a, [])
  else (a, [])

def checkDrawdown (a : RuledAccount) : RuledAccount × List RuleEntry :=
  if !marginEngine a.accountType then
    if a.maxDrawdown.value ≤ a.drawdown.value ∨ a.balance.value ≤ 0 then
      ({ a with status := .suspended }, [ruleEntry a .suspendedByDrawdown])
    else (a, [])
  else if a.balance.value ≤ 0 then ({ a with status := .suspended }, [ruleEntry a .balanceExhausted])
  else (a, [])

def checkEquity (a : RuledAccount) : RuledAccount :=
  if a.equity.value ≤ 0 then { a with status := .funded } else a

def checkRules (adding : Bool) (a : RuledAccount) : RuledAccount × List RuleEntry :=
  if adding then (a, [])
  else
    let target := checkTarget a
    let drawdown := checkDrawdown target.1
    (checkEquity drawdown.1, target.2 ++ drawdown.2)

/-- The balance that a new account starts from. -/
def canonicalBalance (a : RuledAccount) : Balance :=
  a.initialBalance.getD ((a.tier.bind tierInitial).getD a.balance)

def save (adding : Bool) (a : RuledAccount) : RuledAccount × List RuleEntry :=
  checkRules adding
    (if adding then
      { a with
        initialBalance := some (canonicalBalance a)
        balance := canonicalBalance a
        equity := canonicalBalance a
        peakBalance := canonicalBalance a }
    else { a with initialBalance := some (a.initialBalance.getD a.balance) })

structure Book where
  account : RuledAccount
  ledger : List RuleEntry
deriving DecidableEq

structure Edit where
  balance : Balance
  equity : Balance
  drawdown : Numeric 5 2
  profitTarget : Option Balance
deriving DecidableEq

def Edit.apply (e : Edit) (a : RuledAccount) : RuledAccount :=
  { a with balance := e.balance, equity := e.equity, drawdown := e.drawdown, profitTarget := e.profitTarget }

def store (b : Book) (a : RuledAccount) : Book where
  account := (save false a).1
  ledger := b.ledger ++ (save false a).2

def saveEdited (b : Book) (e : Edit) : Book := store b (e.apply b.account)

def saveUnchanged (b : Book) : Book := store b b.account

def gained (a : RuledAccount) : ℚ := a.balance.value - (a.initialBalance.getD a.balance).value

def GainedTarget (a : RuledAccount) : Prop := ∃ target, a.profitTarget = some target ∧ target.value ≤ gained a

def suspends (a : RuledAccount) : Bool :=
  decide (a.balance.value ≤ 0) || (!marginEngine a.accountType && decide (a.maxDrawdown.value ≤ a.drawdown.value))

structure SoundSave (b : Book) (e : Edit) : Prop where
  advances : (saveEdited b e).account.phase ≠ b.account.phase → GainedTarget (e.apply b.account)
  exhausted : e.balance.value ≤ 0 ∨ e.equity.value ≤ 0 →
    blocked (saveEdited b e).account.status = true ∧ (saveEdited b e).account.status ≠ .funded
  repeated : (saveUnchanged (saveEdited b e)).account.phase = (saveEdited b e).account.phase ∧
    (saveUnchanged (saveEdited b e)).ledger = (saveEdited b e).ledger

/-- The equity is left, nothing suspends the account, and where the balance is at the target and the equity together
the account is funded already, or becomes it by a gain of the target. -/
def CleanSave (b : Book) (e : Edit) : Prop :=
  0 < e.equity.value ∧ suspends (e.apply b.account) = false ∧
    (targetReached (e.apply b.account) = true →
      b.account.phase = .funded ∨ (b.account.phase = .phase2 ∧ GainedTarget (e.apply b.account)))

section Saves

variable {a : RuledAccount} {b : Book} {e : Edit}

def nextPhase (a : RuledAccount) : AccountPhase :=
  if targetReached a then
    match a.phase with
    | .phase1 => .phase2
    | .phase2 | .funded => .funded
  else a.phase

def nextStatus (a : RuledAccount) : AccountStatus :=
  if a.equity.value ≤ 0 then .funded else if suspends a then .suspended else a.status

def targetEntries (a : RuledAccount) : List RuleEntry :=
  if targetReached a then
    match a.phase with
    | .phase1 => [ruleEntry a .advancedToPhase2]
    | .phase2 => [ruleEntry a .nowFunded]
    | .funded => []
  else []

def drawdownEntries (a : RuledAccount) : List RuleEntry :=
  if suspends a then
    [ruleEntry a (if marginEngine a.accountType then .balanceExhausted else .suspendedByDrawdown)]
  else []

lemma checkTarget_eq (a : RuledAccount) : checkTarget a = ({ a with phase := nextPhase a }, targetEntries a) := by
  obtain ⟨⟨_, _, phase, _, _, _, _, _⟩, _⟩ := a
  rw [checkTarget, nextPhase, targetEntries]
  split
  · cases phase <;> rfl
  · rfl

lemma checkDrawdown_eq (a : RuledAccount) :
    checkDrawdown a = ({ a with status := if suspends a then .suspended else a.status }, drawdownEntries a) := by
  rw [checkDrawdown, drawdownEntries, suspends]
  cases marginEngine a.accountType with
  | false =>
    by_cases h : a.maxDrawdown.value ≤ a.drawdown.value ∨ a.balance.value ≤ 0
    · simp [h, or_comm.mp h]
    · have h' : ¬ (a.balance.value ≤ 0 ∨ a.maxDrawdown.value ≤ a.drawdown.value) := fun hor => h hor.symm
      simp [h, h']
  | true => by_cases h : a.balance.value ≤ 0 <;> simp [h]

lemma save_stored (a : RuledAccount) :
    save false a =
      ({ a with
          initialBalance := some (a.initialBalance.getD a.balance)
          phase := nextPhase a
          status := nextStatus a }, targetEntries a ++ drawdownEntries a) := by
  simp only [save, checkRules, Bool.false_eq_true, if_false, checkTarget_eq, checkDrawdown_eq, checkEquity, nextStatus,
    Prod.mk.injEq]
  refine ⟨?_, rfl⟩
  split <;> rfl

lemma nextPhase_eq_iff : nextPhase a = a.phase ↔ (targetReached a = true → a.phase = .funded) := by
  rw [nextPhase]
  cases targetReached a with
  | false => simp
  | true => cases a.phase <;> simp

lemma targetEntries_eq_nil : targetEntries a = [] ↔ (targetReached a = true → a.phase = .funded) := by
  rw [targetEntries]
  cases targetReached a with
  | false => simp
  | true => cases a.phase <;> simp

lemma drawdownEntries_eq_nil : drawdownEntries a = [] ↔ suspends a = false := by
  rw [drawdownEntries]
  cases suspends a <;> simp

lemma nextStatus_exhausted (h : a.balance.value ≤ 0 ∨ a.equity.value ≤ 0) :
    blocked (nextStatus a) = true ↔ 0 < a.equity.value := by
  by_cases hequity : a.equity.value ≤ 0
  · simp [nextStatus, hequity, blocked, not_lt.mpr hequity]
  · have hsuspends : suspends a = true := by simp [suspends, h.resolve_right hequity]
    simp [nextStatus, hequity, hsuspends, blocked, not_le.mp hequity]

/-- What a second save finds at the target is what the first one has left of the phase. -/
lemma repeated_iff :
    ((saveUnchanged (store b a)).account.phase = (store b a).account.phase ∧
        (saveUnchanged (store b a)).ledger = (store b a).ledger) ↔
      suspends a = false ∧ (targetReached a = true → a.phase ≠ .phase1) := by
  obtain ⟨s, hs⟩ : ∃ s, s = (save false a).1 := ⟨_, rfl⟩
  have htarget : targetReached s = targetReached a := by rw [hs, save_stored]; rfl
  have hsuspends : suspends s = suspends a := by rw [hs, save_stored]; rfl
  have hphase : s.phase = nextPhase a := by rw [hs, save_stored]
  have hadvanced : (targetReached a = true → nextPhase a = .funded) ↔ (targetReached a = true → a.phase ≠ .phase1) := by
    rw [nextPhase]
    cases targetReached a with
    | false => simp
    | true => cases a.phase <;> simp
  simp only [saveUnchanged, store, ← hs]
  rw [save_stored s, List.append_right_eq_self, List.append_eq_nil_iff, nextPhase_eq_iff, targetEntries_eq_nil,
    drawdownEntries_eq_nil, htarget, hsuspends, hphase, hadvanced]
  tauto

lemma soundSave_iff : SoundSave b e ↔ CleanSave b e := by
  obtain ⟨a, ha⟩ : ∃ a, a = e.apply b.account := ⟨_, rfl⟩
  have hphase : a.phase = b.account.phase := by rw [ha]; rfl
  have hadvances : (saveEdited b e).account.phase ≠ b.account.phase ↔
      targetReached a = true ∧ a.phase ≠ .funded := by
    rw [saveEdited, ← ha, store, save_stored, ← hphase, ne_eq, nextPhase_eq_iff, Classical.not_imp]
  have hstatus : (saveEdited b e).account.status = nextStatus a := by
    rw [saveEdited, ← ha, store, save_stored]
  have hbalance : e.balance = a.balance := by rw [ha]; rfl
  have hequity : e.equity = a.equity := by rw [ha]; rfl
  rw [CleanSave, ← ha, ← hphase, hequity]
  constructor
  · intro h
    have hrepeated := h.repeated
    rw [saveEdited, ← ha] at hrepeated
    obtain ⟨hsuspends, hfirst⟩ := repeated_iff.mp hrepeated
    refine ⟨?_, hsuspends, fun htarget => ?_⟩
    · by_contra hexhausted
      have hblocked := (h.exhausted (.inr (hequity ▸ not_lt.mp hexhausted))).1
      rw [hstatus, nextStatus_exhausted (.inr (not_lt.mp hexhausted))] at hblocked
      exact hexhausted hblocked
    · cases hp : a.phase with
      | phase1 => exact (hfirst htarget hp).elim
      | phase2 =>
        have hgain := h.advances (hadvances.mpr ⟨htarget, by simp [hp]⟩)
        exact .inr ⟨rfl, ha ▸ hgain⟩
      | funded => exact .inl rfl
  · rintro ⟨hleft, hsuspends, htarget⟩
    refine ⟨fun hadvance => ?_, fun hexhausted => ?_, ?_⟩
    · obtain ⟨hreached, hunfunded⟩ := hadvances.mp hadvance
      exact ha ▸ ((htarget hreached).resolve_left hunfunded).2
    · rw [hbalance, hequity] at hexhausted
      have hblocked := (nextStatus_exhausted hexhausted).mpr hleft
      rw [hstatus]
      refine ⟨hblocked, fun hfunded => ?_⟩
      rw [hfunded] at hblocked
      exact absurd hblocked (by decide)
    · rw [saveEdited, ← ha]
      refine repeated_iff.mpr ⟨hsuspends, fun hreached hfirst => ?_⟩
      rcases htarget hreached with hfunded | ⟨hsecond, -⟩
      · exact absurd (hfirst.symm.trans hfunded) (by decide)
      · exact absurd (hfirst.symm.trans hsecond) (by decide)

end Saves

/-- In every sequence of saves, each is sound exactly if each is clean. -/
theorem sound_saves_iff (b : Book) (edits : List Edit) :
    Guarded saveEdited SoundSave b edits ↔ Guarded saveEdited CleanSave b edits :=
  guarded_congr (fun _ _ => soundSave_iff) b edits

def openedBook : Book where
  account :=
    { user := some 1
      accountType := .challenge
      balance := .ofUnits 1000000
      equity := .ofUnits 1000000
      peakBalance := .ofUnits 1000000
      initialBalance := some (.ofUnits 1000000)
      tier := some .k10
      phase := .phase1
      profitTarget := some (.ofUnits 80000)
      maxDrawdown := .ofUnits 1000
      leverage := 50
      status := .active
      createdOn := 0
      drawdown := .ofUnits 0 }
  ledger := []

def lostEquity : Edit where
  balance := .ofUnits 1000000
  equity := .ofUnits 0
  drawdown := .ofUnits 0
  profitTarget := some (.ofUnits 80000)

/-- Without a gain and with no equity left, the account advances at two saves and is completed. -/
theorem exhausted_completed :
    (saveEdited openedBook lostEquity).account.phase = .phase2 ∧
      (saveUnchanged (saveEdited openedBook lostEquity)).account.phase = .funded ∧
      (saveUnchanged (saveEdited openedBook lostEquity)).ledger.length = 2 ∧
      (saveEdited openedBook lostEquity).account.status = .funded ∧ gained openedBook.account = 0 ∧
      ¬ SoundSave openedBook lostEquity := by
  refine ⟨by decide +kernel, by decide +kernel, by decide +kernel, by decide +kernel, by decide +kernel, fun h => ?_⟩
  have hexhausted : lostEquity.equity.value ≤ 0 := by decide +kernel
  have hcompleted : (saveEdited openedBook lostEquity).account.status = .funded := by decide +kernel
  exact (h.exhausted (.inr hexhausted)).2 hcompleted

end TrxSimulator.Risk.AccountRules
