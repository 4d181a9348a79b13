import Mathlib.Data.Finset.Insert
import Mathlib.Data.List.Sort
import TrxSimulator.Foundations.Runs

/-! The choice of a provider for a symbol: route plans, a circuit breaker for each provider and symbol, and the
decision that takes the first entry of the plan it can. -/

namespace TrxSimulator.Routing.Router

inductive ProviderCapability
  | realtimeTicks | bidAsk | lastPrice | ohlc | history | marketDepth | volume | openInterest | websocket | rest
  | marketStatus
deriving DecidableEq

inductive SourceState
  | live | secondary | simulation | recovery | stale | marketClosed
deriving DecidableEq

inductive OrderPolicy
  | openNormal | closeOnly | haltNewOrders | marketClosed
deriving DecidableEq

inductive ProviderHealthState
  | closed | opened | halfOpen
deriving DecidableEq

inductive ReasonCode
  | primarySelected | secondarySelected | providerDisabled | capabilityMismatch | circuitOpen | halfOpenProbe
  | simulationFallback | noProviderAvailable | marketClosed
deriving DecidableEq

section Plans

/-- An identifier is never empty: one that is raises before anything is looked up. -/
@[ext]
structure Name where
  text : String
  nonempty : text ≠ ""

instance : DecidableEq Name := fun _ _ => decidable_of_iff _ Name.ext_iff.symm

structure ProviderRouteEntry where
  providerId : Name
  canonicalSymbol : Name
  providerSymbol : Name
  priority : ℕ
  requiredCapabilities : Finset ProviderCapability
  enabled : Bool

structure ProviderRoutePlan where
  canonicalSymbol : Name
  entries : List ProviderRouteEntry
  simulationAllowed : Bool
  defaultOrderPolicyOnDegradation : OrderPolicy
  maxFailures : ℕ
  openCooldownSeconds : ℤ
  halfOpenSuccessesRequired : ℕ
  own : ∀ e ∈ entries, e.canonicalSymbol = canonicalSymbol
  unique : (entries.map ProviderRouteEntry.priority).Nodup
  servable : simulationAllowed = false → ∃ e ∈ entries, e.enabled = true
  failures : 1 ≤ maxFailures
  cooldown : 0 < openCooldownSeconds
  successes : 1 ≤ halfOpenSuccessesRequired
  degraded : defaultOrderPolicyOnDegradation = .closeOnly ∨ defaultOrderPolicyOnDegradation = .haltNewOrders

end Plans

section Breaker

structure CircuitBreakerState where
  providerId : Name
  canonicalSymbol : Name
  health : ProviderHealthState := .closed
  consecutiveFailures : ℕ := 0
  openedAt : Option ℤ := none
  lastFailureAt : Option ℤ := none
  halfOpenSuccesses : ℕ := 0
  lastErrorCode : Option String := none
deriving DecidableEq

variable (plan : ProviderRoutePlan) (b : CircuitBreakerState) (now : ℤ)

def recordSuccess : CircuitBreakerState :=
  match b.health with
  | .halfOpen =>
    if plan.halfOpenSuccessesRequired ≤ b.halfOpenSuccesses + 1 then
      { b with
        health := .closed
        consecutiveFailures := 0
        openedAt := none
        halfOpenSuccesses := 0
        lastErrorCode := none }
    else { b with halfOpenSuccesses := b.halfOpenSuccesses + 1 }
  | .opened => b
  | .closed => { b with consecutiveFailures := 0, lastErrorCode := none }

def recordFailure (errorCode : Option String) : CircuitBreakerState :=
  let failures := b.consecutiveFailures + 1
  match b.health with
  | .halfOpen =>
    { b with
      health := .opened
      openedAt := some now
      lastFailureAt := some now
      halfOpenSuccesses := 0
      consecutiveFailures := failures
      lastErrorCode := errorCode }
  | .opened => { b with consecutiveFailures := failures, lastFailureAt := some now, lastErrorCode := errorCode }
  | .closed =>
    if plan.maxFailures ≤ failures then
      { b with
        health := .opened
        consecutiveFailures := failures
        openedAt := some now
        lastFailureAt := some now
        lastErrorCode := errorCode }
    else { b with consecutiveFailures := failures, lastFailureAt := some now, lastErrorCode := errorCode }

def maybeTransitionToHalfOpen : CircuitBreakerState :=
  if b.health = .opened ∧ ∃ t ∈ b.openedAt, plan.openCooldownSeconds ≤ now - t then
    { b with health := .halfOpen, halfOpenSuccesses := 0 }
  else b

end Breaker

section Decisions

structure ProviderRouter where
  breakerStates : Name → Name → Option CircuitBreakerState

def ProviderRouter.new : ProviderRouter := ⟨fun _ _ => none⟩

def getBreakerState (s : ProviderRouter) (providerId canonicalSymbol : Name) : CircuitBreakerState :=
  (s.breakerStates providerId canonicalSymbol).getD { providerId, canonicalSymbol }

def putBreakerState (s : ProviderRouter) (providerId canonicalSymbol : Name) (b : CircuitBreakerState) :
    ProviderRouter where
  breakerStates p c := if p = providerId ∧ c = canonicalSymbol then some b else s.breakerStates p c

structure RouteDecision where
  canonicalSymbol : Name
  selectedProviderId : Option Name
  selectedProviderSymbol : Option Name
  sourceState : SourceState
  orderPolicy : OrderPolicy
  degraded : Bool
  reasonCode : ReasonCode
  triedProviders : List Name
deriving DecidableEq

def providerSuccess (s : ProviderRouter) (providerId : Name) (plan : ProviderRoutePlan) : ProviderRouter :=
  putBreakerState s providerId plan.canonicalSymbol
    (recordSuccess plan (getBreakerState s providerId plan.canonicalSymbol))

def providerFailure (s : ProviderRouter) (providerId : Name) (plan : ProviderRoutePlan) (now : ℤ)
    (errorCode : Option String) : ProviderRouter :=
  putBreakerState s providerId plan.canonicalSymbol
    (recordFailure plan (getBreakerState s providerId plan.canonicalSymbol) now errorCode)

def evaluateRecovery (s : ProviderRouter) (providerId : Name) (plan : ProviderRoutePlan) (now : ℤ) : ProviderRouter :=
  putBreakerState s providerId plan.canonicalSymbol
    (maybeTransitionToHalfOpen plan (getBreakerState s providerId plan.canonicalSymbol) now)

/-- What each registered provider declares that it can do. -/
abbrev Registry := Name → Option (Finset ProviderCapability)

variable (registry : Registry)

def capable (entry : ProviderRouteEntry) : Bool :=
  match registry entry.providerId with
  | none => false
  | some capabilities => decide (entry.requiredCapabilities ⊆ capabilities)

def uniformReason : List ReasonCode → Option ReasonCode
  | [] => none
  | code :: codes => if codes.all fun other => other = code then some code else none

def withoutProvider (plan : ProviderRoutePlan) (tried : List Name) (skipReasons : List ReasonCode) : RouteDecision :=
  if plan.simulationAllowed then
    { canonicalSymbol := plan.canonicalSymbol
      selectedProviderId := none
      selectedProviderSymbol := none
      sourceState := .simulation
      orderPolicy := plan.defaultOrderPolicyOnDegradation
      degraded := true
      reasonCode := .simulationFallback
      triedProviders := tried }
  else
    { canonicalSymbol := plan.canonicalSymbol
      selectedProviderId := none
      selectedProviderSymbol := none
      sourceState := .stale
      orderPolicy := .haltNewOrders
      degraded := true
      reasonCode := (uniformReason skipReasons).getD .noProviderAvailable
      triedProviders := tried }

def withProvider (plan : ProviderRoutePlan) (entry : ProviderRouteEntry) (health : ProviderHealthState)
    (isPrimary : Bool) (tried : List Name) : RouteDecision :=
  if health = .halfOpen then
    { canonicalSymbol := plan.canonicalSymbol
      selectedProviderId := some entry.providerId
      selectedProviderSymbol := some entry.providerSymbol
      sourceState := .recovery
      orderPolicy := .closeOnly
      degraded := true
      reasonCode := .halfOpenProbe
      triedProviders := tried }
  else
    { canonicalSymbol := plan.canonicalSymbol
      selectedProviderId := some entry.providerId
      selectedProviderSymbol := some entry.providerSymbol
      sourceState := if isPrimary then .live else .secondary
      orderPolicy := .openNormal
      degraded := !isPrimary
      reasonCode := if isPrimary then .primarySelected else .secondarySelected
      triedProviders := tried }

def decideAmong (plan : ProviderRoutePlan) (now : ℤ) :
    ProviderRouter → List Name → List ReasonCode → List ProviderRouteEntry → ProviderRouter × RouteDecision
  | s, tried, skipReasons, [] => (s, withoutProvider plan tried skipReasons)
  | s, tried, skipReasons, entry :: rest =>
    let isPrimary := tried.isEmpty
    let tried := tried ++ [entry.providerId]
    if entry.enabled = false then decideAmong plan now s tried (skipReasons ++ [.providerDisabled]) rest
    else if capable registry entry = false then
      decideAmong plan now s tried (skipReasons ++ [.capabilityMismatch]) rest
    else
      let s := evaluateRecovery s entry.providerId plan now
      let state := getBreakerState s entry.providerId plan.canonicalSymbol
      if state.health = .opened then decideAmong plan now s tried (skipReasons ++ [.circuitOpen]) rest
      else (s, withProvider plan entry state.health isPrimary tried)

def sortedEntries (plan : ProviderRoutePlan) : List ProviderRouteEntry :=
  plan.entries.insertionSort fun e e' => e.priority ≤ e'.priority

def decideRoute (s : ProviderRouter) (plan : ProviderRoutePlan) (now : ℤ) : ProviderRouter × RouteDecision :=
  decideAmong registry plan now s [] [] (sortedEntries plan)

end Decisions

section Steps

/-- The plan of every symbol. -/
structure Routes where
  plan : Name → ProviderRoutePlan
  own : ∀ symbol, (plan symbol).canonicalSymbol = symbol

inductive Call
  | providerSuccess (providerId symbol : Name) (now : ℤ)
  | providerFailure (providerId symbol : Name) (now : ℤ) (errorCode : Option String)
  | decide (symbol : Name) (now : ℤ)
deriving DecidableEq

def Call.now : Call → ℤ
  | .providerSuccess _ _ now | .providerFailure _ _ now _ | .decide _ now => now

variable (registry : Registry) (routes : Routes)

def step (s : ProviderRouter) : Call → ProviderRouter
  | .providerSuccess providerId symbol _ => providerSuccess s providerId (routes.plan symbol)
  | .providerFailure providerId symbol now errorCode =>
    providerFailure s providerId (routes.plan symbol) now errorCode
  | .decide symbol now => (decideRoute registry s (routes.plan symbol) now).1

end Steps

section Effects

variable {registry : Registry} {routes : Routes} {s : ProviderRouter} {plan : ProviderRoutePlan} {now : ℤ}

@[simp] lemma getBreakerState_put (s : ProviderRouter) (p c p' c' : Name) (b : CircuitBreakerState) :
    getBreakerState (putBreakerState s p c b) p' c' = if p' = p ∧ c' = c then b else getBreakerState s p' c' := by
  simp only [getBreakerState, putBreakerState]
  split <;> rfl

/-- The state in which a decision finds a breaker. -/
def recovered (s : ProviderRouter) (plan : ProviderRoutePlan) (now : ℤ) (providerId : Name) : CircuitBreakerState :=
  maybeTransitionToHalfOpen plan (getBreakerState s providerId plan.canonicalSymbol) now

def Eligible (registry : Registry) (s : ProviderRouter) (plan : ProviderRoutePlan) (now : ℤ)
    (e : ProviderRouteEntry) : Prop :=
  e.enabled = true ∧ capable registry e = true ∧ (recovered s plan now e.providerId).health ≠ .opened

lemma transition_twice (plan : ProviderRoutePlan) (b : CircuitBreakerState) (now : ℤ) :
    maybeTransitionToHalfOpen plan (maybeTransitionToHalfOpen plan b now) now =
      maybeTransitionToHalfOpen plan b now := by
  by_cases h : b.health = .opened ∧ ∃ t ∈ b.openedAt, plan.openCooldownSeconds ≤ now - t
  · have hhalf : maybeTransitionToHalfOpen plan b now = { b with health := .halfOpen, halfOpenSuccesses := 0 } :=
      if_pos h
    rw [hhalf]
    apply if_neg
    simp
  · simp only [maybeTransitionToHalfOpen, if_neg h]

lemma get_evaluateRecovery (s : ProviderRouter) (plan : ProviderRoutePlan) (now : ℤ) (p p' c : Name) :
    getBreakerState (evaluateRecovery s p plan now) p' c =
      if p' = p ∧ c = plan.canonicalSymbol then recovered s plan now p' else getBreakerState s p' c := by
  rw [evaluateRecovery, getBreakerState_put]
  split
  · next h => rw [recovered, h.1]
  · rfl

@[simp] lemma recovered_evaluateRecovery (s : ProviderRouter) (plan : ProviderRoutePlan) (now : ℤ) (p p' : Name) :
    recovered (evaluateRecovery s p plan now) plan now p' = recovered s plan now p' := by
  rw [recovered, get_evaluateRecovery]
  split
  · exact transition_twice plan _ now
  · rfl

lemma eligible_evaluateRecovery (p : Name) (e : ProviderRouteEntry) :
    Eligible registry (evaluateRecovery s p plan now) plan now e ↔ Eligible registry s plan now e := by
  simp [Eligible]

/-- The first entry that can serve is taken; where there is none, no provider is. -/
inductive Chosen (registry : Registry) (s : ProviderRouter) (plan : ProviderRoutePlan) (now : ℤ)
    (entries : List ProviderRouteEntry) (d : RouteDecision) : Prop
  | provider (skipped rest : List ProviderRouteEntry) (e : ProviderRouteEntry) (isPrimary : Bool) (tried : List Name)
      (split : entries = skipped ++ e :: rest) (before : ∀ x ∈ skipped, ¬ Eligible registry s plan now x)
      (eligible : Eligible registry s plan now e)
      (decision : d = withProvider plan e (recovered s plan now e.providerId).health isPrimary tried)
  | none (tried : List Name) (skipReasons : List ReasonCode)
      (before : ∀ x ∈ entries, ¬ Eligible registry s plan now x)
      (decision : d = withoutProvider plan tried skipReasons)

lemma Chosen.skip {e : ProviderRouteEntry} {entries : List ProviderRouteEntry} {d : RouteDecision}
    (h : Chosen registry s plan now entries d) (he : ¬ Eligible registry s plan now e) :
    Chosen registry s plan now (e :: entries) d := by
  cases h with
  | provider skipped rest e' isPrimary tried hsplit hbefore heligible hd =>
    refine .provider (e :: skipped) rest e' isPrimary tried (by rw [hsplit]; rfl) ?_ heligible hd
    exact List.forall_mem_cons.mpr ⟨he, hbefore⟩
  | none tried skipReasons hbefore hd => exact .none tried skipReasons (List.forall_mem_cons.mpr ⟨he, hbefore⟩) hd

lemma Chosen.evaluated {p : Name} {entries : List ProviderRouteEntry} {d : RouteDecision}
    (h : Chosen registry (evaluateRecovery s p plan now) plan now entries d) :
    Chosen registry s plan now entries d := by
  cases h with
  | provider skipped rest e isPrimary tried hsplit hbefore heligible hd =>
    rw [recovered_evaluateRecovery] at hd
    simp only [eligible_evaluateRecovery] at hbefore heligible
    exact .provider skipped rest e isPrimary tried hsplit hbefore heligible hd
  | none tried skipReasons hbefore hd =>
    simp only [eligible_evaluateRecovery] at hbefore
    exact .none tried skipReasons hbefore hd

lemma decideAmong_chosen (entries : List ProviderRouteEntry) (tried : List Name) (skipReasons : List ReasonCode) :
    Chosen registry s plan now entries (decideAmong registry plan now s tried skipReasons entries).2 := by
  induction entries generalizing s tried skipReasons with
  | nil =>
    apply Chosen.none tried skipReasons _ rfl
    simp
  | cons e entries ih =>
    rw [decideAmong]
    split
    · next henabled =>
      apply (ih _ _).skip
      simp [Eligible, henabled]
    · next henabled =>
      split
      · next hcapable =>
        apply (ih _ _).skip
        simp [Eligible, hcapable]
      · next hcapable =>
        simp only [get_evaluateRecovery, and_self, if_true]
        split
        · next hopened =>
          apply (ih _ _).evaluated.skip
          simp [Eligible, hopened]
        · next hopened =>
          apply Chosen.provider [] entries e _ _ rfl _ _ rfl
          · simp
          · exact ⟨by simpa using henabled, by simpa using hcapable, hopened⟩

/-- A decision does nothing to a breaker but to find its cooldown over. -/
lemma get_decideAmong (entries : List ProviderRouteEntry) (tried : List Name) (skipReasons : List ReasonCode)
    (p c : Name) :
    getBreakerState (decideAmong registry plan now s tried skipReasons entries).1 p c = getBreakerState s p c ∨
      c = plan.canonicalSymbol ∧ p ∈ entries.map ProviderRouteEntry.providerId ∧
        getBreakerState (decideAmong registry plan now s tried skipReasons entries).1 p c = recovered s plan now p := by
  induction entries generalizing s tried skipReasons with
  | nil => exact Or.inl rfl
  | cons e entries ih =>
    have hevaluated : getBreakerState (evaluateRecovery s e.providerId plan now) p c = getBreakerState s p c ∨
        c = plan.canonicalSymbol ∧ p = e.providerId ∧
          getBreakerState (evaluateRecovery s e.providerId plan now) p c = recovered s plan now p := by
      rw [get_evaluateRecovery]
      split
      · next h => exact Or.inr ⟨h.2, h.1, rfl⟩
      · exact Or.inl rfl
    rw [List.map_cons, List.mem_cons, decideAmong]
    split
    · obtain h | ⟨hc, hp, h⟩ := @ih s (tried ++ [e.providerId]) (skipReasons ++ [.providerDisabled])
      · exact Or.inl h
      · exact Or.inr ⟨hc, Or.inr hp, h⟩
    · split
      · obtain h | ⟨hc, hp, h⟩ := @ih s (tried ++ [e.providerId]) (skipReasons ++ [.capabilityMismatch])
        · exact Or.inl h
        · exact Or.inr ⟨hc, Or.inr hp, h⟩
      · dsimp only
        split
        · obtain h | ⟨hc, hp, h⟩ := @ih (evaluateRecovery s e.providerId plan now) (tried ++ [e.providerId])
            (skipReasons ++ [.circuitOpen])
          · rw [h]
            obtain h' | ⟨hc, hp, h'⟩ := hevaluated
            · exact Or.inl h'
            · exact Or.inr ⟨hc, Or.inl hp, h'⟩
          · rw [recovered_evaluateRecovery] at h
            exact Or.inr ⟨hc, Or.inr hp, h⟩
        · obtain h' | ⟨hc, hp, h'⟩ := hevaluated
          · exact Or.inl h'
          · exact Or.inr ⟨hc, Or.inl hp, h'⟩

lemma mem_sortedEntries {e : ProviderRouteEntry} : e ∈ sortedEntries plan ↔ e ∈ plan.entries :=
  List.mem_insertionSort _

lemma pairwise_sortedEntries (plan : ProviderRoutePlan) :
    (sortedEntries plan).Pairwise fun e e' => e.priority ≤ e'.priority := by
  have : IsTrans ProviderRouteEntry fun e e' => e.priority ≤ e'.priority := ⟨fun _ _ _ => le_trans⟩
  have : Std.Total fun e e' : ProviderRouteEntry => e.priority ≤ e'.priority := ⟨fun e e' => le_total _ _⟩
  exact List.pairwise_insertionSort _ plan.entries

end Effects

end TrxSimulator.Routing.Router
