import TrxSimulator.Routing.Router

/-! What a decision says of the history of the provider it takes. -/

namespace TrxSimulator.Routing.Recovery

open Foundations.Runs Router

variable (registry : Registry) (routes : Routes) (p symbol : Name)

section Histories

def after (calls : List Call) : ProviderRouter := run (step registry routes) ProviderRouter.new calls

def decision (calls : List Call) (now : ℤ) : RouteDecision :=
  (decideRoute registry (after registry routes calls) (routes.plan symbol) now).2

def Trips (s : ProviderRouter) (c : Call) : Prop :=
  (getBreakerState s p symbol).health ≠ .opened ∧
    (getBreakerState (step registry routes s c) p symbol).health = .opened

instance decidableTrips (s : ProviderRouter) (c : Call) : Decidable (Trips registry routes p symbol s c) :=
  inferInstanceAs (Decidable (_ ∧ _))

def Untripped (s : ProviderRouter) (calls : List Call) : Prop :=
  Guarded (step registry routes) (fun s c => ¬ Trips registry routes p symbol s c) s calls

instance decidableUntripped (s : ProviderRouter) (calls : List Call) :
    Decidable (Untripped registry routes p symbol s calls) :=
  decidableGuarded _ _ s calls

/-- The most recent trip of a breaker in a history. -/
structure LastTrip (calls before : List Call) (c : Call) (rest : List Call) : Prop where
  split : calls = before ++ c :: rest
  trips : Trips registry routes p symbol (after registry routes before) c
  quiet : Untripped registry routes p symbol (after registry routes (before ++ [c])) rest

def succeeds : Call → Bool
  | .providerSuccess p' symbol' _ => decide (p' = p ∧ symbol' = symbol)
  | _ => false

def fails : Call → Bool
  | .providerFailure p' symbol' _ _ => decide (p' = p ∧ symbol' = symbol)
  | _ => false

/-- Since the most recent trip a decision came when the cooldown was over, and no failure during the trial after it. -/
def Probed (calls trial rest : List Call) : Prop :=
  ∃ before c wait now,
    LastTrip registry routes p symbol calls before c (wait ++ .decide symbol now :: (trial ++ rest)) ∧
      (routes.plan symbol).openCooldownSeconds ≤ now - c.now ∧ ∀ x ∈ trial, fails p symbol x = false

def Recovered (calls : List Call) : Prop :=
  ∃ trial rest, Probed registry routes p symbol calls trial rest ∧
    (routes.plan symbol).halfOpenSuccessesRequired ≤ trial.countP (succeeds p symbol)

def Standing (calls : List Call) (b : CircuitBreakerState) : Prop :=
  match b.health with
  | .closed => Untripped registry routes p symbol ProviderRouter.new calls ∨ Recovered registry routes p symbol calls
  | .opened => ∃ before c rest, LastTrip registry routes p symbol calls before c rest ∧ b.openedAt = some c.now
  | .halfOpen => ∃ trial, Probed registry routes p symbol calls trial [] ∧
    b.halfOpenSuccesses = trial.countP (succeeds p symbol)

end Histories

section Snoc

variable {registry routes p symbol} {calls before trying later : List Call} {c x : Call}

lemma after_append (calls more : List Call) :
    after registry routes (calls ++ more) = run (step registry routes) (after registry routes calls) more :=
  run_append _ _ _ _

lemma Untripped.snoc {s : ProviderRouter} (h : Untripped registry routes p symbol s calls)
    (hx : ¬ Trips registry routes p symbol (run (step registry routes) s calls) x) :
    Untripped registry routes p symbol s (calls ++ [x]) :=
  (guarded_append _ _ _ _ _).mpr ⟨h, hx, trivial⟩

lemma LastTrip.snoc (h : LastTrip registry routes p symbol calls before c later)
    (hx : ¬ Trips registry routes p symbol (after registry routes calls) x) :
    LastTrip registry routes p symbol (calls ++ [x]) before c (later ++ [x]) := by
  refine ⟨by rw [h.split, List.append_assoc]; rfl, h.trips, h.quiet.snoc ?_⟩
  have hcalls : calls = (before ++ [c]) ++ later := by simp [h.split]
  rwa [← after_append, ← hcalls]

lemma LastTrip.now (hx : Trips registry routes p symbol (after registry routes calls) x) :
    LastTrip registry routes p symbol (calls ++ [x]) calls x [] :=
  ⟨rfl, hx, trivial⟩

lemma Probed.extend (h : Probed registry routes p symbol calls trying later)
    (hx : ¬ Trips registry routes p symbol (after registry routes calls) x) :
    Probed registry routes p symbol (calls ++ [x]) trying (later ++ [x]) := by
  obtain ⟨before, c, wait, now, hlast, hcooldown, htrial⟩ := h
  refine ⟨before, c, wait, now, ?_, hcooldown, htrial⟩
  simpa using hlast.snoc hx

lemma Probed.tried (h : Probed registry routes p symbol calls trying [])
    (hx : ¬ Trips registry routes p symbol (after registry routes calls) x) (hfails : fails p symbol x = false) :
    Probed registry routes p symbol (calls ++ [x]) (trying ++ [x]) [] := by
  obtain ⟨before, c, wait, now, hlast, hcooldown, htrial⟩ := h
  refine ⟨before, c, wait, now, by simpa using hlast.snoc hx, hcooldown, fun y hy => ?_⟩
  obtain hy | hy := List.mem_append.mp hy
  · exact htrial y hy
  · rw [List.mem_singleton.mp hy]
    exact hfails

lemma Recovered.snoc (h : Recovered registry routes p symbol calls)
    (hx : ¬ Trips registry routes p symbol (after registry routes calls) x) :
    Recovered registry routes p symbol (calls ++ [x]) := by
  obtain ⟨trial, rest, hprobed, hcount⟩ := h
  exact ⟨trial, rest ++ [x], hprobed.extend hx, hcount⟩

end Snoc

section Calls

variable {registry routes p symbol} {s : ProviderRouter} {calls : List Call} {c : Call}

lemma breaker_cases (registry : Registry) (routes : Routes) (p symbol : Name) (s : ProviderRouter) (c : Call) :
    (getBreakerState (step registry routes s c) p symbol = getBreakerState s p symbol ∧
        succeeds p symbol c = false ∧ fails p symbol c = false) ∨
      (∃ now, c = .providerSuccess p symbol now ∧ getBreakerState (step registry routes s c) p symbol =
        recordSuccess (routes.plan symbol) (getBreakerState s p symbol)) ∨
      (∃ now errorCode, c = .providerFailure p symbol now errorCode ∧
        getBreakerState (step registry routes s c) p symbol =
          recordFailure (routes.plan symbol) (getBreakerState s p symbol) now errorCode) ∨
      ∃ now, c = .decide symbol now ∧ getBreakerState (step registry routes s c) p symbol =
        maybeTransitionToHalfOpen (routes.plan symbol) (getBreakerState s p symbol) now := by
  cases c with
  | providerSuccess p' symbol' now =>
    have hput : getBreakerState (step registry routes s (.providerSuccess p' symbol' now)) p symbol =
        if p = p' ∧ symbol = symbol' then recordSuccess (routes.plan symbol') (getBreakerState s p' symbol')
        else getBreakerState s p symbol := by
      rw [step, providerSuccess, getBreakerState_put, routes.own]
    by_cases h : p = p' ∧ symbol = symbol'
    · obtain ⟨rfl, rfl⟩ := h
      exact Or.inr (Or.inl ⟨now, rfl, hput.trans (if_pos ⟨rfl, rfl⟩)⟩)
    · refine Or.inl ⟨hput.trans (if_neg h), ?_, rfl⟩
      exact decide_eq_false fun h' => h ⟨h'.1.symm, h'.2.symm⟩
  | providerFailure p' symbol' now errorCode =>
    have hput : getBreakerState (step registry routes s (.providerFailure p' symbol' now errorCode)) p symbol =
        if p = p' ∧ symbol = symbol' then
          recordFailure (routes.plan symbol') (getBreakerState s p' symbol') now errorCode
        else getBreakerState s p symbol := by
      rw [step, providerFailure, getBreakerState_put, routes.own]
    by_cases h : p = p' ∧ symbol = symbol'
    · obtain ⟨rfl, rfl⟩ := h
      exact Or.inr (Or.inr (Or.inl ⟨now, errorCode, rfl, hput.trans (if_pos ⟨rfl, rfl⟩)⟩))
    · refine Or.inl ⟨hput.trans (if_neg h), rfl, ?_⟩
      exact decide_eq_false fun h' => h ⟨h'.1.symm, h'.2.symm⟩
  | decide symbol' now =>
    obtain h | ⟨hsymbol, -, h⟩ := @get_decideAmong registry s (routes.plan symbol') now
      (sortedEntries (routes.plan symbol')) [] [] p symbol
    · exact Or.inl ⟨h, rfl, rfl⟩
    · rw [routes.own] at hsymbol
      subst hsymbol
      refine Or.inr (Or.inr (Or.inr ⟨now, rfl, ?_⟩))
      rwa [recovered, routes.own] at h

lemma trips_openedAt (h : Trips registry routes p symbol s c) :
    (getBreakerState (step registry routes s c) p symbol).openedAt = some c.now := by
  obtain ⟨hbefore, hafter⟩ := h
  obtain ⟨hsame, -, -⟩ | ⟨now, rfl, hb⟩ | ⟨now, errorCode, rfl, hb⟩ | ⟨now, rfl, hb⟩ :=
    breaker_cases registry routes p symbol s c
  · exact absurd (hsame ▸ hafter) hbefore
  · rw [hb, recordSuccess] at hafter
    split at hafter
    · split at hafter
      · cases hafter
      · exact absurd hafter hbefore
    · exact absurd hafter hbefore
    · exact absurd hafter hbefore
  · rw [hb] at hafter ⊢
    rw [recordFailure] at hafter ⊢
    cases hhealth : (getBreakerState s p symbol).health with
    | halfOpen => rfl
    | opened => exact absurd hhealth hbefore
    | closed =>
      simp only [hhealth] at hafter ⊢
      split at hafter
      · next hmany =>
        rw [if_pos hmany]
        rfl
      · cases hafter
  · rw [hb, maybeTransitionToHalfOpen, if_neg (fun hopened => hbefore hopened.1)] at hafter
    exact absurd hafter hbefore

lemma standing_same {b : CircuitBreakerState} (h : Standing registry routes p symbol calls b)
    (hx : ¬ Trips registry routes p symbol (after registry routes calls) c) (hsucceeds : succeeds p symbol c = false)
    (hfails : fails p symbol c = false) : Standing registry routes p symbol (calls ++ [c]) b := by
  rw [Standing] at h ⊢
  split
  · next hhealth =>
    simp only [hhealth] at h
    exact h.imp (fun h => h.snoc hx) fun h => h.snoc hx
  · next hhealth =>
    simp only [hhealth] at h
    obtain ⟨before, c', rest, hlast, hopened⟩ := h
    exact ⟨before, c', rest ++ [c], hlast.snoc hx, hopened⟩
  · next hhealth =>
    simp only [hhealth] at h
    obtain ⟨trial, hprobed, hcount⟩ := h
    refine ⟨trial ++ [c], hprobed.tried hx hfails, ?_⟩
    simp [hcount, hsucceeds]

lemma after_snoc (calls : List Call) (c : Call) :
    after registry routes (calls ++ [c]) = step registry routes (after registry routes calls) c :=
  after_append calls [c]

lemma standing_tripped (h : Trips registry routes p symbol (after registry routes calls) c) :
    Standing registry routes p symbol (calls ++ [c])
      (getBreakerState (after registry routes (calls ++ [c])) p symbol) := by
  rw [after_snoc, Standing, h.2]
  exact ⟨calls, c, [], LastTrip.now h, trips_openedAt h⟩

lemma standing_step (h : Standing registry routes p symbol calls
    (getBreakerState (after registry routes calls) p symbol)) (c : Call) :
    Standing registry routes p symbol (calls ++ [c])
      (getBreakerState (after registry routes (calls ++ [c])) p symbol) := by
  by_cases hx : Trips registry routes p symbol (after registry routes calls) c
  · exact standing_tripped hx
  · rw [after_snoc]
    generalize hbefore : getBreakerState (after registry routes calls) p symbol = b at h
    obtain ⟨hsame, hsucceeds, hfails⟩ | ⟨now, rfl, hb⟩ | ⟨now, errorCode, rfl, hb⟩ | ⟨now, rfl, hb⟩ :=
      breaker_cases registry routes p symbol (after registry routes calls) c
    · rw [hsame, hbefore]
      exact standing_same h hx hsucceeds hfails
    · rw [hb, hbefore, recordSuccess]
      cases hhealth : b.health with
      | halfOpen =>
        simp only [Standing, hhealth] at h
        obtain ⟨trial, hprobed, hcount⟩ := h
        have htried := hprobed.tried hx rfl
        have hsuccesses : (trial ++ [Call.providerSuccess p symbol now]).countP (succeeds p symbol) =
            b.halfOpenSuccesses + 1 := by
          simp [hcount, succeeds]
        dsimp only
        split
        · next henough => exact Or.inr ⟨_, [], htried, hsuccesses ▸ henough⟩
        · simp only [Standing]
          exact ⟨_, htried, hsuccesses.symm⟩
      | opened =>
        simp only [Standing, hhealth] at h ⊢
        obtain ⟨before, c, later, hlast, hopened⟩ := h
        exact ⟨before, c, _, hlast.snoc hx, hopened⟩
      | closed =>
        simp only [Standing, hhealth] at h ⊢
        exact h.imp (fun h => h.snoc hx) fun h => h.snoc hx
    · rw [hb, hbefore, recordFailure]
      have hnot : (recordFailure (routes.plan symbol) b now errorCode).health = .opened → b.health = .opened := by
        intro hopened
        by_contra hclosed
        apply hx
        rw [Trips, hb, hbefore]
        exact ⟨hclosed, hopened⟩
      cases hhealth : b.health with
      | halfOpen =>
        have hopened := hnot (by simp [recordFailure, hhealth])
        cases hhealth.symm.trans hopened
      | opened =>
        simp only [Standing, hhealth] at h ⊢
        obtain ⟨before, c, later, hlast, hopened⟩ := h
        exact ⟨before, c, _, hlast.snoc hx, hopened⟩
      | closed =>
        dsimp only
        split
        · next hmany =>
          have hopened := hnot (by simp [recordFailure, hhealth, hmany])
          cases hhealth.symm.trans hopened
        · simp only [Standing, hhealth] at h ⊢
          exact h.imp (fun h => h.snoc hx) fun h => h.snoc hx
    · rw [hb, hbefore, maybeTransitionToHalfOpen]
      split
      · next hover =>
        obtain ⟨hopened, t, ht, hcooldown⟩ := hover
        simp only [Standing, hopened] at h ⊢
        obtain ⟨before, c, later, hlast, hat⟩ := h
        obtain rfl := Option.some.inj (hat.symm.trans ht)
        exact ⟨[], ⟨before, c, later, now, hlast.snoc hx, hcooldown, by simp⟩, rfl⟩
      · exact standing_same h hx rfl rfl

lemma standing (registry : Registry) (routes : Routes) (p symbol : Name) (calls : List Call) :
    Standing registry routes p symbol calls (getBreakerState (after registry routes calls) p symbol) := by
  induction calls using List.reverseRecOn with
  | nil => exact Or.inl trivial
  | append_singleton calls c ih => exact standing_step ih c

end Calls

section Cooling

variable {registry routes p symbol} {s : ProviderRouter} {calls : List Call} {now t : ℤ}

/-- A breaker that was tripped at `t`. -/
def OpenSince (p symbol : Name) (t : ℤ) (s : ProviderRouter) : Prop :=
  (getBreakerState s p symbol).health = .opened ∧ (getBreakerState s p symbol).openedAt = some t

lemma openSince_step (h : OpenSince p symbol t s) {c : Call}
    (hnow : c.now - t < (routes.plan symbol).openCooldownSeconds) :
    OpenSince p symbol t (step registry routes s c) := by
  obtain ⟨hopened, hat⟩ := h
  obtain ⟨hsame, -, -⟩ | ⟨now, rfl, hb⟩ | ⟨now, errorCode, rfl, hb⟩ | ⟨now, rfl, hb⟩ :=
    breaker_cases registry routes p symbol s c
  · rw [OpenSince, hsame]
    exact ⟨hopened, hat⟩
  · have hsame : recordSuccess (routes.plan symbol) (getBreakerState s p symbol) = getBreakerState s p symbol := by
      simp only [recordSuccess, hopened]
    rw [OpenSince, hb, hsame]
    exact ⟨hopened, hat⟩
  · rw [OpenSince, hb]
    simp [recordFailure, hopened, hat]
  · have hwait : ¬ ((getBreakerState s p symbol).health = .opened ∧ ∃ u ∈ (getBreakerState s p symbol).openedAt,
        (routes.plan symbol).openCooldownSeconds ≤ now - u) := by
      rintro ⟨-, u, hu, hcooldown⟩
      obtain rfl := Option.some.inj (hat.symm.trans hu)
      exact absurd hcooldown (not_le.mpr hnow)
    rw [OpenSince, hb, maybeTransitionToHalfOpen, if_neg hwait]
    exact ⟨hopened, hat⟩

lemma openSince_run (h : OpenSince p symbol t s)
    (hnow : ∀ c ∈ calls, c.now - t < (routes.plan symbol).openCooldownSeconds) :
    OpenSince p symbol t (run (step registry routes) s calls) := by
  induction calls generalizing s with
  | nil => exact h
  | cons c calls ih =>
    rw [List.forall_mem_cons] at hnow
    exact ih (openSince_step h hnow.1) hnow.2

lemma not_eligible_of_openSince (h : OpenSince p symbol t s)
    (hnow : now - t < (routes.plan symbol).openCooldownSeconds) {e : ProviderRouteEntry} (he : e.providerId = p) :
    ¬ Eligible registry s (routes.plan symbol) now e := by
  obtain ⟨hopened, hat⟩ := h
  rintro ⟨-, -, hhealth⟩
  apply hhealth
  rw [recovered, routes.own, he, maybeTransitionToHalfOpen, if_neg, hopened]
  rintro ⟨-, u, hu, hcooldown⟩
  obtain rfl := Option.some.inj (hat.symm.trans hu)
  exact absurd hcooldown (not_le.mpr hnow)

end Cooling

section Tripping

variable {registry routes p symbol} {s : ProviderRouter} {calls : List Call}

/-- A closed breaker that is not tripped counts the failures since its last success, and they are too few. -/
lemma closed_counts (hclosed : (getBreakerState s p symbol).health = .closed)
    (hquiet : Untripped registry routes p symbol s calls) (hsucceeds : ∀ c ∈ calls, succeeds p symbol c = false) :
    calls.countP (fails p symbol) = 0 ∨
      (getBreakerState s p symbol).consecutiveFailures + calls.countP (fails p symbol) <
        (routes.plan symbol).maxFailures := by
  induction calls generalizing s with
  | nil => exact Or.inl rfl
  | cons c calls ih =>
    rw [List.forall_mem_cons] at hsucceeds
    obtain ⟨hstay, hrest⟩ := hquiet
    obtain ⟨hsame, -, hfails⟩ | ⟨now, rfl, hb⟩ | ⟨now, errorCode, rfl, hb⟩ | ⟨now, rfl, hb⟩ :=
      breaker_cases registry routes p symbol s c
    · have hafter := ih (hsame ▸ hclosed) hrest hsucceeds.2
      rw [hsame] at hafter
      simpa [hfails] using hafter
    · simp [succeeds] at hsucceeds
    · have hfew : ¬ (routes.plan symbol).maxFailures ≤ (getBreakerState s p symbol).consecutiveFailures + 1 := by
        intro hmany
        apply hstay
        rw [Trips, hb]
        simp [recordFailure, hclosed, hmany]
      have hnext : recordFailure (routes.plan symbol) (getBreakerState s p symbol) now errorCode =
          { getBreakerState s p symbol with
            consecutiveFailures := (getBreakerState s p symbol).consecutiveFailures + 1
            lastFailureAt := some now
            lastErrorCode := errorCode } := by
        simp only [recordFailure, hclosed, if_neg hfew]
      rw [hnext] at hb
      have hafter := ih (by rw [hb]; exact hclosed) hrest hsucceeds.2
      rw [hb] at hafter
      have hone : fails p symbol (.providerFailure p symbol now errorCode) = true := by simp [fails]
      rw [List.countP_cons_of_pos hone]
      dsimp only at hafter
      omega
    · have hsame : maybeTransitionToHalfOpen (routes.plan symbol) (getBreakerState s p symbol) now =
          getBreakerState s p symbol := by
        apply if_neg
        simp [hclosed]
      rw [hsame] at hb
      have hafter := ih (by rw [hb]; exact hclosed) hrest hsucceeds.2
      rw [hb] at hafter
      simpa [fails] using hafter

end Tripping

section Choices

variable {registry routes} {s : ProviderRouter} {plan : ProviderRoutePlan} {now : ℤ}

/-- The entry that is taken is the one of least priority number among those that can serve. -/
def Least (registry : Registry) (s : ProviderRouter) (plan : ProviderRoutePlan) (now : ℤ) (d : RouteDecision) : Prop :=
  match d.selectedProviderId with
  | none => ∀ e ∈ plan.entries, ¬ Eligible registry s plan now e
  | some p => ∃ e ∈ plan.entries, e.providerId = p ∧ d.selectedProviderSymbol = some e.providerSymbol ∧
    Eligible registry s plan now e ∧ ∀ e' ∈ plan.entries, Eligible registry s plan now e' → e.priority ≤ e'.priority

lemma withProvider_selected (plan : ProviderRoutePlan) (e : ProviderRouteEntry) (health : ProviderHealthState)
    (isPrimary : Bool) (tried : List Name) :
    (withProvider plan e health isPrimary tried).selectedProviderId = some e.providerId ∧
      (withProvider plan e health isPrimary tried).selectedProviderSymbol = some e.providerSymbol ∧
      ((withProvider plan e health isPrimary tried).orderPolicy = .openNormal ↔ health ≠ .halfOpen) := by
  rw [withProvider]
  split <;> simp [*]

lemma withoutProvider_selected (plan : ProviderRoutePlan) (tried : List Name) (skipReasons : List ReasonCode) :
    (withoutProvider plan tried skipReasons).selectedProviderId = none := by
  rw [withoutProvider]
  split <;> rfl

lemma decideRoute_chosen (registry : Registry) (s : ProviderRouter) (plan : ProviderRoutePlan) (now : ℤ) :
    Chosen registry s plan now (sortedEntries plan) (decideRoute registry s plan now).2 :=
  decideAmong_chosen _ _ _

lemma decideRoute_least (registry : Registry) (s : ProviderRouter) (plan : ProviderRoutePlan) (now : ℤ) :
    Least registry s plan now (decideRoute registry s plan now).2 := by
  have hsorted := pairwise_sortedEntries plan
  cases decideRoute_chosen registry s plan now with
  | provider skipped rest e isPrimary tried hsplit hbefore heligible hd =>
    obtain ⟨hid, hsymbol, -⟩ :=
      withProvider_selected plan e (recovered s plan now e.providerId).health isPrimary tried
    rw [hd, Least, hid]
    have hmem : e ∈ sortedEntries plan := by simp [hsplit]
    refine ⟨e, mem_sortedEntries.mp hmem, rfl, hsymbol, heligible, fun e' he' helig => ?_⟩
    rw [← mem_sortedEntries, hsplit] at he'
    rw [hsplit] at hsorted
    obtain hskipped | hrest := List.mem_append.mp he'
    · exact absurd helig (hbefore e' hskipped)
    · obtain rfl | hlater := List.mem_cons.mp hrest
      · exact le_rfl
      · exact (List.pairwise_cons.mp (List.pairwise_append.mp hsorted).2.1).1 e' hlater
  | none tried skipReasons hbefore hd =>
    rw [hd, Least, withoutProvider_selected]
    exact fun e he => hbefore e (mem_sortedEntries.mpr he)

lemma selected_health {p : Name} (h : (decideRoute registry s plan now).2.selectedProviderId = some p) :
    ∃ e ∈ plan.entries, e.providerId = p ∧ Eligible registry s plan now e ∧
      ((decideRoute registry s plan now).2.orderPolicy = .openNormal ↔
        (recovered s plan now p).health ≠ .halfOpen) := by
  cases decideRoute_chosen registry s plan now with
  | provider skipped rest e isPrimary tried hsplit hbefore heligible hd =>
    obtain ⟨hid, -, hpolicy⟩ :=
      withProvider_selected plan e (recovered s plan now e.providerId).health isPrimary tried
    rw [← hd] at hid hpolicy
    obtain rfl := Option.some.inj (hid.symm.trans h)
    have hmem : e ∈ sortedEntries plan := by simp [hsplit]
    exact ⟨e, mem_sortedEntries.mp hmem, rfl, heligible, hpolicy⟩
  | none tried skipReasons hbefore hd =>
    rw [hd, withoutProvider_selected] at h
    cases h

end Choices

section Isolation

variable {p symbol : Name} {s : ProviderRouter} {c : Call}

/-- The pairs that a call is about; a decision looks at every provider of its plan. -/
def About (routes : Routes) (p symbol : Name) : Call → Prop
  | .providerSuccess p' symbol' _ | .providerFailure p' symbol' _ _ => p' = p ∧ symbol' = symbol
  | .decide symbol' _ => symbol' = symbol ∧ p ∈ (routes.plan symbol).entries.map ProviderRouteEntry.providerId

lemma breaker_apart (registry : Registry) (routes : Routes) (h : ¬ About routes p symbol c) :
    getBreakerState (step registry routes s c) p symbol = getBreakerState s p symbol := by
  obtain ⟨hsame, -, -⟩ | ⟨now, rfl, -⟩ | ⟨now, errorCode, rfl, -⟩ | ⟨now, rfl, hb⟩ :=
    breaker_cases registry routes p symbol s c
  · exact hsame
  · exact absurd ⟨rfl, rfl⟩ h
  · exact absurd ⟨rfl, rfl⟩ h
  · obtain hsame | ⟨-, hmem, -⟩ := @get_decideAmong registry s (routes.plan symbol) now
      (sortedEntries (routes.plan symbol)) [] [] p symbol
    · exact hsame
    · obtain ⟨e, he, hp⟩ := List.mem_map.mp hmem
      exact absurd ⟨rfl, List.mem_map.mpr ⟨e, mem_sortedEntries.mp he, hp⟩⟩ h

end Isolation

/-- What holds of the decision that comes after a history, and of the calls that may come instead. -/
structure Routed (calls : List Call) : Prop where
  trusted : ∀ p symbol now, (decision registry routes symbol calls now).selectedProviderId = some p →
    (decision registry routes symbol calls now).orderPolicy = .openNormal →
      Untripped registry routes p symbol ProviderRouter.new calls ∨ Recovered registry routes p symbol calls
  cooling : ∀ p symbol now before c rest, calls = before ++ c :: rest →
    Trips registry routes p symbol (after registry routes before) c →
      (calls ++ [Call.decide symbol now]).Pairwise (fun x y => x.now ≤ y.now) →
        now - c.now < (routes.plan symbol).openCooldownSeconds →
          (decision registry routes symbol calls now).selectedProviderId ≠ some p
  tripping : ∀ p symbol more, (getBreakerState (after registry routes calls) p symbol).health = .closed →
    (∀ c ∈ more, succeeds p symbol c = false) →
      (routes.plan symbol).maxFailures ≤ more.countP (fails p symbol) →
        ∃ before c rest, more = before ++ c :: rest ∧
          Trips registry routes p symbol (after registry routes (calls ++ before)) c
  least : ∀ symbol now, Least registry (after registry routes calls) (routes.plan symbol) now
    (decision registry routes symbol calls now)
  apart : ∀ p symbol c, ¬ About routes p symbol c →
    getBreakerState (after registry routes (calls ++ [c])) p symbol =
      getBreakerState (after registry routes calls) p symbol

section Runs

variable {registry routes} {calls : List Call} {p symbol : Name} {now : ℤ}

lemma trusted (hp : (decision registry routes symbol calls now).selectedProviderId = some p)
    (hpolicy : (decision registry routes symbol calls now).orderPolicy = .openNormal) :
    Untripped registry routes p symbol ProviderRouter.new calls ∨ Recovered registry routes p symbol calls := by
  obtain ⟨e, -, rfl, ⟨-, -, hopened⟩, hiff⟩ := selected_health hp
  have hhalf := hiff.mp hpolicy
  have hstanding := standing registry routes e.providerId symbol calls
  rw [recovered, routes.own, maybeTransitionToHalfOpen] at hopened hhalf
  split at hopened
  · next hover =>
    rw [if_pos hover] at hhalf
    exact absurd rfl hhalf
  · next hover =>
    rw [if_neg hover] at hhalf
    rw [Standing] at hstanding
    cases hhealth : (getBreakerState (after registry routes calls) e.providerId symbol).health with
    | closed =>
      simp only [hhealth] at hstanding
      exact hstanding
    | opened => exact absurd hhealth hopened
    | halfOpen => exact absurd hhealth hhalf

lemma cooling {before rest : List Call} {c : Call} (hsplit : calls = before ++ c :: rest)
    (htrips : Trips registry routes p symbol (after registry routes before) c)
    (hsorted : (calls ++ [Call.decide symbol now]).Pairwise fun x y => x.now ≤ y.now)
    (hnow : now - c.now < (routes.plan symbol).openCooldownSeconds) :
    (decision registry routes symbol calls now).selectedProviderId ≠ some p := by
  intro hp
  obtain ⟨e, -, he, heligible, -⟩ := selected_health hp
  have htripped : OpenSince p symbol c.now (after registry routes (before ++ [c])) := by
    rw [after_snoc]
    exact ⟨htrips.2, trips_openedAt htrips⟩
  have hcalls : calls = (before ++ [c]) ++ rest := by simp [hsplit]
  have hwait : ∀ x ∈ rest, x.now - c.now < (routes.plan symbol).openCooldownSeconds := by
    intro x hx
    have hmem : x ∈ calls := by simp [hsplit, hx]
    have hle : x.now ≤ now := (List.pairwise_append.mp hsorted).2.2 x hmem _ (List.mem_singleton_self _)
    omega
  have hopen := @openSince_run registry _ _ _ _ _ _ htripped hwait
  rw [← after_append, ← hcalls] at hopen
  exact not_eligible_of_openSince hopen hnow he heligible

lemma tripping {more : List Call}
    (hclosed : (getBreakerState (after registry routes calls) p symbol).health = .closed)
    (hsucceeds : ∀ c ∈ more, succeeds p symbol c = false)
    (hmany : (routes.plan symbol).maxFailures ≤ more.countP (fails p symbol)) :
    ∃ before c rest, more = before ++ c :: rest ∧
      Trips registry routes p symbol (after registry routes (calls ++ before)) c := by
  have htripped : ¬ Untripped registry routes p symbol (after registry routes calls) more := by
    intro hquiet
    have hfailures := (routes.plan symbol).failures
    have hcounts := closed_counts hclosed hquiet hsucceeds
    omega
  obtain ⟨before, c, rest, hsplit, htrips⟩ := not_guarded_iff.mp htripped
  refine ⟨before, c, rest, hsplit, ?_⟩
  rw [after_append]
  exact not_not.mp htrips

end Runs

theorem routed (calls : List Call) : Routed registry routes calls where
  trusted _ _ _ := trusted
  cooling _ _ _ _ _ _ := cooling
  tripping _ _ _ := tripping
  least symbol now := decideRoute_least registry (after registry routes calls) (routes.plan symbol) now
  apart p symbol c h := by
    rw [after_snoc]
    exact breaker_apart registry routes h

section Example

def binance : Name := ⟨"binance", by decide⟩

def btcusd : Name := ⟨"BTCUSD", by decide⟩

def onlyBinance : Routes where
  plan symbol :=
    { canonicalSymbol := symbol
      entries := [⟨binance, symbol, binance, 0, ∅, true⟩]
      simulationAllowed := true
      defaultOrderPolicyOnDegradation := .closeOnly
      maxFailures := 3
      openCooldownSeconds := 60
      halfOpenSuccessesRequired := 2
      own := by simp
      unique := by simp
      servable := by simp
      failures := by decide
      cooldown := by decide
      successes := by decide
      degraded := Or.inl rfl }
  own _ := rfl

def fail (now : ℤ) : Call := .providerFailure binance btcusd now none

def recoveredCalls : List Call :=
  [.decide btcusd 60, .providerSuccess binance btcusd 61, .providerSuccess binance btcusd 61, fail 62]

/-- A provider that has recovered stays trusted while its failures are fewer than the plan's. -/
theorem trusted_after_failure :
    let registry : Registry := fun _ => some ∅
    let calls := [fail 0, fail 0] ++ fail 0 :: recoveredCalls
    LastTrip registry onlyBinance binance btcusd calls [fail 0, fail 0] (fail 0) recoveredCalls ∧
      (∃ x ∈ recoveredCalls, fails binance btcusd x = true ∧
        (onlyBinance.plan btcusd).openCooldownSeconds ≤ x.now - (fail 0).now) ∧
      (decision registry onlyBinance btcusd calls 63).selectedProviderId = some binance ∧
      (decision registry onlyBinance btcusd calls 63).orderPolicy = .openNormal := by
  refine ⟨⟨rfl, by decide +kernel, by decide +kernel⟩, ⟨fail 62, by decide, by decide, by decide⟩, ?_, ?_⟩
  · decide +kernel
  · decide +kernel

end Example

end TrxSimulator.Routing.Recovery
