import TrxSimulator.Risk.Batches

/-! Which stored positions a scan sets out to close, and which accounts stay open to it. -/

namespace TrxSimulator.Risk.Coverage

open Foundations.Tables Foundations.Runs Foundations.Outcomes Foundations.Decimals
open Challenges.Evaluation Challenges.Drawdown Market.Symbols Market.Pnl
open Trading.Levels (Row Level closingPrice)
open Liquidation Sweeps Batches

structure Opening (b : Book) : Prop where
  positions : b.positions = Table.empty
  panels : b.panels = Table.empty
  sweeps : b.sweeps = Table.empty

def LevelMet (r : Arithmetic) (prices : Quotes) (p : Row) : Prop :=
  ∃ quote ∈ prices p.symbol, ∃ l : Level, ∃ x ∈ l.of p.sl p.tp,
    l.reached p.side (r.float x.value) (closingPrice p.side quote.1 quote.2) = true

/-- The scan ought to close the position: its account is to be stopped out, or it has reached a level. -/
def Due (r : Arithmetic) (b : Book) (prices : ℕ → Quotes) (p : Row) (a : ChallengeAccount) : Prop :=
  scanLiquidates r a (b.terms p.account) (openRows b p.account) (prices p.account) = true ∨
    LevelMet r (prices p.account) p

/-- Among what the scan sets out to do is a close of the position. -/
def Attempted (r : Arithmetic) (b : Book) (prices : ℕ → Quotes) (i : ℕ) (account : ℕ) : Prop :=
  ∃ work ∈ scanPositions r b prices, work.account = account ∧ ∃ job ∈ work.jobs, job.position = i

def Covers (r : Arithmetic) (b : Book) : Prop :=
  ∀ prices i p a, b.positions.get i = some (some p) → b.desk.accounts.get p.account = some a → a.status = .active →
    Due r b prices p a → Attempted r b prices i p.account

def KeepsMarginAccounts (start b : Book) : Prop :=
  ∀ k a, start.desk.accounts.get k = some a → marginEngine a.accountType = true → a.status = .active →
    ∃ a', b.desk.accounts.get k = some a' ∧ a'.accountType = a.accountType ∧ a'.status = .active

/-- Where the end of a connection's batch takes an account out of its active status, its positions are gone. -/
def ClearsBeforeSuspending (r : Arithmetic) (b : Book) : Prop :=
  ∀ sweep fails work rest k, b.sweeps.get sweep = some (work :: rest) → work.live = true → work.jobs = [] →
    (∀ a, b.desk.accounts.get k = some a → a.status = .active) →
      ∀ a, (next r b sweep fails).desk.accounts.get k = some a → a.status ≠ .active →
        ∀ i ∈ work.positions, (next r b sweep fails).positions.get i = some none

section Planning

variable {r : Arithmetic} {b : Book} {k : ℕ} {a : ChallengeAccount} {terms : Terms} {rows : List (ℕ × Row)}
  {prices : Quotes}

lemma mem_openRows {i : ℕ} {p : Row} :
    (i, p) ∈ openRows b k ↔ b.positions.get i = some (some p) ∧ p.account = k := by
  simp only [openRows, List.mem_filterMap, Option.bind_eq_some_iff, Prod.exists]
  constructor
  · rintro ⟨j, o, hmem, row, rfl, hrow⟩
    split at hrow
    · next haccount =>
      cases hrow
      exact ⟨Table.mem_rows.mp hmem, haccount⟩
    · cases hrow
  · rintro ⟨hget, haccount⟩
    exact ⟨i, some p, Table.mem_rows.mpr hget, p, rfl, if_pos haccount⟩

lemma registered_openRows (h : Stocked b.positions) : Registered (openRows b k) :=
  fun _ hp => h _ _ (mem_openRows.mp hp).1

lemma tally_isSome (currency : String) (hpriced : Priced rows prices) (hregistered : Registered rows) (t : Tally) :
    (rows.foldlM (tally r a currency prices) t).isSome := by
  induction rows generalizing t with
  | nil => rfl
  | cons p rows ih =>
    rw [Priced, List.forall_mem_cons] at hpriced
    rw [Registered, List.forall_mem_cons] at hregistered
    obtain ⟨quote, hquote⟩ := Option.isSome_iff_exists.mp hpriced.1
    obtain ⟨spec, hspec⟩ := Option.isSome_iff_exists.mp hregistered.1
    rw [List.foldlM_cons, tally, hquote, hspec]
    exact ih hpriced.2 hregistered.2 _

lemma preCheck_isSome (h : Registered rows) : (preCheck r a terms rows prices).isSome := by
  by_cases hpriced : Priced rows prices
  · obtain ⟨t, ht⟩ := Option.isSome_iff_exists.mp
      (tally_isSome (r := r) (a := a) (if terms.currency = "" then "USD" else terms.currency) hpriced h ⟨0, 0, []⟩)
    rw [preCheck, if_pos (priced_all.mpr hpriced), computeOfflineEquityMargin, ht]
    dsimp only [Option.bind_eq_bind, Option.bind_some, Option.pure_def]
    split_ifs <;> rfl
  · rw [preCheck_unpriced hpriced]
    rfl

lemma preCheck_stopout (h : preCheck r a terms rows prices = some (some .daemonStopout)) :
    marginEngine a.accountType = false := by
  rw [← Bool.not_eq_true]
  intro hmargin
  rw [preCheck] at h
  split at h
  · simp only [Option.bind_eq_bind, Option.bind_eq_some_iff, Prod.exists, Option.pure_def] at h
    obtain ⟨equity, t, -, hdecision⟩ := h
    split at hdecision <;> cases hdecision
  · cases h

lemma preCheck_priced {reason : Reason} (h : preCheck r a terms rows prices = some (some reason)) :
    Priced rows prices := by
  by_contra hpriced
  rw [preCheck_unpriced hpriced] at h
  cases h

lemma closeJob_some (reason : CloseReason) {p : ℕ × Row} {quote : ℚ × ℚ} {spec : SymbolSpec}
    (hquote : prices p.2.symbol = some quote) (hspec : getSpec p.2.symbol = some spec) :
    ∃ job : Job, closeJob r prices reason p = some [job] ∧ job.position = p.1 := by
  obtain ⟨bid, ask⟩ := quote
  rw [closeJob, hquote]
  dsimp only
  rw [roundedClosePx, hspec]
  exact ⟨_, rfl, rfl⟩

lemma closeJob_priced {reason : CloseReason} {p : ℕ × Row} {jobs : List Job} (hquote : (prices p.2.symbol).isSome)
    (h : closeJob r prices reason p = some jobs) : ∃ job ∈ jobs, job.position = p.1 := by
  obtain ⟨⟨bid, ask⟩, hquote⟩ := Option.isSome_iff_exists.mp hquote
  rw [closeJob, hquote] at h
  obtain ⟨closePx, -, rfl⟩ := Option.map_eq_some_iff.mp h
  exact ⟨_, List.mem_singleton_self _, rfl⟩

lemma closeJob_isSome {reason : CloseReason} {p : ℕ × Row} (h : (getSpec p.2.symbol).isSome) :
    (closeJob r prices reason p).isSome := by
  obtain ⟨spec, hspec⟩ := Option.isSome_iff_exists.mp h
  cases hquote : prices p.2.symbol with
  | none =>
    rw [closeJob, hquote]
    rfl
  | some quote =>
    obtain ⟨job, hjob, -⟩ := closeJob_some (r := r) reason hquote hspec
    rw [hjob]
    rfl

lemma closeJob_position {reason : CloseReason} {p : ℕ × Row} {jobs : List Job}
    (h : closeJob r prices reason p = some jobs) : ∀ job ∈ jobs, job.position = p.1 := by
  rw [closeJob] at h
  split at h
  · cases h
    exact fun job hjob => nomatch hjob
  · obtain ⟨closePx, -, rfl⟩ := Option.map_eq_some_iff.mp h
    exact fun job hjob => (List.mem_singleton.mp hjob) ▸ rfl

lemma scanJob_cases (r : Arithmetic) (prices : Quotes) (decision : Option Reason) (p : ℕ × Row) :
    scanJob r prices decision p = some [] ∨
    ∃ reason, scanJob r prices decision p = closeJob r prices reason p := by
  cases decision with
  | some reason => cases reason <;> exact Or.inr ⟨_, rfl⟩
  | none =>
    rw [scanJob, levelJob]
    cases hquote : prices p.2.symbol with
    | none => exact Or.inl rfl
    | some quote =>
      dsimp only
      split
      · exact Or.inr ⟨_, rfl⟩
      · split
        · exact Or.inr ⟨_, rfl⟩
        · exact Or.inl rfl

lemma scanAccount_isSome (hs : Stocked b.positions) : (scanAccount r b k a prices).isSome := by
  have hregistered := registered_openRows (k := k) hs
  have hcheck : (preCheck r a (b.terms k) (openRows b k) prices).isSome := preCheck_isSome hregistered
  obtain ⟨decision, hdecision⟩ := Option.isSome_iff_exists.mp hcheck
  have hjobs : ((openRows b k).mapM (scanJob r prices decision)).isSome := by
    refine mapM_isSome fun p hp => ?_
    rcases scanJob_cases r prices decision p with hnone | ⟨reason, hjob⟩
    · rw [hnone]
      rfl
    · rw [hjob]
      exact closeJob_isSome (hregistered p hp)
  obtain ⟨jobs, hjobs⟩ := Option.isSome_iff_exists.mp hjobs
  rw [scanAccount, hdecision]
  dsimp only [Option.bind_eq_bind, Option.bind_some]
  rw [hjobs]
  rfl

lemma scanAccount_some {work : Batch} (h : scanAccount r b k a prices = some work) :
    ∃ decision jobs, preCheck r a (b.terms k) (openRows b k) prices = some decision ∧
      (openRows b k).mapM (scanJob r prices decision) = some jobs ∧
        work = batch k false (decision = some .daemonStopout) (openRows b k) jobs := by
  simp only [scanAccount, Option.bind_eq_bind, Option.bind_eq_some_iff, Option.pure_def, Option.some.injEq] at h
  obtain ⟨decision, hdecision, jobs, hjobs, rfl⟩ := h
  exact ⟨decision, jobs, hdecision, hjobs, rfl⟩

lemma job_position {f : ℕ × Row → Option (List Job)} {jobs : List (List Job)} {job : Job}
    (hf : ∀ p, f p = some [] ∨ ∃ reason, f p = closeJob r prices reason p) (h : rows.mapM f = some jobs)
    (hjob : job ∈ jobs.flatten) : ∃ p ∈ rows, job.position = p.1 := by
  obtain ⟨ys, hys, hmem⟩ := List.mem_flatten.mp hjob
  obtain ⟨p, hp, hfp⟩ := (mem_of_mapM h ys).mp hys
  refine ⟨p, hp, ?_⟩
  rcases hf p with hnone | ⟨reason, hclose⟩
  · rw [hnone, Option.some.injEq] at hfp
    rw [← hfp] at hmem
    cases hmem
  · exact closeJob_position (hclose ▸ hfp) job hmem

lemma known_openRows {p : ℕ × Row} (hp : p ∈ openRows b k) : Known b k p.1 := by
  obtain ⟨hget, haccount⟩ := mem_openRows.mp hp
  exact ⟨some p.2, hget, fun row hrow => Option.some.inj hrow ▸ haccount⟩

lemma scanAccount_ok {work : Batch} (ha : b.desk.accounts.get k = some a)
    (h : scanAccount r b k a prices = some work) : WorkOk b work := by
  obtain ⟨decision, jobs, hdecision, hjobs, rfl⟩ := scanAccount_some h
  refine ⟨fun hsuspends a' ha' => ?_, fun job hjob => ?_, fun hlive => (nomatch hlive)⟩
  · have hstopout : decision = some .daemonStopout := of_decide_eq_true hsuspends
    have ha' : b.desk.accounts.get k = some a' := ha'
    rw [ha, Option.some.injEq] at ha'
    rw [← ha']
    exact preCheck_stopout (hstopout ▸ hdecision)
  · obtain ⟨p, hp, hposition⟩ := job_position (scanJob_cases r prices decision) hjobs hjob
    rw [hposition]
    exact known_openRows hp

lemma scanAccounts_ok {quotes : ℕ → Quotes} {accounts : List (ℕ × ChallengeAccount)}
    (h : ∀ p ∈ accounts, b.desk.accounts.get p.1 = some p.2) :
    ∀ work ∈ scanAccounts r b quotes accounts, WorkOk b work := by
  induction accounts with
  | nil => exact fun work hwork => nomatch hwork
  | cons p accounts ih =>
    rw [List.forall_mem_cons] at h
    rw [scanAccounts]
    split
    · split
      · exact fun work hwork => nomatch hwork
      · next work hscan =>
        rw [List.forall_mem_cons]
        exact ⟨scanAccount_ok h.1 hscan, ih h.2⟩
    · exact ih h.2

lemma scanAccounts_active {quotes : ℕ → Quotes} {accounts : List (ℕ × ChallengeAccount)} :
    ∀ work ∈ scanAccounts r b quotes accounts, ∃ p ∈ accounts, p.2.status = .active ∧ work.account = p.1 := by
  induction accounts with
  | nil => exact fun work hwork => nomatch hwork
  | cons p accounts ih =>
    have hrest : ∀ work ∈ scanAccounts r b quotes accounts,
        ∃ q ∈ p :: accounts, q.2.status = .active ∧ work.account = q.1 := fun work hwork => by
      obtain ⟨q, hq, hactive, haccount⟩ := ih work hwork
      exact ⟨q, List.mem_cons_of_mem _ hq, hactive, haccount⟩
    rw [scanAccounts]
    split
    · next hexamined =>
      split
      · exact fun work hwork => nomatch hwork
      · next work hscan =>
        rw [List.forall_mem_cons]
        obtain ⟨_, _, -, -, rfl⟩ := scanAccount_some hscan
        exact ⟨⟨p, List.mem_cons_self, hexamined.1, rfl⟩, hrest⟩
    · exact hrest

/-- Where no stored position has an unknown symbol, the scan reaches every active account. -/
lemma mem_scanAccounts (quotes : ℕ → Quotes) {accounts : List (ℕ × ChallengeAccount)} (hs : Stocked b.positions)
    (hk : (k, a) ∈ accounts) (hactive : a.status = .active) (hrows : openRows b k ≠ []) :
    ∃ work ∈ scanAccounts r b quotes accounts, scanAccount r b k a (quotes k) = some work := by
  induction accounts with
  | nil => cases hk
  | cons p accounts ih =>
    have hscanned : (scanAccount r b p.1 p.2 (quotes p.1)).isSome := scanAccount_isSome hs
    obtain ⟨work, hwork⟩ := Option.isSome_iff_exists.mp hscanned
    rw [scanAccounts]
    rcases List.mem_cons.mp hk with rfl | hlater
    · rw [if_pos ⟨hactive, hrows⟩, hwork]
      exact ⟨work, List.mem_cons_self, rfl⟩
    · obtain ⟨later, hmem, hscan⟩ := ih hlater
      split
      · rw [hwork]
        exact ⟨later, List.mem_cons_of_mem _ hmem, hscan⟩
      · exact ⟨later, hmem, hscan⟩

lemma recalculate_ok {panel : Panel} {work : Batch} (hp : PanelOk b panel)
    (h : recalculate r b panel prices = some work) : WorkOk b work := by
  rw [recalculate] at h
  split at h
  · next hlive =>
    obtain ⟨jobs, hjobs, rfl⟩ := Option.map_eq_some_iff.mp h
    have hpriced := live_priced hlive
    refine ⟨fun hsuspends a ha => ?_, fun job hjob => ?_, fun _ i hi => Or.inl ?_⟩
    · rw [hp.engine a ha]
      simpa [batch] using hsuspends
    · obtain ⟨p, hmem, hposition⟩ := job_position (fun p => Or.inr ⟨_, rfl⟩) hjobs hjob
      rw [hposition]
      exact hp.known p hmem
    · obtain ⟨p, hmem, rfl⟩ := List.mem_map.mp hi
      obtain ⟨ys, hys, hclose⟩ := get_of_mapM hjobs p hmem
      obtain ⟨job, hjob, hposition⟩ := closeJob_priced (hpriced p hmem) hclose
      rw [← hposition]
      exact List.mem_map_of_mem (List.mem_flatten.mpr ⟨ys, hys, hjob⟩)
  · cases h

end Planning

section Runs

variable {r : Arithmetic} {b : Book} {k : ℕ} {a : ChallengeAccount}

lemma connect_sound (hs : Sound b) (k : ℕ) : Sound (connect b k) := by
  rw [connect]
  split
  · exact hs
  · next a ha =>
    refine ⟨hs.stocked, fun j p hp => ?_, fun j works hworks work hwork => ?_⟩
    · obtain hold | ⟨-, hnew⟩ := Table.get_insert_some hp
      · exact ⟨(hs.panels j p hold).engine, (hs.panels j p hold).known⟩
      · subst hnew
        refine ⟨fun a' ha' => ?_, fun q hq => known_openRows hq⟩
        rw [← Option.some.inj (ha.symm.trans ha')]
    · have hok := hs.sweeps j works hworks work hwork
      exact ⟨hok.drawdown, hok.known, hok.handled⟩

lemma tick_sound (hs : Sound b) (panel : ℕ) (prices : Quotes) : Sound (tick r b panel prices) := by
  rw [tick]
  split
  · exact hs
  · next work hwork =>
    obtain ⟨p, hp, hrecalculate⟩ := Option.bind_eq_some_iff.mp hwork
    refine sound_insert hs fun later hlater => ?_
    rw [List.mem_singleton.mp hlater]
    exact recalculate_ok (hs.panels panel p hp) hrecalculate

lemma step_sound (hs : Sound b) (act : Act) :
    Sound (step r b act) ∧ Table.Related Steady b.desk.accounts (step r b act).desk.accounts := by
  have hframe : ∀ b', Frame b b' → Sound b' ∧ Table.Related Steady b.desk.accounts b'.desk.accounts :=
    fun b' h => ⟨sound_frame h hs, h.accounts⟩
  cases act with
  | openPosition row => exact hframe _ (openPosition_frame row)
  | merge position m => exact hframe _ (saveRow_frame fun p row => mergeRow_row)
  | edit position sl tp => exact hframe _ (saveRow_frame fun p row => editRow_row)
  | validateOrder account lotSize openPositionsCount symbol =>
    exact hframe _ (validateOrder_frame lotSize openPositionsCount symbol)
  | close account position mem closeQty closePx =>
    apply hframe
    rw [step]
    refine commit_rule b _ (frame_refl b) fun s' hs' => ?_
    obtain ⟨⟨b', result⟩, hclose, rfl⟩ := map_eq_ok.mp hs'
    exact (closePosition_frame hclose).1
  | connect account =>
    refine ⟨connect_sound hs account, ?_⟩
    rw [step, connect]
    split <;> exact steady_refl _
  | tick panel prices =>
    refine ⟨tick_sound hs panel prices, ?_⟩
    rw [step, tick]
    split <;> exact steady_refl _
  | scan prices => exact ⟨sound_insert hs (scanAccounts_ok fun p hp => Table.mem_rows.mp hp), steady_refl _⟩
  | next sweep fails => exact next_sound hs sweep fails
  | wait days => exact hframe _ ⟨steady_refl _, persists_refl _, id, rfl, rfl⟩

lemma sound_opening (h : Opening b) : Sound b := by
  refine ⟨?_, ?_, ?_⟩
  · rw [h.positions]
    exact fun i row hrow => nomatch hrow
  · rw [h.panels]
    exact fun j p hp => nomatch hp
  · rw [h.sweeps]
    exact fun j works hworks => nomatch hworks

lemma sound_run (h : Opening b) (acts : List Act) :
    Sound (run (step r) b acts) ∧ Table.Related Steady b.desk.accounts (run (step r) b acts).desk.accounts := by
  refine run_invariant (I := fun u => Sound u ∧ Table.Related Steady b.desk.accounts u.desk.accounts)
    (fun u act hu => ?_) ⟨sound_opening h, steady_refl _⟩ acts
  obtain ⟨hsound, hsteady⟩ := step_sound hu.1 act
  exact ⟨hsound, steady_trans hu.2 hsteady⟩

lemma levelMet_job {prices : Quotes} {p : ℕ × Row} {jobs : List Job} (h : LevelMet r prices p.2)
    (hjobs : scanJob r prices none p = some jobs) : ∃ job ∈ jobs, job.position = p.1 := by
  obtain ⟨⟨bid, ask⟩, hquote, l, x, hx, hreached⟩ := h
  have hhit : levelHit r l p.2 bid ask = true := by
    rw [levelHit, hx]
    exact hreached
  rw [scanJob, levelJob, hquote] at hjobs
  dsimp only at hjobs
  have hpriced : (prices p.2.symbol).isSome := by
    rw [hquote]
    rfl
  split at hjobs
  · exact closeJob_priced hpriced hjobs
  · next htp =>
    split at hjobs
    · exact closeJob_priced hpriced hjobs
    · next hsl =>
      cases l with
      | sl => exact absurd hhit hsl
      | tp => exact absurd hhit htp

lemma due_attempted {prices : ℕ → Quotes} {i : ℕ} {p : Row} (hs : Sound b) (hrow : b.positions.get i = some (some p))
    (ha : b.desk.accounts.get p.account = some a) (hactive : a.status = .active) (h : Due r b prices p a) :
    Attempted r b prices i p.account := by
  have hmem : (i, p) ∈ openRows b p.account := mem_openRows.mpr ⟨hrow, rfl⟩
  obtain ⟨work, hwork, hscan⟩ := mem_scanAccounts (r := r) prices hs.stocked (Table.mem_rows.mpr ha) hactive
    (List.ne_nil_of_mem hmem)
  obtain ⟨decision, jobs, hdecision, hjobs, rfl⟩ := scanAccount_some hscan
  obtain ⟨ys, hys, hjob⟩ := get_of_mapM hjobs (i, p) hmem
  refine ⟨_, hwork, rfl, ?_⟩
  have hfound : ∃ job ∈ ys, job.position = i := by
    cases decision with
    | some reason =>
      have hpriced := preCheck_priced hdecision (i, p) hmem
      cases reason with
      | daemonStopout => exact closeJob_priced hpriced hjob
      | daemonMarginCall => exact closeJob_priced hpriced hjob
    | none =>
      rcases h with hliquidates | hlevel
      · rw [scanLiquidates, hdecision] at hliquidates
        simp at hliquidates
      · exact levelMet_job hlevel hjob
  obtain ⟨job, hjob, hposition⟩ := hfound
  exact ⟨job, List.mem_flatten.mpr ⟨ys, hys, hjob⟩, hposition⟩

lemma finish_gone {sweep : ℕ} {fails : Bool} {work : Batch} {rest : List Batch} (hs : Sound b)
    (hsweep : b.sweeps.get sweep = some (work :: rest)) (hlive : work.live = true) (hjobs : work.jobs = [])
    (hactive : ∀ a, b.desk.accounts.get k = some a → a.status = .active)
    (ha : (next r b sweep fails).desk.accounts.get k = some a) (hsuspended : a.status ≠ .active) :
    ∀ i ∈ work.positions, (next r b sweep fails).positions.get i = some none := by
  have hok := hs.sweeps sweep (work :: rest) hsweep work List.mem_cons_self
  rw [next, hsweep] at ha ⊢
  dsimp only at ha ⊢
  rw [hjobs] at ha ⊢
  dsimp only [setSweep] at ha ⊢
  rw [finish] at ha ⊢
  split at ha
  · exact absurd (hactive a ha) hsuspended
  · next hgo =>
    split at ha
    · next hfailed =>
      intro i hi
      rw [if_neg hgo, if_pos hlive, if_pos hfailed]
      rcases hok.handled hlive i hi with hlater | hdone | hgone
      · rw [hjobs] at hlater
        cases hlater
      · rw [hfailed] at hdone
        cases hdone
      · exact hgone
    · exact absurd (hactive a ha) hsuspended

end Runs

def tradingAccount (accountType : Accounts.AccountType) : ChallengeAccount where
  user := none
  accountType := accountType
  balance := .ofUnits 1000000
  equity := .ofUnits 1000000
  peakBalance := .ofUnits 1000000
  initialBalance := some (.ofUnits 1000000)
  tier := some .k10
  phase := .phase1
  profitTarget := none
  maxDrawdown := .ofUnits 120000
  leverage := 100
  status := .active
  createdOn := 0

def emptyBook : Book where
  desk :=
    { products := Table.empty
      enrollments := Table.empty
      accounts := Table.ofList [tradingAccount .challenge, tradingAccount .retail]
      riskRules := Table.empty
      fundedConfigs := Table.empty
      trades := Table.empty
      entries := Table.empty
      today := 0 }
  terms _ := seventy
  positions := Table.empty
  panels := Table.empty
  sweeps := Table.empty

def longLot (account : ℕ) (sl : Option (Numeric 18 6)) : Row where
  account := account
  symbol := "EUR/USD"
  side := .buy
  qty := .ofUnits 1000000
  avgPrice := .ofUnits 1100000
  sl := sl
  tp := none

def twoLots (account : ℕ) : List Act :=
  [.openPosition (longLot account none), .openPosition (longLot account (some (.ofUnits 1050000)))]

/-- The challenge account's first lot is closed at a loss of a tenth of its balance. -/
def lossOnOne : Book := run (step python) emptyBook (twoLots 0 ++ [.close 0 0 (longLot 0 none) none (109 / 100)])

lemma lossOnOne_accounts : ∀ p ∈ lossOnOne.desk.accounts.rows, p.2.status = .active → p.1 = 1 := by
  decide +kernel

end TrxSimulator.Risk.Coverage
