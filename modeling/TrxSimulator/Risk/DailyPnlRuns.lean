import TrxSimulator.Foundations.Runs
import TrxSimulator.Risk.Coverage
import TrxSimulator.Risk.DailyPnl

/-! What the connections' daily PnL counts along a run: once what the closes have realized, and when it does not. -/

namespace TrxSimulator.Risk.DailyPnl

open Foundations.Runs Foundations.Outcomes Foundations.Tallies Foundations.Windows Foundations.Decimals
open Challenges.Evaluation Challenges.Drawdown Market.Pnl Trading.Levels Liquidation Sweeps

/-- What the events that have not been handled yet will add on a day. -/
def onItsWay (s : Hub) (conn : Connection) (d : ℤ) : ℚ :=
  amount Message.pnl (fun m => m.committedOn = d) conn.inbox +
    amount Message.pnl (fun m => m.account = conn.account && m.committedOn = d) s.outbox

def committedSince (s : Hub) (conn : Connection) (h : Hydration) (d : ℤ) : ℚ :=
  amount Close.realizedPnl (fun x => x.account = conn.account && x.closedOn = d) (s.closes.drop h.closes)

/-- From the day of the tally on: the value at hydration and the day's closes since, less what is on its way. -/
def Counted (s : Hub) (conn : Connection) (h : Hydration) : Prop :=
  ∀ d, (∀ y ∈ conn.daily.day, y ≤ d) →
    conn.daily.reads d + onItsWay s conn d = (if d = h.day then h.value else 0) + committedSince s conn h d

def AllCounted (s : Hub) : Prop := ∀ c conn h, s.conns c = some conn → conn.hydration = some h → Counted s conn h

def Watched (s : Hub) (account : ℕ) : Prop :=
  ∃ c conn, s.conns c = some conn ∧ conn.account = account ∧ conn.hydration.isSome

variable (r : Arithmetic)

def Ok (s : Hub) : Action → Prop
  | .wait _ | .openPosition _ | .merge _ _ | .connect _ _ | .disconnect _ | .close _ _ _ | .publish _ => True
  | .hydrate c => ∀ conn, s.conns c = some conn → conn.hydration = none → onItsWay s conn s.today = 0
  | .track c => ∀ conn, s.conns c = some conn → conn.hydration.isSome → conn.closed.sum = 0
  | .daemonClose account k => ∀ pnl, committedPnl r s.book account { k with closeQty := none } = some pnl →
      Watched s account → r.float (roundTo 8 (estimate r s.book account k)) = pnl
  | .receive c => ∀ conn m rest, s.conns c = some conn → conn.inbox = m :: rest → conn.hydration.isSome →
      conn.closed = [] → m.committedOn = s.today ∨ m.pnl = 0

/-- Nothing bears a date to come, and what a connection found at hydration is still in the books. -/
structure Dated (s : Hub) : Prop where
  outbox : ∀ m ∈ s.outbox, m.committedOn ≤ s.today
  inbox : ∀ c conn, s.conns c = some conn → ∀ m ∈ conn.inbox, m.committedOn ≤ s.today
  daily : ∀ c conn, s.conns c = some conn → ∀ y ∈ conn.daily.day, y ≤ s.today
  kept : ∀ c conn h, s.conns c = some conn → conn.hydration = some h → h.closes ≤ s.closes.length

variable {r}

section Connections

variable {s : Hub} {c : ℕ} {f : Connection → Connection} {conn : Connection} {h : Hydration}

lemma conns_onConn_self (hc : s.conns c = some conn) : (s.onConn c f).conns c = some (f conn) := by
  simp [Hub.onConn, hc]

lemma conns_onConn {i : ℕ} {conn' : Connection} (hi : (s.onConn c f).conns i = some conn') :
    (i ≠ c ∧ s.conns i = some conn') ∨ ∃ conn, i = c ∧ s.conns c = some conn ∧ conn' = f conn := by
  by_cases hic : i = c
  · subst hic
    simp only [Hub.onConn, if_true, Option.map_eq_some_iff] at hi
    obtain ⟨conn, hconn, rfl⟩ := hi
    exact .inr ⟨conn, rfl, hconn, rfl⟩
  · simp only [Hub.onConn, if_neg hic] at hi
    exact .inl ⟨hic, hi⟩

lemma counted_onConn (hs : AllCounted s) : AllCounted (s.onConn c f) ↔
    ∀ conn h, s.conns c = some conn → (f conn).hydration = some h → Counted s (f conn) h := by
  constructor
  · intro hall conn h hconn hh
    exact hall c (f conn) h (conns_onConn_self hconn) hh
  · intro hown i conn' h hi hh
    obtain ⟨-, hi⟩ | ⟨conn, rfl, hconn, rfl⟩ := conns_onConn hi
    · exact hs i conn' h hi hh
    · exact hown conn h hconn hh

lemma dated_onConn (hs : Dated s)
    (hf : ∀ conn, s.conns c = some conn → (∀ m ∈ (f conn).inbox, m ∈ conn.inbox) ∧
      (∀ y ∈ (f conn).daily.day, y ≤ s.today) ∧
      ∀ h, (f conn).hydration = some h → conn.hydration = some h ∨ h.closes = s.closes.length) :
    Dated (s.onConn c f) := by
  refine ⟨hs.outbox, fun i conn' hi m hm => ?_, fun i conn' hi y hy => ?_, fun i conn' h hi hh => ?_⟩
  · obtain ⟨-, hi⟩ | ⟨conn, -, hconn, rfl⟩ := conns_onConn hi
    · exact hs.inbox i conn' hi m hm
    · exact hs.inbox c conn hconn m ((hf conn hconn).1 m hm)
  · obtain ⟨-, hi⟩ | ⟨conn, -, hconn, rfl⟩ := conns_onConn hi
    · exact hs.daily i conn' hi y hy
    · exact (hf conn hconn).2.1 y hy
  · obtain ⟨-, hi⟩ | ⟨conn, -, hconn, rfl⟩ := conns_onConn hi
    · exact hs.kept i conn' h hi hh
    · obtain hold | hnew := (hf conn hconn).2.2 h hh
      · exact hs.kept c conn h hconn hold
      · exact hnew.le

end Connections

section Calendar

variable {b b' : Book} {s t : Desk} {k : ℕ} {a : ChallengeAccount}

lemma riskRule_today {rule : RiskRule} (h : getOrCreateRiskRule s k a = .ok (t, rule)) : t.today = s.today := by
  rw [getOrCreateRiskRule] at h
  split at h
  · cases h
    rfl
  · simp only [bind_eq_ok, pure_eq_ok, Prod.mk.injEq] at h
    obtain ⟨_, -, _, -, rfl, -⟩ := h
    rfl

lemma enforce_today {found : List TradingViolation} (h : checkAndEnforceRisk s k a = .ok (t, found)) :
    t.today = s.today := by
  simp only [checkAndEnforceRisk, bind_eq_ok, Prod.exists] at h
  obtain ⟨u, rule, hrule, h⟩ := h
  rw [← riskRule_today hrule]
  split at h <;>
  · simp only [pure_eq_ok, Prod.mk.injEq] at h
    rw [← h.1]

lemma realize_today {pnl : ℚ} {a' : ChallengeAccount} (h : realize s k a pnl = .ok (t, a')) : t.today = s.today := by
  simp only [realize, bind_eq_ok, pure_eq_ok, Prod.mk.injEq] at h
  obtain ⟨_, -, _, -, _, -, rfl, -⟩ := h
  rfl

lemma closePosition_today {i : ℕ} {mem : Row} {closeQty : Option ℚ} {closePx : ℚ} {result : CloseResult}
    (h : closePosition r b k i mem closeQty closePx = .ok (b', result)) : b'.desk.today = b.desk.today := by
  rw [closePosition] at h
  split at h
  · cases h
    rfl
  · dsimp only at h
    split at h
    · cases h
      rfl
    · split at h
      · cases h
        rfl
      · simp only [bind_eq_ok, pure_eq_ok, mapError_eq_ok, Prod.exists, Prod.mk.injEq] at h
        obtain ⟨_, -, desk, _, hrealize, _, -, desk', _, hrisk, rfl, -⟩ := h
        exact (enforce_today hrisk).trans (realize_today hrealize)

lemma commit_today {x : Except CloseError Book} (h : ∀ b', x = .ok b' → b'.desk.today = b.desk.today) :
    (commit b x).desk.today = b.desk.today := by
  cases x with
  | ok b' => exact h b' rfl
  | error e => rfl

lemma closed_today (b : Book) (account : ℕ) (k : Request) :
    (commit b ((closed r b account k).map Prod.fst)).desk.today = b.desk.today := by
  apply commit_today
  intro b' hb'
  obtain ⟨⟨_, result⟩, hclosed, rfl⟩ := map_eq_ok.mp hb'
  exact closePosition_today hclosed

lemma openPosition_today (b : Book) (row : Row) : (openPosition b row).desk.today = b.desk.today := by
  rw [openPosition]
  split
  · rfl
  · split <;> rfl

lemma saveRow_today (b : Book) (i : ℕ) (f : Row → Except Trading.Writers.TradeError Row) :
    (saveRow b i f).desk.today = b.desk.today := by
  rw [saveRow]
  split
  · rfl
  · next row _ => cases hf : f row <;> rfl

end Calendar

section Amounts

variable {s : Hub} {conn : Connection} {h : Hydration} {d : ℤ}

lemma amount_later {xs : List Message} {p : Message → Bool} (hs : ∀ m ∈ xs, m.committedOn ≤ s.today) (hd : s.today < d) :
    amount Message.pnl (fun m => p m && m.committedOn = d) xs = 0 := by
  refine amount_eq_zero fun m hm hp => ?_
  rw [Bool.and_eq_true, decide_eq_true_eq] at hp
  have hle := hs m hm
  omega

lemma onItsWay_later {c : ℕ} (hs : Dated s) (hc : s.conns c = some conn) (hd : s.today < d) : onItsWay s conn d = 0 := by
  have hin := amount_later (p := fun _ => true) (hs.inbox c conn hc) hd
  have hout := amount_later (p := fun m => m.account = conn.account) hs.outbox hd
  simp only [Bool.true_and] at hin
  rw [onItsWay, hin, hout, add_zero]

end Amounts

section Own

variable {s : Hub} {c : ℕ} {conn : Connection} {h : Hydration} {x : ℚ} {g : ℤ → ℚ}

lemma trackClosed_hydration (today : ℤ) (conn : Connection) : (trackClosed today conn).hydration = conn.hydration := by
  rw [trackClosed]
  split <;> rfl

lemma receive_hydration (today : ℤ) (conn : Connection) : (receive today conn).hydration = conn.hydration := by
  rw [receive]
  split
  · rfl
  · split
    · rw [positionChanged]
      split <;> rfl
    · rfl

lemma counted_track (conn' : Connection) (hcounted : Counted s conn h) (hdate : ∀ y ∈ conn.daily.day, y ≤ s.today)
    (hdaily : conn'.daily = conn.daily.track s.today x) (haccount : conn'.account = conn.account)
    (hway : ∀ d, onItsWay s conn' d + g d = onItsWay s conn d) :
    Counted s conn' h ↔ ∀ d, s.today ≤ d → (if d = s.today then x else 0) = g d := by
  have hday : ∀ d, (∀ y ∈ conn'.daily.day, y ≤ d) ↔ s.today ≤ d := by
    intro d
    rw [hdaily]
    simp [Tally.track]
  have hsame : ∀ d, committedSince s conn' h d = committedSince s conn h d := fun d => by
    rw [committedSince, committedSince, haccount]
  refine forall_congr' fun d => ?_
  rw [hday]
  refine imp_congr_right fun hd => ?_
  have hbefore := hcounted d fun y hy => (hdate y hy).trans hd
  have hread : conn'.daily.reads d = conn.daily.reads d + if d = s.today then x else 0 := by
    rw [hdaily]
    exact Tally.reads_track hdate hd x
  have hleft := hway d
  rw [hread, hsame, ← hbefore, ← hleft]
  constructor
  · intro heq
    linarith
  · intro heq
    rw [heq]
    ring

lemma counted_trackClosed (hs : Dated s) (hall : AllCounted s) (hc : s.conns c = some conn)
    (hh : (trackClosed s.today conn).hydration = some h) :
    Counted s (trackClosed s.today conn) h ↔ conn.closed.sum = 0 := by
  by_cases hnone : conn.closed = []
  · rw [trackClosed, if_pos hnone] at hh ⊢
    exact iff_of_true (hall c conn h hc hh) (by rw [hnone, List.sum_nil])
  · rw [trackClosed, if_neg hnone] at hh ⊢
    have htrack := counted_track (g := fun _ => 0) { trackDailyPnl conn s.today conn.closed.sum with closed := [] }
      (hall c conn h hc hh) (hs.daily c conn hc) rfl rfl fun d => add_zero _
    refine htrack.trans ?_
    constructor
    · intro hzero
      exact (if_pos rfl).symm.trans (hzero s.today le_rfl)
    · intro hzero d _
      rw [hzero, ite_self]

lemma onItsWay_rest {m : Message} {rest : List Message} (hinbox : conn.inbox = m :: rest) (d : ℤ) :
    onItsWay s { conn with inbox := rest } d + (if m.committedOn = d then m.pnl else 0) = onItsWay s conn d := by
  rw [onItsWay, onItsWay, hinbox, amount_cons]
  simp only [decide_eq_true_eq]
  ring

lemma counted_positionChanged {m : Message} {rest : List Message} (hs : Dated s) (hcounted : Counted s conn h)
    (hc : s.conns c = some conn) (hinbox : conn.inbox = m :: rest) :
    Counted s (positionChanged { conn with inbox := rest } s.today m.event) h ↔
      m.committedOn = s.today ∨ m.pnl = 0 := by
  have hpast : m.committedOn ≤ s.today := hs.inbox c conn hc m (by rw [hinbox]; exact List.mem_cons_self)
  have hway := onItsWay_rest (s := s) hinbox
  cases hpnl : m.event.realizedPnl with
  | none =>
    have hzero : m.pnl = 0 := by simp [Message.pnl, hpnl]
    rw [positionChanged, hpnl]
    refine iff_of_true (fun d hd => ?_) (.inr hzero)
    have hleft := hway d
    rw [hzero, ite_self, add_zero] at hleft
    rw [hleft]
    exact hcounted d hd
  | some x =>
    have hx : m.pnl = x := by simp [Message.pnl, hpnl]
    rw [hx] at hway ⊢
    rw [positionChanged, hpnl]
    have htrack := counted_track (trackDailyPnl { conn with inbox := rest } s.today x) hcounted (hs.daily c conn hc)
      rfl rfl hway
    refine htrack.trans ?_
    constructor
    · intro hall
      have htoday := hall s.today le_rfl
      rw [if_pos rfl] at htoday
      by_cases hday : m.committedOn = s.today
      · exact .inl hday
      · rw [if_neg hday] at htoday
        exact .inr htoday
    · rintro (hday | rfl) d hd
      · rw [hday]
        exact if_congr eq_comm rfl rfl
      · rw [ite_self, ite_self]

/-- What a connection hears of after its hydration has been in the books before. -/
lemma counted_hydrate (hs : Dated s) (hall : AllCounted s) (hc : s.conns c = some conn)
    (hh : (maybeHydrateFromDb r s conn).hydration = some h) :
    Counted s (maybeHydrateFromDb r s conn) h ↔ (conn.hydration = none → onItsWay s conn s.today = 0) := by
  cases hold : conn.hydration with
  | some h' =>
    have hsame : maybeHydrateFromDb r s conn = conn := by simp [maybeHydrateFromDb, hold]
    rw [hsame] at hh ⊢
    exact iff_of_true (hall c conn h hc hh) fun hnone => absurd hnone (Option.some_ne_none h')
  | none =>
    have hnew : maybeHydrateFromDb r s conn =
        { conn with daily := ⟨(hydration r s conn.account).value, some s.today⟩,
                    hydration := some (hydration r s conn.account) } := by
      simp [maybeHydrateFromDb, hold, hydration]
    rw [hnew] at hh ⊢
    obtain rfl := Option.some.inj hh
    have hsince : ∀ conn' d, committedSince s conn' (hydration r s conn.account) d = 0 := by
      intro conn' d
      rw [committedSince, hydration, List.drop_length, amount_nil]
    constructor
    · intro hcounted _
      have htoday := hcounted s.today fun y hy => (Option.some.inj hy).ge
      rw [hsince, add_zero, Tally.reads, if_pos rfl, hydration, if_pos rfl] at htoday
      exact add_eq_left.mp htoday
    · intro hzero d hd
      have hle : s.today ≤ d := hd s.today rfl
      obtain heq | hlt := hle.eq_or_lt
      · subst heq
        rw [hsince, add_zero, Tally.reads, if_pos rfl, hydration, if_pos rfl]
        exact add_eq_left.mpr (hzero rfl)
      · have hway : onItsWay s conn d = 0 := onItsWay_later hs hc hlt
        have hday : some s.today ≠ some d := fun heq => hlt.ne (Option.some.inj heq)
        rw [hsince, add_zero, Tally.reads, if_neg hday, hydration, if_neg hlt.ne', zero_add]
        exact hway

lemma counted_receive (hs : Dated s) (hall : AllCounted s) (hc : s.conns c = some conn)
    (hh : (receive s.today conn).hydration = some h) :
    Counted s (receive s.today conn) h ↔ ∀ m rest, conn.inbox = m :: rest → conn.hydration.isSome →
      conn.closed = [] → m.committedOn = s.today ∨ m.pnl = 0 := by
  cases hinbox : conn.inbox with
  | nil =>
    have hsame : receive s.today conn = conn := by simp [receive, hinbox]
    rw [hsame] at hh ⊢
    exact iff_of_true (hall c conn h hc hh) fun m rest heq => absurd heq.symm (List.cons_ne_nil m rest)
  | cons m rest =>
    by_cases hready : conn.hydration.isSome ∧ conn.closed = []
    · have hnew : receive s.today conn = positionChanged { conn with inbox := rest } s.today m.event := by
        simp only [receive, hinbox]
        exact if_pos hready
      rw [receive_hydration] at hh
      rw [hnew]
      refine (counted_positionChanged hs (hall c conn h hc hh) hc hinbox).trans ?_
      constructor
      · rintro hok m' rest' heq - -
        obtain ⟨rfl, -⟩ := List.cons.inj heq
        exact hok
      · intro hok
        exact hok m rest rfl hready.1 hready.2
    · have hsame : receive s.today conn = conn := by
        simp only [receive, hinbox]
        exact if_neg hready
      rw [hsame] at hh ⊢
      exact iff_of_true (hall c conn h hc hh) fun m rest _ hhydrated hnone => absurd ⟨hhydrated, hnone⟩ hready

end Own

section Group

variable {s t : Hub} {c : ℕ} {conn : Connection} {h : Hydration}

/-- What the count of the connections is taken from, apart from themselves. -/
lemma allCounted_congr (hconns : t.conns = s.conns) (hcloses : t.closes = s.closes)
    (hway : ∀ conn d, onItsWay t conn d = onItsWay s conn d) : AllCounted t ↔ AllCounted s := by
  have hsame : ∀ conn h, Counted t conn h ↔ Counted s conn h := by
    intro conn h
    refine forall_congr' fun d => imp_congr_right fun _ => ?_
    rw [hway, committedSince, committedSince, hcloses]
  simp only [AllCounted, hconns, hsame]

lemma onItsWay_append (conn : Connection) (m : Message) (hout : t.outbox = s.outbox ++ [m]) (d : ℤ) :
    onItsWay t conn d = onItsWay s conn d + if m.account = conn.account ∧ m.committedOn = d then m.pnl else 0 := by
  rw [onItsWay, onItsWay, hout, amount_append, amount_cons, amount_nil, add_zero, add_assoc]
  simp only [Bool.and_eq_true, decide_eq_true_eq]

lemma allCounted_announce (account : ℕ) {event : PositionChanged} (hevent : event.realizedPnl = none) :
    AllCounted (s.announce account event) ↔ AllCounted s := by
  refine allCounted_congr rfl rfl fun conn d => ?_
  have hzero : (⟨account, event, s.today⟩ : Message).pnl = 0 := by simp [Message.pnl, hevent]
  rw [onItsWay_append conn ⟨account, event, s.today⟩ rfl d, hzero, ite_self, add_zero]

lemma mem_outbox_perm {i : ℕ} {m : Message} (hm : s.outbox[i]? = some m) :
    (m :: s.outbox.eraseIdx i).Perm s.outbox := by
  obtain ⟨hlt, rfl⟩ := List.getElem?_eq_some_iff.mp hm
  exact List.getElem_cons_eraseIdx_perm hlt

/-- A published event changes places: it is on its way to the same connections as before. -/
lemma onItsWay_groupSend {i : ℕ} {m : Message} (hm : s.outbox[i]? = some m) (conn : Connection) (d : ℤ) :
    onItsWay (groupSend s i) (m.deliver conn) d = onItsWay s conn d := by
  have hsplit := amount_perm Message.pnl (fun m' => m'.account = conn.account && m'.committedOn = d)
    (mem_outbox_perm hm)
  rw [amount_cons] at hsplit
  have hout : (groupSend s i).outbox = s.outbox.eraseIdx i := by rw [groupSend, hm]
  have haccount : (m.deliver conn).account = conn.account := by
    rw [Message.deliver]
    split <;> rfl
  rw [onItsWay, onItsWay, hout, haccount, ← hsplit, ← add_assoc]
  congr 1
  by_cases hsame : conn.account = m.account
  · rw [Message.deliver, if_pos hsame, amount_append, amount_cons, amount_nil, add_zero]
    simp [hsame]
  · rw [Message.deliver, if_neg hsame]
    simp [Ne.symm hsame]

lemma conns_groupSend {i : ℕ} {m : Message} (hm : s.outbox[i]? = some m) {conn' : Connection}
    (hc : (groupSend s i).conns c = some conn') : ∃ conn, s.conns c = some conn ∧ conn' = m.deliver conn := by
  simp only [groupSend, hm, Option.map_eq_some_iff] at hc
  obtain ⟨conn, hconn, rfl⟩ := hc
  exact ⟨conn, hconn, rfl⟩

lemma deliver_daily (m : Message) (conn : Connection) :
    (m.deliver conn).daily = conn.daily ∧ (m.deliver conn).hydration = conn.hydration ∧
      (m.deliver conn).account = conn.account := by
  rw [Message.deliver]
  split <;> exact ⟨rfl, rfl, rfl⟩

lemma allCounted_groupSend (hall : AllCounted s) (i : ℕ) : AllCounted (groupSend s i) := by
  cases hm : s.outbox[i]? with
  | none =>
    rw [groupSend, hm]
    exact hall
  | some m =>
    intro c conn' h hc hh
    obtain ⟨conn, hconn, rfl⟩ := conns_groupSend hm hc
    obtain ⟨hdaily, hhydration, haccount⟩ := deliver_daily m conn
    rw [hhydration] at hh
    have hcloses : (groupSend s i).closes = s.closes := by rw [groupSend, hm]
    intro d hd
    rw [hdaily] at hd ⊢
    rw [onItsWay_groupSend hm, committedSince, haccount, hcloses]
    exact hall c conn h hconn hh d hd

end Group

section Closes

variable {s : Hub} {account : ℕ} {k : Request} {published : ℚ → ℚ} {pnl : ℚ}

lemma commitClose_conns : (commitClose r s account k published).conns = s.conns := by
  rw [commitClose]
  split <;> rfl

lemma committedSince_append {t : Hub} {x : Close} (conn : Connection) (h : Hydration)
    (hclosed : t.closes = s.closes ++ [x]) (hkept : h.closes ≤ s.closes.length) (d : ℤ) :
    committedSince t conn h d =
      committedSince s conn h d + if x.account = conn.account ∧ x.closedOn = d then x.realizedPnl else 0 := by
  rw [committedSince, committedSince, hclosed, List.drop_append_of_le_length hkept, amount_append, amount_cons, amount_nil,
    add_zero]
  simp only [Bool.and_eq_true, decide_eq_true_eq]

/-- A close is counted right where its event carries what it has realized, or nobody is there to count it. -/
lemma allCounted_commitClose (hs : Dated s) (hall : AllCounted s) :
    AllCounted (commitClose r s account k published) ↔
      ∀ pnl, committedPnl r s.book account k = some pnl → Watched s account → published pnl = pnl := by
  cases hpnl : committedPnl r s.book account k with
  | none =>
    rw [commitClose, hpnl]
    exact iff_of_true ((allCounted_congr rfl rfl fun _ _ => rfl).mpr hall) fun pnl heq => absurd heq (by simp)
  | some pnl =>
    have hway := fun conn => onItsWay_append (t := commitClose r s account k published) conn
      ⟨account, ⟨closeAction s.book account k, k.position, some (published pnl)⟩, s.today⟩ (by rw [commitClose, hpnl])
    have hsince := fun conn h => committedSince_append (t := commitClose r s account k published) conn h
      (x := ⟨account, k.position, pnl, s.today⟩) (by rw [commitClose, hpnl])
    constructor
    · rintro hcounted _ heq ⟨c, conn, hconn, haccount, hhydrated⟩
      obtain rfl := Option.some.inj heq
      obtain ⟨h, hh⟩ := Option.isSome_iff_exists.mp hhydrated
      have hbefore := hall c conn h hconn hh s.today (hs.daily c conn hconn)
      have hafter := hcounted c conn h (by rwa [commitClose_conns]) hh s.today (hs.daily c conn hconn)
      rw [hway, hsince conn h (hs.kept c conn h hconn hh)] at hafter
      simp only [haccount, and_self, if_true, Message.pnl, Option.getD_some] at hafter
      linarith
    · intro hok c conn h hconn hh d hd
      rw [commitClose_conns] at hconn
      rw [hway, hsince conn h (hs.kept c conn h hconn hh), ← add_assoc, hall c conn h hconn hh d hd, add_assoc]
      by_cases hsame : account = conn.account ∧ s.today = d
      · have hequal := hok pnl rfl ⟨c, conn, hconn, hsame.1.symm, by rw [hh, Option.isSome_some]⟩
        rw [if_pos hsame, if_pos hsame]
        simp only [Message.pnl, Option.getD_some, hequal]
      · rw [if_neg hsame, if_neg hsame]

end Closes

section Steps

variable {s : Hub}

lemma allCounted_closeBy (hs : Dated s) (hall : AllCounted s) (c : ℕ) (path : ClosePath) (k : Request) :
    AllCounted (closeBy r s c path k) := by
  rw [closeBy]
  split
  · exact hall
  · next conn hconn =>
    have hcommitted : AllCounted (commitClose r s conn.account k id) :=
      (allCounted_commitClose hs hall).mpr fun _ _ _ => rfl
    split
    · dsimp only
      split
      · exact hcommitted
      · refine (counted_onConn hcommitted).mpr fun conn' h hconn' hh => ?_
        exact hcommitted c conn' h hconn' hh
    · exact hall

/-- A step keeps the counts of all connections right exactly if it meets its condition. -/
lemma step_counted (hs : Dated s) (hall : AllCounted s) (act : Action) :
    AllCounted (step r s act) ↔ Ok r s act := by
  cases act with
  | wait days => exact iff_of_true ((allCounted_congr rfl rfl fun _ _ => rfl).mpr hall) trivial
  | openPosition row =>
    refine iff_of_true ?_ trivial
    simp only [step, openRow]
    split
    · exact (allCounted_congr rfl rfl fun _ _ => rfl).mpr hall
    · exact (allCounted_announce _ rfl).mpr ((allCounted_congr rfl rfl fun _ _ => rfl).mpr hall)
  | merge position m =>
    refine iff_of_true ?_ trivial
    simp only [step, mergeInto]
    split
    · exact (allCounted_congr rfl rfl fun _ _ => rfl).mpr hall
    · exact (allCounted_announce _ rfl).mpr ((allCounted_congr rfl rfl fun _ _ => rfl).mpr hall)
  | connect c account =>
    refine iff_of_true ?_ trivial
    simp only [step, join]
    split
    · intro i conn h hconn hh
      dsimp only at hconn
      split at hconn
      · obtain rfl := Option.some.inj hconn
        cases hh
      · exact hall i conn h hconn hh
    · exact hall
  | hydrate c =>
    refine (counted_onConn hall).trans ⟨fun hown conn hconn hnone => ?_, fun hok conn h hconn hh => ?_⟩
    · have hh : (maybeHydrateFromDb r s conn).hydration = some (hydration r s conn.account) := by
        simp [maybeHydrateFromDb, hnone]
      exact (counted_hydrate hs hall hconn hh).mp (hown conn _ hconn hh) hnone
    · exact (counted_hydrate hs hall hconn hh).mpr (hok conn hconn)
  | disconnect c =>
    refine iff_of_true (fun i conn h hconn hh => ?_) trivial
    dsimp only [step] at hconn
    split at hconn
    · cases hconn
    · exact hall i conn h hconn hh
  | close c path k => exact iff_of_true (allCounted_closeBy hs hall c path k) trivial
  | track c =>
    refine (counted_onConn hall).trans ⟨fun hown conn hconn hhydrated => ?_, fun hok conn h hconn hh => ?_⟩
    · obtain ⟨h, hh⟩ := Option.isSome_iff_exists.mp hhydrated
      rw [← trackClosed_hydration s.today] at hh
      exact (counted_trackClosed hs hall hconn hh).mp (hown conn h hconn hh)
    · refine (counted_trackClosed hs hall hconn hh).mpr (hok conn hconn ?_)
      rw [← trackClosed_hydration s.today, hh, Option.isSome_some]
  | daemonClose account k => exact allCounted_commitClose hs hall
  | publish i => exact iff_of_true (allCounted_groupSend hall i) trivial
  | receive c =>
    refine (counted_onConn hall).trans ⟨fun hown conn m rest hconn hinbox hhydrated hnone => ?_,
      fun hok conn h hconn hh => ?_⟩
    · obtain ⟨h, hh⟩ := Option.isSome_iff_exists.mp hhydrated
      rw [← receive_hydration s.today] at hh
      exact (counted_receive hs hall hconn hh).mp (hown conn h hconn hh) m rest hinbox hhydrated hnone
    · exact (counted_receive hs hall hconn hh).mpr fun m rest => hok conn m rest hconn

lemma dated_announce (hs : Dated s) (account : ℕ) (event : PositionChanged) : Dated (s.announce account event) := by
  refine ⟨fun m hm => ?_, hs.inbox, hs.daily, hs.kept⟩
  obtain hold | hnew := List.mem_append.mp hm
  · exact hs.outbox m hold
  · obtain rfl := List.mem_singleton.mp hnew
    exact le_rfl

lemma dated_book {book : Book} (hs : Dated s) (h : s.today ≤ book.desk.today) : Dated { s with book } :=
  ⟨fun m hm => (hs.outbox m hm).trans h, fun c conn hc m hm => (hs.inbox c conn hc m hm).trans h,
    fun c conn hc y hy => (hs.daily c conn hc y hy).trans h, hs.kept⟩

lemma dated_commitClose {account : ℕ} {k : Request} {published : ℚ → ℚ} (hs : Dated s) :
    Dated (commitClose r s account k published) := by
  have hbook := dated_book hs (closed_today (r := r) s.book account k).ge
  rw [commitClose]
  split
  · exact hbook
  · refine ⟨fun m hm => ?_, hbook.inbox, hbook.daily, fun c conn h hc hh => ?_⟩
    · obtain hold | hnew := List.mem_append.mp hm
      · exact hbook.outbox m hold
      · obtain rfl := List.mem_singleton.mp hnew
        exact (closed_today (r := r) s.book account k).ge
    · have hle := hs.kept c conn h hc hh
      rw [List.length_append]
      omega

lemma dated_groupSend (hs : Dated s) (i : ℕ) : Dated (groupSend s i) := by
  cases hm : s.outbox[i]? with
  | none =>
    rw [groupSend, hm]
    exact hs
  | some m =>
    have htoday : (groupSend s i).today = s.today := by rw [groupSend, hm]; rfl
    have hcloses : (groupSend s i).closes = s.closes := by rw [groupSend, hm]
    refine ⟨fun m' hm' => ?_, fun c conn' hc m' hm' => ?_, fun c conn' hc y hy => ?_, fun c conn' h hc hh => ?_⟩
    · simp only [groupSend, hm] at hm'
      rw [htoday]
      exact hs.outbox m' (List.mem_of_mem_eraseIdx hm')
    · obtain ⟨conn, hconn, rfl⟩ := conns_groupSend hm hc
      rw [htoday]
      rw [Message.deliver] at hm'
      split at hm'
      · obtain hold | hnew := List.mem_append.mp hm'
        · exact hs.inbox c conn hconn m' hold
        · obtain rfl := List.mem_singleton.mp hnew
          exact hs.outbox m' (List.mem_of_getElem? hm)
      · exact hs.inbox c conn hconn m' hm'
    · obtain ⟨conn, hconn, rfl⟩ := conns_groupSend hm hc
      rw [(deliver_daily m conn).1] at hy
      rw [htoday]
      exact hs.daily c conn hconn y hy
    · obtain ⟨conn, hconn, rfl⟩ := conns_groupSend hm hc
      rw [(deliver_daily m conn).2.1] at hh
      rw [hcloses]
      exact hs.kept c conn h hconn hh

lemma dated_conns {conns : ℕ → Option Connection} (hs : Dated s)
    (h : ∀ i conn, conns i = some conn →
      s.conns i = some conn ∨ (conn.inbox = [] ∧ conn.daily.day = none ∧ conn.hydration = none)) :
    Dated { s with conns } := by
  refine ⟨hs.outbox, fun i conn hc m hm => ?_, fun i conn hc y hy => ?_, fun i conn hy hc hh => ?_⟩
  · obtain hold | ⟨hinbox, -, -⟩ := h i conn hc
    · exact hs.inbox i conn hold m hm
    · rw [hinbox] at hm
      cases hm
  · obtain hold | ⟨-, hday, -⟩ := h i conn hc
    · exact hs.daily i conn hold y hy
    · rw [hday] at hy
      cases hy
  · obtain hold | ⟨-, -, hnone⟩ := h i conn hc
    · exact hs.kept i conn hy hold hh
    · rw [hnone] at hh
      cases hh

lemma dated_closeBy (hs : Dated s) (c : ℕ) (path : ClosePath) (k : Request) : Dated (closeBy r s c path k) := by
  rw [closeBy]
  split
  · exact hs
  · next conn hconn =>
    have hcommitted : Dated (commitClose r s conn.account k id) := dated_commitClose hs
    split
    · dsimp only
      split
      · exact hcommitted
      · exact dated_onConn hcommitted fun conn hconn => ⟨fun _ => id, hcommitted.daily c conn hconn, fun _ => .inl⟩
    · exact hs

lemma receive_cases (today : ℤ) (conn : Connection) : (∀ m ∈ (receive today conn).inbox, m ∈ conn.inbox) ∧
    ∀ y ∈ (receive today conn).daily.day, y ∈ conn.daily.day ∨ y = today := by
  rw [receive]
  split
  · exact ⟨fun _ => id, fun _ => .inl⟩
  · next m rest hinbox =>
    have hrest : ∀ m' ∈ rest, m' ∈ conn.inbox := fun m' hm' => by rw [hinbox]; exact List.mem_cons_of_mem m hm'
    split
    · rw [positionChanged]
      split
      · exact ⟨hrest, fun _ => .inl⟩
      · exact ⟨hrest, fun y hy => .inr (Option.some.inj hy).symm⟩
    · exact ⟨fun _ => id, fun _ => .inl⟩

lemma step_dated (hs : Dated s) (act : Action) : Dated (step r s act) := by
  cases act with
  | wait days => exact dated_book hs (by simp)
  | openPosition row =>
    have hbook : Dated { s with book := openPosition s.book row } := dated_book hs (openPosition_today s.book row).ge
    simp only [step, openRow]
    split
    · exact hbook
    · exact dated_announce hbook _ _
  | merge position m =>
    have hbook : Dated { s with book := saveRow s.book position fun row => mergeRow row m } :=
      dated_book hs (saveRow_today s.book position _).ge
    simp only [step, mergeInto]
    split
    · exact hbook
    · exact dated_announce hbook _ _
  | connect c account =>
    simp only [step, join]
    split
    · refine dated_conns hs fun i conn hconn => ?_
      split at hconn
      · obtain rfl := Option.some.inj hconn
        exact .inr ⟨rfl, rfl, rfl⟩
      · exact .inl hconn
    · exact hs
  | hydrate c =>
    refine dated_onConn hs fun conn hconn => ?_
    rw [maybeHydrateFromDb]
    split
    · exact ⟨fun _ => id, hs.daily c conn hconn, fun _ => .inl⟩
    · refine ⟨fun _ => id, fun y hy => (Option.some.inj hy).ge, fun h hh => .inr ?_⟩
      obtain rfl := Option.some.inj hh
      rfl
  | disconnect c =>
    refine dated_conns hs fun i conn hconn => ?_
    split at hconn
    · cases hconn
    · exact .inl hconn
  | close c path k => exact dated_closeBy hs c path k
  | track c =>
    refine dated_onConn hs fun conn hconn => ?_
    rw [trackClosed]
    split
    · exact ⟨fun _ => id, hs.daily c conn hconn, fun _ => .inl⟩
    · exact ⟨fun _ => id, fun y hy => (Option.some.inj hy).ge, fun _ => .inl⟩
  | daemonClose account k => exact dated_commitClose hs
  | publish i => exact dated_groupSend hs i
  | receive c =>
    refine dated_onConn hs fun conn hconn => ?_
    obtain ⟨hinbox, hday⟩ := receive_cases s.today conn
    refine ⟨hinbox, fun y hy => ?_, fun h hh => .inl (receive_hydration s.today conn ▸ hh)⟩
    obtain hold | rfl := hday y hy
    · exact hs.daily c conn hconn y hold
    · exact le_rfl

end Steps

section Runs

structure Unconnected (s : Hub) : Prop where
  conns : ∀ c, s.conns c = none
  outbox : s.outbox = []

lemma unconnected_counted {s : Hub} (h : Unconnected s) : Dated s ∧ AllCounted s := by
  have hnone : ∀ c conn, s.conns c ≠ some conn := fun c conn hc => by simp [h.conns c] at hc
  refine ⟨⟨fun m hm => ?_, ?_, ?_, ?_⟩, fun c conn _ hc => absurd hc (hnone c conn)⟩
  · rw [h.outbox] at hm
    cases hm
  · exact fun c conn hc => absurd hc (hnone c conn)
  · exact fun c conn hc => absurd hc (hnone c conn)
  · exact fun c conn _ hc => absurd hc (hnone c conn)

/-- With nothing on its way, the tally is what was found at hydration and the day's closes since. -/
lemma counted_settled {s : Hub} {conn : Connection} {h : Hydration} {d : ℤ} (hcounted : Counted s conn h)
    (hinbox : conn.inbox = []) (hout : s.outbox = []) (hday : conn.daily.day = some d) :
    conn.daily.value = (if d = h.day then h.value else 0) + committedSince s conn h d := by
  have hcount := hcounted d fun y hy => (Option.some.inj (hday ▸ hy)).ge
  rwa [onItsWay, hinbox, hout, amount_nil, amount_nil, add_zero, add_zero, Tally.reads, if_pos hday] at hcount

/-- The connections count right along a run exactly if none tallies a close of its own, the daemon's events carry what
its closes realize, nothing is on its way to a connection that hydrates, and events are handled on their day. -/
theorem daily_pnl_counted_iff (s : Hub) (h : Unconnected s) (acts : List Action) :
    (∀ before after, acts = before ++ after → AllCounted (run (step r) s before)) ↔
      Guarded (step r) (Ok r) s acts := by
  obtain ⟨hdated, hall⟩ := unconnected_counted h
  have hrun : ∀ acts, Dated (run (step r) s acts) :=
    run_invariant (I := Dated) (fun _ a hs => step_dated hs a) hdated
  have hexact := invariant_iff_guarded (I := fun s => Dated s ∧ AllCounted s)
    (fun s a hs => (and_iff_right (step_dated hs.1 a)).trans (step_counted (r := r) hs.1 hs.2 a)) ⟨hdated, hall⟩ acts
  rw [← hexact]
  refine forall₂_congr fun before after => imp_congr_right fun _ => ?_
  exact (and_iff_right (hrun before)).symm

end Runs

section Counterexample

def openHub : Hub where
  book := Coverage.emptyBook
  closes := []
  outbox := []
  conns _ := none

def lotRequest : Request where
  position := 0
  mem := Coverage.longLot 0 none
  closeQty := none
  closePx := 111 / 100

/-- One connection, and a trade of its own that wins a thousand. -/
def ownClose : List Action :=
  [.connect 0 0, .hydrate 0, .openPosition (Coverage.longLot 0 none), .publish 0, .receive 0,
    .close 0 .orderClose lotRequest, .track 0, .publish 0, .receive 0]

theorem daily_pnl_counted_iff_own :
    (∀ before after, ownClose = before ++ after → AllCounted (run (step python) openHub before)) ↔
      Guarded (step python) (Ok python) openHub ownClose :=
  daily_pnl_counted_iff openHub ⟨fun _ => rfl, rfl⟩ ownClose

/-- The winnings are in the tally once from the close itself and once from its event. -/
theorem own_close_counted_twice :
    (run (step python) openHub ownClose).conns 0 = some ⟨0, ⟨2000, some 0⟩, some ⟨0, 0, 0⟩, [], []⟩ ∧
      (run (step python) openHub ownClose).outbox = [] ∧
      (run (step python) openHub ownClose).closes = [⟨0, 0, 1000, 0⟩] ∧
      ¬ AllCounted (run (step python) openHub ownClose) := by
  have hconn : (run (step python) openHub ownClose).conns 0 = some ⟨0, ⟨2000, some 0⟩, some ⟨0, 0, 0⟩, [], []⟩ := by
    decide +kernel
  have hout : (run (step python) openHub ownClose).outbox = [] := by decide +kernel
  have hcloses : (run (step python) openHub ownClose).closes = [⟨0, 0, 1000, 0⟩] := by decide +kernel
  refine ⟨hconn, hout, hcloses, fun hall => ?_⟩
  have hvalue := counted_settled (hall 0 _ _ hconn rfl) rfl hout rfl
  rw [committedSince, hcloses] at hvalue
  norm_num [amount] at hvalue

end Counterexample

end TrxSimulator.Risk.DailyPnl
