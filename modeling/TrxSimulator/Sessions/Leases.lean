import Mathlib.Algebra.Order.Round
import TrxSimulator.Foundations.Floats
import TrxSimulator.Foundations.Runs

/-! The lease of an interactive session: what requests, navigations and reports of activity do to it, statement by
statement. Times are in microseconds; a row of the table is found by the session key that its digest stands for. -/

namespace TrxSimulator.Sessions.Leases

open Foundations.Decimals Foundations.Floats Foundations.Runs

def second : ℤ := 1000000

def twelveHours : ℤ := 12 * 3600 * second

/-- `seconds()` of the setting. -/
def seconds (setting : ℤ) : ℤ := max 30 setting

/-- The microseconds of `timedelta(seconds=x)` for a float that is not negative. -/
def timedelta (x : ℚ) : ℤ := ⌊x⌋ * second + roundHalfEven (float (Int.fract x * second))

/-- What is left of the lease after an idle age that the browser reports. -/
def remaining (setting : ℤ) (idle : ℚ) : ℤ := timedelta (float (float (seconds setting) - float idle))

structure Lease (U : Type*) where
  user : U
  expiresAt : ℤ
  absoluteExpiresAt : ℤ

/-- What has happened to a session: its login, its latest genuine interaction, and whether a logout or a refusal
has ended it. -/
structure History (U : Type*) where
  user : U
  loginAt : ℤ
  latest : ℚ
  ended : Bool

def History.interact {U : Type*} (h : History U) (at' : ℚ) : History U := { h with latest := max h.latest at' }

def History.finish {U : Type*} (h : History U) : History U := { h with ended := true }

/-- All that there is for one session key: the lease, the session row with its user, the user of a login whose session
is not saved yet, and the history. -/
structure Entry (U : Type*) where
  lease : Option (Lease U)
  session : Option U
  opening : Option U
  history : Option (History U)

/-- How far a request has come, with its session key and its user. -/
inductive Stage (K U : Type*)
  | idle
  | loaded (k : K) (u : U)
  | bare (k : K) (u : U)
  | leased (k : K) (u : U)
  | passed (k : K) (u : U)
  | viewing (k : K) (u : U)
  | refused (k : K) (u : U)
  | flushing (k : K) (u : U)

def Stage.holds {K U : Type*} : Stage K U → Option (K × U)
  | .idle => none
  | .loaded k u | .bare k u | .leased k u | .passed k u | .viewing k u | .refused k u | .flushing k u => some (k, u)

structure State (K R U : Type*) where
  now : ℤ
  entries : K → Entry U
  requests : R → Stage K U

inductive Action (K R U : Type*)
  | login (u : U) (k : K)
  | openSession (k : K)
  | cycleKey (k : K)
  | load (r : R) (k : K)
  | find (r : R)
  | bootstrap (r : R)
  | check (r : R)
  | navigate (r : R)
  | activity (r : R) (idle : ℚ)
  | logout (r : R)
  | flush (r : R)

variable {K R U : Type*} (setting : ℤ)

def newLease (u : U) (now : ℤ) : Lease U where
  user := u
  expiresAt := now + seconds setting * second
  absoluteExpiresAt := now + twelveHours

def Lease.Live (l : Lease U) (now : ℤ) (u : U) : Prop := l.user = u ∧ now < l.expiresAt ∧ now < l.absoluteExpiresAt

instance [DecidableEq U] (l : Lease U) (now : ℤ) (u : U) : Decidable (l.Live now u) :=
  inferInstanceAs (Decidable (_ ∧ _))

def Entry.leaseValid [DecidableEq U] (e : Entry U) (now : ℤ) (u : U) : Bool := e.lease.any fun l => l.Live now u

/-- The statements of `socket_session_valid`: the lease, and the session row read afresh. -/
def Entry.socketSessionValid [DecidableEq U] (e : Entry U) (now : ℤ) (u : U) : Bool :=
  e.leaseValid now u && decide (e.session = some u)

/-- An UPDATE of the expiry, without a condition on the lease. -/
def Entry.expireAt (e : Entry U) (at' : ℤ) : Entry U :=
  { e with lease := e.lease.map fun l => { l with expiresAt := at' } }

def Entry.interact (e : Entry U) (at' : ℚ) : Entry U := { e with history := e.history.map (·.interact at') }

def Entry.finish (e : Entry U) : Entry U := { e with history := e.history.map History.finish }

def State.entry [DecidableEq K] (s : State K R U) (k : K) (e : Entry U) : State K R U :=
  { s with entries := Function.update s.entries k e }

def State.request [DecidableEq R] (s : State K R U) (r : R) (stage : Stage K U) : State K R U :=
  { s with requests := Function.update s.requests r stage }

section Statements

variable [DecidableEq K] [DecidableEq R] [DecidableEq U] (s : State K R U) (now : ℤ)

/-- The signal of a login gives the new session key its lease; the key has none before. -/
def login (u : U) (k : K) : State K R U :=
  if (s.entries k).lease.isSome then s
  else
    s.entry k
      { s.entries k with
        lease := some (newLease setting u now)
        opening := some u
        history := some { user := u, loginAt := now, latest := now, ended := false } }

def openSession (k : K) : State K R U :=
  match (s.entries k).opening with
  | none => s
  | some u => s.entry k { s.entries k with session := some u, opening := none }

def load (r : R) (k : K) : State K R U :=
  match (s.entries k).session with
  | none => s.request r .idle
  | some u => s.request r (.loaded k u)

def find (r : R) : State K R U :=
  match s.requests r with
  | .loaded k u => s.request r (if (s.entries k).lease.isSome then .leased k u else .bare k u)
  | _ => s

def bootstrap (r : R) : State K R U :=
  match s.requests r with
  | .bare k u =>
    (s.entry k { s.entries k with lease := some (newLease setting u now) }).request r (.leased k u)
  | _ => s

def check (r : R) : State K R U :=
  match s.requests r with
  | .leased k u =>
    if (s.entries k).leaseValid now u then s.request r (.passed k u)
    else (s.entry k (s.entries k).finish).request r (.refused k u)
  | _ => s

/-- The renewal of a navigation is a statement of its own, after the check and without its conditions. -/
def navigate (r : R) : State K R U :=
  match s.requests r with
  | .passed k u =>
    (s.entry k (((s.entries k).expireAt (now + seconds setting * second)).interact now)).request r (.viewing k u)
  | _ => s

/-- A report whose age is out of range is an invalid one; an UPDATE that finds no live lease is a refusal. -/
def activity (r : R) (idle : ℚ) : State K R U :=
  match s.requests r with
  | .passed k u =>
    if 0 ≤ float idle ∧ float idle < seconds setting then
      if (s.entries k).leaseValid now u then
        (s.entry k (((s.entries k).expireAt (now + remaining setting idle)).interact (now - idle * second))).request r
          .idle
      else (s.entry k (s.entries k).finish).request r .idle
    else s.request r .idle
  | _ => s

/-- The signal of a logout, of the middleware's or of a view's, ends the lease. -/
def logout (r : R) : State K R U :=
  match s.requests r with
  | .passed k u | .viewing k u | .refused k u =>
    (s.entry k ((s.entries k).expireAt now).finish).request r (.flushing k u)
  | _ => s

def flush (r : R) : State K R U :=
  match s.requests r with
  | .flushing k _ => (s.entry k { s.entries k with session := none }).request r .idle
  | _ => s

def take : Action K R U → State K R U
  | .login u k => login setting s now u k
  | .openSession k => openSession s k
  | .cycleKey k => s.entry k { s.entries k with session := none }
  | .load r k => load s r k
  | .find r => find s r
  | .bootstrap r => bootstrap setting s now r
  | .check r => check s now r
  | .navigate r => navigate setting s now r
  | .activity r idle => activity setting s now r idle
  | .logout r => logout s now r
  | .flush r => flush s r

end Statements

def step [DecidableEq K] [DecidableEq R] [DecidableEq U] (s : State K R U) (event : ℤ × Action K R U) : State K R U :=
  { take setting s event.1 event.2 with now := event.1 }

def start : State K R U where
  now := 0
  entries := fun _ => { lease := none, session := none, opening := none, history := none }
  requests := fun _ => .idle

/-- The promises to one session key, for a check at any later time. -/
structure Entry.Kept [DecidableEq U] (e : Entry U) (now : ℤ) : Prop where
  recent : ∀ t u, now ≤ t → e.leaseValid t u = true → ∃ h, e.history = some h ∧
    (t : ℚ) < h.latest + seconds setting * second ∧ t < h.loginAt + twelveHours
  accepted : ∀ h t, e.history = some h → h.ended = false → now ≤ t → (t : ℚ) < h.latest + seconds setting * second →
    t < h.loginAt + twelveHours → e.leaseValid t h.user = true ∧
      (e.session.isSome → e.socketSessionValid t h.user = true)
  final : ∀ h t u, e.history = some h → h.ended = true → now ≤ t → e.leaseValid t u = false

/-- The steps that the statements of the source handle as promised: a report is no older than an interaction that is
known already and read to the microsecond, and a navigation renews a lease that is still valid. -/
def Meets [DecidableEq U] (s : State K R U) (event : ℤ × Action K R U) : Prop :=
  match event with
  | (now, .navigate r) => ∀ k u, s.requests r = .passed k u → (s.entries k).leaseValid now u = true
  | (now, .activity r idle) => ∀ k u, s.requests r = .passed k u →
      (∀ h, (s.entries k).history = some h → h.latest ≤ now - idle * second) ∧
      remaining setting idle = ⌈(seconds setting - idle) * second⌉
  | _ => True

/-! The invariant. -/

/-- The lease of a session that nothing has ended runs from the latest interaction. -/
structure Linked (now : ℤ) (l : Lease U) (h : History U) : Prop where
  user : l.user = h.user
  absolute : l.absoluteExpiresAt = h.loginAt + twelveHours
  past : h.latest ≤ now
  live : h.ended = false → l.expiresAt = ⌈h.latest + seconds setting * second⌉
  expired : h.ended = true → l.expiresAt ≤ now ∨ l.absoluteExpiresAt ≤ now

inductive Entry.Inv (now : ℤ) : Entry U → Prop
  | unused : Inv now { lease := none, session := none, opening := none, history := none }
  | used {l h session opening} : Linked setting now l h → (∀ u, session = some u → u = h.user) →
      (∀ u, opening = some u → u = h.user) →
      Inv now { lease := some l, session := session, opening := opening, history := some h }

structure Inv (now : ℤ) (s : State K R U) : Prop where
  entries : ∀ k, (s.entries k).Inv setting now
  requests : ∀ r k u, (s.requests r).holds = some (k, u) → ∃ h, (s.entries k).history = some h ∧ h.user = u
  leased : ∀ r k u, s.requests r ≠ .bare k u

variable {setting} {now : ℤ} {l : Lease U} {h : History U} {e : Entry U} {s : State K R U}

lemma Linked.mono {later : ℤ} (hl : Linked setting now l h) (hle : now ≤ later) : Linked setting later l h where
  user := hl.user
  absolute := hl.absolute
  past := hl.past.trans (by exact_mod_cast hle)
  live := hl.live
  expired := fun hended => (hl.expired hended).imp hle.trans' hle.trans'

lemma Linked.not_live (hl : Linked setting now l h) (hended : h.ended = true) {t : ℤ} (ht : now ≤ t) (u : U) :
    ¬ l.Live t u := by
  rintro ⟨-, hexpires, habsolute⟩
  obtain hover | hover := hl.expired hended <;> omega

lemma Linked.goes (hl : Linked setting now l h) {u : U} (hvalid : l.Live now u) : h.ended = false := by
  cases hended : h.ended with
  | true => exact absurd hvalid (hl.not_live hended le_rfl u)
  | false => rfl

/-- The lease of a session that goes on is live exactly in the time after the interaction. -/
lemma Linked.live_iff (hl : Linked setting now l h) (hgoes : h.ended = false) (t : ℤ) :
    l.Live t h.user ↔ (t : ℚ) < h.latest + seconds setting * second ∧ t < h.loginAt + twelveHours := by
  rw [Lease.Live, hl.user, hl.absolute, hl.live hgoes, Int.lt_ceil]
  exact and_iff_right rfl

lemma Linked.interact (hl : Linked setting now l h) (hgoes : h.ended = false) {at' : ℚ} (hpast : at' ≤ now)
    (hnew : h.latest ≤ at') (expiry : ℤ) (hexpiry : expiry = ⌈at' + seconds setting * second⌉) :
    Linked setting now { l with expiresAt := expiry } (h.interact at') where
  user := hl.user
  absolute := hl.absolute
  past := by rw [History.interact, max_eq_right hnew]; exact hpast
  live := fun _ => by rw [History.interact, max_eq_right hnew]; exact hexpiry
  expired := fun hended => by simp [History.interact, hgoes] at hended

lemma Linked.finish (hl : Linked setting now l h) (hover : l.expiresAt ≤ now ∨ l.absoluteExpiresAt ≤ now) :
    Linked setting now l h.finish where
  user := hl.user
  absolute := hl.absolute
  past := hl.past
  live := fun hgoes => by simp [History.finish] at hgoes
  expired := fun _ => hover

lemma Linked.logout (hl : Linked setting now l h) : Linked setting now { l with expiresAt := now } h.finish where
  user := hl.user
  absolute := hl.absolute
  past := hl.past
  live := fun hgoes => by simp [History.finish] at hgoes
  expired := fun _ => .inl le_rfl

lemma Entry.Inv.kept [DecidableEq U] (he : e.Inv setting now) : e.Kept setting now := by
  cases he with
  | unused =>
    exact
      { recent := fun t u _ hvalid => by simp [Entry.leaseValid] at hvalid
        accepted := fun h t hh => nomatch hh
        final := fun h t u hh => nomatch hh }
  | @used l h session opening hl hsession hopening =>
    refine
      { recent := fun t u ht hvalid => ⟨h, rfl, ?_⟩
        accepted := fun h' t hh hgoes ht hrecent habsolute => ?_
        final := fun h' t u hh hended ht => ?_ }
    · have hlive : l.Live t u := by simpa [Entry.leaseValid] using hvalid
      obtain rfl : u = h.user := hlive.1.symm.trans hl.user
      cases hgoes : h.ended with
      | true => exact absurd hlive (hl.not_live hgoes ht _)
      | false => exact (hl.live_iff hgoes t).1 hlive
    · cases hh
      have hvalid : Entry.leaseValid { lease := some l, session, opening, history := some h } t h.user = true := by
        simpa [Entry.leaseValid] using (hl.live_iff hgoes t).2 ⟨hrecent, habsolute⟩
      refine ⟨hvalid, fun hopen => ?_⟩
      obtain ⟨u, rfl⟩ := Option.isSome_iff_exists.1 hopen
      obtain rfl := hsession u rfl
      simp only [Entry.socketSessionValid, hvalid, decide_true, Bool.and_self]
    · cases hh
      simpa [Entry.leaseValid] using hl.not_live hended ht u

lemma Entry.Inv.mono {later : ℤ} (he : e.Inv setting now) (hle : now ≤ later) : e.Inv setting later := by
  cases he with
  | unused => exact .unused
  | used hl hsession hopening => exact .used (hl.mono hle) hsession hopening

lemma Inv.mono {later : ℤ} (hs : Inv setting now s) (hle : now ≤ later) : Inv setting later s where
  entries := fun k => (hs.entries k).mono hle
  requests := hs.requests
  leased := hs.leased

lemma Inv.entry [DecidableEq K] (hs : Inv setting now s) {k : K} (he : e.Inv setting now)
    (huser : ∀ h, (s.entries k).history = some h → ∃ h', e.history = some h' ∧ h'.user = h.user) :
    Inv setting now (s.entry k e) where
  entries := fun j => by
    by_cases hj : j = k
    · subst hj
      simpa [State.entry] using he
    · simpa [State.entry, hj] using hs.entries j
  requests := fun r j u hr => by
    obtain ⟨h, hh, hu⟩ := hs.requests r j u hr
    by_cases hj : j = k
    · subst hj
      obtain ⟨h', hh', hu'⟩ := huser h hh
      exact ⟨h', by simpa [State.entry] using hh', hu'.trans hu⟩
    · exact ⟨h, by simpa [State.entry, hj] using hh, hu⟩
  leased := hs.leased

lemma Inv.request [DecidableEq R] (hs : Inv setting now s) {r : R} {stage : Stage K U}
    (hholds : ∀ k u, stage.holds = some (k, u) → ∃ h, (s.entries k).history = some h ∧ h.user = u)
    (hleased : ∀ k u, stage ≠ .bare k u) : Inv setting now (s.request r stage) where
  entries := hs.entries
  requests := fun q k u hq => by
    obtain ⟨-, hq⟩ | ⟨-, hq⟩ := update_cases (P := fun st : Stage K U => st.holds = some (k, u)) hq
    · exact hholds k u hq
    · exact hs.requests q k u hq
  leased := fun q k u => by
    by_cases hqr : q = r
    · subst hqr
      simpa [State.request] using hleased k u
    · simpa [State.request, hqr] using hs.leased q k u

lemma Inv.idle [DecidableEq R] (hs : Inv setting now s) (r : R) : Inv setting now (s.request r .idle) :=
  hs.request (fun _ _ h => nomatch h) (fun _ _ h => nomatch h)

lemma Inv.advance [DecidableEq R] (hs : Inv setting now s) {r : R} {stage stage' : Stage K U}
    (hr : s.requests r = stage) (hsame : stage'.holds = stage.holds) (hleased : ∀ k u, stage' ≠ .bare k u) :
    Inv setting now (s.request r stage') :=
  hs.request (fun k u h => hs.requests r k u (by rw [hr, ← hsame, h])) hleased

lemma Inv.used (hs : Inv setting now s) {r : R} {k : K} {u : U} (hr : (s.requests r).holds = some (k, u)) :
    ∃ l h session opening, s.entries k = { lease := some l, session, opening, history := some h } ∧
      Linked setting now l h ∧ (∀ v, session = some v → v = h.user) ∧ (∀ v, opening = some v → v = h.user) ∧
      h.user = u := by
  obtain ⟨h, hh, hu⟩ := hs.requests r k u hr
  have he := hs.entries k
  generalize s.entries k = e at hh he
  cases he with
  | unused => cases hh
  | used hl hsession hopening =>
    cases hh
    exact ⟨_, _, _, _, rfl, hl, hsession, hopening, hu⟩

lemma start_inv : Inv setting (start : State K R U).now (start : State K R U) where
  entries := fun _ => .unused
  requests := fun _ _ _ h => nomatch h
  leased := fun _ _ _ h => nomatch h

section Requests

variable [DecidableEq R]

lemma load_inv (hs : Inv setting now s) (r : R) (k : K) : Inv setting now (load s r k) := by
  unfold load
  cases hsession : (s.entries k).session with
  | none => exact hs.idle r
  | some u =>
    refine hs.request (fun j v hjv => ?_) (fun _ _ h => nomatch h)
    cases hjv
    have he := hs.entries k
    generalize s.entries k = e at hsession he
    cases he with
    | unused => cases hsession
    | @used l h session opening hl hopened hopening => exact ⟨h, rfl, (hopened u hsession).symm⟩

lemma find_inv (hs : Inv setting now s) (r : R) : Inv setting now (find s r) := by
  unfold find
  cases hr : s.requests r with
  | loaded k u =>
    obtain ⟨l, h, session, opening, he, -⟩ := hs.used (r := r) (by rw [hr]; rfl)
    simp only [he, Option.isSome_some, if_true]
    exact hs.advance hr rfl fun _ _ h => nomatch h
  | _ => exact hs

end Requests

section Steps

variable [DecidableEq K]

lemma newLease_linked (u : U) : Linked setting now (newLease setting u now)
    { user := u, loginAt := now, latest := now, ended := false } where
  user := rfl
  absolute := rfl
  past := le_rfl
  live := fun _ => by
    have hcast : (now : ℚ) + seconds setting * second = ((now + seconds setting * second : ℤ) : ℚ) := by push_cast; rfl
    rw [hcast, Int.ceil_intCast]
    rfl
  expired := fun hended => by cases hended

lemma openSession_inv (hs : Inv setting now s) (k : K) : Inv setting now (openSession s k) := by
  unfold openSession
  cases hopening : (s.entries k).opening with
  | none => exact hs
  | some u =>
    have he := hs.entries k
    apply hs.entry
    · generalize s.entries k = e at hopening he
      cases he with
      | unused => cases hopening
      | used hl hopened hopens =>
        exact .used hl (fun v hv => by cases hv; exact hopens u hopening) (fun _ h => nomatch h)
    · exact fun h hh => ⟨h, hh, rfl⟩

lemma closeSession_inv (hs : Inv setting now s) (k : K) :
    Inv setting now (s.entry k { s.entries k with session := none }) := by
  have he := hs.entries k
  apply hs.entry
  · generalize s.entries k = e at he
    cases he with
    | unused => exact .unused
    | used hl _ hopens => exact .used hl (fun _ h => nomatch h) hopens
  · exact fun h hh => ⟨h, hh, rfl⟩

lemma Inv.relink (hs : Inv setting now s) {k : K} {l l' : Lease U} {h h' : History U} {session opening : Option U}
    (he : s.entries k = { lease := some l, session, opening, history := some h }) (hl : Linked setting now l' h')
    (hsame : h'.user = h.user) (hsession : ∀ v, session = some v → v = h.user)
    (hopening : ∀ v, opening = some v → v = h.user) :
    Inv setting now (s.entry k { lease := some l', session, opening, history := some h' }) := by
  apply hs.entry
  · exact .used hl (fun v hv => (hsession v hv).trans hsame.symm) (fun v hv => (hopening v hv).trans hsame.symm)
  · intro g hg
    rw [he] at hg
    cases hg
    exact ⟨h', rfl, hsame⟩

lemma login_inv (hs : Inv setting now s) (u : U) (k : K) : Inv setting now (login setting s now u k) := by
  unfold login
  split
  · exact hs
  next hnone =>
    have he := hs.entries k
    apply hs.entry
    · generalize s.entries k = e at hnone he
      cases he with
      | unused => exact .used (newLease_linked u) (fun _ h => nomatch h) (fun v hv => by cases hv; rfl)
      | used hl => simp at hnone
    · intro h hh
      generalize s.entries k = e at hnone he hh
      cases he with
      | unused => cases hh
      | used hl => simp at hnone

variable [DecidableEq R]

lemma logout_inv (hs : Inv setting now s) (r : R) : Inv setting now (logout s now r) := by
  unfold logout
  have hout : ∀ k u, (s.requests r).holds = some (k, u) →
      Inv setting now ((s.entry k ((s.entries k).expireAt now).finish).request r (.flushing k u)) := by
    intro k u hr
    obtain ⟨l, h, session, opening, he, hl, hsession, hopening, rfl⟩ := hs.used hr
    have hs' := hs.relink he hl.logout rfl hsession hopening
    rw [he]
    refine hs'.request (fun j v hjv => hs'.requests r j v ?_) fun _ _ h => nomatch h
    exact hr.trans hjv
  cases hr : s.requests r with
  | passed k u | viewing k u | refused k u =>
    apply hout
    rw [hr]
    rfl
  | _ => exact hs

lemma flush_inv (hs : Inv setting now s) (r : R) : Inv setting now (flush s r) := by
  unfold flush
  cases hr : s.requests r with
  | flushing k u => exact (closeSession_inv hs k).idle r
  | _ => exact hs

lemma bootstrap_inv (hs : Inv setting now s) (r : R) : Inv setting now (bootstrap setting s now r) := by
  unfold bootstrap
  cases hr : s.requests r with
  | bare k u => exact absurd hr (hs.leased r k u)
  | _ => exact hs

variable [DecidableEq U]

lemma check_inv (hs : Inv setting now s) (r : R) : Inv setting now (check s now r) := by
  unfold check
  cases hr : s.requests r with
  | leased k u =>
    obtain ⟨l, h, session, opening, he, hl, hsession, hopening, rfl⟩ := hs.used (r := r) (by rw [hr]; rfl)
    dsimp only
    split
    · exact hs.advance hr rfl fun _ _ h => nomatch h
    next hinvalid =>
      have hover : l.expiresAt ≤ now ∨ l.absoluteExpiresAt ≤ now := by
        by_contra hlive
        rw [not_or, not_le, not_le] at hlive
        apply hinvalid
        simpa [he, Entry.leaseValid, Lease.Live, hl.user] using hlive
      have hs' := hs.relink he (hl.finish hover) rfl hsession hopening
      rw [he]
      exact hs'.advance hr rfl fun _ _ h => nomatch h
  | _ => exact hs

lemma navigate_inv (hs : Inv setting now s) (r : R)
    (hmeets : ∀ k u, s.requests r = .passed k u → (s.entries k).leaseValid now u = true) :
    Inv setting now (navigate setting s now r) := by
  unfold navigate
  cases hr : s.requests r with
  | passed k u =>
    obtain ⟨l, h, session, opening, he, hl, hsession, hopening, rfl⟩ := hs.used (r := r) (by rw [hr]; rfl)
    have hlive : l.Live now h.user := by simpa [he, Entry.leaseValid] using hmeets k _ hr
    have hlinked := hl.interact (hl.goes hlive) le_rfl hl.past (now + seconds setting * second) (by
      rw [← Int.ceil_intCast (R := ℚ) (now + seconds setting * second)]
      push_cast
      rfl)
    have hs' := hs.relink he hlinked rfl hsession hopening
    simp only [he]
    exact hs'.advance hr rfl fun _ _ h => nomatch h
  | _ => exact hs

lemma nonneg_of_float {x : ℚ} (h : 0 ≤ float x) : 0 ≤ x := by
  by_contra hx
  have hge := abs_float_ge x
  have hnonpos := float_nonpos (not_le.1 hx).le
  rw [le_antisymm hnonpos h, abs_zero, abs_of_neg (not_le.1 hx)] at hge
  norm_num [ulp] at hge
  linarith

lemma activity_inv (hs : Inv setting now s) (r : R) (idle : ℚ)
    (hmeets : ∀ k u, s.requests r = .passed k u →
      (∀ h, (s.entries k).history = some h → h.latest ≤ now - idle * second) ∧
      remaining setting idle = ⌈(seconds setting - idle) * second⌉) :
    Inv setting now (activity setting s now r idle) := by
  unfold activity
  cases hr : s.requests r with
  | passed k u =>
    obtain ⟨l, h, session, opening, he, hl, hsession, hopening, rfl⟩ := hs.used (r := r) (by rw [hr]; rfl)
    obtain ⟨hnewer, hread⟩ := hmeets k _ hr
    dsimp only
    split
    next hage =>
      have hpast : (now : ℚ) - idle * second ≤ now := by
        have hproduct : 0 ≤ idle * second := mul_nonneg (nonneg_of_float hage.1) (by norm_num [second])
        linarith
      split
      next hvalid =>
        have hlive : l.Live now h.user := by simpa [he, Entry.leaseValid] using hvalid
        have hlinked := hl.interact (hl.goes hlive) hpast (hnewer h (by rw [he]))
          (now + remaining setting idle) (by
            rw [hread, ← Int.ceil_intCast_add]
            congr 1
            ring)
        simp only [he]
        exact (hs.relink he hlinked rfl hsession hopening).idle r
      next hinvalid =>
        have hover : l.expiresAt ≤ now ∨ l.absoluteExpiresAt ≤ now := by
          by_contra hlive
          rw [not_or, not_le, not_le] at hlive
          apply hinvalid
          simpa [he, Entry.leaseValid, Lease.Live, hl.user] using hlive
        rw [he]
        exact (hs.relink he (hl.finish hover) rfl hsession hopening).idle r
    · exact hs.idle r
  | _ => exact hs

lemma take_inv (hs : Inv setting now s) (action : Action K R U) (hmeets : Meets setting s (now, action)) :
    Inv setting now (take setting s now action) := by
  cases action with
  | login u k => exact login_inv hs u k
  | openSession k => exact openSession_inv hs k
  | cycleKey k => exact closeSession_inv hs k
  | load r k => exact load_inv hs r k
  | find r => exact find_inv hs r
  | bootstrap r => exact bootstrap_inv hs r
  | check r => exact check_inv hs r
  | navigate r => exact navigate_inv hs r hmeets
  | activity r idle => exact activity_inv hs r idle hmeets
  | logout r => exact logout_inv hs r
  | flush r => exact flush_inv hs r

lemma step_inv (hs : Inv setting s.now s) (event : ℤ × Action K R U) (htime : s.now ≤ event.1)
    (hmeets : Meets setting s event) : Inv setting (step setting s event).now (step setting s event) := by
  have htaken := take_inv (hs.mono htime) event.2 hmeets
  exact { entries := htaken.entries, requests := htaken.requests, leased := htaken.leased }

end Steps

section Broken

def opened (request : ℕ) (now : ℤ) : List (ℤ × Action ℕ ℕ ℕ) :=
  [(now, .load request 0), (now, .find request), (now, .check request)]

def loggedIn : List (ℤ × Action ℕ ℕ ℕ) := [(0, .login 7 0), (0, .openSession 0)]

def atEnd (events : List (ℤ × Action ℕ ℕ ℕ)) : Entry ℕ := (run (step 60) start events).entries 0

/-- A tab reports an interaction that is older than the navigation of another tab. -/
def staleReport : List (ℤ × Action ℕ ℕ ℕ) :=
  loggedIn ++ opened 0 (30 * second) ++ [(30 * second, .navigate 0)] ++ opened 1 (31 * second) ++
    [(31 * second, .activity 1 20)]

/-- A tab logs out between the check of a navigation and its renewal. -/
def lateRenewal : List (ℤ × Action ℕ ℕ ℕ) :=
  loggedIn ++ opened 0 (30 * second) ++ opened 1 (31 * second) ++
    [(32 * second, .logout 1), (33 * second, .navigate 0), (34 * second, .flush 1)]

def Timed (events : List (ℤ × Action ℕ ℕ ℕ)) : Prop :=
  Guarded (step 60) (fun s event => s.now ≤ event.1) (start : State ℕ ℕ ℕ) events

instance (events : List (ℤ × Action ℕ ℕ ℕ)) : Decidable (Timed events) := decidableGuarded _ _ _ _

end Broken

end TrxSimulator.Sessions.Leases
