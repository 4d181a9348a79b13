import Mathlib.Algebra.Order.Ring.Rat
import TrxSimulator.Foundations.Runs
import TrxSimulator.Foundations.Tables

/-! The activation of a challenge that an external platform has sold: a user is looked for and made, an enrollment is
made in a transaction of its own, and an email is queued, each in a step that may be the last. -/

namespace TrxSimulator.Challenges.Activation

open Foundations.Runs Foundations.Tables

inductive Amount
  | absent
  | invalid
  | paid (amount : ℚ)
deriving DecidableEq

def Amount.suffices (priceUsd : ℚ) : Amount → Bool
  | .absent => true
  | .invalid => false
  | .paid amount => decide (priceUsd ≤ amount)

/-- The signed body, with its texts stripped and its email in lower case. -/
structure Delivery where
  eventId : String
  email : String
  productCode : String
  paymentId : String
  amountPaid : Amount
deriving DecidableEq

structure Product where
  id : ℕ
  priceUsd : ℚ

/-- `made` tells the users that a delivery has created. -/
structure User where
  username : String
  email : String
  password : String
  made : Bool

structure Enrollment where
  user : ℕ
  product : ℕ
  active : Bool
  eventId : Option String
  paymentId : Option String

structure Mail where
  user : ℕ
  recipient : String
  credentials : Option (String × String)

inductive Stage
  | idle
  | looking (d : Delivery) (product : Product)
  | creating (d : Delivery) (product : Product)
  | enrolling (d : Delivery) (product : Product) (user : ℕ) (created : Bool) (tempPassword : String)
  | mailing (d : Delivery) (user : ℕ) (created : Bool) (tempPassword : String)

/-- The tables and the queue, the requests under way, and of the past: whether a delivery's email had no user before
its first attempt. -/
structure State where
  users : Table User
  enrollments : Table Enrollment
  outbox : List Mail
  requests : ℕ → Stage
  newcomer : Delivery → Option Bool

inductive Action
  | check (request : ℕ) (d : Delivery)
  | lookup (request : ℕ)
  | create (request : ℕ) (password : String)
  | enroll (request : ℕ)
  | mail (request : ℕ)
  | crash (request : ℕ)
  | finish (enrollment : ℕ)

/-- The products by their code, and the upper case that `iexact` compares by. -/
structure Settings where
  product : String → Option Product
  upper : String → String

variable (settings : Settings)

def Settings.SameEmail (a b : String) : Prop := settings.upper a = settings.upper b

instance (a b : String) : Decidable (settings.SameEmail a b) := inferInstanceAs (Decidable (_ = _))

namespace State

variable (s : State)

def request (request : ℕ) (stage : Stage) : State :=
  { s with requests := Function.update s.requests request stage }

def findUser (email : String) : Option (ℕ × User) := s.users.first fun u => decide (settings.SameEmail u.email email)

/-- The enrollment that answers a delivery: that of its event, or that of its payment. -/
def answering (d : Delivery) : Option (ℕ × Enrollment) :=
  (s.enrollments.first fun e => e.eventId = some d.eventId) <|>
    if d.paymentId = "" then none else s.enrollments.first fun e => e.paymentId = some d.paymentId

/-- The first attempt of a delivery tells whether its email is new. -/
def seen (d : Delivery) : State :=
  { s with
    newcomer := Function.update s.newcomer d (some ((s.newcomer d).getD (s.findUser settings d.email).isNone)) }

/-- What a request does before it looks for the user; one that is answered or rejected here is over. -/
def check (request : ℕ) (d : Delivery) : State :=
  match s.requests request with
  | .idle =>
    let s := s.seen settings d
    if d.eventId = "" ∨ d.email = "" ∨ d.productCode = "" then s
    else
      match s.answering d, settings.product d.productCode with
      | none, some product =>
        if d.amountPaid.suffices product.priceUsd then s.request request (.looking d product) else s
      | _, _ => s
  | _ => s

def lookup (request : ℕ) : State :=
  match s.requests request with
  | .looking d product =>
    match s.findUser settings d.email with
    | some found => s.request request (.enrolling d product found.1 false "")
    | none => s.request request (.creating d product)
  | _ => s

def candidate (base : String) (suffix : ℕ) : String := if suffix = 0 then base else base ++ "_" ++ toString suffix

/-- The name before the `@`, cut to 28 characters; the suffixes of as many users as there are leave one free. -/
def username (email : String) : String :=
  let base := String.ofList (((email.toList.takeWhile (· ≠ '@')).take 28).map fun c =>
    if c = '+' ∨ c = '.' then '_' else c)
  (((List.range (s.users.next + 1)).map (candidate base)).find? fun name =>
    !s.users.exists? fun u => u.username = name).getD base

def create (request : ℕ) (password : String) : State :=
  match s.requests request with
  | .creating d product =>
    { s with
      users := s.users.insert { username := s.username d.email, email := d.email, password := password, made := true }
      requests := Function.update s.requests request (.enrolling d product s.users.next true password) }
  | _ => s

/-- The unique constraints: of the event, and of the active purchases of a user and a product. -/
def refuses (d : Delivery) (product : Product) (user : ℕ) : Bool :=
  s.enrollments.exists? fun e =>
    e.eventId = some d.eventId ∨ (e.user = user ∧ e.product = product.id ∧ e.active = true)

def enroll (request : ℕ) : State :=
  match s.requests request with
  | .enrolling d product user created tempPassword =>
    if s.refuses d product user then s.request request .idle
    else
      { s with
        enrollments := s.enrollments.insert
          { user := user
            product := product.id
            active := true
            eventId := some d.eventId
            paymentId := if d.paymentId = "" then none else some d.paymentId }
        requests := Function.update s.requests request (.mailing d user created tempPassword) }
  | _ => s

def mail (request : ℕ) : State :=
  match s.requests request with
  | .mailing _ user created tempPassword =>
    match s.users.get user with
    | none => s.request request .idle
    | some u =>
      { s with
        outbox := s.outbox ++ [
          { user := user
            recipient := u.email
            credentials := if created then some (u.username, tempPassword) else none }]
        requests := Function.update s.requests request .idle }
  | _ => s

end State

section Runs

def step (s : State) : Action → State
  | .check request d => s.check settings request d
  | .lookup request => s.lookup settings request
  | .create request password => s.create request password
  | .enroll request => s.enroll request
  | .mail request => s.mail request
  | .crash request => s.request request .idle
  | .finish enrollment => { s with enrollments := s.enrollments.update enrollment fun e => { e with active := false } }

def start (users : Table User) (enrollments : Table Enrollment) : State where
  users := users.updateWhere (fun _ => true) fun u => { u with made := false }
  enrollments := enrollments
  outbox := []
  requests := fun _ => .idle
  newcomer := fun _ => none

def succeeded (s : State) : Action → Option Delivery
  | .check request d =>
    match s.requests request with
    | .idle => if d.eventId = "" ∨ d.email = "" ∨ d.productCode = "" then none else (s.answering d).map fun _ => d
    | _ => none
  | .mail request =>
    match s.requests request with
    | .mailing d _ _ _ => some d
    | _ => none
  | _ => none

structure Service where
  delivery : Delivery
  user : ℕ
  created : Bool
  tempPassword : String

def Stage.serves : Stage → Option Service
  | .enrolling d _ user created tempPassword | .mailing d user created tempPassword =>
    some { delivery := d, user := user, created := created, tempPassword := tempPassword }
  | _ => none

/-- A request that has found no user for its email, or has made one. -/
def Stage.maker : Stage → Option Delivery
  | .creating d _ | .enrolling d _ _ true _ | .mailing d _ true _ => some d
  | _ => none

def Stage.unenrolled : Stage → Option ℕ
  | .enrolling _ _ user true _ => some user
  | _ => none

def State.Credentials (s : State) (user : ℕ) : Prop :=
  ∃ u, s.users.get user = some u ∧ ∃ m ∈ s.outbox, m.user = user ∧ m.recipient = u.email ∧
    m.credentials = some (u.username, u.password)

/-- No email has two users where a delivery has made one of them, and a user that a delivery has made is enrolled, or
will be by a request that goes on. -/
structure Complete (s : State) : Prop where
  once : ∀ i j u v, s.users.get i = some u → s.users.get j = some v → u.made = true →
    settings.SameEmail u.email v.email → i = j
  enrolled : ∀ i u, s.users.get i = some u → u.made = true →
    (∃ k e, s.enrollments.get k = some e ∧ e.user = i) ∨ ∃ r, (s.requests r).unenrolled = some i

structure Provisioned (s : State) (action : Action) : Prop where
  complete : Complete settings (step settings s action)
  credentials : ∀ d, succeeded s action = some d → (step settings s action).newcomer d = some true →
    ∃ i u, (step settings s action).users.get i = some u ∧ settings.SameEmail u.email d.email ∧
      (step settings s action).Credentials i

/-- No two requests for one email are between the lookup that finds no user and the email of the new one; such a request
does not fail; and an event or a payment that is known comes with the email that it came with. -/
def Meets (s : State) : Action → Prop
  | .check _ d => ∀ k e, s.answering d = some (k, e) →
      (∃ u, s.users.get e.user = some u ∧ settings.SameEmail u.email d.email) ∧
      ∀ r d', (s.requests r).maker = some d' → ¬ settings.SameEmail d'.email d.email
  | .lookup request => ∀ d product, s.requests request = .looking d product →
      ∀ r d', (s.requests r).maker = some d' → ¬ settings.SameEmail d'.email d.email
  | .enroll request => ∀ d product user tempPassword,
      s.requests request = .enrolling d product user true tempPassword → s.refuses d product user = false
  | .crash request => (s.requests request).maker = none
  | _ => True

end Runs

/-! The invariant. -/

structure Inv (s : State) : Prop where
  user : ∀ r x, (s.requests r).serves = some x → ∃ u, s.users.get x.user = some u ∧
    settings.SameEmail u.email x.delivery.email ∧ (x.created = true → u.made = true ∧ u.password = x.tempPassword)
  absent : ∀ r d product, s.requests r = .creating d product → ∀ i u, s.users.get i = some u →
    ¬ settings.SameEmail u.email d.email
  apart : ∀ q r d d', (s.requests q).maker = some d → (s.requests r).maker = some d' →
    settings.SameEmail d.email d'.email → q = r
  once : ∀ i j u v, s.users.get i = some u → s.users.get j = some v → u.made = true →
    settings.SameEmail u.email v.email → i = j
  enrolled : ∀ i u, s.users.get i = some u → u.made = true →
    (∃ k e, s.enrollments.get k = some e ∧ e.user = i) ∨ ∃ r, (s.requests r).unenrolled = some i
  mailed : ∀ i u, s.users.get i = some u → u.made = true →
    s.Credentials i ∨ ∃ r x, (s.requests r).serves = some x ∧ x.created = true ∧ x.user = i
  old : ∀ r x, (s.requests r).serves = some x → x.created = false → ∀ u, s.users.get x.user = some u →
    u.made = true → s.Credentials x.user
  newcomer : ∀ d, s.newcomer d = some true → ∀ i u, s.users.get i = some u → settings.SameEmail u.email d.email →
    u.made = true

section Invariant

variable {settings} {s : State}

lemma maker_of_serves {stage : Stage} {x : Service} (h : stage.serves = some x) (hcreated : x.created = true) :
    stage.maker = some x.delivery := by
  cases stage <;> simp only [Stage.serves, Option.some.injEq, reduceCtorEq] at h
  all_goals
    subst h
    cases hcreated
    rfl

lemma serves_of_unenrolled {stage : Stage} {i : ℕ} (h : stage.unenrolled = some i) :
    ∃ x, stage.serves = some x ∧ x.created = true ∧ x.user = i := by
  unfold Stage.unenrolled at h
  split at h
  · cases h
    exact ⟨_, rfl, rfl, rfl⟩
  · cases h

lemma maker_of_unenrolled {stage : Stage} {i : ℕ} (h : stage.unenrolled = some i) : stage.maker ≠ none := by
  obtain ⟨x, hx, hcreated, -⟩ := serves_of_unenrolled h
  simp [maker_of_serves hx hcreated]

lemma serves_kept {requests : ℕ → Stage} {r : ℕ} {stage : Stage} (hold : (requests r).maker = none) {i : ℕ}
    (h : ∃ q x, (requests q).serves = some x ∧ x.created = true ∧ x.user = i) :
    ∃ q x, (Function.update requests r stage q).serves = some x ∧ x.created = true ∧ x.user = i := by
  obtain ⟨q, x, hx, hcreated, huser⟩ := h
  have hq : q ≠ r := by
    rintro rfl
    simp [maker_of_serves hx hcreated] at hold
  exact ⟨q, x, by simpa [hq] using hx, hcreated, huser⟩

lemma unenrolled_kept {requests : ℕ → Stage} {r : ℕ} {stage : Stage} (hold : (requests r).maker = none) {i : ℕ}
    (h : ∃ q, (requests q).unenrolled = some i) : ∃ q, (Function.update requests r stage q).unenrolled = some i := by
  obtain ⟨q, hq⟩ := h
  have hne : q ≠ r := by
    rintro rfl
    exact maker_of_unenrolled hq hold
  exact ⟨q, by simpa [hne] using hq⟩

lemma Inv.advance (h : Inv settings s) {r : ℕ} {stage : Stage} (hold : (s.requests r).maker = none)
    (huser : ∀ x, stage.serves = some x → x.created = false ∧
      ∃ u, s.users.get x.user = some u ∧ settings.SameEmail u.email x.delivery.email ∧
        (u.made = true → s.Credentials x.user))
    (hmaker : ∀ d, stage.maker = some d → (∀ i u, s.users.get i = some u → ¬ settings.SameEmail u.email d.email) ∧
      ∀ q d', (s.requests q).maker = some d' → ¬ settings.SameEmail d'.email d.email) :
    Inv settings (s.request r stage) where
  user := fun q x hx => by
    obtain ⟨-, hx⟩ | ⟨-, hx⟩ := update_cases (P := fun st : Stage => st.serves = some x) hx
    · obtain ⟨hcreated, u, hu, hemail, -⟩ := huser x hx
      exact ⟨u, hu, hemail, fun hmade => by rw [hcreated] at hmade; cases hmade⟩
    · exact h.user q x hx
  absent := fun q d product hq => by
    obtain ⟨-, hstage⟩ | ⟨-, hq⟩ := update_eq_cases hq
    · exact (hmaker d (by rw [hstage]; rfl)).1
    · exact h.absent q d product hq
  apart := fun q q' d d' hq hq' hsame => by
    obtain ⟨hqr, hstage⟩ | ⟨hqr, hq⟩ := update_cases (P := fun st : Stage => st.maker = some d) hq
    · obtain ⟨hqr', -⟩ | ⟨-, hq'⟩ := update_cases (P := fun st : Stage => st.maker = some d') hq'
      · rw [hqr, hqr']
      · exact absurd hsame.symm ((hmaker d hstage).2 q' d' hq')
    · obtain ⟨-, hstage⟩ | ⟨-, hq'⟩ := update_cases (P := fun st : Stage => st.maker = some d') hq'
      · exact absurd hsame ((hmaker d' hstage).2 q d hq)
      · exact h.apart q q' d d' hq hq' hsame
  once := h.once
  enrolled := fun i u hi hmade => (h.enrolled i u hi hmade).imp_right fun hex => unenrolled_kept hold hex
  mailed := fun i u hi hmade => (h.mailed i u hi hmade).imp_right fun hex => serves_kept hold hex
  old := fun q x hx hcreated u hu hmade => by
    obtain ⟨-, hx⟩ | ⟨-, hx⟩ := update_cases (P := fun st : Stage => st.serves = some x) hx
    · obtain ⟨-, u', hu', -, hcredentials⟩ := huser x hx
      obtain rfl : u = u' := Option.some.inj (hu.symm.trans hu')
      exact hcredentials hmade
    · exact h.old q x hx hcreated u hu hmade
  newcomer := h.newcomer

lemma Inv.retire (h : Inv settings s) {r : ℕ} {stage : Stage} (hold : (s.requests r).maker = none)
    (hmaker : stage.maker = none) (hserves : stage.serves = none) : Inv settings (s.request r stage) :=
  h.advance hold (fun x hx => by rw [hserves] at hx; cases hx) fun d hd => by rw [hmaker] at hd; cases hd

lemma findUser_some {email : String} {found : ℕ × User} (h : s.findUser settings email = some found) :
    s.users.get found.1 = some found.2 ∧ settings.SameEmail found.2.email email := by
  obtain ⟨hget, hemail⟩ := Table.first_some (i := found.1) (a := found.2) h
  exact ⟨hget, of_decide_eq_true hemail⟩

lemma findUser_none {email : String} (h : s.findUser settings email = none) {i : ℕ} {u : User}
    (hu : s.users.get i = some u) : ¬ settings.SameEmail u.email email :=
  of_decide_eq_false (Table.first_none h hu)

lemma seen_inv (h : Inv settings s) (d : Delivery) : Inv settings (s.seen settings d) := by
  refine { h with newcomer := fun d' hd' i u hu hemail => ?_ }
  by_cases hd : d' = d
  · subst hd
    simp only [State.seen, Function.update_self, Option.some.injEq] at hd'
    cases hknown : s.newcomer d' with
    | some before =>
      rw [hknown, Option.getD_some] at hd'
      exact h.newcomer d' (by rw [hknown, hd']) i u hu hemail
    | none =>
      rw [hknown, Option.getD_none, Option.isNone_iff_eq_none] at hd'
      exact absurd hemail (findUser_none hd' hu)
  · exact h.newcomer d' (by simpa [State.seen, hd] using hd') i u hu hemail

lemma check_inv (h : Inv settings s) (r : ℕ) (d : Delivery) : Inv settings (s.check settings r d) := by
  unfold State.check
  cases hr : s.requests r with
  | idle =>
    have hs := seen_inv h d
    have hlooking : ∀ product, Inv settings ((s.seen settings d).request r (.looking d product)) := fun product =>
      hs.retire (by simp only [State.seen, hr]; rfl) rfl rfl
    dsimp only
    split
    · exact hs
    · split
      · split
        · exact hlooking _
        · exact hs
      · exact hs
  | looking | creating | enrolling | mailing => exact h

lemma lookup_inv (h : Inv settings s) (r : ℕ) (hmeets : Meets settings s (.lookup r)) :
    Inv settings (s.lookup settings r) := by
  unfold State.lookup
  cases hr : s.requests r with
  | looking d product =>
    dsimp only
    cases hfound : s.findUser settings d.email with
    | none =>
      refine h.advance (by rw [hr]; rfl) (fun x hx => nomatch hx) fun d' hd' => ?_
      cases hd'
      exact ⟨fun i u hu => findUser_none hfound hu, hmeets d product hr⟩
    | some found =>
      refine h.advance (by rw [hr]; rfl) (fun x hx => ?_) fun d' hd' => nomatch hd'
      cases hx
      obtain ⟨hget, hemail⟩ := findUser_some hfound
      refine ⟨rfl, found.2, hget, hemail, fun hmade => ?_⟩
      obtain hcredentials | ⟨q, x, hx, hcreated, huser⟩ := h.mailed found.1 found.2 hget hmade
      · exact hcredentials
      · obtain ⟨u, hu, hsame, -⟩ := h.user q x hx
        rw [huser, hget, Option.some.injEq] at hu
        refine absurd ?_ (hmeets d product hr q x.delivery (maker_of_serves hx hcreated))
        rw [← hu] at hsame
        exact hsame.symm.trans hemail
  | idle | creating | enrolling | mailing => exact h

lemma State.Credentials.mono {s' : State} {i : ℕ} (h : s.Credentials i)
    (husers : ∀ u, s.users.get i = some u → s'.users.get i = some u) (houtbox : s.outbox ⊆ s'.outbox) :
    s'.Credentials i := by
  obtain ⟨u, hu, m, hm, hmail⟩ := h
  exact ⟨u, husers u hu, m, houtbox hm, hmail⟩

lemma create_inv (h : Inv settings s) (r : ℕ) (password : String) : Inv settings (s.create r password) := by
  unfold State.create
  cases hr : s.requests r with
  | creating d product =>
    have hmaker : (s.requests r).maker = some d := by rw [hr]; rfl
    have hgrow : ∀ {i u} (new : User), s.users.get i = some u → (s.users.insert new).get i = some u :=
      fun new hu => Table.get_insert_of_get hu new
    exact
      { user := fun q x hx => by
          obtain ⟨-, hx⟩ | ⟨-, hx⟩ := update_cases (P := fun st : Stage => st.serves = some x) hx
          · cases hx
            exact ⟨_, Table.get_insert_next _ _, rfl, fun _ => ⟨rfl, rfl⟩⟩
          · obtain ⟨u, hu, hfacts⟩ := h.user q x hx
            exact ⟨u, hgrow _ hu, hfacts⟩
        absent := fun q d' product' hq i u hu => by
          obtain ⟨-, hq⟩ | ⟨hqr, hq⟩ := update_eq_cases hq
          · cases hq
          · obtain hu | ⟨-, rfl⟩ := Table.get_insert_some hu
            · exact h.absent q d' product' hq i u hu
            · exact fun hsame => hqr (h.apart r q d d' hmaker (by rw [hq]; rfl) hsame).symm
        apart := fun q q' d₁ d₂ hq hq' => by
          have hback : ∀ {q d'},
              (Function.update s.requests r (.enrolling d product s.users.next true password) q).maker = some d' →
                (s.requests q).maker = some d' := by
            intro q d' hq
            obtain ⟨rfl, hstage⟩ | ⟨-, hq⟩ := update_cases (P := fun st : Stage => st.maker = some d') hq
            · exact hmaker.trans hstage
            · exact hq
          exact h.apart q q' d₁ d₂ (hback hq) (hback hq')
        once := fun i j u v hu hv hmade hsame => by
          obtain hu | ⟨rfl, rfl⟩ := Table.get_insert_some hu
          · obtain hv | ⟨rfl, rfl⟩ := Table.get_insert_some hv
            · exact h.once i j u v hu hv hmade hsame
            · exact absurd hsame (h.absent r d product hr i u hu)
          · obtain hv | ⟨rfl, rfl⟩ := Table.get_insert_some hv
            · exact absurd hsame.symm (h.absent r d product hr j v hv)
            · rfl
        enrolled := fun i u hu hmade => by
          obtain hu | ⟨rfl, -⟩ := Table.get_insert_some hu
          · refine (h.enrolled i u hu hmade).imp_right fun hex => ?_
            obtain ⟨q, hq⟩ := hex
            have hne : q ≠ r := by
              rintro rfl
              simp [hr, Stage.unenrolled] at hq
            exact ⟨q, by simpa [hne] using hq⟩
          · exact .inr ⟨r, by simp [Stage.unenrolled]⟩
        mailed := fun i u hu hmade => by
          obtain hu | ⟨rfl, -⟩ := Table.get_insert_some hu
          · obtain hcredentials | ⟨q, x, hx, hcreated, huser⟩ := h.mailed i u hu hmade
            · exact .inl (hcredentials.mono (fun _ hu => hgrow _ hu) fun _ hm => hm)
            · have hne : q ≠ r := by
                rintro rfl
                simp [hr, Stage.serves] at hx
              exact .inr ⟨q, x, by simpa [hne] using hx, hcreated, huser⟩
          · exact .inr ⟨r, { delivery := d, user := s.users.next, created := true, tempPassword := password },
              by simp [Stage.serves], rfl, rfl⟩
        old := fun q x hx hcreated u hu hmade => by
          obtain ⟨-, hx⟩ | ⟨-, hx⟩ := update_cases (P := fun st : Stage => st.serves = some x) hx
          · cases hx
            cases hcreated
          · obtain ⟨v, hv, -⟩ := h.user q x hx
            obtain rfl : u = v := Option.some.inj (hu.symm.trans (hgrow _ hv))
            exact (h.old q x hx hcreated u hv hmade).mono (fun _ hu => hgrow _ hu) fun _ hm => hm
        newcomer := fun d' hd' i u hu hsame => by
          obtain hu | ⟨-, rfl⟩ := Table.get_insert_some hu
          · exact h.newcomer d' hd' i u hu hsame
          · rfl }
  | idle | looking | enrolling | mailing => exact h

lemma enroll_inv (h : Inv settings s) (r : ℕ) (hmeets : Meets settings s (.enroll r)) : Inv settings (s.enroll r) := by
  unfold State.enroll
  cases hr : s.requests r with
  | enrolling d product user created tempPassword =>
    dsimp only
    split
    next hrefused =>
      cases created with
      | true => exact absurd hrefused (by simp [hmeets d product user tempPassword hr])
      | false => exact h.retire (by rw [hr]; rfl) rfl rfl
    next hfree =>
      have hserves : ∀ {q x}, (Function.update s.requests r (.mailing d user created tempPassword) q).serves = some x →
          (s.requests q).serves = some x := by
        intro q x hx
        obtain ⟨rfl, hstage⟩ | ⟨-, hx⟩ := update_cases (P := fun st : Stage => st.serves = some x) hx
        · rw [hr]
          exact hstage
        · exact hx
      have hmaker : ∀ {q d'}, (Function.update s.requests r (.mailing d user created tempPassword) q).maker = some d' →
          (s.requests q).maker = some d' := by
        intro q d' hq
        obtain ⟨rfl, hstage⟩ | ⟨-, hq⟩ := update_cases (P := fun st : Stage => st.maker = some d') hq
        · rw [hr]
          cases created with
          | true => exact hstage
          | false => cases hstage
        · exact hq
      exact
        { user := fun q x hx => h.user q x (hserves hx)
          absent := fun q d' product' hq => by
            obtain ⟨-, hq⟩ | ⟨-, hq⟩ := update_eq_cases hq
            · cases hq
            · exact h.absent q d' product' hq
          apart := fun q q' d₁ d₂ hq hq' => h.apart q q' d₁ d₂ (hmaker hq) (hmaker hq')
          once := h.once
          enrolled := fun i u hu hmade => by
            obtain ⟨k, e, he, huser⟩ | ⟨q, hq⟩ := h.enrolled i u hu hmade
            · exact .inl ⟨k, e, Table.get_insert_of_get he _, huser⟩
            · by_cases hne : q = r
              · obtain ⟨x, hx, -, huser⟩ := serves_of_unenrolled hq
                rw [hne, hr] at hx
                cases hx
                exact .inl ⟨s.enrollments.next, _, Table.get_insert_next _ _, huser⟩
              · exact .inr ⟨q, by simpa [hne] using hq⟩
          mailed := fun i u hu hmade => by
            refine (h.mailed i u hu hmade).imp_right fun ⟨q, x, hx, hfacts⟩ => ⟨q, x, ?_, hfacts⟩
            by_cases hne : q = r
            · subst hne
              rw [hr] at hx
              dsimp only
              rw [Function.update_self]
              exact hx
            · simpa [hne] using hx
          old := fun q x hx => h.old q x (hserves hx)
          newcomer := h.newcomer }
  | idle | looking | creating | mailing => exact h

lemma mail_inv (h : Inv settings s) (r : ℕ) : Inv settings (s.mail r) := by
  unfold State.mail
  cases hr : s.requests r with
  | mailing d user created tempPassword =>
    obtain ⟨u, hu, -, hmade⟩ := h.user r _ (by rw [hr]; rfl)
    dsimp only at hu hmade ⊢
    rw [hu]
    dsimp only
    have hmono : ∀ {i} m, s.Credentials i →
        ({ s with outbox := s.outbox ++ [m], requests := Function.update s.requests r .idle } : State).Credentials i :=
      fun m hi => hi.mono (fun _ hv => hv) (List.subset_append_left _ _)
    have hserves : ∀ {q x}, (Function.update s.requests r .idle q).serves = some x →
        (s.requests q).serves = some x := by
      intro q x hx
      obtain ⟨-, hx⟩ | ⟨-, hx⟩ := update_cases (P := fun st : Stage => st.serves = some x) hx
      · cases hx
      · exact hx
    have hmaker : ∀ {q d'}, (Function.update s.requests r .idle q).maker = some d' →
        (s.requests q).maker = some d' := by
      intro q d' hq
      obtain ⟨-, hq⟩ | ⟨-, hq⟩ := update_cases (P := fun st : Stage => st.maker = some d') hq
      · cases hq
      · exact hq
    exact
      { user := fun q x hx => h.user q x (hserves hx)
        absent := fun q d' product' hq => by
          obtain ⟨-, hq⟩ | ⟨-, hq⟩ := update_eq_cases hq
          · cases hq
          · exact h.absent q d' product' hq
        apart := fun q q' d₁ d₂ hq hq' => h.apart q q' d₁ d₂ (hmaker hq) (hmaker hq')
        once := h.once
        enrolled := fun i v hv hmade' => by
          refine (h.enrolled i v hv hmade').imp_right fun ⟨q, hq⟩ => ⟨q, ?_⟩
          have hne : q ≠ r := by
            rintro rfl
            simp [hr, Stage.unenrolled] at hq
          simpa [hne] using hq
        mailed := fun i v hv hmade' => by
          obtain hcredentials | ⟨q, x, hx, hcreated, huser⟩ := h.mailed i v hv hmade'
          · exact .inl (hmono _ hcredentials)
          · by_cases hne : q = r
            · rw [hne, hr] at hx
              cases hx
              dsimp only at hcreated huser
              subst hcreated huser
              refine .inl ⟨u, hu, _, List.mem_append_right _ (List.mem_singleton_self _), rfl, rfl, ?_⟩
              simp only [if_true, (hmade rfl).2]
            · exact .inr ⟨q, x, by simpa [hne] using hx, hcreated, huser⟩
        old := fun q x hx hcreated v hv hmade' => hmono _ (h.old q x (hserves hx) hcreated v hv hmade')
        newcomer := h.newcomer }
  | idle | looking | creating | enrolling => exact h

lemma finish_inv (h : Inv settings s) (k : ℕ) :
    Inv settings { s with enrollments := s.enrollments.update k fun e => { e with active := false } } :=
  { h with
    enrolled := fun i u hu hmade => by
      refine (h.enrolled i u hu hmade).imp_left fun ⟨j, e, he, huser⟩ => ?_
      by_cases hj : j = k
      · subst hj
        exact ⟨j, _, Table.get_update_self he _, huser⟩
      · exact ⟨j, e, (Table.get_update_ne _ hj _).trans he, huser⟩ }

lemma step_inv (h : Inv settings s) (action : Action) (hmeets : Meets settings s action) :
    Inv settings (step settings s action) := by
  cases action with
  | check r d => exact check_inv h r d
  | lookup r => exact lookup_inv h r hmeets
  | create r password => exact create_inv h r password
  | enroll r => exact enroll_inv h r hmeets
  | mail r => exact mail_inv h r
  | crash r => exact h.retire hmeets rfl rfl
  | finish k => exact finish_inv h k

lemma start_inv (users : Table User) (enrollments : Table Enrollment) : Inv settings (start users enrollments) := by
  have hnone : ∀ i u, (start users enrollments).users.get i = some u → u.made ≠ true := by
    intro i u hu
    obtain ⟨v, -, rfl⟩ := Option.map_eq_some_iff.1 hu
    simp
  exact
    { user := fun _ _ hx => nomatch hx
      absent := fun _ _ _ hr => nomatch hr
      apart := fun _ _ _ _ hq => nomatch hq
      once := fun i j u v hu _ hmade => absurd hmade (hnone i u hu)
      enrolled := fun i u hu hmade => absurd hmade (hnone i u hu)
      mailed := fun i u hu hmade => absurd hmade (hnone i u hu)
      old := fun _ _ hx => nomatch hx
      newcomer := fun _ hd => nomatch hd }

/-- A user of a newcomer's email has its credentials, unless a request is about to queue them. -/
lemma Inv.credentials (h : Inv settings s) {d : Delivery} (hd : s.newcomer d = some true) {i : ℕ} {u : User}
    (hu : s.users.get i = some u) (hemail : settings.SameEmail u.email d.email)
    (halone : ∀ r d', (s.requests r).maker = some d' → ¬ settings.SameEmail d'.email d.email) : s.Credentials i := by
  obtain hcredentials | ⟨r, x, hx, hcreated, huser⟩ := h.mailed i u hu (h.newcomer d hd i u hu hemail)
  · exact hcredentials
  · obtain ⟨v, hv, hsame, -⟩ := h.user r x hx
    rw [huser, hu, Option.some.injEq] at hv
    rw [← hv] at hsame
    exact absurd (hsame.symm.trans hemail) (halone r x.delivery (maker_of_serves hx hcreated))

lemma check_credentials (h : Inv settings s) {r : ℕ} {d d' : Delivery} (hmeets : Meets settings s (.check r d))
    (hd : succeeded s (.check r d) = some d') (hnew : (s.check settings r d).newcomer d' = some true) :
    ∃ i u, (s.check settings r d).users.get i = some u ∧ settings.SameEmail u.email d'.email ∧
      (s.check settings r d).Credentials i := by
  simp only [succeeded] at hd
  split at hd
  next hr =>
    split at hd
    · cases hd
    next hfields =>
      obtain ⟨hit, hhit, rfl⟩ := Option.map_eq_some_iff.1 hd
      have hseen : (s.seen settings d).answering d = some hit := hhit
      have hcheck : s.check settings r d = s.seen settings d := by
        simp only [State.check, hr, hfields, if_false, hseen]
      rw [hcheck] at hnew ⊢
      obtain ⟨⟨u, hu, hemail⟩, halone⟩ := hmeets hit.1 hit.2 hhit
      exact ⟨hit.2.user, u, hu, hemail, (seen_inv h d).credentials hnew hu hemail halone⟩
  · cases hd

lemma mail_credentials (h : Inv settings s) {r : ℕ} {d : Delivery} (hd : succeeded s (.mail r) = some d)
    (hnew : (s.mail r).newcomer d = some true) :
    ∃ i u, (s.mail r).users.get i = some u ∧ settings.SameEmail u.email d.email ∧ (s.mail r).Credentials i := by
  simp only [succeeded] at hd
  split at hd
  next d' user created tempPassword hr =>
    cases hd
    obtain ⟨u, hu, hemail, hmade⟩ := h.user r _ (by rw [hr]; rfl)
    dsimp only at hu hemail hmade
    simp only [State.mail, hr, hu] at hnew ⊢
    refine ⟨user, u, hu, hemail, ?_⟩
    cases created with
    | true =>
      refine ⟨u, hu, _, List.mem_append_right _ (List.mem_singleton_self _), rfl, rfl, ?_⟩
      simp only [if_true, (hmade rfl).2]
    | false =>
      have hold := h.old r _ (by rw [hr]; rfl) rfl u hu (h.newcomer d hnew user u hu hemail)
      exact hold.mono (fun _ hv => hv) (List.subset_append_left _ _)
  · cases hd

lemma step_provisioned (h : Inv settings s) (action : Action) (hmeets : Meets settings s action) :
    Provisioned settings s action where
  complete :=
    have hnext := step_inv h action hmeets
    { once := hnext.once, enrolled := hnext.enrolled }
  credentials := fun d hd hnew => by
    cases action with
    | check r d' => exact check_credentials h hmeets hd hnew
    | mail r => exact mail_credentials h hd hnew
    | lookup | create | enroll | crash | finish => cases hd

/-- In a run of such steps every delivery provisions its customer once and completely. -/
theorem activations_provision (users : Table User) (enrollments : Table Enrollment) (actions : List Action)
    (hmeets : Guarded (step settings) (Meets settings) (start users enrollments) actions) :
    Guarded (step settings) (Provisioned settings) (start users enrollments) actions :=
  guarded_promise (I := Inv settings) (fun _ action h => step_inv h action)
    (fun _ action h => step_provisioned h action) (start_inv users enrollments) hmeets

end Invariant

section Deliveries

def shop : Settings where
  product := fun code => if code = "challenge_10k" then some { id := 1, priceUsd := 99 } else none
  upper := fun email => String.ofList (email.toList.map Char.toUpper)

def order (eventId email : String) : Delivery where
  eventId := eventId
  email := email
  productCode := "challenge_10k"
  paymentId := ""
  amountPaid := .paid 99

def delivered (d : Delivery) (password : String) : List Action :=
  [.check 0 d, .lookup 0, .create 0 password, .enroll 0, .mail 0]

theorem activations_provision_delivered :
    Guarded (step shop) (Provisioned shop) (start .empty .empty)
      (delivered (order "evt_1" "trader@external.com") "temp") := by
  apply activations_provision
  simp only [delivered, guarded_cons]
  refine ⟨fun k e he => ?_, fun d product _ r d' hr => ?_, trivial, fun d product user password hr => ?_, trivial, trivial⟩
  · cases he
  · have hlooking : step shop (start .empty .empty) (.check 0 (order "evt_1" "trader@external.com")) =
        ((start .empty .empty).seen shop (order "evt_1" "trader@external.com")).request 0
          (.looking (order "evt_1" "trader@external.com") { id := 1, priceUsd := 99 }) := by rfl
    rw [hlooking] at hr
    obtain ⟨-, hr⟩ | ⟨-, hr⟩ := update_cases (P := fun st : Stage => st.maker = some d') hr <;> cases hr
  · rfl

def retried : List Action :=
  [.check 0 (order "evt_1" "trader@external.com"), .lookup 0, .create 0 "temp", .crash 0,
    .check 0 (order "evt_1" "trader@external.com"), .lookup 0, .enroll 0, .mail 0]

/-- Two deliveries for one email look for its user before either has made one. -/
def crossed : List Action :=
  [.check 0 (order "evt_1" "trader@external.com"), .check 1 (order "evt_2" "trader@external.com"), .lookup 0, .lookup 1,
    .create 0 "temp", .create 1 "other"]

theorem activations_lose_credentials :
    ¬ Guarded (step shop) (Provisioned shop) (start .empty .empty) retried ∧
      ¬ Guarded (step shop) (Provisioned shop) (start .empty .empty) crossed := by
  constructor
  · intro hrun
    simp only [retried, guarded_cons] at hrun
    obtain ⟨-, -, -, -, -, -, -, hlast, -⟩ := hrun
    obtain ⟨i, u, hu, -, v, hv, m, hm, -, -, hcredentials⟩ :=
      hlast.credentials (order "evt_1" "trader@external.com") (by decide +kernel) (by decide +kernel)
    obtain rfl := List.mem_singleton.1 hm
    cases hcredentials
  · intro hrun
    simp only [crossed, guarded_cons] at hrun
    obtain ⟨-, -, -, -, -, hlast, -⟩ := hrun
    have hsame := hlast.complete.once 0 1 _ _ rfl rfl rfl rfl
    cases hsame

end Deliveries

end TrxSimulator.Challenges.Activation
