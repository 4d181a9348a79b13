import TrxSimulator.Foundations.Runs

/-! The passkey ceremonies of a login: a challenge is made by `options` in separate statements and taken by `verify` in
one transaction. A binding stands for its digest, the hash of a session for the password it is made from, and a
credential id or a handle for its bytes. -/

namespace TrxSimulator.Sessions.Passkeys

open Foundations.Runs

structure User where
  isActive : Bool
  sessionAuthHash : String

structure Session where
  binding : Option String
  user : Option (ℕ × String)
  closed : Bool

/-- A registered credential; `passwordThen` is the password that was in force at its registration. -/
structure LoginPasskey where
  user : ℕ
  publicKey : String
  userHandle : String
  authHash : String
  signCount : ℕ
  passwordThen : String

/-- A ceremony, of a login where `owner` is `none`; `session` and `number` are those of the request that started it. -/
structure Challenge where
  binding : String
  owner : Option (ℕ × String)
  challenge : String
  userHandle : String
  expiresAt : ℕ
  used : Bool
  session : ℕ
  number : ℕ

structure Registration where
  credentialId : String
  publicKey : String
  signCount : ℕ

/-- What the WebAuthn library makes of a credential. -/
structure Verifier (Credential : Type*) where
  registration : Credential → String → Option Registration
  authentication : Credential → String → String → ℕ → Option ℕ
  rawId : Credential → Option String
  userHandle : Credential → Option String

/-- How far a request for options has come. -/
inductive Stage
  | idle
  | loaded (session : ℕ) (binding : String) (owner : Option (ℕ × String))
  | invalidated (session : ℕ) (binding : String) (owner : Option (ℕ × String)) (number : ℕ)
  | created (session : ℕ) (binding : String)

def Stage.holds : Stage → Option (ℕ × String)
  | .idle => none
  | .loaded session binding _ | .invalidated session binding _ _ | .created session binding => some (session, binding)

/-- The tables, the requests for options, and of the past: whose session a binding was made for, how many ceremonies a
session has started, and which challenges have been accepted for verification. -/
structure State where
  users : ℕ → User
  sessions : ℕ → Session
  passkeys : String → Option LoginPasskey
  challenges : String → Option Challenge
  requests : ℕ → Stage
  madeFor : String → Option ℕ
  started : ℕ → ℕ
  accepted : String → Bool

inductive Outcome
  | refused
  | failed
  | aborted
  | registered (user : ℕ) (credentialId : String)
  | loggedIn (user : ℕ) (credentialId : String)
deriving DecidableEq

def Outcome.isAccepted : Outcome → Bool
  | .refused => false
  | _ => true

inductive Write
  | register (credentialId : String) (key : LoginPasskey)
  | login (credentialId : String) (key : LoginPasskey) (signCount : ℕ)

structure VerifyRequest (Credential : Type*) where
  session : ℕ
  token : String
  credential : Credential
  /-- A binding for a session that has none, and a session for a login that does not keep this one. -/
  fresh : String
  next : ℕ
  /-- The database refuses the write of the credential. -/
  aborts : Bool

inductive Action (Credential : Type*)
  | load (request session : ℕ) (register : Bool) (fresh : String)
  | invalidate (request : ℕ)
  | create (request : ℕ) (token challenge userHandle : String)
  | save (request : ℕ)
  | abandon (request : ℕ)
  | verify (v : VerifyRequest Credential)
  | signIn (session user next : ℕ)
  | close (session : ℕ)
  | setUser (user : ℕ) (row : User)
  | revoke (credentialId : String)

namespace State

variable (s : State)

def requestUser (session : ℕ) : Option ℕ :=
  match (s.sessions session).user with
  | none => none
  | some login =>
    if (s.users login.1).isActive = true ∧ (s.users login.1).sessionAuthHash = login.2 then some login.1 else none

/-- Another user's session is given up by a login, and its own kept. -/
def logIn (session user next : ℕ) : State :=
  let login := some (user, (s.users user).sessionAuthHash)
  if (s.sessions session).user.all (fun before => before.1 = user) then
    { s with sessions := Function.update s.sessions session { s.sessions session with user := login } }
  else
    { s with
      sessions := Function.update (Function.update s.sessions session { s.sessions session with closed := true }) next
        { s.sessions next with user := login } }

section Options

/-- The request for options up to its binding; a registration has a fresh authentication behind it. -/
def load (request session : ℕ) (register : Bool) (fresh : String) : State :=
  if (s.sessions session).closed then s
  else
    let owner := (s.requestUser session).map fun user => (user, (s.users user).sessionAuthHash)
    if register ∧ owner = none then s
    else
      match (s.sessions session).binding with
      | some binding =>
        { s with
          requests := Function.update s.requests request (.loaded session binding (if register then owner else none)) }
      | none =>
        if (s.madeFor fresh).isSome then s
        else
          { s with
            requests := Function.update s.requests request (.loaded session fresh (if register then owner else none))
            madeFor := Function.update s.madeFor fresh (some session) }

def invalidate (request : ℕ) : State :=
  match s.requests request with
  | .loaded session binding owner =>
    { s with
      challenges := fun token =>
        (s.challenges token).map fun c => if c.binding = binding then { c with used := true } else c
      started := Function.update s.started session (s.started session + 1)
      requests := Function.update s.requests request (.invalidated session binding owner (s.started session + 1)) }
  | _ => s

def create (now request : ℕ) (token challenge userHandle : String) : State :=
  match s.requests request with
  | .invalidated session binding owner number =>
    if (s.challenges token).isSome then { s with requests := Function.update s.requests request .idle }
    else
      { s with
        challenges := Function.update s.challenges token (some
          { binding := binding
            owner := owner
            challenge := challenge
            userHandle := if owner.isSome then userHandle else ""
            expiresAt := now + 120 * 1000000
            used := false
            session := session
            number := number })
        requests := Function.update s.requests request (.created session binding) }
  | _ => s

/-- The session is written with the response, where it still exists. -/
def save (request : ℕ) : State :=
  match s.requests request with
  | .created session binding =>
    if (s.sessions session).closed then { s with requests := Function.update s.requests request .idle }
    else
      { s with
        sessions := Function.update s.sessions session { s.sessions session with binding := some binding }
        requests := Function.update s.requests request .idle }
  | _ => s

end Options

section Verify

variable {Credential : Type*} (verifier : Verifier Credential)

/-- What the ceremony's own part of the transaction writes, if no check of it raises. -/
def attempt (session : ℕ) (c : Challenge) (credential : Credential) : Option Write :=
  match c.owner with
  | some owner =>
    if s.requestUser session = some owner.1 ∧ owner.2 = (s.users owner.1).sessionAuthHash then
      match verifier.registration credential c.challenge with
      | none => none
      | some verified =>
        if (s.passkeys verified.credentialId).isSome then none
        else
          some (.register verified.credentialId
            { user := owner.1
              publicKey := verified.publicKey
              userHandle := c.userHandle
              authHash := owner.2
              signCount := verified.signCount
              passwordThen := (s.users owner.1).sessionAuthHash })
    else none
  | none =>
    match verifier.rawId credential with
    | none => none
    | some credentialId =>
      match s.passkeys credentialId with
      | none => none
      | some key =>
        if (s.users key.user).isActive = true ∧ key.authHash = (s.users key.user).sessionAuthHash ∧
            verifier.userHandle credential = some key.userHandle then
          (verifier.authentication credential c.challenge key.publicKey key.signCount).map (.login credentialId key)
        else none

def accept (token : String) : State := { s with accepted := Function.update s.accepted token true }

def consume (token : String) (c : Challenge) : State :=
  { s with challenges := Function.update s.challenges token (some { c with used := true }) }

def applied (v : VerifyRequest Credential) : Write → State × Outcome
  | .register credentialId key =>
    ({ s with passkeys := Function.update s.passkeys credentialId (some key) }, .registered key.user credentialId)
  | .login credentialId key signCount =>
    (logIn { s with passkeys := Function.update s.passkeys credentialId (some { key with signCount := signCount }) }
      v.session key.user v.next, .loggedIn key.user credentialId)

/-- An error of the database takes the consumption of the challenge back with it. -/
def answer (v : VerifyRequest Credential) (c : Challenge) : State × Outcome :=
  match s.attempt verifier v.session c v.credential with
  | none => ((s.consume v.token c).accept v.token, .failed)
  | some write =>
    if v.aborts then (s.accept v.token, .aborted) else ((s.consume v.token c).accept v.token).applied v write

def bind (session : ℕ) (fresh : String) : State :=
  if (s.madeFor fresh).isSome then s
  else
    { s with
      sessions := Function.update s.sessions session { s.sessions session with binding := some fresh }
      madeFor := Function.update s.madeFor fresh (some session) }

def verify (now : ℕ) (v : VerifyRequest Credential) : State × Outcome :=
  if (s.sessions v.session).closed then (s, .refused)
  else
    match s.challenges v.token with
    | none => (s, .refused)
    | some c =>
      if c.used = true ∨ c.expiresAt ≤ now then (s, .refused)
      else
        match (s.sessions v.session).binding with
        | none => (s.bind v.session v.fresh, .refused)
        | some binding => if c.binding = binding then s.answer verifier v c else (s, .refused)

end Verify

end State

section Runs

variable {Credential : Type*} (verifier : Verifier Credential)

def step (s : State) (event : ℕ × Action Credential) : State :=
  match event.2 with
  | .load request session register fresh => s.load request session register fresh
  | .invalidate request => s.invalidate request
  | .create request token challenge userHandle => s.create event.1 request token challenge userHandle
  | .save request => s.save request
  | .abandon request => { s with requests := Function.update s.requests request .idle }
  | .verify v => (s.verify verifier event.1 v).1
  | .signIn session user next => s.logIn session user next
  | .close session =>
    { s with sessions := Function.update s.sessions session { s.sessions session with closed := true } }
  | .setUser user row => { s with users := Function.update s.users user row }
  | .revoke credentialId => { s with passkeys := Function.update s.passkeys credentialId none }

def start (users : ℕ → User) : State where
  users := users
  sessions := fun _ => { binding := none, user := none, closed := false }
  passkeys := fun _ => none
  challenges := fun _ => none
  requests := fun _ => .idle
  madeFor := fun _ => none
  started := fun _ => 0
  accepted := fun _ => false

structure OneShot (s : State) (now : ℕ) (v : VerifyRequest Credential) : Prop where
  taken : (s.verify verifier now v).2.isAccepted = true → ∃ c, s.challenges v.token = some c ∧
    s.accepted v.token = false ∧ c.session = v.session ∧ now < c.expiresAt ∧ c.number = s.started v.session
  owner : ∀ user credentialId, (s.verify verifier now v).2 = .loggedIn user credentialId →
    verifier.rawId v.credential = some credentialId ∧ ∃ key, s.passkeys credentialId = some key ∧ key.user = user ∧
      (s.users user).isActive = true ∧ (s.users user).sessionAuthHash = key.passwordThen

def Fine (s : State) (event : ℕ × Action Credential) : Prop :=
  (∀ v, event.2 = .verify v → OneShot verifier s event.1 v) ∧
  ∀ credentialId key key', s.passkeys credentialId = some key →
    (step verifier s event).passkeys credentialId = some key' → key.signCount ≤ key'.signCount

/-- No error of the database ends a verification, and no two requests for options of one session overlap. -/
def Meets (s : State) (event : ℕ × Action Credential) : Prop :=
  match event.2 with
  | .verify v => v.aborts = false
  | .load _ session _ _ => ∀ r j b, (s.requests r).holds = some (j, b) → j ≠ session
  | _ => True

end Runs

/-! How bindings, requests and challenges belong together. -/

section Bindings

variable {requests : ℕ → Stage} {binding : ℕ → Option String} {challenges : String → Option Challenge}
  {madeFor : String → Option ℕ} {started : ℕ → ℕ}

/-- A binding that a verification can meet: the session has it, or will have it from a request for options. -/
def Current (requests : ℕ → Stage) (binding : ℕ → Option String) (session : ℕ) (b : String) : Prop :=
  binding session = some b ∨ ∃ r, (requests r).holds = some (session, b)

structure Linked (requests : ℕ → Stage) (binding : ℕ → Option String) (challenges : String → Option Challenge)
    (madeFor : String → Option ℕ) (started : ℕ → ℕ) : Prop where
  apart : ∀ q r i b b', (requests q).holds = some (i, b) → (requests r).holds = some (i, b') → q = r
  requestFor : ∀ r i b, (requests r).holds = some (i, b) → madeFor b = some i
  sessionFor : ∀ i b, binding i = some b → madeFor b = some i
  challengeFor : ∀ t c, challenges t = some c → madeFor c.binding = some c.session
  numbered : ∀ r i b owner n, requests r = .invalidated i b owner n → n = started i
  latest : ∀ t c, challenges t = some c → c.used = false → Current requests binding c.session c.binding →
    c.number = started c.session
  /-- A session whose binding is about to be replaced has no challenge under it. -/
  spare : ∀ r i b b', (requests r).holds = some (i, b) → binding i = some b' → b' ≠ b →
    ∀ t c, challenges t = some c → c.binding ≠ b'

lemma holds_update {r q : ℕ} {stage : Stage} {i : ℕ} {b : String}
    (h : (Function.update requests r stage q).holds = some (i, b)) :
    (q = r ∧ stage.holds = some (i, b)) ∨ (q ≠ r ∧ (requests q).holds = some (i, b)) :=
  update_cases (P := fun st : Stage => st.holds = some (i, b)) h

lemma Linked.narrow (h : Linked requests binding challenges madeFor started) {requests' : ℕ → Stage}
    (hold : ∀ q i b, (requests' q).holds = some (i, b) → (requests q).holds = some (i, b))
    (hnumber : ∀ q i b owner n, requests' q = .invalidated i b owner n → n = started i) :
    Linked requests' binding challenges madeFor started where
  apart := fun q r i b b' hq hr => h.apart q r i b b' (hold q i b hq) (hold r i b' hr)
  requestFor := fun q i b hq => h.requestFor q i b (hold q i b hq)
  sessionFor := h.sessionFor
  challengeFor := h.challengeFor
  numbered := hnumber
  latest := fun t c hc hused hcurrent =>
    h.latest t c hc hused (hcurrent.imp_right fun hex => hex.imp fun q hq => hold q _ _ hq)
  spare := fun q i b b' hq => h.spare q i b b' (hold q i b hq)

lemma Linked.advance (h : Linked requests binding challenges madeFor started) {r : ℕ} {stage : Stage}
    (hold : ∀ i b, stage.holds = some (i, b) → (requests r).holds = some (i, b))
    (hnumber : ∀ i b owner n, stage = .invalidated i b owner n → n = started i) :
    Linked (Function.update requests r stage) binding challenges madeFor started := by
  apply h.narrow
  · intro q i b hq
    obtain ⟨rfl, hstage⟩ | ⟨-, hq⟩ := holds_update hq
    · exact hold i b hstage
    · exact hq
  · intro q i b owner n hq
    obtain ⟨-, hstage⟩ | ⟨-, hq⟩ := update_eq_cases hq
    · exact hnumber i b owner n hstage
    · exact h.numbered q i b owner n hq

lemma Linked.drop (h : Linked requests binding challenges madeFor started) (r : ℕ) :
    Linked (Function.update requests r .idle) binding challenges madeFor started :=
  h.advance (fun _ _ hidle => nomatch hidle) fun _ _ _ _ hidle => nomatch hidle

lemma Linked.load (h : Linked requests binding challenges madeFor started) {r i : ℕ} {b : String}
    {owner : Option (ℕ × String)} (halone : ∀ q j b', (requests q).holds = some (j, b') → j ≠ i)
    (hown : binding i = some b ∨ (binding i = none ∧ madeFor b = none)) :
    Linked (Function.update requests r (.loaded i b owner)) binding challenges (Function.update madeFor b (some i))
      started := by
  have hnew : ∀ {q j b'}, (Function.update requests r (.loaded i b owner) q).holds = some (j, b') →
      (q = r ∧ j = i ∧ b' = b) ∨ (q ≠ r ∧ j ≠ i ∧ (requests q).holds = some (j, b')) := by
    intro q j b' hq
    obtain ⟨rfl, hsame⟩ | ⟨hqr, hq⟩ := holds_update hq
    · simp only [Stage.holds, Option.some.injEq, Prod.mk.injEq] at hsame
      exact .inl ⟨rfl, hsame.1.symm, hsame.2.symm⟩
    · exact .inr ⟨hqr, halone q j b' hq, hq⟩
  have hmade : ∀ {b' j}, madeFor b' = some j → Function.update madeFor b (some i) b' = some j := by
    intro b' j hb'
    by_cases hbb : b' = b
    · subst hbb
      obtain hown | ⟨-, hnone⟩ := hown
      · rw [h.sessionFor i b' hown] at hb'
        simpa using hb'
      · rw [hnone] at hb'
        cases hb'
    · simpa [hbb] using hb'
  exact
    { apart := fun q r' j b₁ b₂ hq hr => by
        obtain ⟨rfl, rfl, -⟩ | ⟨-, hj, hq⟩ := hnew hq
        · obtain ⟨rfl, -⟩ | ⟨-, hj, -⟩ := hnew hr
          · rfl
          · exact absurd rfl hj
        · obtain ⟨-, rfl, -⟩ | ⟨-, -, hr⟩ := hnew hr
          · exact absurd rfl hj
          · exact h.apart q r' j b₁ b₂ hq hr
      requestFor := fun q j b' hq => by
        obtain ⟨-, rfl, rfl⟩ | ⟨-, -, hq⟩ := hnew hq
        · simp
        · exact hmade (h.requestFor q j b' hq)
      sessionFor := fun j b' hb' => hmade (h.sessionFor j b' hb')
      challengeFor := fun t c hc => hmade (h.challengeFor t c hc)
      numbered := fun q j b' owner' n hq => by
        obtain ⟨-, hstage⟩ | ⟨-, hq⟩ := update_eq_cases hq
        · cases hstage
        · exact h.numbered q j b' owner' n hq
      latest := fun t c hc hused hcurrent => by
        obtain hsession | ⟨q, hq⟩ := hcurrent
        · exact h.latest t c hc hused (.inl hsession)
        · obtain ⟨-, hi, hb⟩ | ⟨-, -, hq⟩ := hnew hq
          · obtain hown | ⟨-, hnone⟩ := hown
            · exact h.latest t c hc hused (.inl (by rw [hi, hb, hown]))
            · have hmade := h.challengeFor t c hc
              rw [hb, hnone] at hmade
              cases hmade
          · exact h.latest t c hc hused (.inr ⟨q, hq⟩)
      spare := fun q j b₁ b₂ hq hb₂ hne => by
        obtain ⟨-, rfl, rfl⟩ | ⟨-, -, hq⟩ := hnew hq
        · obtain hown | ⟨hnone, -⟩ := hown
          · rw [hown, Option.some.injEq] at hb₂
            exact absurd hb₂.symm hne
          · rw [hnone] at hb₂
            cases hb₂
        · exact h.spare q j b₁ b₂ hq hb₂ hne }

/-- The UPDATE leaves no challenge under the binding of the request, and the session has no other that it could meet. -/
lemma Linked.invalidate (h : Linked requests binding challenges madeFor started) {r i : ℕ} {b : String}
    {owner : Option (ℕ × String)} (hr : requests r = .loaded i b owner) :
    Linked (Function.update requests r (.invalidated i b owner (started i + 1))) binding
      (fun t => (challenges t).map fun c => if c.binding = b then { c with used := true } else c) madeFor
      (Function.update started i (started i + 1)) := by
  have hri : (requests r).holds = some (i, b) := by rw [hr]; rfl
  have hold : ∀ q j b', (Function.update requests r (.invalidated i b owner (started i + 1)) q).holds = some (j, b') →
      (requests q).holds = some (j, b') := by
    intro q j b' hq
    obtain ⟨rfl, hstage⟩ | ⟨-, hq⟩ := holds_update hq
    · exact hri.trans hstage
    · exact hq
  have hfrom : ∀ t c, (challenges t).map (fun c => if c.binding = b then { c with used := true } else c) = some c →
      ∃ c₀, challenges t = some c₀ ∧ c.binding = c₀.binding ∧ c.session = c₀.session ∧ c.number = c₀.number ∧
        (c.used = false → c₀.used = false ∧ c₀.binding ≠ b) := by
    intro t c hc
    obtain ⟨c₀, hc₀, rfl⟩ := Option.map_eq_some_iff.1 hc
    refine ⟨c₀, hc₀, ?_⟩
    by_cases hb : c₀.binding = b
    · simp [hb]
    · simp [hb]
  exact
    { apart := fun q q' j b₁ b₂ hq hq' => h.apart q q' j b₁ b₂ (hold q j b₁ hq) (hold q' j b₂ hq')
      requestFor := fun q j b' hq => h.requestFor q j b' (hold q j b' hq)
      sessionFor := h.sessionFor
      challengeFor := fun t c hc => by
        obtain ⟨c₀, hc₀, hbinding, hsession, -⟩ := hfrom t c hc
        rw [hbinding, hsession]
        exact h.challengeFor t c₀ hc₀
      numbered := fun q j b' owner' n hq => by
        by_cases hqr : q = r
        · subst hqr
          simp only [Function.update_self, Stage.invalidated.injEq] at hq
          obtain ⟨rfl, -, -, rfl⟩ := hq
          simp
        · rw [Function.update_of_ne hqr] at hq
          have hj : j ≠ i := by
            rintro rfl
            exact hqr (h.apart q r j b' b (by rw [hq]; rfl) hri)
          rw [Function.update_of_ne hj]
          exact h.numbered q j b' owner' n hq
      latest := fun t c hc hused hcurrent => by
        obtain ⟨c₀, hc₀, hbinding, hsession, hnumber, hrest⟩ := hfrom t c hc
        obtain ⟨hused₀, hne⟩ := hrest hused
        rw [hbinding, hsession] at hcurrent
        have hold' : Current requests binding c₀.session c₀.binding :=
          hcurrent.imp_right fun hex => hex.imp fun q hq => hold q _ _ hq
        have hj : c₀.session ≠ i := by
          intro hj
          rw [hj] at hold'
          obtain hsess | ⟨q, hq⟩ := hold'
          · exact h.spare r i b _ hri hsess hne t c₀ hc₀ rfl
          · obtain rfl := h.apart q r i _ b hq hri
            rw [hri] at hq
            simp only [Option.some.injEq, Prod.mk.injEq, true_and] at hq
            exact hne hq.symm
        rw [hsession, hnumber, Function.update_of_ne hj]
        exact h.latest t c₀ hc₀ hused₀ hold'
      spare := fun q j b₁ b₂ hq hb₂ hne t c hc => by
        obtain ⟨c₀, hc₀, hbinding, -⟩ := hfrom t c hc
        rw [hbinding]
        exact h.spare q j b₁ b₂ (hold q j b₁ hq) hb₂ hne t c₀ hc₀ }

lemma Linked.create (h : Linked requests binding challenges madeFor started) {r i n : ℕ} {b token : String}
    {owner : Option (ℕ × String)} (hr : requests r = .invalidated i b owner n) {c : Challenge} (hb : c.binding = b)
    (hi : c.session = i) (hn : c.number = n) :
    Linked (Function.update requests r (.created i b)) binding (Function.update challenges token (some c)) madeFor
      started := by
  have hri : (requests r).holds = some (i, b) := by rw [hr]; rfl
  have hs : Linked (Function.update requests r (.created i b)) binding challenges madeFor started :=
    h.advance (fun j b' hj => hri.trans hj) fun _ _ _ _ hne => nomatch hne
  exact
    { apart := hs.apart
      requestFor := hs.requestFor
      sessionFor := hs.sessionFor
      challengeFor := fun t c' hc' => by
        obtain ⟨rfl, rfl⟩ | ⟨-, hc'⟩ := update_some_cases hc'
        · rw [hb, hi]
          exact h.requestFor r i b hri
        · exact hs.challengeFor t c' hc'
      numbered := hs.numbered
      latest := fun t c' hc' hused hcurrent => by
        obtain ⟨rfl, rfl⟩ | ⟨-, hc'⟩ := update_some_cases hc'
        · rw [hn, hi]
          exact h.numbered r i b owner n hr
        · exact hs.latest t c' hc' hused hcurrent
      spare := fun q j b₁ b₂ hq hb₂ hne t c' hc' => by
        obtain ⟨rfl, rfl⟩ | ⟨-, hc'⟩ := update_some_cases hc'
        · rintro rfl
          have hji : i = j := by
            have hmade := h.requestFor r i b hri
            rw [← hb, h.sessionFor j _ hb₂, Option.some.injEq] at hmade
            exact hmade.symm
          subst hji
          have hri' : (Function.update requests r (.created i b) r).holds = some (i, b) := by simp [Stage.holds]
          obtain rfl := hs.apart q r i b₁ b hq hri'
          rw [hri'] at hq
          simp only [Option.some.injEq, Prod.mk.injEq, true_and] at hq
          exact hne (hb.trans hq)
        · exact hs.spare q j b₁ b₂ hq hb₂ hne t c' hc' }

lemma Linked.save (h : Linked requests binding challenges madeFor started) {r i : ℕ} {b : String}
    (hri : (requests r).holds = some (i, b)) :
    Linked (Function.update requests r .idle) (Function.update binding i (some b)) challenges madeFor started := by
  have hs := h.drop r
  have hother : ∀ q j b', (Function.update requests r .idle q).holds = some (j, b') → j ≠ i := by
    intro q j b' hq
    obtain ⟨-, hidle⟩ | ⟨hqr, hq⟩ := holds_update hq
    · cases hidle
    · rintro rfl
      exact hqr (h.apart q r j b' b hq hri)
  exact
    { apart := hs.apart
      requestFor := hs.requestFor
      sessionFor := fun j b' hj => by
        obtain ⟨rfl, rfl⟩ | ⟨-, hj⟩ := update_some_cases hj
        · exact h.requestFor r j b hri
        · exact h.sessionFor j b' hj
      challengeFor := hs.challengeFor
      numbered := hs.numbered
      latest := fun t c hc hused hcurrent => by
        obtain hj | hex := hcurrent
        · obtain ⟨hi, hb⟩ | ⟨-, hj⟩ := update_some_cases hj
          · exact h.latest t c hc hused (.inr ⟨r, by rw [hi, ← hb, hri]⟩)
          · exact h.latest t c hc hused (.inl hj)
        · exact hs.latest t c hc hused (.inr hex)
      spare := fun q j b₁ b₂ hq hj hne => by
        obtain ⟨hji, -⟩ | ⟨-, hj⟩ := update_some_cases hj
        · exact absurd hji (hother q j b₁ hq)
        · exact hs.spare q j b₁ b₂ hq hj hne }

lemma Linked.bind (h : Linked requests binding challenges madeFor started) {i : ℕ} {b : String}
    (hnone : madeFor b = none) :
    Linked requests (Function.update binding i (some b)) challenges (Function.update madeFor b (some i)) started := by
  have hmade : ∀ b' j, madeFor b' = some j → b' ≠ b ∧ Function.update madeFor b (some i) b' = some j := by
    intro b' j hb'
    have hne : b' ≠ b := by
      rintro rfl
      rw [hnone] at hb'
      cases hb'
    exact ⟨hne, by rw [Function.update_of_ne hne, hb']⟩
  exact
    { apart := h.apart
      requestFor := fun q j b' hq => (hmade b' j (h.requestFor q j b' hq)).2
      sessionFor := fun j b' hj => by
        obtain ⟨rfl, rfl⟩ | ⟨-, hj⟩ := update_some_cases hj
        · simp
        · exact (hmade b' j (h.sessionFor j b' hj)).2
      challengeFor := fun t c hc => (hmade _ _ (h.challengeFor t c hc)).2
      numbered := h.numbered
      latest := fun t c hc hused hcurrent => by
        obtain hj | hex := hcurrent
        · obtain ⟨-, hb⟩ | ⟨-, hj⟩ := update_some_cases hj
          · exact absurd hb.symm (hmade _ _ (h.challengeFor t c hc)).1
          · exact h.latest t c hc hused (.inl hj)
        · exact h.latest t c hc hused (.inr hex)
      spare := fun q j b₁ b₂ hq hj hne t c hc => by
        obtain ⟨-, rfl⟩ | ⟨-, hj⟩ := update_some_cases hj
        · exact (hmade _ _ (h.challengeFor t c hc)).1
        · exact h.spare q j b₁ b₂ hq hj hne t c hc }

lemma Linked.consume (h : Linked requests binding challenges madeFor started) {t : String} {c : Challenge}
    (hc : challenges t = some c) :
    Linked requests binding (Function.update challenges t (some { c with used := true })) madeFor started := by
  have hfrom : ∀ t' c', Function.update challenges t (some { c with used := true }) t' = some c' →
      ∃ c₀, challenges t' = some c₀ ∧ c'.binding = c₀.binding ∧ c'.session = c₀.session ∧
        (c'.used = false → c' = c₀) := by
    intro t' c' hc'
    obtain ⟨rfl, rfl⟩ | ⟨-, hc'⟩ := update_some_cases hc'
    · exact ⟨c, hc, rfl, rfl, fun hused => nomatch hused⟩
    · exact ⟨c', hc', rfl, rfl, fun _ => rfl⟩
  exact
    { apart := h.apart
      requestFor := h.requestFor
      sessionFor := h.sessionFor
      challengeFor := fun t' c' hc' => by
        obtain ⟨c₀, hc₀, hbinding, hsession, -⟩ := hfrom t' c' hc'
        rw [hbinding, hsession]
        exact h.challengeFor t' c₀ hc₀
      numbered := h.numbered
      latest := fun t' c' hc' hused hcurrent => by
        obtain ⟨c₀, hc₀, -, -, hsame⟩ := hfrom t' c' hc'
        obtain rfl := hsame hused
        exact h.latest t' c' hc₀ hused hcurrent
      spare := fun q j b₁ b₂ hq hj hne t' c' hc' => by
        obtain ⟨c₀, hc₀, hbinding, -⟩ := hfrom t' c' hc'
        rw [hbinding]
        exact h.spare q j b₁ b₂ hq hj hne t' c₀ hc₀ }

end Bindings

/-! Requests. -/

structure Inv (s : State) : Prop where
  linked : Linked s.requests (fun i => (s.sessions i).binding) s.challenges s.madeFor s.started
  taken : ∀ t, s.accepted t = true → ∃ c, s.challenges t = some c ∧ c.used = true
  password : ∀ credentialId key, s.passkeys credentialId = some key → key.authHash = key.passwordThen

section Requests

variable {s : State}

lemma binding_update (sessions : ℕ → Session) (i : ℕ) (row : Session) :
    (fun j => (Function.update sessions i row j).binding) =
      Function.update (fun j => (sessions j).binding) i row.binding := by
  funext j
  by_cases hj : j = i
  · subst hj
    simp
  · simp [hj]

lemma binding_kept {sessions : ℕ → Session} {i : ℕ} {row : Session} (h : row.binding = (sessions i).binding) :
    (fun j => (Function.update sessions i row j).binding) = fun j => (sessions j).binding := by
  rw [binding_update, h, Function.update_eq_self]

lemma Inv.frame (h : Inv s) {s' : State} (hrequests : s'.requests = s.requests)
    (hbinding : (fun i => (s'.sessions i).binding) = fun i => (s.sessions i).binding)
    (hchallenges : s'.challenges = s.challenges) (hmade : s'.madeFor = s.madeFor) (hstarted : s'.started = s.started)
    (haccepted : s'.accepted = s.accepted)
    (hpassword : ∀ credentialId key, s'.passkeys credentialId = some key → key.authHash = key.passwordThen) :
    Inv s' where
  linked := by
    rw [hrequests, hbinding, hchallenges, hmade, hstarted]
    exact h.linked
  taken := by
    rw [haccepted, hchallenges]
    exact h.taken
  password := hpassword

lemma logIn_inv (h : Inv s) (session user next : ℕ) : Inv (s.logIn session user next) := by
  unfold State.logIn
  dsimp only
  split
  · exact h.frame rfl (binding_kept rfl) rfl rfl rfl rfl h.password
  · refine h.frame rfl ?_ rfl rfl rfl rfl h.password
    have hclosed :
        (fun j => (Function.update s.sessions session { s.sessions session with closed := true } j).binding) =
          fun j => (s.sessions j).binding := binding_kept rfl
    refine Eq.trans (binding_kept ?_) hclosed
    exact (congrFun hclosed next).symm

lemma load_inv (h : Inv s) (request session : ℕ) (register : Bool) (fresh : String)
    (halone : ∀ r j b, (s.requests r).holds = some (j, b) → j ≠ session) :
    Inv (s.load request session register fresh) := by
  unfold State.load
  split
  · exact h
  dsimp only
  split
  · exact h
  cases hbinding : (s.sessions session).binding with
  | some binding =>
    refine { linked := ?_, taken := h.taken, password := h.password }
    have hmade : Function.update s.madeFor binding (some session) = s.madeFor := by
      rw [← h.linked.sessionFor session binding hbinding, Function.update_eq_self]
    dsimp only
    rw [← hmade]
    exact h.linked.load halone (.inl hbinding)
  | none =>
    dsimp only
    split
    · exact h
    next hfresh =>
      rw [Option.not_isSome_iff_eq_none] at hfresh
      exact { linked := h.linked.load halone (.inr ⟨hbinding, hfresh⟩), taken := h.taken, password := h.password }

lemma invalidate_inv (h : Inv s) (request : ℕ) : Inv (s.invalidate request) := by
  unfold State.invalidate
  cases hr : s.requests request with
  | loaded session binding owner =>
    refine { linked := h.linked.invalidate hr, taken := fun t ht => ?_, password := h.password }
    obtain ⟨c, hc, hused⟩ := h.taken t ht
    refine ⟨_, congrArg (Option.map _) hc, ?_⟩
    dsimp only
    split
    · rfl
    · exact hused
  | _ => exact h

lemma drop_inv (h : Inv s) (request : ℕ) :
    Inv { s with requests := Function.update s.requests request .idle } :=
  { linked := h.linked.drop request, taken := h.taken, password := h.password }

lemma create_inv (h : Inv s) (now request : ℕ) (token challenge userHandle : String) :
    Inv (s.create now request token challenge userHandle) := by
  unfold State.create
  cases hr : s.requests request with
  | invalidated session binding owner number =>
    dsimp only
    split
    · exact drop_inv h request
    next hnew =>
      refine { linked := h.linked.create hr rfl rfl rfl, taken := fun t ht => ?_, password := h.password }
      obtain ⟨c, hc, hused⟩ := h.taken t ht
      have hne : t ≠ token := by
        rintro rfl
        simp [hc] at hnew
      exact ⟨c, by simpa [hne] using hc, hused⟩
  | _ => exact h

lemma save_inv (h : Inv s) (request : ℕ) : Inv (s.save request) := by
  unfold State.save
  cases hr : s.requests request with
  | created session binding =>
    dsimp only
    split
    · exact drop_inv h request
    · refine { linked := ?_, taken := h.taken, password := h.password }
      have hsaved := h.linked.save (r := request) (i := session) (b := binding) (by rw [hr]; rfl)
      rwa [← binding_update s.sessions session { s.sessions session with binding := some binding }] at hsaved
  | _ => exact h

end Requests

section Verification

variable {Credential : Type*} {verifier : Verifier Credential} {s : State} {now : ℕ} {v : VerifyRequest Credential}

/-- A verification refuses, with a binding for a session that had none, or answers a challenge that is the session's. -/
lemma verify_cases :
    (s.verify verifier now v = (s, .refused)) ∨
    ((s.sessions v.session).binding = none ∧ s.verify verifier now v = (s.bind v.session v.fresh, .refused)) ∨
    ∃ c, s.challenges v.token = some c ∧ c.used = false ∧ now < c.expiresAt ∧
      (s.sessions v.session).binding = some c.binding ∧ s.verify verifier now v = s.answer verifier v c := by
  unfold State.verify
  split
  · exact .inl rfl
  cases hc : s.challenges v.token with
  | none => exact .inl rfl
  | some c =>
    dsimp only
    split
    · exact .inl rfl
    next hopen =>
      rw [not_or, Bool.not_eq_true, Nat.not_le] at hopen
      cases hbinding : (s.sessions v.session).binding with
      | none => exact .inr (.inl ⟨rfl, rfl⟩)
      | some binding =>
        dsimp only
        split
        next hsame => exact .inr (.inr ⟨c, rfl, hopen.1, hopen.2, by rw [hsame], rfl⟩)
        next => exact .inl rfl

lemma attempt_register {session : ℕ} {c : Challenge} {credential : Credential} {credentialId : String}
    {key : LoginPasskey} (h : s.attempt verifier session c credential = some (.register credentialId key)) :
    s.passkeys credentialId = none ∧ key.authHash = key.passwordThen := by
  unfold State.attempt at h
  split at h
  · split at h
    next howner =>
      split at h
      · cases h
      · split at h
        · cases h
        next hnew =>
          cases h
          exact ⟨Option.not_isSome_iff_eq_none.1 hnew, howner.2⟩
    · cases h
  · split at h
    · cases h
    · split at h
      · cases h
      · split at h
        · obtain ⟨n, -, hn⟩ := Option.map_eq_some_iff.1 h
          cases hn
        · cases h

lemma attempt_login {session : ℕ} {c : Challenge} {credential : Credential} {credentialId : String}
    {key : LoginPasskey} {n : ℕ}
    (h : s.attempt verifier session c credential = some (.login credentialId key n)) :
    verifier.rawId credential = some credentialId ∧ s.passkeys credentialId = some key ∧
      (s.users key.user).isActive = true ∧ key.authHash = (s.users key.user).sessionAuthHash ∧
      verifier.authentication credential c.challenge key.publicKey key.signCount = some n := by
  unfold State.attempt at h
  split at h
  · split at h
    · split at h
      · cases h
      · split at h
        · cases h
        · cases h
    · cases h
  · split at h
    · cases h
    next id hid =>
      split at h
      · cases h
      next key' hkey =>
        split at h
        next hpassed =>
          obtain ⟨m, hm, heq⟩ := Option.map_eq_some_iff.1 h
          cases heq
          exact ⟨hid, hkey, hpassed.1, hpassed.2.1, hm⟩
        · cases h

lemma bind_inv (h : Inv s) (session : ℕ) (fresh : String) : Inv (s.bind session fresh) := by
  unfold State.bind
  split
  · exact h
  next hfresh =>
    refine { linked := ?_, taken := h.taken, password := h.password }
    dsimp only
    rw [binding_update]
    exact h.linked.bind (Option.not_isSome_iff_eq_none.1 hfresh)

lemma consume_inv (h : Inv s) {token : String} {c : Challenge} (hc : s.challenges token = some c) :
    Inv ((s.consume token c).accept token) where
  linked := h.linked.consume hc
  taken := fun t ht => by
    by_cases hsame : t = token
    · subst hsame
      exact ⟨{ c with used := true }, by simp [State.accept, State.consume], rfl⟩
    · simp only [State.accept, State.consume, Function.update_of_ne hsame] at ht ⊢
      exact h.taken t ht
  password := h.password

lemma password_update (h : Inv s) {credentialId : String} {key : LoginPasskey} (hkey : key.authHash = key.passwordThen)
    (id : String) (key' : LoginPasskey) (hkey' : Function.update s.passkeys credentialId (some key) id = some key') :
    key'.authHash = key'.passwordThen := by
  obtain ⟨-, rfl⟩ | ⟨-, hkey'⟩ := update_some_cases hkey'
  · exact hkey
  · exact h.password id key' hkey'

lemma answer_inv (h : Inv s) {c : Challenge} (hc : s.challenges v.token = some c) (habort : v.aborts = false) :
    Inv (s.answer verifier v c).1 := by
  have hconsumed := consume_inv h hc
  unfold State.answer
  cases hattempt : s.attempt verifier v.session c v.credential with
  | none => exact hconsumed
  | some write =>
    simp only [habort, Bool.false_eq_true, if_false]
    cases write with
    | register credentialId key =>
      have hkey := (attempt_register hattempt).2
      exact hconsumed.frame rfl rfl rfl rfl rfl rfl (password_update hconsumed hkey)
    | login credentialId key n =>
      have hkey := h.password credentialId key (attempt_login hattempt).2.1
      have hcounted : { key with signCount := n }.authHash = { key with signCount := n }.passwordThen := hkey
      apply logIn_inv
      exact hconsumed.frame rfl rfl rfl rfl rfl rfl (password_update hconsumed hcounted)

lemma verify_inv (h : Inv s) (habort : v.aborts = false) : Inv (s.verify verifier now v).1 := by
  obtain hsame | ⟨-, hbound⟩ | ⟨c, hc, -, -, -, hanswer⟩ := @verify_cases Credential verifier s now v
  · rw [hsame]
    exact h
  · rw [hbound]
    exact bind_inv h _ _
  · rw [hanswer]
    exact answer_inv h hc habort

lemma answer_loggedIn {c : Challenge} {user : ℕ} {credentialId : String}
    (h : (s.answer verifier v c).2 = .loggedIn user credentialId) :
    ∃ key n, s.attempt verifier v.session c v.credential = some (.login credentialId key n) ∧ key.user = user := by
  unfold State.answer at h
  cases hattempt : s.attempt verifier v.session c v.credential with
  | none =>
    rw [hattempt] at h
    cases h
  | some write =>
    rw [hattempt] at h
    dsimp only at h
    split at h
    · cases h
    · cases write with
      | register id key => cases h
      | login id key n =>
        simp only [State.applied, Outcome.loggedIn.injEq] at h
        obtain ⟨rfl, rfl⟩ := h
        exact ⟨key, n, rfl, rfl⟩

lemma verify_oneShot (h : Inv s) : OneShot verifier s now v where
  taken := fun htaken => by
    obtain hsame | ⟨-, hbound⟩ | ⟨c, hc, hunused, htime, hbinding, -⟩ := @verify_cases Credential verifier s now v
    · rw [hsame] at htaken
      cases htaken
    · rw [hbound] at htaken
      cases htaken
    · have hsession : c.session = v.session := by
        have hmade := h.linked.challengeFor v.token c hc
        rw [h.linked.sessionFor v.session c.binding hbinding, Option.some.injEq] at hmade
        exact hmade.symm
      refine ⟨c, hc, ?_, hsession, htime, ?_⟩
      · by_contra haccepted
        rw [Bool.not_eq_false] at haccepted
        obtain ⟨c', hc', hused⟩ := h.taken v.token haccepted
        rw [hc, Option.some.injEq] at hc'
        rw [← hc', hunused] at hused
        cases hused
      · rw [← hsession]
        exact h.linked.latest v.token c hc hunused (.inl (by rw [hsession]; exact hbinding))
  owner := fun user credentialId hlogin => by
    obtain hsame | ⟨-, hbound⟩ | ⟨c, hc, -, -, -, hanswer⟩ := @verify_cases Credential verifier s now v
    · rw [hsame] at hlogin
      cases hlogin
    · rw [hbound] at hlogin
      cases hlogin
    · rw [hanswer] at hlogin
      obtain ⟨key, n, hattempt, rfl⟩ := answer_loggedIn hlogin
      obtain ⟨hid, hkey, hactive, hhash, -⟩ := attempt_login hattempt
      exact ⟨hid, key, hkey, rfl, hactive, by rw [← hhash, h.password credentialId key hkey]⟩

@[simp]
lemma logIn_passkeys (session user next : ℕ) : (s.logIn session user next).passkeys = s.passkeys := by
  unfold State.logIn
  dsimp only
  split <;> rfl

lemma verify_signCount
    (hcount : ∀ credential challenge publicKey current count,
      verifier.authentication credential challenge publicKey current = some count →
        current < count ∨ (current = 0 ∧ count = 0))
    {credentialId : String} {key key' : LoginPasskey} (hkey : s.passkeys credentialId = some key)
    (hkey' : (s.verify verifier now v).1.passkeys credentialId = some key') : key.signCount ≤ key'.signCount := by
  have hunchanged : (s.verify verifier now v).1.passkeys = s.passkeys → key.signCount ≤ key'.signCount := by
    intro hsame
    rw [hsame, hkey, Option.some.injEq] at hkey'
    exact Nat.le_of_eq (congrArg LoginPasskey.signCount hkey')
  obtain hsame | ⟨-, hbound⟩ | ⟨c, hc, -, -, -, hanswer⟩ := @verify_cases Credential verifier s now v
  · exact hunchanged (by rw [hsame])
  · refine hunchanged ?_
    rw [hbound]
    unfold State.bind
    split <;> rfl
  · cases hattempt : s.attempt verifier v.session c v.credential with
    | none =>
      refine hunchanged ?_
      rw [hanswer, State.answer, hattempt]
      rfl
    | some write =>
      rw [hanswer, State.answer, hattempt] at hkey'
      dsimp only at hkey'
      split at hkey'
      · simp only [State.accept, hkey, Option.some.injEq] at hkey'
        exact Nat.le_of_eq (congrArg LoginPasskey.signCount hkey')
      · cases write with
        | register id new =>
          have hnew := (attempt_register hattempt).1
          have hne : credentialId ≠ id := by
            rintro rfl
            rw [hnew] at hkey
            cases hkey
          simp only [State.applied, State.accept, State.consume, Function.update_of_ne hne, hkey,
            Option.some.injEq] at hkey'
          exact Nat.le_of_eq (congrArg LoginPasskey.signCount hkey')
        | login id old n =>
          obtain ⟨-, hold, -, -, hverified⟩ := attempt_login hattempt
          simp only [State.applied, State.accept, State.consume, logIn_passkeys] at hkey'
          by_cases hid : credentialId = id
          · subst hid
            obtain rfl : old = key := by
              rw [hold, Option.some.injEq] at hkey
              exact hkey
            rw [Function.update_self, Option.some.injEq] at hkey'
            rw [← hkey']
            obtain hlt | ⟨hzero, -⟩ := hcount _ _ _ _ _ hverified
            · exact Nat.le_of_lt hlt
            · rw [hzero]
              exact Nat.zero_le _
          · rw [Function.update_of_ne hid, hkey, Option.some.injEq] at hkey'
            exact Nat.le_of_eq (congrArg LoginPasskey.signCount hkey')

end Verification

section Whole

variable {Credential : Type*} {verifier : Verifier Credential} {s : State}

lemma step_inv (h : Inv s) (event : ℕ × Action Credential) (hmeets : Meets s event) : Inv (step verifier s event) := by
  obtain ⟨now, action⟩ := event
  cases action with
  | load request session register fresh => exact load_inv h request session register fresh hmeets
  | invalidate request => exact invalidate_inv h request
  | create request token challenge userHandle => exact create_inv h now request token challenge userHandle
  | save request => exact save_inv h request
  | abandon request => exact drop_inv h request
  | verify v => exact verify_inv h hmeets
  | signIn session user next => exact logIn_inv h session user next
  | close session => exact h.frame rfl (binding_kept rfl) rfl rfl rfl rfl h.password
  | setUser user row => exact h.frame rfl rfl rfl rfl rfl rfl h.password
  | revoke credentialId =>
    refine h.frame rfl rfl rfl rfl rfl rfl fun id key hkey => ?_
    by_cases hid : id = credentialId
    · subst hid
      simp [step] at hkey
    · exact h.password id key (by simpa [step, hid] using hkey)

lemma options_passkeys (event : ℕ × Action Credential) :
    (∃ v, event.2 = .verify v) ∨ ∀ credentialId key, (step verifier s event).passkeys credentialId = some key →
      s.passkeys credentialId = some key := by
  obtain ⟨now, action⟩ := event
  cases action with
  | verify v => exact .inl ⟨v, rfl⟩
  | load request session register fresh =>
    refine .inr fun _ _ hkey => ?_
    simp only [step, State.load] at hkey
    repeat' split at hkey
    all_goals exact hkey
  | invalidate request =>
    refine .inr fun _ _ hkey => ?_
    simp only [step, State.invalidate] at hkey
    split at hkey <;> exact hkey
  | create request token challenge userHandle =>
    refine .inr fun _ _ hkey => ?_
    simp only [step, State.create] at hkey
    repeat' split at hkey
    all_goals exact hkey
  | save request =>
    refine .inr fun _ _ hkey => ?_
    simp only [step, State.save] at hkey
    repeat' split at hkey
    all_goals exact hkey
  | signIn session user next =>
    refine .inr fun _ _ hkey => ?_
    simpa only [step, logIn_passkeys] using hkey
  | revoke credentialId =>
    refine .inr fun id _ hkey => ?_
    by_cases hid : id = credentialId
    · simp [step, hid] at hkey
    · simpa [step, hid] using hkey
  | _ => exact .inr fun _ _ hkey => hkey

/-- In a run of such steps every verification is one-shot, and no sign count falls. -/
theorem ceremonies_one_shot
    (hcount : ∀ credential challenge publicKey current count,
      verifier.authentication credential challenge publicKey current = some count →
        current < count ∨ (current = 0 ∧ count = 0))
    (users : ℕ → User) (events : List (ℕ × Action Credential))
    (hmeets : Guarded (step verifier) Meets (start users) events) :
    Guarded (step verifier) (Fine verifier) (start users) events := by
  have hstart : Inv (start users) :=
    { linked :=
        { apart := fun _ _ _ _ _ h => nomatch h
          requestFor := fun _ _ _ h => nomatch h
          sessionFor := fun _ _ h => nomatch h
          challengeFor := fun _ _ h => nomatch h
          numbered := fun _ _ _ _ _ h => nomatch h
          latest := fun _ _ h => nomatch h
          spare := fun _ _ _ _ h => nomatch h }
      taken := fun _ h => nomatch h
      password := fun _ _ h => nomatch h }
  refine guarded_promise (I := Inv) (fun s event => fun h => step_inv h event) ?_ hstart hmeets
  intro s event h _
  refine ⟨fun v _ => verify_oneShot h, fun credentialId key key' hkey hkey' => ?_⟩
  obtain ⟨v, hv⟩ | hkept := @options_passkeys Credential verifier s event
  · simp only [step, hv] at hkey'
    exact verify_signCount hcount hkey hkey'
  · have hsame := hkept credentialId key' hkey'
    rw [hkey, Option.some.injEq] at hsame
    exact Nat.le_of_eq (congrArg LoginPasskey.signCount hsame)

end Whole

section Ceremonies

def device : Verifier String where
  registration := fun credential challenge =>
    if credential = challenge then some { credentialId := "cid", publicKey := "key", signCount := 0 } else none
  authentication := fun credential challenge _ current => if credential = challenge then some (current + 1) else none
  rawId := fun _ => some "cid"
  userHandle := fun _ => some "handle"

lemma device_counts (credential challenge publicKey : String) (current count : ℕ)
    (h : device.authentication credential challenge publicKey current = some count) :
    current < count ∨ (current = 0 ∧ count = 0) := by
  simp only [device] at h
  split at h
  · cases h
    exact .inl (Nat.lt_succ_self current)
  · cases h

def staff (_ : ℕ) : User := { isActive := true, sessionAuthHash := "hash" }

def verifying (token challenge : String) (aborts : Bool) : Action String :=
  .verify { session := 1, token := token, credential := challenge, fresh := "", next := 2, aborts := aborts }

def enrolling : List (ℕ × Action String) :=
  [(0, .signIn 1 7 2), (1, .load 0 1 true "binding"), (2, .invalidate 0), (3, .create 0 "first" "x" "handle"),
    (4, .save 0)]

theorem ceremonies_one_shot_enrolling :
    Guarded (step device) (Fine device) (start staff) (enrolling ++ [(5, verifying "first" "x" false)]) := by
  apply ceremonies_one_shot device_counts
  simp only [enrolling, List.cons_append, List.nil_append, guarded_cons]
  refine ⟨trivial, ?_, trivial, trivial, trivial, rfl, trivial⟩
  intro r j b h
  cases h

def twice : List (ℕ × Action String) :=
  enrolling ++ [(5, verifying "first" "x" true), (6, verifying "first" "x" false)]

def overlapping : List (ℕ × Action String) :=
  enrolling ++ [(5, .load 0 1 false ""), (5, .load 1 1 false ""), (6, .invalidate 0), (6, .invalidate 1),
    (7, .create 0 "second" "y" ""), (7, .create 1 "third" "z" ""), (8, verifying "second" "y" false)]

theorem ceremonies_repeated :
    ¬ Guarded (step device) (Fine device) (start staff) twice ∧
      ¬ Guarded (step device) (Fine device) (start staff) overlapping := by
  constructor
  · intro hrun
    simp only [twice, enrolling, List.cons_append, List.nil_append, guarded_cons] at hrun
    obtain ⟨-, -, -, -, -, -, hlast, -⟩ := hrun
    obtain ⟨c, -, hnew, -⟩ := (hlast.1 _ rfl).taken rfl
    cases hnew
  · intro hrun
    simp only [overlapping, enrolling, List.cons_append, List.nil_append, guarded_cons] at hrun
    obtain ⟨-, -, -, -, -, -, -, -, -, -, -, hlast, -⟩ := hrun
    obtain ⟨c, hc, -, -, -, hnumber⟩ := (hlast.1 _ rfl).taken rfl
    cases hc
    cases hnumber

end Ceremonies

end TrxSimulator.Sessions.Passkeys
