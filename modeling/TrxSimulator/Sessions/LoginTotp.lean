import Mathlib.Order.Interval.Set.OrdConnected
import TrxSimulator.Foundations.Runs
import TrxSimulator.Foundations.Texts

/-! The second factor of a login: a challenge kept in the browser session, and a code that is checked under the lock of
the user's device. Times are in microseconds. -/

namespace TrxSimulator.Sessions.LoginTotp

open Foundations.Runs Foundations.Texts

def second : ℕ := 1000000

def fiveMinutes : ℕ := 300 * second

def interval : ℕ := 30

structure Device where
  pk : ℕ
  secret : String
  confirmed : Bool
  loginLastStep : ℤ
  loginFailures : ℕ
  loginLockedUntil : Option ℕ
  few_of_unlocked : loginLockedUntil = none → loginFailures < 5

structure User where
  pk : ℕ
  isActive : Bool
  sessionAuthHash : String
  backend : String

structure Pending where
  signedAt : ℕ
  uid : ℕ
  hash : String
  device : ℕ
  fingerprint : String
  backend : String

/-- The digest of a secret, and the codes of a secret that the configured key decrypts. -/
structure Settings where
  fingerprint : String → String
  decryptSecret : String → Option (ℤ → String)
  authenticationBackends : List String

structure State (S : Type*) where
  user : User
  device : Option Device
  pending : S → Option Pending

inductive Outcome
  | challenge | loginPage | form | tooMany | refused
  | verified (step : ℤ)
deriving DecidableEq

def Outcome.evaluated : Outcome → Bool
  | .refused | .verified _ => true
  | _ => false

def Device.Locked (d : Device) (now : ℕ) : Prop := ∃ deadline, d.loginLockedUntil = some deadline ∧ now < deadline

instance (d : Device) (now : ℕ) : Decidable (d.Locked now) :=
  decidable_of_iff (d.loginLockedUntil.any fun deadline => decide (now < deadline))
    (by simp [Device.Locked, Option.any_eq_true])

/-- A code is six ASCII digits; the step of the clock is tried first, then the two beside it. -/
def matchedStep (codes : ℤ → String) (last step : ℤ) (code : String) : Option ℤ :=
  if code.toList.length = 6 ∧ code.toList.all (fun c => '0' ≤ c ∧ c ≤ '9') then
    [step, step - 1, step + 1].find? fun candidate => last < candidate ∧ codes candidate = code
  else none

variable (settings : Settings)

def check (d : Device) (now : ℕ) (code : String) : Option ℤ :=
  (settings.decryptSecret d.secret).bind fun codes =>
    matchedStep codes d.loginLastStep (now / second / interval : ℕ) (strip code)

def Device.verify (d : Device) (step : ℤ) : Device :=
  { d with
    loginLastStep := step
    loginFailures := 0
    loginLockedUntil := none
    few_of_unlocked := fun _ => by decide }

/-- A lock that is over takes the failures before it along. -/
def Device.failures (d : Device) : ℕ := if d.loginLockedUntil.isSome then 0 else d.loginFailures

def Device.fail (d : Device) (now : ℕ) : Device :=
  if h : 5 ≤ d.failures + 1 then
    { d with
      loginFailures := d.failures + 1
      loginLockedUntil := some (now + fiveMinutes)
      few_of_unlocked := fun hnone => nomatch hnone }
  else
    { d with
      loginFailures := d.failures + 1
      loginLockedUntil := none
      few_of_unlocked := fun _ => Nat.lt_of_not_le h }

def submit (d : Device) (now : ℕ) (code : String) : Device × Outcome :=
  if d.Locked now then (d, .tooMany)
  else
    match check settings d now code with
    | some step => (d.verify step, .verified step)
    | none => (d.fail now, .refused)

section Views

variable {S : Type*} [DecidableEq S]

def beginLoginChallenge (s : State S) (session : S) (now : ℕ) : State S :=
  match s.device.filter (·.confirmed) with
  | none => { s with pending := Function.update s.pending session none }
  | some device =>
    { s with
      pending := Function.update s.pending session (some
        { signedAt := now / second
          uid := s.user.pk
          hash := s.user.sessionAuthHash
          device := device.pk
          fingerprint := settings.fingerprint device.secret
          backend := s.user.backend }) }

def Pending.Valid (p : Pending) (user : User) (now : ℕ) : Prop :=
  now ≤ (p.signedAt + 300) * second ∧ p.uid = user.pk ∧ user.isActive = true ∧ p.hash = user.sessionAuthHash ∧
    p.backend ∈ settings.authenticationBackends

instance (p : Pending) (user : User) (now : ℕ) : Decidable (p.Valid settings user now) :=
  inferInstanceAs (Decidable (_ ∧ _))

def Device.Answers (d : Device) (p : Pending) : Prop :=
  d.pk = p.device ∧ d.confirmed = true ∧ settings.fingerprint d.secret = p.fingerprint

instance (d : Device) (p : Pending) : Decidable (d.Answers settings p) := inferInstanceAs (Decidable (_ ∧ _))

/-- A request without a code shows the form. -/
def loginTwoFactorView (s : State S) (session : S) (now : ℕ) (code : Option String) : State S × Outcome :=
  let forgotten := Function.update s.pending session none
  match (s.pending session).filter (·.Valid settings s.user now) with
  | none => ({ s with pending := forgotten }, .loginPage)
  | some p =>
    match s.device.filter (·.Answers settings p), code with
    | none, _ => ({ s with pending := forgotten }, .loginPage)
    | some _, none => (s, .form)
    | some device, some code =>
      match submit settings device now code with
      | (device, .verified step) => ({ s with device := some device, pending := forgotten }, .verified step)
      | (device, outcome) => ({ s with device := some device }, outcome)

inductive Act (S : Type*)
  | begin (session : S)
  | view (session : S) (code : Option String)

structure Event (S : Type*) where
  now : ℕ
  act : Act S

def take (s : State S) (e : Event S) : State S × Outcome :=
  match e.act with
  | .begin session => (beginLoginChallenge settings s session e.now, .challenge)
  | .view session code => loginTwoFactorView settings s session e.now code

def step (s : State S) (e : Event S) : State S := (take settings s e).1

def outcome (s : State S) (e : Event S) : Outcome := (take settings s e).2

def history (s : State S) : List (Event S) → List (ℕ × Outcome)
  | [] => []
  | e :: events => (e.now, outcome settings s e) :: history (step settings s e) events

def Outcome.step? : Outcome → Option ℤ
  | .verified step => some step
  | _ => none

def verifiedSteps (outcomes : List (ℕ × Outcome)) : List ℤ := outcomes.filterMap (·.2.step?)

def wrongIn (times : Set ℕ) [DecidablePred (· ∈ times)] (outcomes : List (ℕ × Outcome)) : ℕ :=
  outcomes.countP fun x => x.1 ∈ times ∧ x.2 = .refused

/-! One request. -/

variable {settings}

lemma matchedStep_lt {codes : ℤ → String} {last now m : ℤ} {code : String}
    (h : matchedStep codes last now code = some m) : last < m := by
  unfold matchedStep at h
  split at h
  · have hfound := List.find?_some h
    simp only [decide_eq_true_eq] at hfound
    exact hfound.1
  · simp at h

lemma check_lt {d : Device} {now : ℕ} {code : String} {m : ℤ} (h : check settings d now code = some m) :
    d.loginLastStep < m := by
  obtain ⟨codes, -, hm⟩ := Option.bind_eq_some_iff.mp h
  exact matchedStep_lt hm

/-- What a request does to the device: nothing, or what follows from a code checked on the unlocked device. -/
inductive Effect (now : ℕ) : Option Device → Outcome → Option Device → Prop
  | idle {device o} : o.evaluated = false → Effect now device o device
  | verified {d : Device} {m : ℤ} : ¬ d.Locked now → d.loginLastStep < m →
      Effect now (some d) (.verified m) (some (d.verify m))
  | refused {d : Device} : ¬ d.Locked now → Effect now (some d) .refused (some (d.fail now))

lemma Effect.of_idle {now : ℕ} {before after : Option Device} {o : Outcome} (h : Effect now before o after)
    (hidle : o.evaluated = false) : after = before ∧ o ≠ .refused := by
  cases h with
  | idle => exact ⟨rfl, fun heq => by simp [heq, Outcome.evaluated] at hidle⟩
  | verified => simp [Outcome.evaluated] at hidle
  | refused => simp [Outcome.evaluated] at hidle

lemma submit_effect (d : Device) (now : ℕ) (code : String) :
    Effect now (some d) (submit settings d now code).2 (some (submit settings d now code).1) := by
  unfold submit
  split
  · exact .idle rfl
  next hunlocked =>
    cases hcheck : check settings d now code with
    | some m => exact .verified hunlocked (check_lt hcheck)
    | none => exact .refused hunlocked

lemma view_effect (s : State S) (session : S) (now : ℕ) (code : Option String) :
    Effect now s.device (loginTwoFactorView settings s session now code).2
      (loginTwoFactorView settings s session now code).1.device := by
  unfold loginTwoFactorView
  dsimp only
  cases (s.pending session).filter (·.Valid settings s.user now) with
  | none =>
    dsimp only
    exact .idle rfl
  | some p =>
    cases hdevice : s.device.filter (·.Answers settings p) with
    | none =>
      simp only [hdevice]
      exact .idle rfl
    | some d =>
      obtain ⟨hd, -⟩ := Option.filter_eq_some_iff.mp hdevice
      cases code with
      | none =>
        simp only [hdevice]
        exact .idle rfl
      | some code =>
        have heffect := @submit_effect settings d now code
        rw [← hd] at heffect
        simp only [hdevice]
        generalize submit settings d now code = result at heffect ⊢
        obtain ⟨d', o⟩ := result
        cases o <;> exact heffect

lemma step_effect (s : State S) (e : Event S) :
    Effect e.now s.device (outcome settings s e) (step settings s e).device := by
  obtain ⟨now, act⟩ := e
  cases act with
  | view session code => exact view_effect s session now code
  | begin session =>
    simp only [outcome, step, take, beginLoginChallenge]
    split <;> exact .idle rfl

/-! Runs. -/

lemma steps_increasing (s : State S) (events : List (Event S)) :
    (verifiedSteps (history settings s events)).Pairwise (· < ·) ∧
      ∀ d, s.device = some d → ∀ m ∈ verifiedSteps (history settings s events), d.loginLastStep < m := by
  induction events generalizing s with
  | nil => simp [history, verifiedSteps]
  | cons e events ih =>
    obtain ⟨hpairs, hlast⟩ := ih (step settings s e)
    have heffect := @step_effect settings _ _ s e
    generalize hbefore : s.device = before at heffect
    generalize hafter : (step settings s e).device = after at heffect hlast
    simp only [history, verifiedSteps, List.filterMap_cons] at hpairs hlast ⊢
    generalize outcome settings s e = o at heffect ⊢
    cases heffect with
    | idle hidle =>
      have hnone : o.step? = none := by cases o <;> simp_all [Outcome.step?, Outcome.evaluated]
      simpa only [hnone] using ⟨hpairs, hlast⟩
    | refused => exact ⟨hpairs, fun d hd m hm => by
        have hsame := hlast _ rfl m hm
        cases hd
        unfold Device.fail at hsame
        split at hsame <;> exact hsame⟩
    | @verified d m hunlocked hlt =>
      have hrest := hlast _ rfl
      refine ⟨List.pairwise_cons.mpr ⟨hrest, hpairs⟩, ?_⟩
      rintro _ ⟨⟩ m' hm'
      cases List.mem_cons.mp hm' with
      | inl heq => rwa [heq]
      | inr hmem => exact hlt.trans (hrest m' hmem)

lemma not_locked_of_evaluated {s : State S} {e : Event S} (h : (outcome settings s e).evaluated = true) {d : Device}
    (hd : s.device = some d) : ¬ d.Locked e.now := by
  have heffect := @step_effect settings _ _ s e
  rw [hd] at heffect
  generalize outcome settings s e = o at h heffect
  generalize (step settings s e).device = after at heffect
  cases heffect with
  | idle hidle => simp [hidle] at h
  | verified hunlocked => exact hunlocked
  | refused hunlocked => exact hunlocked

section Wrong

variable {times : Set ℕ} [DecidablePred (· ∈ times)]

@[simp] lemma wrongIn_nil : wrongIn times [] = 0 := rfl

lemma wrongIn_cons (now : ℕ) (o : Outcome) (outcomes : List (ℕ × Outcome)) :
    wrongIn times ((now, o) :: outcomes) =
      wrongIn times outcomes + if now ∈ times ∧ o = .refused then 1 else 0 := by
  simp [wrongIn, List.countP_cons]

lemma wrongIn_outside {events : List (Event S)} (hout : ∀ e ∈ events, e.now ∉ times) (s : State S) :
    wrongIn times (history settings s events) = 0 := by
  induction events generalizing s with
  | nil => rfl
  | cons e events ih =>
    rw [history, wrongIn_cons, ih fun e' he' => hout e' (List.mem_cons_of_mem _ he')]
    simp [hout e List.mem_cons_self]

/-- Nothing is refused at those times while a lock lasts beyond them. -/
lemma wrongIn_sealed {events : List (Event S)} (horder : events.Pairwise (·.now ≤ ·.now)) {s : State S} {d : Device}
    (hd : s.device = some d) {deadline : ℕ} (hlock : d.loginLockedUntil = some deadline)
    (hseal : ∀ t ∈ times, t < deadline) : wrongIn times (history settings s events) = 0 := by
  induction events generalizing s with
  | nil => rfl
  | cons e events ih =>
    obtain ⟨hlater, hrest⟩ := List.pairwise_cons.mp horder
    by_cases heval : (outcome settings s e).evaluated = true
    · have hpast : deadline ≤ e.now := by
        by_contra hbefore
        exact not_locked_of_evaluated heval hd ⟨deadline, hlock, by omega⟩
      apply wrongIn_outside
      intro e' he' hin
      have hlt := hseal _ hin
      cases List.mem_cons.mp he' with
      | inl heq =>
        subst heq
        omega
      | inr hmem => exact absurd (hlater e' hmem) (by omega)
    · obtain ⟨hsame, hnot⟩ := (@step_effect settings _ _ s e).of_idle (by simpa using heval)
      rw [history, wrongIn_cons, ih hrest (hsame.trans hd)]
      simp [hnot]

def State.failures (s : State S) : ℕ := s.device.elim 0 (·.failures)

lemma failures_lt (d : Device) : d.failures < 5 := by
  unfold Device.failures
  split
  · decide
  next h => exact d.few_of_unlocked (by simpa using h)

lemma failures_fail {d : Device} {now : ℕ} (h : ¬ 5 ≤ d.failures + 1) : (d.fail now).failures = d.failures + 1 := by
  unfold Device.fail
  rw [dif_neg h]
  rfl

/-- Once the times have begun, the failures that count for the lock and those still to come are five at most. -/
lemma wrongIn_begun [times.OrdConnected] (hshort : ∀ t ∈ times, ∀ t' ∈ times, t' < t + fiveMinutes)
    {events : List (Event S)} (horder : events.Pairwise (·.now ≤ ·.now)) {s : State S} {start : ℕ}
    (hstart : start ∈ times) (hbegun : ∀ e ∈ events, start ≤ e.now)
    (hnone : ∀ x ∈ history settings s events, ∀ m, x.2 = .verified m → x.1 ∉ times) :
    wrongIn times (history settings s events) + s.failures ≤ 5 := by
  induction events generalizing s with
  | nil =>
    simp only [history, wrongIn_nil, State.failures]
    cases s.device with
    | none => simp
    | some d => simpa using (failures_lt d).le
  | cons e events ih =>
    obtain ⟨hlater, hrest⟩ := List.pairwise_cons.mp horder
    by_cases hin : e.now ∈ times
    · have hnow := hnone (e.now, outcome settings s e) List.mem_cons_self
      have ih := @ih hrest (step settings s e) (fun e' he' => hbegun e' (List.mem_cons_of_mem _ he'))
        fun x hx => hnone x (List.mem_cons_of_mem _ hx)
      have heffect := @step_effect settings _ _ s e
      have hsealed := @wrongIn_sealed settings _ _ times _ events hrest (step settings s e)
      rw [history, wrongIn_cons]
      generalize wrongIn times (history settings (step settings s e) events) = later at *
      simp only [State.failures] at ih ⊢
      generalize s.device = before at heffect ⊢
      generalize (step settings s e).device = after at heffect ih hsealed
      generalize outcome settings s e = o at heffect hnow ⊢
      cases heffect with
      | idle hidle =>
        have hnot : o ≠ .refused := fun heq => by simp [heq, Outcome.evaluated] at hidle
        simpa [hnot] using ih
      | verified => exact absurd hin (hnow _ rfl)
      | @refused d hunlocked =>
        by_cases hfifth : 5 ≤ d.failures + 1
        · have hzero := @hsealed (d.fail e.now) rfl (e.now + fiveMinutes) (by simp [Device.fail, hfifth])
            fun t ht => hshort _ hin _ ht
          have hlt := failures_lt d
          simp [hin, hzero]
          omega
        · simp only [Option.elim_some, failures_fail hfifth] at ih
          simp [hin]
          omega
    · have hzero : wrongIn times (history settings s (e :: events)) = 0 := by
        apply wrongIn_outside
        intro e' he' hin'
        have hle : e.now ≤ e'.now := by
          cases List.mem_cons.mp he' with
          | inl heq => rw [heq]
          | inr hmem => exact hlater e' hmem
        exact hin (Set.OrdConnected.out inferInstance hstart hin' ⟨hbegun e List.mem_cons_self, hle⟩)
      rw [hzero, State.failures]
      cases s.device with
      | none => simp
      | some d => simpa using (failures_lt d).le

lemma wrongIn_le [times.OrdConnected] (hshort : ∀ t ∈ times, ∀ t' ∈ times, t' < t + fiveMinutes)
    {events : List (Event S)} (horder : events.Pairwise (·.now ≤ ·.now)) {s : State S}
    (hnone : ∀ x ∈ history settings s events, ∀ m, x.2 = .verified m → x.1 ∉ times) :
    wrongIn times (history settings s events) ≤ 5 := by
  induction events generalizing s with
  | nil => simp [history]
  | cons e events ih =>
    obtain ⟨hlater, hrest⟩ := List.pairwise_cons.mp horder
    by_cases hin : e.now ∈ times
    · have hbegun : ∀ e' ∈ e :: events, e.now ≤ e'.now := by
        intro e' he'
        cases List.mem_cons.mp he' with
        | inl heq => rw [heq]
        | inr hmem => exact hlater e' hmem
      exact (Nat.le_add_right _ _).trans (wrongIn_begun hshort horder hin hbegun hnone)
    · rw [history, wrongIn_cons]
      simpa [hin] using ih hrest fun x hx => hnone x (List.mem_cons_of_mem _ hx)

end Wrong

/-- The steps of successful logins increase, five minutes without a success have at most five wrong codes in them, and
a code is only checked while the device is not locked. -/
theorem login_totp (s : State S) (events : List (Event S)) (horder : events.Pairwise (·.now ≤ ·.now)) :
    (verifiedSteps (history settings s events)).Pairwise (· < ·) ∧
      (∀ a, (∀ x ∈ history settings s events, ∀ m, x.2 = .verified m → x.1 ∉ Set.Ico a (a + fiveMinutes)) →
        wrongIn (Set.Ico a (a + fiveMinutes)) (history settings s events) ≤ 5) ∧
      (∀ a, (∀ x ∈ history settings s events, ∀ m, x.2 = .verified m → x.1 ∉ Set.Ioc a (a + fiveMinutes)) →
        wrongIn (Set.Ioc a (a + fiveMinutes)) (history settings s events) ≤ 5) ∧
      ∀ before e after, events = before ++ e :: after →
        (outcome settings (run (step settings) s before) e).evaluated = true →
        ∀ d, (run (step settings) s before).device = some d → ¬ d.Locked e.now := by
  refine ⟨(steps_increasing s events).1, fun a hnone => ?_, fun a hnone => ?_, ?_⟩
  · refine wrongIn_le ?_ horder hnone
    intro t ht t' ht'
    have hlow := ht.1
    have hhigh := ht'.2
    omega
  · refine wrongIn_le ?_ horder hnone
    intro t ht t' ht'
    have hlow := ht.1
    have hhigh := ht'.2
    omega
  · intro before e after _ hevaluated d hd
    exact not_locked_of_evaluated hevaluated hd

end Views

def plain : Settings where
  fingerprint := id
  decryptSecret _ := some fun step => if step = 2 then "123456" else "000000"
  authenticationBackends := ["password"]

def enrolled : State Unit where
  user := ⟨1, true, "hash", "password"⟩
  device := some ⟨1, "secret", true, -1, 0, none, fun _ => by decide⟩
  pending _ := none

def oneMistake : List (Event Unit) :=
  [⟨60 * second, .begin ()⟩, ⟨70 * second, .view () (some "999999")⟩, ⟨80 * second, .view () (some "123456")⟩]

theorem login_totp_mistaken :
    (history plain enrolled oneMistake).map Prod.snd = [.challenge, .refused, .verified 2] ∧
      (verifiedSteps (history plain enrolled oneMistake)).Pairwise (· < ·) :=
  ⟨by decide, (login_totp enrolled oneMistake (by decide)).1⟩

end TrxSimulator.Sessions.LoginTotp
