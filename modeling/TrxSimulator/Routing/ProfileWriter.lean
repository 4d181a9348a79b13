import Mathlib.Data.Fin.VecNotation
import Mathlib.Data.Rat.Cast.Order
import TrxSimulator.Foundations.Documents
import TrxSimulator.Foundations.Outcomes
import TrxSimulator.Routing.ProfilePolicy

/-! The writer of the routing profile: one evaluation and its evidence go into the columns that differ. -/

namespace TrxSimulator.Routing.ProfileWriter

open Foundations.Documents Foundations.Outcomes ProfilePolicy

/-- The key of a dictionary; a float by its `repr`, and `other` for a key that JSON has no text for. -/
inductive PyKey
  | null
  | bool (b : Bool)
  | int (n : ℤ)
  | float (shown : String)
  | str (s : String)
  | other (shown : String)
deriving DecidableEq

/-- The values an evidence snapshot is made of; a Decimal by its `str`. -/
inductive PyValue : Type
  | null
  | bool (b : Bool)
  | int (n : ℤ)
  | str (s : String)
  | decimal (shown : String)
  | list (n : ℕ) (item : Fin n → PyValue)
  | tuple (n : ℕ) (item : Fin n → PyValue)
  | dict (n : ℕ) (key : Fin n ↪ PyKey) (value : Fin n → PyValue)
  | unsupported (type shown : String)

inductive JsonScalar
  | null
  | bool (b : Bool)
  | int (n : ℤ)
  | float (x : ℚ)
  | str (s : String)
deriving DecidableEq

inductive Failure
  | notADict
  | missingKeys (keys : List String)
  | invalidProfile (key : String)
  | invalidInt (key : String)
  | invalidBool (key : String)
  | invalidText (key : String)
  | unsupportedType (type shown : String)
  | refused (column : String)
deriving DecidableEq

structure Evaluation where
  candidate : Option Profile
  streak : ℕ
  v2Proposed : Option Profile
  engineVersion : ℕ

/-- The columns of a trader's score that the writer knows, and the rest of the row. -/
structure TraderScore (L : Type) where
  candidateRoutingProfile : Option String
  candidateStreak : Fin 32768
  v2RoutingProfile : Option String
  v2RoutingProfileChangedAt : Option ℕ
  evidenceSnapshot : Document String JsonScalar
  engineVersion : Fin 32768
  legacy : L

structure Report where
  written : Bool
  candidateChanged : Bool
  profileChanged : Bool
  snapshotChanged : Bool
  engineVersionChanged : Bool
  fieldsWritten : List String
deriving DecidableEq

section Validation

def PyValue.lookup (key : String) : PyValue → Option PyValue
  | .dict n keys value => ((List.finRange n).find? fun i => keys i = .str key).map value
  | _ => none

def requiredEvaluationResultKeys : List String :=
  ["candidate_routing_profile", "candidate_streak", "v2_routing_profile_proposed", "evidence_sufficient",
    "reason_code", "engine_version"]

variable (result : PyValue)

/-- A value that is neither `None` nor one of the texts is refused, an unhashable one by a `TypeError`. -/
def requireProfile (key : String) : Except Failure (Option Profile) :=
  match result.lookup key with
  | some .null => .ok none
  | some (.str s) => (require (Profile.ofText s) (.invalidProfile key)).map some
  | _ => .error (.invalidProfile key)

def requireInt (key : String) (least : ℕ) : Except Failure ℕ :=
  match result.lookup key with
  | some (.int n) => if n < least then .error (.invalidInt key) else .ok n.toNat
  | _ => .error (.invalidInt key)

def requireBool (key : String) : Except Failure Unit :=
  match result.lookup key with
  | some (.bool _) => .ok ()
  | _ => .error (.invalidBool key)

def requireText (key : String) : Except Failure Unit :=
  match result.lookup key with
  | some (.str s) => if s = "" then .error (.invalidText key) else .ok ()
  | _ => .error (.invalidText key)

def validateEvaluationResult : Except Failure Evaluation :=
  match result with
  | .dict _ _ _ =>
    match requiredEvaluationResultKeys.filter fun key => (result.lookup key).isNone with
    | [] => do
      let candidate ← requireProfile result "candidate_routing_profile"
      let v2Proposed ← requireProfile result "v2_routing_profile_proposed"
      let streak ← requireInt result "candidate_streak" 0
      let engineVersion ← requireInt result "engine_version" 1
      requireBool result "evidence_sufficient"
      requireText result "reason_code"
      pure { candidate, streak, v2Proposed, engineVersion }
    | missing => .error (.missingKeys missing)
  | _ => .error .notADict

end Validation

def normalizeForJson : PyValue → Except Failure (Document PyKey JsonScalar)
  | .null => .ok (.leaf .null)
  | .bool b => .ok (.leaf (.bool b))
  | .int n => .ok (.leaf (.int n))
  | .str s => .ok (.leaf (.str s))
  | .decimal shown => .ok (.leaf (.str shown))
  | .list n item => (comprehend fun i => normalizeForJson (item i)).map (Document.list n)
  | .tuple n item => (comprehend fun i => normalizeForJson (item i)).map (Document.list n)
  | .dict n key value => (comprehend fun i => normalizeForJson (value i)).map (Document.dict n key)
  | .unsupported type shown => .error (.unsupportedType type shown)

/-- The text `json.dumps` writes for a key. -/
def PyKey.jsonText : PyKey → Option String
  | .null => some "null"
  | .bool b => some (if b then "true" else "false")
  | .int n => some (toString n)
  | .float shown => some shown
  | .str s => some s
  | .other _ => none

section Equality

def JsonScalar.number : JsonScalar → Option ℚ
  | .bool b => some (if b then 1 else 0)
  | .int n => some n
  | .float x => some x
  | .null | .str _ => none

/-- The `==` of scalars: `True`, `1` and `1.0` are one number. -/
def JsonScalar.eq (s t : JsonScalar) : Bool :=
  match s.number, t.number with
  | some x, some y => x = y
  | none, none => s = t
  | _, _ => false

def pyEq (stored : Document String JsonScalar) (s : Document PyKey JsonScalar) : Bool :=
  agree PyKey.str JsonScalar.eq stored s

/-- The same document, a boolean being no number and an integer no float. -/
def identical (stored : Document String JsonScalar) (s : Document PyKey JsonScalar) : Bool :=
  agree PyKey.str (fun a b => decide (a = b)) stored s

/-- Somewhere the two hold one number in two kinds. -/
def mixesKinds (stored : Document String JsonScalar) (s : Document PyKey JsonScalar) : Bool :=
  clash PyKey.str (fun a b => a.eq b && !decide (a = b)) stored s

end Equality

section Writing

variable {L : Type} (columnTakes : Document String JsonScalar → Bool)

inductive Update
  | candidateRoutingProfile (profile : Option String)
  | candidateStreak (streak : ℕ)
  | v2RoutingProfile (profile : Option String)
  | v2RoutingProfileChangedAt (now : ℕ)
  | evidenceSnapshot (s : Document PyKey JsonScalar)
  | engineVersion (version : ℕ)

def Update.field : Update → String
  | .candidateRoutingProfile _ => "candidate_routing_profile"
  | .candidateStreak _ => "candidate_streak"
  | .v2RoutingProfile _ => "v2_routing_profile"
  | .v2RoutingProfileChangedAt _ => "v2_routing_profile_changed_at"
  | .evidenceSnapshot _ => "routing_profile_evidence_snapshot"
  | .engineVersion _ => "routing_profile_engine_version"

def smallInt (column : String) (n : ℕ) : Except Failure (Fin 32768) :=
  if h : n < 32768 then .ok ⟨n, h⟩ else .error (.refused column)

/-- What the JSON column gives back; `None` alone is a null, which the column does not allow. -/
def jsonColumn (s : Document PyKey JsonScalar) : Except Failure (Document String JsonScalar) :=
  match s with
  | .leaf .null => .error (.refused "routing_profile_evidence_snapshot")
  | s =>
    if s.keysSatisfy (fun key => key.jsonText.isSome) && columnTakes (rekey PyKey.jsonText s) then
      .ok (rekey PyKey.jsonText s)
    else .error (.refused "routing_profile_evidence_snapshot")

def Update.store (row : TraderScore L) : Update → Except Failure (TraderScore L)
  | .candidateRoutingProfile profile => .ok { row with candidateRoutingProfile := profile }
  | .candidateStreak streak =>
    (smallInt "candidate_streak" streak).map fun n => { row with candidateStreak := n }
  | .v2RoutingProfile profile => .ok { row with v2RoutingProfile := profile }
  | .v2RoutingProfileChangedAt now => .ok { row with v2RoutingProfileChangedAt := some now }
  | .evidenceSnapshot s => (jsonColumn columnTakes s).map fun stored => { row with evidenceSnapshot := stored }
  | .engineVersion version =>
    (smallInt "routing_profile_engine_version" version).map fun n => { row with engineVersion := n }

/-- One UPDATE of the listed columns, and of no others. -/
def save (row : TraderScore L) (updates : List Update) : Except Failure (TraderScore L) :=
  updates.foldlM (Update.store columnTakes) row

variable (now : ℕ) (row : TraderScore L)

def candidateDiff (e : Evaluation) : Bool := row.candidateRoutingProfile ≠ e.candidate.map Profile.text

def streakDiff (e : Evaluation) : Bool := (row.candidateStreak : ℕ) ≠ e.streak

def profileDiff (e : Evaluation) : Bool := row.v2RoutingProfile ≠ e.v2Proposed.map Profile.text

def versionDiff (e : Evaluation) : Bool := (row.engineVersion : ℕ) ≠ e.engineVersion

def updates (e : Evaluation) (s : Document PyKey JsonScalar) : List Update :=
  (if candidateDiff row e then [.candidateRoutingProfile (e.candidate.map Profile.text)] else []) ++
  (if streakDiff row e then [.candidateStreak e.streak] else []) ++
  (if profileDiff row e then [.v2RoutingProfile (e.v2Proposed.map Profile.text), .v2RoutingProfileChangedAt now]
    else []) ++
  (if pyEq row.evidenceSnapshot s then [] else [.evidenceSnapshot s]) ++
  (if versionDiff row e then [.engineVersion e.engineVersion] else [])

def notWritten : Report where
  written := false
  candidateChanged := false
  profileChanged := false
  snapshotChanged := false
  engineVersionChanged := false
  fieldsWritten := []

def write (e : Evaluation) (s : Document PyKey JsonScalar) : Except Failure (TraderScore L × Report) :=
  match updates now row e s with
  | [] => .ok (row, notWritten)
  | changes =>
    (save columnTakes row changes).map fun saved =>
      (saved,
        { written := true
          candidateChanged := candidateDiff row e || streakDiff row e
          profileChanged := profileDiff row e
          snapshotChanged := !pyEq row.evidenceSnapshot s
          engineVersionChanged := versionDiff row e
          fieldsWritten := changes.map Update.field })

def applyRoutingProfileEvaluation (result snapshot : PyValue) : Except Failure (TraderScore L × Report) := do
  let e ← validateEvaluationResult result
  let s ← normalizeForJson snapshot
  write columnTakes now row e s

section RoundTrip

variable {columnTakes} {now row}

def isText : PyKey → Bool
  | .str _ => true
  | _ => false

/-- Every dictionary of the snapshot, at any depth, has texts for keys. -/
def PyValue.textKeys : PyValue → Bool
  | .list _ item => decide (∀ i, (item i).textKeys = true)
  | .tuple _ item => decide (∀ i, (item i).textKeys = true)
  | .dict _ key value => decide (∀ i, isText (key i) = true ∧ (value i).textKeys = true)
  | _ => true

lemma normalizeForJson_textKeys {snapshot : PyValue} {s : Document PyKey JsonScalar}
    (h : normalizeForJson snapshot = .ok s) : s.keysSatisfy isText = snapshot.textKeys := by
  induction snapshot generalizing s with
  | null | bool b | int n | str t | decimal t =>
    simp only [normalizeForJson, Except.ok.injEq] at h
    subst h
    rfl
  | unsupported type shown => simp [normalizeForJson] at h
  | list n item ih | tuple n item ih =>
    simp only [normalizeForJson, map_eq_ok, comprehend_eq_ok] at h
    obtain ⟨items, hitems, rfl⟩ := h
    simp only [Document.keysSatisfy, PyValue.textKeys, ih _ (hitems _)]
  | dict n key value ih =>
    simp only [normalizeForJson, map_eq_ok, comprehend_eq_ok] at h
    obtain ⟨values, hvalues, rfl⟩ := h
    simp only [Document.keysSatisfy, PyValue.textKeys, ih _ (hvalues _)]

lemma eq_of_jsonText (key : PyKey) :
    decide (key.jsonText.map PyKey.str = some key) = isText key := by
  cases key <;> simp [PyKey.jsonText, isText]

lemma JsonScalar.eq_refl (a : JsonScalar) : a.eq a = true := by
  cases a <;> simp [JsonScalar.eq, JsonScalar.number]

lemma agree_stored {same : JsonScalar → JsonScalar → Bool} (hsame : ∀ a, same a a = true)
    (s : Document PyKey JsonScalar) :
    agree PyKey.str same (rekey PyKey.jsonText s) s = true ↔ s.keysSatisfy isText = true := by
  rw [agree_rekey_iff (fun k => (rfl : (PyKey.str k).jsonText = some k)) hsame]
  simp only [eq_of_jsonText]

/-- A document that was written anew reads back as itself when its keys are texts, and only then. -/
lemma identical_stored (s : Document PyKey JsonScalar) :
    identical (rekey PyKey.jsonText s) s = true ↔ s.keysSatisfy isText = true :=
  agree_stored (by simp) s

lemma pyEq_stored (s : Document PyKey JsonScalar) :
    pyEq (rekey PyKey.jsonText s) s = true ↔ s.keysSatisfy isText = true :=
  agree_stored JsonScalar.eq_refl s

lemma isText_of_pyEq {stored : Document String JsonScalar} {s : Document PyKey JsonScalar}
    (h : pyEq stored s = true) : s.keysSatisfy isText = true :=
  agree_keys (fun _ _ => PyKey.str.inj) (fun _ => rfl) h

lemma identical_iff (stored : Document String JsonScalar) (s : Document PyKey JsonScalar) :
    identical stored s = true ↔ pyEq stored s = true ∧ mixesKinds stored s = false :=
  agree_iff_not_clash (fun a b hab => by rw [decide_eq_true_eq] at hab; subst hab; exact JsonScalar.eq_refl a) stored s

lemma smallInt_eq_ok {column : String} {n : ℕ} {m : Fin 32768} (h : smallInt column n = .ok m) : (m : ℕ) = n := by
  simp only [smallInt] at h
  split at h
  · cases h
    rfl
  · cases h

lemma jsonColumn_eq_ok {s : Document PyKey JsonScalar} {stored : Document String JsonScalar}
    (h : jsonColumn columnTakes s = .ok stored) : stored = rekey PyKey.jsonText s := by
  simp only [jsonColumn] at h
  split at h
  · cases h
  · split at h
    · cases h
      rfl
    · cases h

variable {e : Evaluation} {s : Document PyKey JsonScalar} {r r' row' : TraderScore L} {report : Report}

lemma save_append {us vs : List Update} :
    save columnTakes r (us ++ vs) = .ok row' ↔
      ∃ r', save columnTakes r us = .ok r' ∧ save columnTakes r' vs = .ok row' := by
  simp only [save, List.foldlM_append, bind_eq_ok]

lemma save_nil : save columnTakes r [] = .ok r' ↔ r = r' := by
  simp only [save, List.foldlM_nil, pure_eq_ok]

lemma save_cons {u : Update} {us : List Update} :
    save columnTakes r (u :: us) = .ok row' ↔
      ∃ r', u.store columnTakes r = .ok r' ∧ save columnTakes r' us = .ok row' := by
  simp only [save, List.foldlM_cons, bind_eq_ok]

/-- What the row of an accepted call is: each column that was compared holds its new value. -/
structure Written (row row' : TraderScore L) (now : ℕ) (e : Evaluation) (s : Document PyKey JsonScalar) : Prop where
  candidate : row'.candidateRoutingProfile = e.candidate.map Profile.text
  streak : (row'.candidateStreak : ℕ) = e.streak
  profile : row'.v2RoutingProfile = e.v2Proposed.map Profile.text
  changedAt : row'.v2RoutingProfileChangedAt =
    if row.v2RoutingProfile = row'.v2RoutingProfile then row.v2RoutingProfileChangedAt else some now
  snapshot : row'.evidenceSnapshot =
    if pyEq row.evidenceSnapshot s then row.evidenceSnapshot else rekey PyKey.jsonText s
  version : (row'.engineVersion : ℕ) = e.engineVersion
  legacy : row'.legacy = row.legacy

lemma save_updates (h : save columnTakes row (updates now row e s) = .ok row') : Written row row' now e s := by
  simp only [updates, save_append] at h
  obtain ⟨r₄, ⟨r₃, ⟨r₂, ⟨r₁, hcandidate, hstreak⟩, hprofile⟩, hsnapshot⟩, hversion⟩ := h
  have h₁ : r₁ = { row with candidateRoutingProfile := e.candidate.map Profile.text } := by
    by_cases hdiff : candidateDiff row e
    · simp only [hdiff, if_true, save_cons, save_nil, Update.store, Except.ok.injEq] at hcandidate
      obtain ⟨_, rfl, rfl⟩ := hcandidate
      rfl
    · simp only [hdiff, Bool.false_eq_true, if_false, save_nil] at hcandidate
      simp only [candidateDiff, ne_eq, decide_not, Bool.not_eq_true, Bool.not_eq_false', decide_eq_true_eq] at hdiff
      rw [← hcandidate, ← hdiff]
  have h₂ : ∃ n : Fin 32768, (n : ℕ) = e.streak ∧ r₂ = { r₁ with candidateStreak := n } := by
    by_cases hdiff : streakDiff row e
    · simp only [hdiff, if_true, save_cons, save_nil, Update.store, map_eq_ok] at hstreak
      obtain ⟨_, ⟨n, hn, rfl⟩, rfl⟩ := hstreak
      exact ⟨n, smallInt_eq_ok hn, rfl⟩
    · simp only [hdiff, Bool.false_eq_true, if_false, save_nil] at hstreak
      simp only [streakDiff, ne_eq, decide_not, Bool.not_eq_true, Bool.not_eq_false', decide_eq_true_eq] at hdiff
      exact ⟨row.candidateStreak, hdiff, by rw [← hstreak, h₁]⟩
  obtain ⟨n, hn, h₂⟩ := h₂
  have h₃ : r₃ = { r₂ with
      v2RoutingProfile := e.v2Proposed.map Profile.text
      v2RoutingProfileChangedAt :=
        if row.v2RoutingProfile = e.v2Proposed.map Profile.text then row.v2RoutingProfileChangedAt else some now } := by
    by_cases hdiff : profileDiff row e
    · simp only [hdiff, if_true, save_cons, save_nil, Update.store, Except.ok.injEq] at hprofile
      obtain ⟨_, rfl, _, rfl, rfl⟩ := hprofile
      simp only [profileDiff, ne_eq, decide_not, Bool.not_eq_true', decide_eq_false_iff_not] at hdiff
      rw [if_neg hdiff]
    · simp only [hdiff, Bool.false_eq_true, if_false, save_nil] at hprofile
      simp only [profileDiff, ne_eq, decide_not, Bool.not_eq_true, Bool.not_eq_false', decide_eq_true_eq] at hdiff
      rw [← hprofile, if_pos hdiff, ← hdiff, h₂, h₁]
  have h₄ : r₄ = { r₃ with
      evidenceSnapshot := if pyEq row.evidenceSnapshot s then row.evidenceSnapshot else rekey PyKey.jsonText s } := by
    by_cases hsame : pyEq row.evidenceSnapshot s
    · simp only [hsame, if_true, save_nil] at hsnapshot
      rw [if_pos hsame, ← hsnapshot, h₃, h₂, h₁]
    · simp only [hsame, Bool.false_eq_true, if_false, save_cons, save_nil, Update.store, map_eq_ok] at hsnapshot
      obtain ⟨_, ⟨stored, hstored, rfl⟩, rfl⟩ := hsnapshot
      rw [if_neg hsame, jsonColumn_eq_ok hstored]
  have h₅ : ∃ m : Fin 32768, (m : ℕ) = e.engineVersion ∧ row' = { r₄ with engineVersion := m } := by
    by_cases hdiff : versionDiff row e
    · simp only [hdiff, if_true, save_cons, save_nil, Update.store, map_eq_ok] at hversion
      obtain ⟨_, ⟨m, hm, rfl⟩, rfl⟩ := hversion
      exact ⟨m, smallInt_eq_ok hm, rfl⟩
    · simp only [hdiff, Bool.false_eq_true, if_false, save_nil] at hversion
      simp only [versionDiff, ne_eq, decide_not, Bool.not_eq_true, Bool.not_eq_false', decide_eq_true_eq] at hdiff
      exact ⟨row.engineVersion, hdiff, by rw [← hversion, h₄, h₃, h₂, h₁]⟩
  obtain ⟨m, hm, rfl⟩ := h₅
  subst h₁ h₂ h₃ h₄
  exact
    { candidate := rfl
      streak := hn
      profile := rfl
      changedAt := rfl
      snapshot := rfl
      version := hm
      legacy := rfl }

lemma write_eq_ok (h : write columnTakes now row e s = .ok (row', report)) :
    save columnTakes row (updates now row e s) = .ok row' ∧
      report.fieldsWritten = (updates now row e s).map Update.field := by
  simp only [write] at h
  split at h
  · next hnone =>
    cases h
    exact ⟨by rw [hnone, save_nil], by rw [hnone]; rfl⟩
  · next hsome =>
    obtain ⟨saved, hsaved, heq⟩ := map_eq_ok.1 h
    cases heq
    exact ⟨hsaved, rfl⟩

lemma updates_eq_nil (hw : Written row row' now e s) (later : ℕ) :
    updates later row' e s = [] ↔ pyEq row'.evidenceSnapshot s = true := by
  have hcandidate : candidateDiff row' e = false := by simp [candidateDiff, hw.candidate]
  have hstreak : streakDiff row' e = false := by simp [streakDiff, hw.streak]
  have hprofile : profileDiff row' e = false := by simp [profileDiff, hw.profile]
  have hversion : versionDiff row' e = false := by simp [versionDiff, hw.version]
  simp [updates, hcandidate, hstreak, hprofile, hversion]

lemma write_again (hw : Written row row' now e s) (later : ℕ) :
    write columnTakes later row' e s = .ok (row', notWritten) ↔ pyEq row'.evidenceSnapshot s = true := by
  rw [← updates_eq_nil hw later]
  constructor
  · intro h
    have hfields := (write_eq_ok h).2
    exact List.map_eq_nil_iff.1 hfields.symm
  · intro hnone
    simp only [write, hnone]

lemma changedAt_mem_updates :
    "v2_routing_profile_changed_at" ∈ (updates now row e s).map Update.field ↔ profileDiff row e = true := by
  cases hprofile : profileDiff row e <;>
    simp only [updates, hprofile, List.map_append, List.mem_append, apply_ite (List.map Update.field), List.map_cons,
      List.map_nil, Update.field] <;>
    grind

lemma snapshot_identical (hw : Written row row' now e s) :
    identical row'.evidenceSnapshot s = true ↔
      s.keysSatisfy isText = true ∧ (pyEq row.evidenceSnapshot s = true → mixesKinds row.evidenceSnapshot s = false) := by
  rw [hw.snapshot]
  by_cases hsame : pyEq row.evidenceSnapshot s = true
  · simp only [hsame, if_true, identical_iff, true_and, forall_const, isText_of_pyEq hsame]
  · simp only [hsame, Bool.false_eq_true, if_false, identical_stored, false_implies, and_true]

structure RoundTrip (columnTakes : Document String JsonScalar → Bool) (now : ℕ) (row row' : TraderScore L)
    (report : Report) (result snapshot : PyValue) (e : Evaluation) (s : Document PyKey JsonScalar) : Prop where
  validated : validateEvaluationResult result = .ok e
  normalized : normalizeForJson snapshot = .ok s
  candidate : row'.candidateRoutingProfile = e.candidate.map Profile.text
  streak : (row'.candidateStreak : ℕ) = e.streak
  profile : row'.v2RoutingProfile = e.v2Proposed.map Profile.text
  version : (row'.engineVersion : ℕ) = e.engineVersion
  evidence : identical row'.evidenceSnapshot s = true
  replay : ∀ later, applyRoutingProfileEvaluation columnTakes later row' result snapshot = .ok (row', notWritten)
  touched : "v2_routing_profile_changed_at" ∈ report.fieldsWritten ↔ row.v2RoutingProfile ≠ row'.v2RoutingProfile
  changedAt : row'.v2RoutingProfileChangedAt =
    if row.v2RoutingProfile = row'.v2RoutingProfile then row.v2RoutingProfileChangedAt else some now
  legacy : row'.legacy = row.legacy

lemma apply_eq_ok {result snapshot : PyValue} {x : TraderScore L × Report} :
    applyRoutingProfileEvaluation columnTakes now row result snapshot = .ok x ↔
      ∃ e, validateEvaluationResult result = .ok e ∧
        ∃ s, normalizeForJson snapshot = .ok s ∧ write columnTakes now row e s = .ok x := by
  simp only [applyRoutingProfileEvaluation, bind_eq_ok]

/-- The round trip fails for a key that is no text, and where the row holds a number in another kind. -/
theorem round_trip_iff {result snapshot : PyValue}
    (h : applyRoutingProfileEvaluation columnTakes now row result snapshot = .ok (row', report)) :
    (∃ e s, RoundTrip columnTakes now row row' report result snapshot e s) ↔
      snapshot.textKeys = true ∧ ∀ s, normalizeForJson snapshot = .ok s →
        pyEq row.evidenceSnapshot s = true → mixesKinds row.evidenceSnapshot s = false := by
  obtain ⟨e, he, s, hs, hwrite⟩ := apply_eq_ok.1 h
  obtain ⟨hsave, hfields⟩ := write_eq_ok hwrite
  have hw := save_updates hsave
  rw [← normalizeForJson_textKeys hs]
  constructor
  · rintro ⟨e', s', htrip⟩
    obtain rfl : s' = s := Except.ok.inj (htrip.normalized.symm.trans hs)
    obtain ⟨hkeys, hkinds⟩ := (snapshot_identical hw).1 htrip.evidence
    refine ⟨hkeys, fun t ht => ?_⟩
    obtain rfl : t = s' := Except.ok.inj (ht.symm.trans hs)
    exact hkinds
  · rintro ⟨hkeys, hkinds⟩
    have hsame : identical row'.evidenceSnapshot s = true := (snapshot_identical hw).2 ⟨hkeys, hkinds s hs⟩
    refine ⟨e, s,
      { validated := he
        normalized := hs
        candidate := hw.candidate
        streak := hw.streak
        profile := hw.profile
        version := hw.version
        evidence := hsame
        replay := fun later => ?_
        touched := ?_
        changedAt := hw.changedAt
        legacy := hw.legacy }⟩
    · rw [apply_eq_ok]
      exact ⟨e, he, s, hs, (write_again hw later).2 ((identical_iff _ _).1 hsame).1⟩
    · rw [hfields, changedAt_mem_updates, hw.profile]
      simp [profileDiff]

section Trips

def fresh (stored : Document String JsonScalar) : TraderScore Unit where
  candidateRoutingProfile := none
  candidateStreak := 0
  v2RoutingProfile := none
  v2RoutingProfileChangedAt := none
  evidenceSnapshot := stored
  engineVersion := 0
  legacy := ()

def confirmed : PyValue :=
  .dict 6
    ⟨![.str "candidate_routing_profile", .str "candidate_streak", .str "v2_routing_profile_proposed",
      .str "evidence_sufficient", .str "reason_code", .str "engine_version"], by decide⟩
    ![.str "INTERNAL", .int 3, .str "INTERNAL", .bool true, .str "STREAK_CONFIRMED_TRANSITION", .int 2]

def snapshotOf (key : PyKey) (value : PyValue) : PyValue :=
  .dict 1 ⟨fun _ => key, fun _ _ _ => Subsingleton.elim _ _⟩ fun _ => value

def storedOf (key : String) (value : JsonScalar) : Document String JsonScalar :=
  .dict 1 ⟨fun _ => key, fun _ _ _ => Subsingleton.elim _ _⟩ fun _ => .leaf value

theorem round_trip_text :
    ∃ row' report, applyRoutingProfileEvaluation (fun _ => true) 7 (fresh (storedOf "hedged" (.bool false))) confirmed
      (snapshotOf (.str "hedged") (.tuple 1 fun _ => .decimal "0.50")) = .ok (row', report) ∧
      ∃ e s, RoundTrip (fun _ => true) 7 (fresh (storedOf "hedged" (.bool false))) row' report confirmed
        (snapshotOf (.str "hedged") (.tuple 1 fun _ => .decimal "0.50")) e s := by
  refine ⟨_, _, rfl, (round_trip_iff rfl).2 ⟨by decide, fun s hs hsame => ?_⟩⟩
  cases hs
  exact absurd hsame (by decide)

/-- A numbered key reads back as a text, so that the same call writes again; a stored `True` stands for `1`. -/
theorem round_trip_fails :
    (∃ row' report, applyRoutingProfileEvaluation (fun _ => true) 7 (fresh (storedOf "hedged" (.bool false))) confirmed
      (snapshotOf (.int 1) (.str "EURUSD")) = .ok (row', report) ∧
      ¬ ∃ e s, RoundTrip (fun _ => true) 7 (fresh (storedOf "hedged" (.bool false))) row' report confirmed
        (snapshotOf (.int 1) (.str "EURUSD")) e s) ∧
    ∃ row' report, applyRoutingProfileEvaluation (fun _ => true) 7 (fresh (storedOf "hedged" (.bool true))) confirmed
      (snapshotOf (.str "hedged") (.int 1)) = .ok (row', report) ∧
      ¬ ∃ e s, RoundTrip (fun _ => true) 7 (fresh (storedOf "hedged" (.bool true))) row' report confirmed
        (snapshotOf (.str "hedged") (.int 1)) e s := by
  constructor
  · refine ⟨_, _, rfl, ?_⟩
    rintro ⟨e, s, htrip⟩
    cases htrip.normalized
    exact absurd htrip.evidence (by decide)
  · refine ⟨_, _, rfl, ?_⟩
    rintro ⟨e, s, htrip⟩
    cases htrip.normalized
    exact absurd htrip.evidence (by decide)

end Trips

end RoundTrip

end Writing

end TrxSimulator.Routing.ProfileWriter
