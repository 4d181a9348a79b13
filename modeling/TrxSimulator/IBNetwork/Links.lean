import TrxSimulator.Foundations.Forests
import TrxSimulator.Foundations.Texts
import TrxSimulator.Foundations.Runs
import TrxSimulator.Commissions.Settlement

/-! The parent links of the introducers. A link is checked and written under one lock; an attachment
reads its attribution before it takes the lock. -/

namespace TrxSimulator.IBNetwork.Links

open Foundations.Runs Foundations.Tables Foundations.Outcomes Foundations.Texts Foundations.Forests
open Commissions.Settlement (Referral RiskStatus)

structure Attribution where
  referredUser : ℕ
  referral : ℕ
deriving DecidableEq

structure Link where
  child : ℕ
  parent : ℕ
  createdAt : ℤ
  createdBy : Option ℕ
  reason : String
deriving DecidableEq

inductive NetworkError
  | reasonRequired
  | alreadyLinked
  | cycleRejected
  | cyclicNetwork
  | unfinished
  | foreignKey (referral : ℕ)
  | reasonTooLong
deriving DecidableEq

structure Network where
  referrals : Table Referral
  attributions : Table Attribution
  links : Table Link
  attachments : Table (Option (ℕ × ℕ))

def parentLink (s : Network) (atTime : Option ℤ) (child : ℕ) : Option Link :=
  (s.links.first fun l => l.child = child ∧ ∀ t, atTime = some t → l.createdAt ≤ t).map Prod.snd

def climb (s : Network) (atTime : Option ℤ) : ℕ → List ℕ → ℕ → Except NetworkError (List ℕ)
  | 0, _, _ => .error .unfinished
  | n + 1, seen, current =>
    match parentLink s atTime current with
    | none => .ok []
    | some link =>
      if link.parent ∈ seen then .error .cyclicNetwork
      else (climb s atTime n (link.parent :: seen) link.parent).map (link.parent :: ·)

def ancestors (s : Network) (referral : ℕ) (atTime : Option ℤ) : Except NetworkError (List ℕ) :=
  climb s atTime (s.links.next + 1) [referral] referral

def createLink (s : Network) (link : Link) : Except NetworkError (Network × ℕ) :=
  if (s.referrals.get link.child).isNone then .error (.foreignKey link.child)
  else if (s.referrals.get link.parent).isNone then .error (.foreignKey link.parent)
  else if 240 < link.reason.length then .error .reasonTooLong
  else .ok ({ s with links := s.links.insert link }, s.links.next)

def linkSubIb (s : Network) (child parent : ℕ) (actor : Option ℕ) (reason : String) (now : ℤ) :
    Except NetworkError (Network × ℕ) :=
  if strip reason = "" then .error .reasonRequired
  else match s.links.first fun l => l.child = child with
    | some (pk, existing) =>
      if existing.parent = parent then .ok (s, pk) else .error .alreadyLinked
    | none =>
      if child = parent then .error .cycleRejected
      else do
        let above ← ancestors s parent none
        if child ∈ above then .error .cycleRejected
        else createLink s ⟨child, parent, now, actor, reason⟩

/-- The first half of `attach_from_attribution`: the attribution is read without the lock. -/
def readAttribution (s : Network) (referral : ℕ) : Network :=
  match s.referrals.get referral with
  | none => s
  | some r =>
    match s.attributions.first fun a => a.referredUser = r.user with
    | none => s
    | some (_, a) => { s with attachments := s.attachments.insert (some (referral, a.referral)) }

def attachFromAttribution (s : Network) (attachment : ℕ) (now : ℤ) : Network :=
  match (s.attachments.get attachment).join with
  | none => s
  | some (child, parent) =>
    let s := { s with attachments := s.attachments.update attachment fun _ => none }
    commit s ((linkSubIb s child parent none "Registro mediante enlace de referido" now).map Prod.fst)

inductive Action
  | register (user : ℕ)
  | attributeUser (user referral : ℕ)
  | setRisk (referral : ℕ) (riskStatus : RiskStatus)
  | linkSubIb (child parent : ℕ) (actor : Option ℕ) (reason : String) (now : ℤ)
  | readAttribution (referral : ℕ)
  | attachFromAttribution (attachment : ℕ) (now : ℤ)
deriving DecidableEq

def register (s : Network) (user : ℕ) : Network :=
  if s.referrals.exists? fun r => r.user = user then s
  else { s with referrals := s.referrals.insert ⟨user, .active⟩ }

def attributeUser (s : Network) (user referral : ℕ) : Network :=
  if (s.attributions.exists? fun a => a.referredUser = user) ∨ (s.referrals.get referral).isNone then s
  else { s with attributions := s.attributions.insert ⟨user, referral⟩ }

def setRisk (s : Network) (referral : ℕ) (riskStatus : RiskStatus) : Network :=
  { s with referrals := s.referrals.update referral fun r => { r with riskStatus := riskStatus } }

def step (s : Network) : Action → Network
  | .register user => register s user
  | .attributeUser user referral => attributeUser s user referral
  | .setRisk referral riskStatus => setRisk s referral riskStatus
  | .linkSubIb child parent actor reason now =>
    commit s ((linkSubIb s child parent actor reason now).map Prod.fst)
  | .readAttribution referral => readAttribution s referral
  | .attachFromAttribution attachment now => attachFromAttribution s attachment now

def opened (referrals : Table Referral) (attributions : Table Attribution) : Network where
  referrals := referrals
  attributions := attributions
  links := .empty
  attachments := .empty

def parentOf (s : Network) (atTime : Option ℤ) (child : ℕ) : Option ℕ :=
  (parentLink s atTime child).map Link.parent

structure Sound (s : Network) : Prop where
  oneParent : ∀ i j l m, s.links.get i = some l → s.links.get j = some m → l.child = m.child → i = j
  forest : Forest (parentOf s none)

section Parents

variable {s s' : Network} {atTime : Option ℤ} {child parent : ℕ}

lemma parentLink_some {link : Link} (h : parentLink s atTime child = some link) :
    ∃ i, s.links.get i = some link ∧ link.child = child ∧ ∀ t, atTime = some t → link.createdAt ≤ t := by
  obtain ⟨⟨i, l⟩, hfirst, rfl⟩ := Option.map_eq_some_iff.mp h
  obtain ⟨hget, hp⟩ := Table.first_some hfirst
  exact ⟨i, hget, of_decide_eq_true hp⟩

lemma Sound.parentLink_of_get (hs : Sound s) {i : ℕ} {link : Link} (h : s.links.get i = some link)
    (ht : ∀ t, atTime = some t → link.createdAt ≤ t) : parentLink s atTime link.child = some link := by
  rw [parentLink, Table.first_of_unique h (decide_eq_true ⟨rfl, ht⟩), Option.map_some]
  intro j l hl hp
  exact hs.oneParent j i l link hl h (of_decide_eq_true hp).1

lemma parentOf_eq_some : parentOf s atTime child = some parent ↔
    ∃ link, parentLink s atTime child = some link ∧ link.parent = parent := Option.map_eq_some_iff

lemma parentOf_congr (h : s'.links = s.links) : parentOf s' = parentOf s := by
  funext at' child
  rw [parentOf, parentOf, parentLink, parentLink, h]

lemma Sound.of_links (hs : Sound s) (h : s'.links = s.links) : Sound s' where
  oneParent i j l m hl hm := hs.oneParent i j l m (h ▸ hl) (h ▸ hm)
  forest := parentOf_congr h ▸ hs.forest

lemma Sound.forest_at (hs : Sound s) (atTime : Option ℤ) : Forest (parentOf s atTime) := by
  refine hs.forest.mono fun child parent h => ?_
  obtain ⟨link, hlink, rfl⟩ := parentOf_eq_some.mp h
  obtain ⟨i, hget, rfl, -⟩ := parentLink_some hlink
  exact parentOf_eq_some.mpr ⟨link, hs.parentLink_of_get hget nofun, rfl⟩

lemma parentOf_insert {link : Link} (hnew : parentOf s none link.child = none) :
    parentOf { s with links := s.links.insert link } none =
      Function.update (parentOf s none) link.child (some link.parent) := by
  funext child
  rw [parentOf, parentLink, Table.first_insert]
  by_cases hchild : child = link.child
  · subst hchild
    rw [parentOf, parentLink, Option.map_map, Option.map_eq_none_iff] at hnew
    rw [hnew, Function.update_self, Option.none_or, if_pos (by simp)]
    rfl
  · rw [Function.update_of_ne hchild, if_neg (by simp [Ne.symm hchild]), Option.or_none]
    rfl

end Parents

section Climbing

variable {s : Network} {atTime : Option ℤ} {n current : ℕ} {seen chain : List ℕ}

lemma climb_chain (h : climb s atTime n seen current = .ok chain) :
    Chain (parentOf s atTime) current chain := by
  induction n generalizing seen current chain with
  | zero => cases h
  | succ n ih =>
    rw [climb] at h
    split at h
    · next hnone =>
      obtain rfl : [] = chain := Except.ok.inj h
      exact .root (by rw [parentOf, hnone, Option.map_none])
    · next link hlink =>
      rw [guard_eq_ok] at h
      obtain ⟨-, h⟩ := h
      obtain ⟨rest, hrest, rfl⟩ := map_eq_ok.mp h
      exact .up (parentOf_eq_some.mpr ⟨link, hlink, rfl⟩) (ih hrest)

def parents (s : Network) : List ℕ := s.links.rows.map fun r => r.2.parent

lemma parents_length_le (s : Network) : (parents s).length ≤ s.links.next := by
  rw [parents, List.length_map, Table.rows]
  exact (List.length_filterMap_le _ _).trans_eq List.length_range

/-- Each step up sees a new parent: the nodes already seen lie below it, and a network has only so many
parents. -/
lemma climb_ok {start : ℕ} (hf : Forest (parentOf s atTime))
    (hbelow : ∀ a ∈ seen, a = current ∨ Ancestor (parentOf s atTime) a current) (hnodup : seen.Nodup)
    (hseen : ∀ a ∈ seen, a ∈ start :: parents s) (hlen : s.links.next + 1 < seen.length + n) :
    ∃ chain, climb s atTime n seen current = .ok chain := by
  induction n generalizing seen current with
  | zero =>
    have hle := (List.subperm_of_subset hnodup hseen).length_le
    have hparents := parents_length_le s
    rw [List.length_cons] at hle
    omega
  | succ n ih =>
    rw [climb]
    split
    · exact ⟨[], rfl⟩
    · next link hlink =>
      have hparent : parentOf s atTime current = some link.parent :=
        parentOf_eq_some.mpr ⟨link, hlink, rfl⟩
      have hup : ∀ a ∈ seen, Ancestor (parentOf s atTime) a link.parent := by
        intro a ha
        rcases hbelow a ha with rfl | hup
        · exact ancestor_of_parent hparent
        · exact hup.snoc hparent
      have hnew : link.parent ∉ seen := fun hmem => hf _ (hup _ hmem)
      have hmem : link.parent ∈ parents s := by
        obtain ⟨i, hget, -⟩ := parentLink_some hlink
        exact List.mem_map.mpr ⟨(i, link), Table.mem_rows.mpr hget, rfl⟩
      obtain ⟨rest, hrest⟩ : ∃ rest, climb s atTime n (link.parent :: seen) link.parent = .ok rest := ih
        (List.forall_mem_cons.mpr ⟨Or.inl rfl, fun a ha => Or.inr (hup a ha)⟩)
        (List.nodup_cons.mpr ⟨hnew, hnodup⟩)
        (List.forall_mem_cons.mpr ⟨List.mem_cons_of_mem _ hmem, hseen⟩)
        (by rw [List.length_cons]; omega)
      rw [if_neg hnew, hrest]
      exact ⟨link.parent :: rest, rfl⟩

lemma Sound.ancestors_ok (hs : Sound s) (referral : ℕ) (atTime : Option ℤ) :
    ∃ chain, ancestors s referral atTime = .ok chain ∧ Chain (parentOf s atTime) referral chain := by
  obtain ⟨chain, hchain⟩ : ∃ chain, ancestors s referral atTime = .ok chain := by
    have hstart : ∀ a ∈ [referral], a ∈ referral :: parents s := fun a ha =>
      List.mem_cons.mpr (Or.inl (List.mem_singleton.mp ha))
    refine climb_ok (hs.forest_at atTime) ?_ (List.nodup_singleton _) hstart ?_
    · exact fun a ha => Or.inl (List.mem_singleton.mp ha)
    · rw [List.length_singleton]
      omega
  exact ⟨chain, hchain, climb_chain hchain⟩

end Climbing

section Steps

variable {s s' : Network}

inductive Linked (s s' : Network) : Prop
  | same (h : s'.links = s.links)
  | linked (link : Link) (hnew : parentOf s none link.child = none) (hne : link.child ≠ link.parent)
      (hnot : ¬ Ancestor (parentOf s none) link.parent link.child)
      (hlinks : s'.links = s.links.insert link)

lemma linkSubIb_linked {child parent pk : ℕ} {actor : Option ℕ} {reason : String} {now : ℤ}
    (h : linkSubIb s child parent actor reason now = .ok (s', pk)) : Linked s s' := by
  rw [linkSubIb, guard_eq_ok] at h
  obtain ⟨-, h⟩ := h
  split at h
  · split at h
    · cases h
      exact .same rfl
    · cases h
  · next hfirst =>
    simp only [guard_eq_ok, bind_eq_ok] at h
    obtain ⟨hne, above, habove, hmem, h⟩ := h
    simp only [createLink, guard_eq_ok, Except.ok.injEq, Prod.mk.injEq] at h
    obtain ⟨-, -, -, rfl, -⟩ := h
    refine .linked ⟨child, parent, now, actor, reason⟩ ?_ hne ?_ rfl
    · rw [parentOf, parentLink, Option.map_map, Option.map_eq_none_iff]
      simpa using hfirst
    · exact fun hup => hmem ((climb_chain habove).mem_iff.mpr hup)

lemma commit_linked {x : Except NetworkError (Network × ℕ)} (h : ∀ s' pk, x = .ok (s', pk) → Linked s s') :
    Linked s (commit s (x.map Prod.fst)) := by
  cases x with
  | error e => exact .same rfl
  | ok r => exact h r.1 r.2 rfl

lemma Linked.of_links {t : Network} (ht : t.links = s.links) (h : Linked t s') : Linked s s' := by
  cases h with
  | same hsame => exact .same (hsame.trans ht)
  | linked link hnew hne hnot hlinks =>
    rw [parentOf_congr ht] at hnew hnot
    exact .linked link hnew hne hnot (ht ▸ hlinks)

lemma step_linked (s : Network) (action : Action) : Linked s (step s action) := by
  cases action with
  | register user =>
    rw [step, register]
    split <;> exact .same rfl
  | attributeUser user referral =>
    rw [step, attributeUser]
    split <;> exact .same rfl
  | setRisk referral riskStatus => exact .same rfl
  | linkSubIb child parent actor reason now => exact commit_linked fun s' pk => linkSubIb_linked
  | readAttribution referral =>
    rw [step, readAttribution]
    split
    · exact .same rfl
    · split <;> exact .same rfl
  | attachFromAttribution attachment now =>
    rw [step, attachFromAttribution]
    split
    · exact .same rfl
    · next child parent _ =>
      refine Linked.of_links (t := { s with attachments := s.attachments.update attachment fun _ => none }) rfl ?_
      exact commit_linked fun s' pk => linkSubIb_linked

lemma Linked.get (h : Linked s s') {i : ℕ} {link : Link} (hi : s.links.get i = some link) :
    s'.links.get i = some link := by
  cases h with
  | same hsame => rwa [hsame]
  | linked _ _ _ _ hlinks =>
    rw [hlinks]
    exact Table.get_insert_of_get hi _

lemma Linked.sound (h : Linked s s') (hs : Sound s) : Sound s' := by
  cases h with
  | same hsame => exact hs.of_links hsame
  | linked link hnew hne hnot hlinks =>
    have hfree : ∀ i l, s.links.get i = some l → l.child ≠ link.child := by
      intro i l hl heq
      have hlink : parentLink s none l.child = some l := hs.parentLink_of_get hl nofun
      rw [heq] at hlink
      rw [parentOf, hlink] at hnew
      cases hnew
    refine Sound.of_links (s := { s with links := s.links.insert link }) ⟨?_, ?_⟩ hlinks
    · intro i j l m hl hm heq
      rcases Table.get_insert_some hl with hold | ⟨hi, rfl⟩ <;>
        rcases Table.get_insert_some hm with hold' | ⟨hj, rfl⟩
      · exact hs.oneParent i j l m hold hold' heq
      · exact (hfree i l hold heq).elim
      · exact (hfree j m hold' heq.symm).elim
      · exact hi.trans hj.symm
    · rw [parentOf_insert hnew]
      exact hs.forest.update hne hnot

lemma opened_sound (referrals : Table Referral) (attributions : Table Attribution) :
    Sound (opened referrals attributions) where
  oneParent i j l m hl := by cases hl
  forest a ha := by
    obtain ⟨b, hb, -⟩ := Relation.TransGen.head'_iff.mp ha
    cases hb

lemma run_sound (referrals : Table Referral) (attributions : Table Attribution) (acts : List Action) :
    Sound (run step (opened referrals attributions) acts) :=
  run_invariant (fun s action => (step_linked s action).sound) (opened_sound referrals attributions) acts

lemma run_get {i : ℕ} {link : Link} (h : s.links.get i = some link) (acts : List Action) :
    (run step s acts).links.get i = some link :=
  run_invariant (I := fun s => s.links.get i = some link) (fun s action => (step_linked s action).get) h acts

lemma run_parentOf (hs : Sound s) {child parent : ℕ} (h : parentOf s none child = some parent)
    (acts : List Action) : parentOf (run step s acts) none child = some parent := by
  obtain ⟨link, hlink, rfl⟩ := parentOf_eq_some.mp h
  obtain ⟨i, hget, rfl, -⟩ := parentLink_some hlink
  have hrun : Sound (run step s acts) :=
    run_invariant (fun s action => (step_linked s action).sound) hs acts
  exact parentOf_eq_some.mpr ⟨link, hrun.parentLink_of_get (run_get hget acts) nofun, rfl⟩

end Steps

theorem network_stays_forest (referrals : Table Referral) (attributions : Table Attribution)
    (acts : List Action) :
    Forest (parentOf (run step (opened referrals attributions) acts) none) ∧
    (∀ i j l m, (run step (opened referrals attributions) acts).links.get i = some l →
      (run step (opened referrals attributions) acts).links.get j = some m → l.child = m.child → i = j) ∧
    (∀ child parent later, parentOf (run step (opened referrals attributions) acts) none child = some parent →
      parentOf (run step (opened referrals attributions) (acts ++ later)) none child = some parent) ∧
    ∀ referral atTime, ∃ chain,
      ancestors (run step (opened referrals attributions) acts) referral atTime = .ok chain ∧
      (referral :: chain).Nodup ∧
      ∀ a, a ∈ chain ↔ Ancestor (parentOf (run step (opened referrals attributions) acts) atTime) referral a := by
  have hs := run_sound referrals attributions acts
  refine ⟨hs.forest, hs.oneParent, ?_, ?_⟩
  · intro child parent later h
    rw [run_append]
    exact run_parentOf hs h later
  · intro referral atTime
    obtain ⟨chain, hok, hchain⟩ := hs.ancestors_ok referral atTime
    exact ⟨chain, hok, hchain.nodup (hs.forest_at atTime), fun a => hchain.mem_iff⟩

end TrxSimulator.IBNetwork.Links
