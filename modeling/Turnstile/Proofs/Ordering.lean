import Mathlib.Data.List.Induction
import Turnstile.Pipeline
import Turnstile.Proofs.Gates

/-! What the order check of a draft accepts, and which of several faults it reports. A draft is refused
for its first misplaced gate, so gates appended to a refused draft change nothing. -/
namespace Turnstile

/-- A gate that may stand after these others. -/
structure InPlace (earlier : List Gate) (gate : Gate) : Prop where
  /-- None of them ends every evaluation. -/
  reachable : ∀ g ∈ earlier, g.terminates = false
  /-- All that the gate requires are among them. -/
  provided : ∀ name ∈ gate.requires, ∃ g ∈ earlier, g.name = name

/-- Gates that are all in place when they follow the earlier ones. -/
def InOrder (earlier gates : List Gate) : Prop :=
  ∀ before gate after, gates = before ++ gate :: after → InPlace (earlier ++ before) gate

/-- What is to be reported of a gate that is not in place after gates that are. -/
inductive Misplaced (earlier : List Gate) (gate : Gate) : Misuse → Prop
  /-- The gate right before it ends every evaluation. What it requires does not matter then. -/
  | unreachable (front : List Gate) (last : Gate) (split : earlier = front ++ [last])
      (final : last.terminates = true) (others : ∀ g ∈ front, g.terminates = false) :
      Misplaced earlier gate (.unreachableGate gate.name earlier.length last.name)
  /-- It can be reached, and of all that it requires this is the first that is missing. -/
  | missing (met : List String) (name : String) (rest : List String)
      (reachable : ∀ g ∈ earlier, g.terminates = false)
      (split : gate.requires = met ++ name :: rest)
      (provided : ∀ n ∈ met, ∃ g ∈ earlier, g.name = n) (absent : ∀ g ∈ earlier, g.name ≠ name) :
      Misplaced earlier gate (.missingPrerequisite gate.name earlier.length name)

lemma Misplaced.not_inPlace {earlier : List Gate} {gate : Gate} {misuse : Misuse}
    (h : Misplaced earlier gate misuse) : ¬ InPlace earlier gate := by
  intro hp
  cases h with
  | unreachable front last split final others =>
    have hl := hp.reachable last (by simp [split])
    simp [final] at hl
  | missing met name rest reachable split provided absent =>
    obtain ⟨g,hg,hn⟩ := hp.provided name (by simp [split])
    exact absent g hg hn

/-- Among gates in order only the last may end every evaluation. -/
lemma InOrder.tail_eq_nil {gates front tail : List Gate} {last : Gate} (h : InOrder [] gates)
    (hs : gates = front ++ last :: tail) (hl : last.terminates = true) : tail = [] := by
  cases tail with
  | nil => rfl
  | cons next tail =>
    have hp := h (front ++ [last]) next tail (by simp [hs])
    have hf := hp.reachable last (by simp)
    simp [hl] at hf

namespace Gate
variable {earlier : List Gate} {gate : Gate}

lemma misplaced?_eq_none_iff : gate.misplaced? earlier = none ↔ InPlace earlier gate := by
  constructor
  · intro h
    unfold misplaced? at h
    split at h
    · cases h
    · rename_i ht
      refine ⟨by simpa using ht,?_⟩
      intro name hn
      have hr := List.find?_eq_none.mp (Option.map_eq_none_iff.mp h) name hn
      simpa using hr
  · intro h
    have ht : earlier.find? (·.terminates) = none := by
      simpa using h.reachable
    have hr : gate.requires.find? (fun required => !earlier.any (·.name = required)) = none := by
      simpa using h.provided
    simp [misplaced?, ht, hr]

lemma misplaced?_eq_some_iff (ho : InOrder [] earlier) {misuse : Misuse} :
    gate.misplaced? earlier = some misuse ↔ Misplaced earlier gate misuse := by
  constructor
  · intro h
    unfold misplaced? at h
    split at h
    · rename_i last ht
      obtain ⟨hl,front,tail,hs,hf⟩ := List.find?_eq_some_iff_append.mp ht
      obtain rfl := ho.tail_eq_nil hs hl
      cases h
      exact .unreachable front last hs hl (by simpa using hf)
    · rename_i ht
      obtain ⟨name,hn,rfl⟩ := Option.map_eq_some_iff.mp h
      obtain ⟨ha,met,rest,hs,hm⟩ := List.find?_eq_some_iff_append.mp hn
      exact .missing met name rest (by simpa using ht) hs (by simpa using hm) (by simpa using ha)
  · intro h
    cases h with
    | unreachable front last split final others =>
      have ht : earlier.find? (·.terminates) = some last :=
        List.find?_eq_some_iff_append.mpr ⟨final,front,[],split,by simpa using others⟩
      simp [misplaced?, ht]
    | missing met name rest reachable split provided absent =>
      have ht : earlier.find? (·.terminates) = none := by simpa using reachable
      have hn : gate.requires.find? (fun required => !earlier.any (·.name = required)) = some name :=
        List.find?_eq_some_iff_append.mpr
          ⟨by simpa using absent,met,rest,split,by simpa using provided⟩
      simp [misplaced?, ht, hn]

end Gate

section First
variable {earlier gates : List Gate} {gate : Gate}

lemma inOrder_nil : InOrder earlier [] := by
  intro before gate after h
  simp at h

lemma inOrder_cons :
    InOrder earlier (gate :: gates) ↔ InPlace earlier gate ∧ InOrder (earlier ++ [gate]) gates := by
  constructor
  · intro h
    refine ⟨by simpa using h [] gate gates rfl,?_⟩
    intro before g after hs
    simpa using h (gate :: before) g after (by simp [hs])
  · rintro ⟨hp,ho⟩ before g after hs
    cases before with
    | nil =>
      obtain ⟨rfl,-⟩ := List.cons.inj hs
      simpa using hp
    | cons b before =>
      obtain ⟨rfl,ht⟩ := List.cons.inj hs
      simpa using ho before g after ht

lemma firstMisplaced?_eq_none_iff : firstMisplaced? earlier gates = none ↔ InOrder earlier gates := by
  induction gates generalizing earlier with
  | nil => simp [firstMisplaced?, inOrder_nil]
  | cons gate gates ih =>
    rw [firstMisplaced?, Option.or_eq_none_iff, Gate.misplaced?_eq_none_iff, ih, inOrder_cons]

lemma firstMisplaced?_append (more : List Gate) :
    firstMisplaced? earlier (gates ++ more) =
      (firstMisplaced? earlier gates).or (firstMisplaced? (earlier ++ gates) more) := by
  induction gates generalizing earlier with
  | nil => simp [firstMisplaced?]
  | cons gate gates ih => simp [firstMisplaced?, ih, Option.or_assoc]

/-- The search stops at a gate that is misplaced while all before it are in order. -/
lemma firstMisplaced?_eq_some_iff {misuse : Misuse} :
    firstMisplaced? [] gates = some misuse ↔
      ∃ before gate after, gates = before ++ gate :: after ∧ InOrder [] before ∧
        Misplaced before gate misuse := by
  constructor
  · intro h
    -- From the end: the last gate is only looked at when all before it are in order.
    induction gates using List.reverseRecOn with
    | nil => simp [firstMisplaced?] at h
    | append_singleton gates last ih =>
      rw [firstMisplaced?_append] at h
      cases hf : firstMisplaced? [] gates with
      | some m =>
        rw [hf] at h
        obtain ⟨before,gate,after,hs,ho,hm⟩ := ih (hf.trans h)
        exact ⟨before,gate,after ++ [last],by simp [hs],ho,hm⟩
      | none =>
        have ho : InOrder [] gates := firstMisplaced?_eq_none_iff.mp hf
        have hl : last.misplaced? gates = some misuse := by
          simpa [hf, firstMisplaced?] using h
        exact ⟨gates,last,[],rfl,ho,(Gate.misplaced?_eq_some_iff ho).mp hl⟩
  · rintro ⟨before,gate,after,rfl,ho,hm⟩
    have hn : firstMisplaced? [] before = none := firstMisplaced?_eq_none_iff.mpr ho
    have hg : gate.misplaced? before = some misuse := (Gate.misplaced?_eq_some_iff ho).mpr hm
    simp [firstMisplaced?_append, firstMisplaced?, hn, hg]

end First

namespace PipelineDraft

/-- With these gates at the end, one after another. -/
def appendAll (draft : PipelineDraft) (gates : List Gate) : PipelineDraft := gates.foldl append draft

@[simp] lemma gates_appendAll (draft : PipelineDraft) (gates : List Gate) :
    (draft.appendAll gates).gates = draft.gates ++ gates := by
  induction gates generalizing draft with
  | nil => simp [appendAll]
  | cons gate gates ih =>
    have h := ih (draft.append gate)
    simpa [appendAll, append] using h

lemma freeze_eq_ok_iff {draft : PipelineDraft} {p : Pipeline} :
    draft.freeze = .ok p ↔ InOrder [] draft.gates ∧ p = draft.freezeUnchecked := by
  rw [← firstMisplaced?_eq_none_iff, freeze]
  cases firstMisplaced? [] draft.gates with
  | none => simp [eq_comm]
  | some misuse => simp

lemma freeze_eq_error_iff {draft : PipelineDraft} {misuse : Misuse} :
    draft.freeze = .error misuse ↔ firstMisplaced? [] draft.gates = some misuse := by
  rw [freeze]
  cases firstMisplaced? [] draft.gates <;> simp

/-- Freezing succeeds for gates in order and gives them unchanged. A refusal reports the first gate
that is out of place, and no further gates can change it. -/
theorem freeze_appendAll (gates : List Gate) :
    let draft := empty.appendAll gates
    draft.freezeUnchecked.gates = gates ∧
    (∀ p, draft.freeze = .ok p ↔ InOrder [] gates ∧ p = draft.freezeUnchecked) ∧
    (∀ misuse, draft.freeze = .error misuse ↔
      ∃ before gate after, gates = before ++ gate :: after ∧ InOrder [] before ∧
        ¬ InPlace before gate ∧ Misplaced before gate misuse) ∧
    ∀ misuse, draft.freeze = .error misuse →
      ∀ more, (draft.appendAll more).freeze = .error misuse := by
  intro draft
  have hg : draft.gates = gates := by simp [draft, empty]
  refine ⟨hg,?_,?_,?_⟩
  · intro p
    rw [freeze_eq_ok_iff, hg]
  · intro misuse
    rw [freeze_eq_error_iff, hg, firstMisplaced?_eq_some_iff]
    constructor
    · rintro ⟨before,gate,after,hs,ho,hm⟩
      exact ⟨before,gate,after,hs,ho,hm.not_inPlace,hm⟩
    · rintro ⟨before,gate,after,hs,ho,-,hm⟩
      exact ⟨before,gate,after,hs,ho,hm⟩
  · intro misuse h more
    rw [freeze_eq_error_iff] at h ⊢
    simp [firstMisplaced?_append, h]

/-- A gate after a terminator is reported as such although what it requires is missing too, and the
refusal stands when that is appended. -/
theorem freeze_appendAll_after_terminator :
    let draft := empty.appendAll [.roleRoute .default, .passwordMatch (.failing 0 "")]
    let misuse := Misuse.unreachableGate "password_match" 1 "role_route"
    draft.freeze = .error misuse ∧
      (draft.appendAll [.userExists (.failing 0 "")]).freeze = .error misuse := by
  intro draft misuse
  have h : draft.freeze = .error misuse := rfl
  exact ⟨h,(freeze_appendAll [.roleRoute .default, .passwordMatch (.failing 0 "")]).2.2.2 _ h _⟩

end PipelineDraft

end Turnstile
