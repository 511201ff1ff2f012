import Turnstile.Proofs.FirstStop
import Turnstile.Proofs.Ordering
import Turnstile.Service

/-! The order check speaks of names, a run of gates and of questions to stores. Here the one is turned
into the other: no gate of an accepted pipeline is asked before all that it requires have let the
attempt pass, and so no store is asked for a secret before it has confirmed the identity. -/
namespace Turnstile
namespace Pipeline
variable {spans : List Log.Span} {attempt : Attempt}

/-- When a gate is asked, gates of all the names that it requires were asked before it in the run, and
let the attempt pass. -/
def PrerequisitesRan (p : Pipeline) (attempt : Attempt) : Prop :=
  ∀ before gate more, p.asked attempt = before ++ gate :: more →
    ∀ name ∈ gate.requires, ∃ earlier ∈ before, earlier.name = name ∧ earlier.Passes attempt

/-- Whatever a gate that checks secrets asks this store about an identity, the store has said yes to
the question for the same identity in what was done until the gate was asked. The gate need not be
over the store itself: its own store may pass questions on. -/
def ConfirmsFirst (p : Pipeline) (store : Store) (around : List Log.Span) (attempt : Attempt) : Prop :=
  ∀ before asking more, p.asked attempt = before ++ .passwordMatch asking :: more →
    let past := trail (p.gateSpans around attempt) attempt 0 before
    let questions := ((Gate.passwordMatch asking).check attempt).trace
    (∃ future, (p.evaluate around attempt).trace = past ++ questions ++ future) ∧
    ∀ identity secret answer,
      .query store.label (.verifyPassword identity secret) answer ∈ questions →
        .query store.label (.userExists identity) (.ok true) ∈ past

lemma prerequisitesRan_of_inOrder {p : Pipeline} (h : InOrder [] p.gates) (attempt : Attempt) :
    p.PrerequisitesRan attempt := by
  intro before gate more ha name hn
  obtain ⟨⟨after,hs⟩,hb⟩ := askedFrom_split ha
  obtain ⟨earlier,he,hname⟩ := (h before gate after hs).provided name hn
  exact ⟨earlier,he,hname,hb earlier he⟩

lemma mem_trail_of_mem_check {gate : Gate} {gates : List Gate} {e : Effect} (hg : gate ∈ gates)
    (he : e ∈ (gate.check attempt).trace) (n : Nat) : e ∈ trail spans attempt n gates := by
  obtain ⟨before,after,rfl⟩ := List.append_of_mem hg
  rw [trail_append, trail_cons]
  simp [Gate.footprint, he]

lemma mem_or_past_of_append_eq {xs ys past future : List Effect} {e : Effect}
    (h : xs ++ ys = past ++ e :: future) :
    e ∈ xs ∨ ∃ part, past = xs ++ part ∧ ys = part ++ e :: future := by
  rcases List.append_eq_append_iff.mp h with ⟨part,hp,hy⟩ | ⟨part,hx,hy⟩
  · exact Or.inr ⟨part,hp,hy⟩
  · cases part with
    | nil => exact Or.inr ⟨[],by simpa using hx.symm,by simpa using hy.symm⟩
    | cons a part =>
      obtain ⟨rfl,-⟩ := List.cons.inj hy
      exact Or.inl (by simp [hx])

/-- An effect in a trail belongs to one gate, and the footprints of the gates before it are past. -/
lemma trail_split {n : Nat} {gates : List Gate} {past future : List Effect} {e : Effect}
    (h : trail spans attempt n gates = past ++ e :: future) :
    ∃ before gate more, gates = before ++ gate :: more ∧
      e ∈ gate.footprint spans attempt (n+before.length) ∧
      ∃ part, past = trail spans attempt n before ++ part := by
  induction gates generalizing n past with
  | nil => simp at h
  | cons gate gates ih =>
    rw [trail_cons] at h
    -- Either it is in the footprint of the first gate, or that is over and it is in the rest.
    rcases mem_or_past_of_append_eq h with he | ⟨part,rfl,ht⟩
    · exact ⟨[],gate,gates,rfl,by simpa using he,past,rfl⟩
    · obtain ⟨before,g,more,rfl,he,part',rfl⟩ := ih ht
      have hn : n+1+before.length = n+(gate :: before).length := by simp; omega
      exact ⟨gate :: before,g,more,rfl,hn ▸ he,part',by simp⟩

lemma confirmsFirst_of_prerequisitesRan {p : Pipeline} {store : Store}
    (hr : p.PrerequisitesRan attempt)
    (hu : ∀ gate ∈ p.gates, gate.name = GateKind.userExists.name → gate = .userExists store)
    (around : List Log.Span) : p.ConfirmsFirst store around attempt := by
  intro before asking more ha past questions
  constructor
  · have ht : (p.evaluate around attempt).trace = _ := p.trace_evaluate around
    rw [ha, trail_append, trail_cons, Gate.footprint, List.append_assoc, ← List.append_assoc] at ht
    exact ⟨_,ht⟩
  · intro identity secret answer hq
    obtain ⟨label,-,heq⟩ := (Store.mem_trace_ask _ _).mp hq
    cases heq
    -- What the gate requires is a name; that it belongs to the check on this store is `hu`.
    have hn : GateKind.userExists.name ∈ (Gate.passwordMatch asking).requires :=
      List.mem_singleton.mpr rfl
    obtain ⟨earlier,he,hname,hpass⟩ := hr before _ more ha _ hn
    obtain ⟨⟨after,hs⟩,-⟩ := askedFrom_split ha
    obtain rfl := hu earlier (by simp [hs, he]) hname
    have hyes := (Gate.passes_userExists_iff store attempt).mp hpass
    refine mem_trail_of_mem_check he ?_ 0
    rw [Gate.trace_check_userExists, Store.mem_trace_ask]
    exact ⟨store.label,by simp,by rw [hyes]⟩

end Pipeline

namespace Service

lemma gates_standard (store : Store) (router : Router) :
    (standard store router).pipeline.gates =
      [.userExists store, .passwordMatch store, .roleRoute router] := rfl

/-- The canonical order would pass the check that it is spared. -/
lemma inOrder_standard (store : Store) (router : Router) :
    InOrder [] (standard store router).pipeline.gates := by
  rw [← firstMisplaced?_eq_none_iff]
  rfl

lemma confirmsFirst_standard (store : Store) (router : Router) (around : List Log.Span)
    (attempt : Attempt) :
    (standard store router).pipeline.ConfirmsFirst store around attempt := by
  refine Pipeline.confirmsFirst_of_prerequisitesRan
    (Pipeline.prerequisitesRan_of_inOrder (inOrder_standard store router) attempt) ?_ around
  intro gate hg hn
  simp only [gates_standard, List.mem_cons, List.not_mem_nil, or_false] at hg
  rcases hg with rfl | rfl | rfl
  · rfl
  · exact absurd hn (Gate.name_passwordMatch_ne store)
  · exact absurd hn (Gate.name_roleRoute_ne router)

/-- Only the gate that checks secrets asks for one. -/
lemma eq_passwordMatch_of_asks (store : Store) (router : Router) {gate : Gate}
    (hg : gate ∈ (standard store router).pipeline.gates) {spans : List Log.Span} {attempt : Attempt}
    {position label : Nat} {identity secret : String} {answer : Except StoreError Bool}
    (hq : .query label (.verifyPassword identity secret) answer ∈
      gate.footprint spans attempt position) :
    gate = .passwordMatch store := by
  simp only [gates_standard, List.mem_cons, List.not_mem_nil, or_false] at hg
  rcases hg with rfl | rfl | rfl
  · simp [Gate.footprint, Store.mem_trace_ask] at hq
  · rfl
  · simp [Gate.footprint] at hq

/-- In every evaluation of an accepted pipeline a gate is asked only after gates of all the names that
it requires have let the attempt pass. So if all gates named for the check of identities perform it on
one store, no secret is asked for there before the identity is confirmed. The canonical service keeps
to this although its order is never checked, for every question that its store is asked. -/
theorem prerequisites_ran_before :
    (∀ gates p, (PipelineDraft.empty.appendAll gates).freeze = .ok p → ∀ around attempt,
      (p.evaluate around attempt).trace =
        Pipeline.trail (p.gateSpans around attempt) attempt 0 (p.asked attempt) ∧
      p.PrerequisitesRan attempt ∧
      ∀ store, (∀ gate ∈ gates, gate.name = GateKind.userExists.name → gate = .userExists store) →
        p.ConfirmsFirst store around attempt) ∧
    ∀ store router around attempt,
      (standard store router).pipeline.ConfirmsFirst store around attempt ∧
      ∀ past identity secret answer future,
        ((standard store router).pipeline.evaluate around attempt).trace =
          past ++ .query store.label (.verifyPassword identity secret) answer :: future →
        .query store.label (.userExists identity) (.ok true) ∈ past := by
  constructor
  · intro gates p hf around attempt
    obtain ⟨ho,hp⟩ := PipelineDraft.freeze_eq_ok_iff.mp hf
    have hg : p.gates = gates := by simp [hp, PipelineDraft.freezeUnchecked, PipelineDraft.empty]
    have hr : p.PrerequisitesRan attempt :=
      Pipeline.prerequisitesRan_of_inOrder (by rw [hp]; exact ho) attempt
    refine ⟨p.trace_evaluate around,hr,?_⟩
    intro store hu
    exact Pipeline.confirmsFirst_of_prerequisitesRan hr (by rw [hg]; exact hu) around
  · intro store router around attempt
    have hc := confirmsFirst_standard store router around attempt
    refine ⟨hc,?_⟩
    intro past identity secret answer future ht
    rw [Pipeline.trace_evaluate] at ht
    obtain ⟨before,gate,more,ha,hq,part,rfl⟩ := Pipeline.trail_split ht
    obtain ⟨⟨after,hs⟩,-⟩ := Pipeline.askedFrom_split ha
    have hg : gate = .passwordMatch store :=
      eq_passwordMatch_of_asks store router (by rw [hs]; simp) hq
    rw [hg] at ha hq
    refine List.mem_append_left _ ((hc before store more ha).2 identity secret answer ?_)
    simpa [Gate.footprint] using hq

/-- The secret is asked for through a store that counts, the identity at the store inside it. -/
theorem prerequisites_ran_before_counted :
    let store := Store.scripted 0 (.ok true) (.ok false)
    let gates := [.userExists store, .passwordMatch (.counting 1 store)]
    let attempt : Attempt := ⟨"admin", ""⟩
    (PipelineDraft.empty.appendAll gates).freeze = .ok ⟨gates⟩ ∧
      .query 0 (.userExists "admin") (.ok true) ∈
        Pipeline.trail (Pipeline.gateSpans ⟨gates⟩ [] attempt) attempt 0 [.userExists store] := by
  intro store gates attempt
  have hu : ∀ gate ∈ gates, gate.name = GateKind.userExists.name → gate = .userExists store := by
    intro gate hg hn
    simp only [gates, List.mem_cons, List.not_mem_nil, or_false] at hg
    rcases hg with rfl | rfl
    · rfl
    · exact absurd hn (Gate.name_passwordMatch_ne _)
  have hc := (prerequisites_ran_before.1 gates ⟨gates⟩ rfl [] attempt).2.2 store hu
  refine ⟨rfl,(hc [.userExists store] (.counting 1 store) [] rfl).2 "admin" "" (.ok false) ?_⟩
  rw [Gate.trace_check_passwordMatch, Store.mem_trace_ask]
  exact ⟨0,by decide,rfl⟩

end Service

end Turnstile
