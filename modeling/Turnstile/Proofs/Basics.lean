import Mathlib.Data.List.Nodup

/-! What the theory needs of lists of pairs, where a lookup finds the first pair with a name, of steps that
may each end in an error, and of calls that each set a part of a state or leave it alone. -/
namespace Except
variable {ε α β : Type} {x : Except ε α} {f : α → Except ε β}

lemma bind_eq_ok_iff {b : β} : x >>= f = .ok b ↔ ∃ a, x = .ok a ∧ f a = .ok b := by
  cases x <;> simp [bind, Except.bind]

lemma bind_eq_error_iff {e : ε} :
    x >>= f = .error e ↔ x = .error e ∨ ∃ a, x = .ok a ∧ f a = .error e := by
  cases x <;> simp [bind, Except.bind]

end Except

namespace Turnstile.Pairs
variable {entries : List (String × String)} {name : String}

lemma lookup_cons_of_ne {κ β : Type} [BEq κ] [LawfulBEq κ] {entries : List (κ × β)} {name n : κ}
    (h : name ≠ n) (value : β) : ((n, value) :: entries).lookup name = entries.lookup name := by
  rw [List.lookup_cons, beq_false_of_ne h]

lemma lookup_cons_eq_or (pair : String × String) :
    (pair :: entries).lookup name = ([pair].lookup name).or (entries.lookup name) := by
  rw [← List.lookup_append, List.singleton_append]

lemma lookup_eq_none_iff_notMem : entries.lookup name = none ↔ name ∉ entries.map Prod.fst := by
  rw [List.lookup_eq_none_iff, List.mem_map]
  constructor
  · rintro h ⟨e,he,rfl⟩
    simpa using h e he
  · intro h e he
    exact bne_iff_ne.mpr fun hn => h ⟨e,he,hn.symm⟩

lemma lookup_reverse_eq_none_iff :
    entries.reverse.lookup name = none ↔ entries.lookup name = none := by
  rw [lookup_eq_none_iff_notMem, lookup_eq_none_iff_notMem, List.map_reverse, List.mem_reverse]

/-- Where each name is there once, a lookup finds whatever is there. -/
lemma lookup_eq_some_iff_mem (h : (entries.map Prod.fst).Nodup) (value : String) :
    entries.lookup name = some value ↔ (name, value) ∈ entries := by
  induction entries with
  | nil => simp
  | cons entry rest ih =>
    obtain ⟨n,v⟩ := entry
    obtain ⟨hn,hr⟩ := List.nodup_cons.mp h
    rcases eq_or_ne name n with rfl | hne
    · have hm : (name, value) ∉ rest := fun hm => hn (List.mem_map.mpr ⟨_,hm,rfl⟩)
      simp [hm, eq_comm]
    · rw [lookup_cons_of_ne hne, ih hr]
      simp [hne]

lemma lookup_perm {others : List (String × String)} (hp : entries.Perm others)
    (h : (others.map Prod.fst).Nodup) : entries.lookup name = others.lookup name := by
  apply Option.ext
  intro value
  rw [lookup_eq_some_iff_mem ((hp.map Prod.fst).nodup_iff.mpr h), lookup_eq_some_iff_mem h,
    hp.mem_iff]

/-- Read from the end, a lookup finds the last pair with a name. -/
lemma lookup_reverse_eq_some_iff (value : String) :
    entries.reverse.lookup name = some value ↔
      ∃ before after, entries = before ++ (name, value) :: after ∧ ∀ e ∈ after, e.1 ≠ name := by
  rw [List.lookup_eq_some_iff]
  constructor
  · rintro ⟨a,b,he,ha⟩
    refine ⟨b.reverse,a.reverse,?_,?_⟩
    · rw [← List.reverse_reverse entries, he]
      simp
    · intro e hm
      exact Ne.symm (bne_iff_ne.mp (ha e (List.mem_reverse.mp hm)))
  · rintro ⟨before,after,rfl,ha⟩
    refine ⟨after.reverse,before.reverse,by simp,?_⟩
    intro e hm
    exact bne_iff_ne.mpr (Ne.symm (ha e (List.mem_reverse.mp hm)))

end Turnstile.Pairs

namespace Turnstile.Calls
variable {σ γ α ε : Type} (get : σ → α) (sets? : γ → Option α) {calls : List γ}

/-- What the last of the calls that set something sets. -/
def last? (calls : List γ) : Option α := calls.reverse.findSome? sets?

lemma last?_cons (call : γ) (calls : List γ) :
    last? sets? (call :: calls) = (last? sets? calls).or (sets? call) := by
  rw [last?, List.reverse_cons, List.findSome?_append, ← last?]
  cases hs : sets? call <;> simp [hs]

lemma last?_map {β : Type} (f : α → β) :
    last? (fun call => (sets? call).map f) calls = (last? sets? calls).map f :=
  List.map_findSome?.symm

lemma last?_filter {keep : γ → Bool} (h : ∀ call, (sets? call).isSome → keep call = true) :
    last? sets? (calls.filter keep) = last? sets? calls := by
  induction calls with
  | nil => rfl
  | cons call calls ih =>
    cases hk : keep call with
    | true => rw [List.filter_cons_of_pos hk, last?_cons, last?_cons, ih]
    | false =>
      have hn : sets? call = none := by
        rw [← Option.not_isSome_iff_eq_none]
        intro hs
        cases hk.symm.trans (h call hs)
      rw [List.filter_cons_of_neg (by simp [hk]), last?_cons, ih, hn, Option.or_none]

/-- Where every step sets the part to what its call says, or leaves it alone, the last call that says
something decides. -/
lemma get_foldlM {step : σ → γ → Except ε σ}
    (hstep : ∀ s call t, step s call = .ok t → get t = (sets? call).getD (get s)) {s t : σ}
    (h : calls.foldlM step s = .ok t) : get t = (last? sets? calls).getD (get s) := by
  induction calls generalizing s with
  | nil => cases h; rfl
  | cons call calls ih =>
    rw [List.foldlM_cons] at h
    obtain ⟨u,hu,ht⟩ := Except.bind_eq_ok_iff.mp h
    rw [ih ht, hstep s call u hu, last?_cons, Option.getD_or]

/-- Where calls do not fail one after another, each of them does not fail in its turn. -/
lemma step_of_mem {step : σ → γ → Except ε σ} {s t : σ} (h : calls.foldlM step s = .ok t) {call : γ}
    (hc : call ∈ calls) : ∃ u v, step u call = .ok v := by
  induction calls generalizing s with
  | nil => cases hc
  | cons first calls ih =>
    rw [List.foldlM_cons] at h
    obtain ⟨u,hu,ht⟩ := Except.bind_eq_ok_iff.mp h
    rcases List.mem_cons.mp hc with rfl | hr
    · exact ⟨s,u,hu⟩
    · exact ih ht hr

lemma get_foldl {step : σ → γ → σ}
    (hstep : ∀ s call, get (step s call) = (sets? call).getD (get s)) (s : σ) :
    get (calls.foldl step s) = (last? sets? calls).getD (get s) := by
  have hr : calls.foldlM (fun s call => .ok (step s call)) s =
      (.ok (calls.foldl step s) : Except Empty σ) := List.foldlM_pure
  refine get_foldlM get sets? ?_ hr
  intro s call t ht
  rw [← Except.ok.inj ht, hstep]

/-- Calls that leave a part of the state alone can be left out as far as this part goes. -/
lemma get_foldl_filter {step : σ → γ → σ} {touches : γ → Bool}
    (hkeep : ∀ s call, touches call = false → get (step s call) = get s)
    (hstep : ∀ s t call, get s = get t → get (step s call) = get (step t call)) {s t : σ}
    (h : get s = get t) :
    get (calls.foldl step s) = get ((calls.filter touches).foldl step t) := by
  induction calls generalizing s t with
  | nil => exact h
  | cons call calls ih =>
    cases ht : touches call with
    | true =>
      rw [List.filter_cons_of_pos ht]
      exact ih (hstep s t call h)
    | false =>
      rw [List.filter_cons_of_neg (by simp [ht])]
      exact ih ((hkeep s call ht).trans h)

end Turnstile.Calls
