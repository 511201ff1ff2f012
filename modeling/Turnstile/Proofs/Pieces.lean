import Mathlib.Data.List.DropRight
import Mathlib.Tactic.Common
import Turnstile.Text.Blank

/-! Texts cut into pieces and freed of blanks. No piece holds the separator, pieces that were joined with it
can be cut again, and blanks at the ends of a text are all that trimming takes away. -/
namespace Turnstile.Text

lemma intercalate_onFirst (sep : List Char) (c : Char) {ps : List (List Char)} (h : ps ≠ []) :
    sep.intercalate (onFirst c ps) = c :: sep.intercalate ps := by
  match ps with
  | [p] => simp [onFirst]
  | p :: q :: ps => simp [onFirst, List.intercalate_cons_cons]

section Pieces
variable {sep : Char}

lemma pieces_ne_nil (sep : Char) (cs : List Char) : pieces sep cs ≠ [] := by
  cases cs with
  | nil => simp [pieces]
  | cons c cs =>
    rw [pieces]
    split
    · simp
    · cases pieces sep cs <;> simp [onFirst]

lemma notMem_of_mem_pieces {p cs : List Char} (h : p ∈ pieces sep cs) : sep ∉ p := by
  induction cs generalizing p with
  | nil => simp_all [pieces]
  | cons c cs ih =>
    rw [pieces] at h
    split at h
    · rcases List.mem_cons.mp h with rfl | h
      · simp
      · exact ih h
    · rename_i hc
      obtain ⟨q,ps,hq⟩ := List.exists_cons_of_ne_nil (pieces_ne_nil sep cs)
      rw [hq] at h ih
      rcases List.mem_cons.mp h with rfl | h
      · have hs := ih List.mem_cons_self
        simp [hs, Ne.symm hc]
      · exact ih (List.mem_cons_of_mem q h)

lemma pieces_of_notMem {p : List Char} (h : sep ∉ p) : pieces sep p = [p] := by
  induction p with
  | nil => rfl
  | cons c p ih =>
    obtain ⟨hc,hp⟩ := not_or.mp (mt List.mem_cons.mpr h)
    rw [pieces, if_neg (Ne.symm hc), ih hp]
    rfl

lemma pieces_append_cons {p : List Char} (h : sep ∉ p) (cs : List Char) :
    pieces sep (p ++ sep :: cs) = p :: pieces sep cs := by
  induction p with
  | nil => simp [pieces]
  | cons c p ih =>
    obtain ⟨hc,hp⟩ := not_or.mp (mt List.mem_cons.mpr h)
    rw [List.cons_append, pieces, if_neg (Ne.symm hc), ih hp]
    rfl

/-- What was joined can be cut again, unless there was nothing to join. -/
lemma pieces_intercalate {ps : List (List Char)} (h : ps ≠ []) (hs : ∀ p ∈ ps, sep ∉ p) :
    pieces sep ([sep].intercalate ps) = ps := by
  induction ps with
  | nil => exact absurd rfl h
  | cons p ps ih =>
    obtain ⟨hp,hps⟩ := List.forall_mem_cons.mp hs
    cases ps with
    | nil => rw [List.intercalate_singleton, pieces_of_notMem hp]
    | cons q ps =>
      rw [List.intercalate_cons_cons, List.append_assoc, List.singleton_append, pieces_append_cons hp,
        ih (by simp) hps]

lemma cutAt_append_cons {a : List Char} (h : sep ∉ a) (b : List Char) :
    cutAt sep (a ++ sep :: b) = some (a, b) := by
  induction a with
  | nil => simp [cutAt]
  | cons c a ih =>
    obtain ⟨hc,ha⟩ := not_or.mp (mt List.mem_cons.mpr h)
    rw [List.cons_append, cutAt, if_neg (Ne.symm hc), ih ha]
    rfl

lemma cutAt_eq_none_iff {cs : List Char} : cutAt sep cs = none ↔ sep ∉ cs := by
  induction cs with
  | nil => simp [cutAt]
  | cons c cs ih =>
    rw [cutAt]
    split
    · rename_i h
      simp [h]
    · rename_i h
      simp [ih, Ne.symm h]

end Pieces

/-- Nothing but blanks. -/
def Blank (cs : List Char) : Prop := ∀ c ∈ cs, isBlank c = true

instance : DecidablePred Blank := fun cs => List.decidableBAll (isBlank · = true) cs

section Trim
variable {a b cs : List Char} {c : Char}

lemma trimFront_append_of_blank (h : Blank a) (cs : List Char) : trimFront (a ++ cs) = trimFront cs :=
  List.dropWhile_append_of_pos h

lemma trimFront_append_cons (a b : List Char) (h : isBlank c = false) :
    trimFront (a ++ c :: b) = trimFront a ++ c :: b := by
  rw [trimFront, List.dropWhile_append]
  split
  · rename_i ha
    simp [trimFront, List.isEmpty_iff.mp ha, h]
  · rfl

lemma trimBack_eq_reverse (cs : List Char) : trimBack cs = (trimFront cs.reverse).reverse := rfl

lemma trimBack_append_of_blank (cs : List Char) (h : Blank b) : trimBack (cs ++ b) = trimBack cs := by
  have hr : Blank b.reverse := fun c hc => h c (List.mem_reverse.mp hc)
  rw [trimBack_eq_reverse, List.reverse_append, trimFront_append_of_blank hr, ← trimBack_eq_reverse]

lemma trimBack_append_cons (a b : List Char) (h : isBlank c = false) :
    trimBack (a ++ c :: b) = a ++ c :: trimBack b := by
  have hr : (a ++ c :: b).reverse = b.reverse ++ c :: a.reverse := by simp
  rw [trimBack_eq_reverse, hr, trimFront_append_cons _ _ h, trimBack_eq_reverse]
  simp

lemma trimFront_eq_nil_iff : trimFront cs = [] ↔ Blank cs := List.dropWhile_eq_nil_iff

lemma trimBack_trimBack (cs : List Char) : trimBack (trimBack cs) = trimBack cs :=
  List.rdropWhile_idempotent isBlank cs

/-- A character that is no blank keeps all that is on its other side. -/
lemma trim_append_cons (a b : List Char) (h : isBlank c = false) :
    trim (a ++ c :: b) = trimFront a ++ c :: trimBack b := by
  rw [trim, trimFront_append_cons a b h, trimBack_append_cons _ b h]

/-- A text is blank or has a first character that is not. -/
lemma blank_or_exists (cs : List Char) :
    Blank cs ∨ ∃ a c b, cs = a ++ c :: b ∧ Blank a ∧ isBlank c = false := by
  induction cs with
  | nil => exact Or.inl (by simp [Blank])
  | cons c cs ih =>
    by_cases hc : isBlank c = true
    · rcases ih with h | ⟨a,d,b,rfl,ha,hd⟩
      · exact Or.inl (List.forall_mem_cons.mpr ⟨hc,h⟩)
      · exact Or.inr ⟨c :: a,d,b,rfl,List.forall_mem_cons.mpr ⟨hc,ha⟩,hd⟩
    · exact Or.inr ⟨[],c,cs,rfl,by simp [Blank],by simpa using hc⟩

lemma trim_of_blank (h : Blank cs) : trim cs = [] := by
  rw [trim, trimFront_eq_nil_iff.mpr h]
  rfl

lemma trim_eq_nil_iff : trim cs = [] ↔ Blank cs := by
  refine ⟨?_,trim_of_blank⟩
  intro h
  rcases blank_or_exists cs with hb | ⟨a,c,b,rfl,-,hc⟩
  · exact hb
  · rw [trim_append_cons a b hc] at h
    simp at h

lemma trimFront_trimFront (cs : List Char) : trimFront (trimFront cs) = trimFront cs :=
  List.dropWhile_idempotent isBlank cs

lemma trim_trimFront (cs : List Char) : trim (trimFront cs) = trim cs := by
  rw [trim, trimFront_trimFront, trim]

/-- Blanks at the ends do not count. -/
lemma trim_append_of_blank (ha : Blank a) (hb : Blank b) : trim (a ++ cs ++ b) = trim cs := by
  rw [trim, List.append_assoc, trimFront_append_of_blank ha]
  rcases blank_or_exists cs with hc | ⟨d,c,e,rfl,-,hc⟩
  · rw [trimFront_append_of_blank hc, trimFront_eq_nil_iff.mpr hb, trim_of_blank hc]
    rfl
  · rw [List.append_assoc, List.cons_append, trimFront_append_cons _ _ hc, trimBack_append_cons _ _ hc,
      trimBack_append_of_blank e hb, trim_append_cons d e hc]

lemma trim_trim (cs : List Char) : trim (trim cs) = trim cs := by
  rcases blank_or_exists cs with h | ⟨a,c,b,rfl,ha,hc⟩
  · rw [trim_of_blank h]
    rfl
  · rw [trim_append_cons a b hc, trimFront_eq_nil_iff.mpr ha, trim_append_cons [] _ hc,
      trimBack_trimBack]
    rfl

lemma exists_append_trimFront (cs : List Char) : ∃ front, Blank front ∧ front ++ trimFront cs = cs :=
  ⟨cs.takeWhile isBlank,fun _ hc => List.mem_takeWhile_imp hc,List.takeWhile_append_dropWhile⟩

lemma exists_trimBack_append (cs : List Char) : ∃ back, Blank back ∧ trimBack cs ++ back = cs := by
  obtain ⟨front,hf,he⟩ := exists_append_trimFront cs.reverse
  refine ⟨front.reverse,fun c hc => hf c (List.mem_reverse.mp hc),?_⟩
  rw [trimBack_eq_reverse, ← List.reverse_append, he, List.reverse_reverse]

/-- Trimming takes away nothing but blanks. -/
lemma exists_append_trim (cs : List Char) :
    ∃ front back, Blank front ∧ Blank back ∧ front ++ trim cs ++ back = cs := by
  obtain ⟨front,hf,he⟩ := exists_append_trimFront cs
  obtain ⟨back,hb,ht⟩ := exists_trimBack_append (trimFront cs)
  refine ⟨front,back,hf,hb,?_⟩
  rw [trim, List.append_assoc, ht, he]

/-- No blank at either end. -/
def Trimmed (cs : List Char) : Prop :=
  (∀ c ∈ cs.head?, isBlank c = false) ∧ ∀ c ∈ cs.getLast?, isBlank c = false

lemma trimFront_eq_self_iff : trimFront cs = cs ↔ ∀ c ∈ cs.head?, isBlank c = false := by
  rw [trimFront, List.dropWhile_eq_self_iff]
  cases cs <;> simp

lemma trimBack_eq_self_iff : trimBack cs = cs ↔ ∀ c ∈ cs.getLast?, isBlank c = false := by
  rw [trimBack_eq_reverse, List.reverse_eq_iff, trimFront_eq_self_iff, List.head?_reverse]

lemma trimFront_trim (cs : List Char) : trimFront (trim cs) = trim cs := by
  rcases blank_or_exists cs with h | ⟨a,c,b,rfl,ha,hc⟩
  · rw [trim_of_blank h]
    rfl
  · rw [trim_append_cons a b hc, trimFront_eq_nil_iff.mpr ha, List.nil_append]
    exact trimFront_eq_self_iff.mpr (by simpa using hc)

lemma trim_eq_self_iff : trim cs = cs ↔ Trimmed cs := by
  rw [Trimmed, ← trimFront_eq_self_iff, ← trimBack_eq_self_iff]
  constructor
  · intro h
    refine ⟨?_,?_⟩
    · rw [← h, trimFront_trim]
    · rw [← h, trim, trimBack_trimBack]
  · rintro ⟨hf,hb⟩
    rw [trim, hf, hb]

lemma trimmed_trim (cs : List Char) : Trimmed (trim cs) :=
  trim_eq_self_iff.mp (trim_trim cs)

lemma mem_of_mem_trimFront (h : c ∈ trimFront cs) : c ∈ cs :=
  (List.dropWhile_suffix _).mem h

lemma mem_of_mem_trimBack (h : c ∈ trimBack cs) : c ∈ cs := by
  rw [trimBack_eq_reverse, List.mem_reverse] at h
  exact List.mem_reverse.mp (mem_of_mem_trimFront h)

lemma mem_of_mem_trim (h : c ∈ trim cs) : c ∈ cs :=
  mem_of_mem_trimFront (mem_of_mem_trimBack h)

end Trim

end Turnstile.Text
