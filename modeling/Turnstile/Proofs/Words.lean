import Mathlib.Data.List.Forall2
import Mathlib.Data.List.Nodup
import Turnstile.Proofs.Leaves

/-! Words in small letters or capitals or both. A text reads as a word if it is the word letter by letter, but
for the case of its own letters, so no text is two words. What a variable may hold for a field with a fixed
choice of words can be read off these words. -/
namespace Turnstile

/-- The text is the word, in small letters or capitals or both. -/
def Text.Spells (s word : String) : Prop :=
  List.Forall₂ (fun c letter => c = letter ∨ c = letter.toUpper) s.toList word.toList

namespace Text

lemma isUpper_iff {c : Char} : c.isUpper = true ↔ 65 ≤ c.toNat ∧ c.toNat ≤ 90 :=
  decide_eq_true_iff

lemma toNat_toLower (c : Char) :
    c.toLower.toNat = if 65 ≤ c.toNat ∧ c.toNat ≤ 90 then c.toNat + 32 else c.toNat := by
  by_cases h : c.val ≥ 'A'.val ∧ c.val ≤ 'Z'.val
  · have hn : 65 ≤ c.toNat ∧ c.toNat ≤ 90 := h
    have hc : c.toLower = _ := dif_pos h
    rw [hc, if_pos hn]
    simp only [← Char.toNat_val, UInt32.toNat_add, UInt32.reduceSub, Char.reduceVal,
      UInt32.reduceToNat] at hn ⊢
    omega
  · have hn : ¬ (65 ≤ c.toNat ∧ c.toNat ≤ 90) := h
    have hc : c.toLower = c := dif_neg h
    rw [hc, if_neg hn]

lemma toNat_toUpper (c : Char) :
    c.toUpper.toNat = if 97 ≤ c.toNat ∧ c.toNat ≤ 122 then c.toNat - 32 else c.toNat := by
  by_cases h : 'a'.val ≤ c.val ∧ c.val ≤ 'z'.val
  · have hn : 97 ≤ c.toNat ∧ c.toNat ≤ 122 := h
    have hc : c.toUpper = _ := dif_pos h
    rw [hc, if_pos hn]
    simp only [← Char.toNat_val, UInt32.toNat_add, UInt32.reduceSub, Char.reduceVal,
      UInt32.reduceToNat] at hn ⊢
    omega
  · have hn : ¬ (97 ≤ c.toNat ∧ c.toNat ≤ 122) := h
    have hc : c.toUpper = c := dif_neg h
    rw [hc, if_neg hn]

/-- What is no capital is what it is itself made small, and what its capital is made small. -/
lemma toLower_eq_iff {c letter : Char} (h : letter.isUpper = false) :
    c.toLower = letter ↔ c = letter ∨ c = letter.toUpper := by
  rw [Bool.eq_false_iff, Ne, isUpper_iff] at h
  rw [← Char.toNat_inj, ← Char.toNat_inj, ← Char.toNat_inj, toNat_toLower, toNat_toUpper]
  split_ifs <;> omega

lemma small_eq_iff {cs word : List Char} (h : ∀ letter ∈ word, letter.isUpper = false) :
    small cs = word ↔ List.Forall₂ (fun c letter => c = letter ∨ c = letter.toUpper) cs word := by
  induction word generalizing cs with
  | nil => simp [small]
  | cons letter word ih =>
    obtain ⟨hl,hw⟩ := List.forall_mem_cons.mp h
    cases cs with
    | nil => simp [small]
    | cons c cs =>
      rw [List.forall₂_cons, ← ih hw, ← toLower_eq_iff hl]
      exact List.cons_eq_cons

/-- No letter of the word is a capital. -/
def Small (word : String) : Prop := ∀ letter ∈ word.toList, letter.isUpper = false

instance : DecidablePred Small := fun word =>
  List.decidableBAll (fun letter : Char => letter.isUpper = false) word.toList

lemma readsAs_iff {s word : String} (h : Small word) : readsAs s word = true ↔ Spells s word := by
  rw [readsAs, beq_iff_eq]
  exact small_eq_iff h

/-- No text is two words. -/
lemma Spells.unique {s word other : String} (hw : Small word) (ho : Small other)
    (h : Spells s word) (h' : Spells s other) : word = other := by
  rw [← readsAs_iff hw, readsAs, beq_iff_eq] at h
  rw [← readsAs_iff ho, readsAs, beq_iff_eq, h] at h'
  exact String.toList_injective h'

end Text

namespace Override
open Text

/-- The words for a truth value. -/
def words : Bool → List String
  | true => ["true", "1", "yes", "on"]
  | false => ["false", "0", "no", "off"]

lemma small_of_mem_words {b : Bool} {word : String} (h : word ∈ words b) : Small word := by
  have hs : ∀ word ∈ words b, Small word := by cases b <;> decide
  exact hs word h

lemma notMem_words_false {word : String} (h : word ∈ words true) : word ∉ words false := by
  have hd : ∀ word ∈ words true, word ∉ words false := by decide
  exact hd word h

lemma any_readsAs_iff {s : String} {b : Bool} :
    (words b).any (readsAs s) = true ↔ ∃ word ∈ words b, Spells s word := by
  rw [List.any_eq_true]
  exact exists_congr fun word => and_congr_right fun h => readsAs_iff (small_of_mem_words h)

/-- A text is a truth value if it is one of the words for it. -/
theorem boolean?_eq_some_iff {s : String} {b : Bool} :
    boolean? s = some b ↔ ∃ word ∈ words b, Spells s word := by
  -- The two lists have no word in common, so the order in which they are tried does not count.
  have hne (ht : (words true).any (readsAs s) = true) : (words false).any (readsAs s) = false := by
    rw [Bool.eq_false_iff]
    intro hf
    obtain ⟨word,hw,hs⟩ := any_readsAs_iff.mp ht
    obtain ⟨other,ho,hs'⟩ := any_readsAs_iff.mp hf
    have he : word = other := hs.unique (small_of_mem_words hw) (small_of_mem_words ho) hs'
    exact notMem_words_false hw (he ▸ ho)
  have hb : boolean? s = if (words true).any (readsAs s) then some true
    else if (words false).any (readsAs s) then some false else none := rfl
  rw [← any_readsAs_iff, hb]
  cases ht : (words true).any (readsAs s) with
  | true => cases b <;> simp [ht, hne]
  | false => cases b <;> simp [ht]

section Choice
variable {α : Type} {values : List α} {nameOf : α → String} {s : String} {v : α}

lemma mem_of_choice? (h : choice? values nameOf s = some v) : v ∈ values := List.mem_of_find?_eq_some h

lemma spells_of_choice? (hs : ∀ v ∈ values, Small (nameOf v)) (h : choice? values nameOf s = some v) :
    Spells s (nameOf v) := by
  have hr : readsAs s (nameOf v) = true := by simpa using List.find?_some h
  exact (readsAs_iff (hs v (mem_of_choice? h))).mp hr

/-- A text is one of several named values if it is the name of it. -/
theorem choice?_eq_some_iff (hs : ∀ v ∈ values, Small (nameOf v)) (hn : (values.map nameOf).Nodup) :
    choice? values nameOf s = some v ↔ v ∈ values ∧ Spells s (nameOf v) := by
  constructor
  · intro h
    exact ⟨mem_of_choice? h,spells_of_choice? hs h⟩
  · rintro ⟨hv,hr⟩
    have hfound : (choice? values nameOf s).isSome = true :=
      List.find?_isSome.mpr ⟨v,hv,(readsAs_iff (hs v hv)).mpr hr⟩
    obtain ⟨w,h⟩ := Option.isSome_iff_exists.mp hfound
    have hw := mem_of_choice? h
    have hname : nameOf w = nameOf v := (spells_of_choice? hs h).unique (hs w hw) (hs v hv) hr
    rw [h, List.inj_on_of_nodup_map hn hw hv hname]

lemma route?_eq_some_iff {route : Route} :
    choice? Route.all Route.name s = some route ↔ Spells s route.name := by
  have hs : ∀ route ∈ Route.all, Small route.name := by decide
  have hm : route ∈ Route.all := by cases route <;> decide
  rw [choice?_eq_some_iff hs (by decide), and_iff_right hm]

lemma logFormat?_eq_some_iff {format : LogFormat} :
    choice? LogFormat.all LogFormat.name s = some format ↔ Spells s format.name := by
  have hs : ∀ format ∈ LogFormat.all, Small format.name := by decide
  have hm : format ∈ LogFormat.all := by cases format <;> decide
  rw [choice?_eq_some_iff hs (by decide), and_iff_right hm]

end Choice

namespace Leaf

/-- The words for a value of the field, if the field has a fixed choice of them. -/
def words? : (leaf : Leaf) → leaf.Value → Option (List String)
  | defaultRoute, route => some [route.name]
  | logEnabled, b => some (Override.words b)
  | logFormat, format => some [format.name]
  | metricsEnabled, b => some (Override.words b)
  | _, _ => none

/-- A field with a fixed choice of words takes these and no others, each as the value that it is for. -/
theorem read?_eq_some_iff {leaf : Leaf} {v : leaf.Value} {words : List String}
    (h : leaf.words? v = some words) {text : String} :
    leaf.read? text = some v ↔ ∃ word ∈ words, Spells text word := by
  cases leaf with
  | defaultRoute =>
    cases h
    exact route?_eq_some_iff.trans (by simp)
  | logEnabled =>
    cases h
    exact boolean?_eq_some_iff
  | logFormat =>
    cases h
    exact logFormat?_eq_some_iff.trans (by simp)
  | metricsEnabled =>
    cases h
    exact boolean?_eq_some_iff
  | _ => cases h

end Leaf

end Override

end Turnstile
