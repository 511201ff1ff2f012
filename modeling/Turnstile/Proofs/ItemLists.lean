import Turnstile.Proofs.UserLists

/-! Items in one text, with commas between them. Reading such a list and writing it meet at `Listing`, which says
of the pieces which items they stand for. What is read can be written again, and however it is written, the
same items are read from it, in the same order and as often. -/
namespace Turnstile.Override
open Text

/-- An item that can be written in a list and read again. -/
structure Writable (item : String) : Prop where
  nonempty : item ≠ ""
  trimmed : Trimmed item.toList
  noComma : ',' ∉ item.toList

/-- Pieces that write items, one after another: blanks may stand around an item, and blank pieces anywhere. -/
inductive Listing : List (List Char) → List String → Prop
  | nil : Listing [] []
  | blank {piece ps items} (h : Blank piece) (rest : Listing ps items) : Listing (piece :: ps) items
  | item {front back ps items} (item : String) (hf : Blank front) (hb : Blank back)
      (rest : Listing ps items) : Listing ((front ++ item.toList ++ back) :: ps) (item :: items)

/-- The item that a piece stands for, if any. -/
def item? (piece : List Char) : Option String :=
  if (trim piece).isEmpty then none else some (String.ofList (trim piece))

section Pieces
variable {piece front back : List Char} {item : String} {ps : List (List Char)} {items : List String}

lemma item?_of_blank (h : Blank piece) : item? piece = none := by
  rw [item?, trim_of_blank h]
  rfl

lemma item?_of_not_blank (h : ¬ Blank piece) : item? piece = some (String.ofList (trim piece)) := by
  have hn : trim piece ≠ [] := mt trim_eq_nil_iff.mp h
  rw [item?, if_neg (by simpa using hn)]

lemma item?_of_writable (hf : Blank front) (hb : Blank back) (hw : Writable item) :
    item? (front ++ item.toList ++ back) = some item := by
  have ht : trim (front ++ item.toList ++ back) = item.toList := by
    rw [trim_append_of_blank hf hb, trim_eq_self_iff.mpr hw.trimmed]
  have hn : item.toList ≠ [] := mt String.toList_eq_nil_iff.mp hw.nonempty
  rw [item?, ht, if_neg (by simpa using hn), String.ofList_toList]

lemma Writable.of_item? (h : item? piece = some item) (hc : ',' ∉ piece) : Writable item := by
  have hb : ¬ Blank piece := by
    intro hb
    cases (item?_of_blank hb).symm.trans h
  rw [item?_of_not_blank hb] at h
  cases h
  constructor
  · intro he
    exact hb (trim_eq_nil_iff.mp (String.ofList_eq_empty_iff.mp he))
  · rw [String.toList_ofList]
    exact trimmed_trim piece
  · rw [String.toList_ofList]
    exact mt mem_of_mem_trim hc

lemma filterMap_item? (ps : List (List Char)) :
    ps.filterMap item? = (ps.filter (¬ Blank ·)).map fun piece => String.ofList (trim piece) := by
  induction ps with
  | nil => rfl
  | cons piece ps ih =>
    by_cases hb : Blank piece
    · rw [List.filterMap_cons_none (item?_of_blank hb), List.filter_cons_of_neg (by simpa using hb), ih]
    · rw [List.filterMap_cons_some (item?_of_not_blank hb), List.filter_cons_of_pos (by simpa using hb),
        List.map_cons, ih]

/-- Whatever the pieces are, they write what they stand for. -/
lemma listing_filterMap_item? (ps : List (List Char)) : Listing ps (ps.filterMap item?) := by
  induction ps with
  | nil => exact .nil
  | cons piece ps ih =>
    by_cases hb : Blank piece
    · rw [List.filterMap_cons_none (item?_of_blank hb)]
      exact .blank hb ih
    · rw [List.filterMap_cons_some (item?_of_not_blank hb)]
      obtain ⟨front,back,hf,hk,he⟩ := exists_append_trim piece
      have hl := Listing.item (String.ofList (trim piece)) hf hk ih
      rwa [String.toList_ofList, he] at hl

lemma Listing.filterMap_item? (h : Listing ps items) (hw : ∀ item ∈ items, Writable item) :
    ps.filterMap item? = items := by
  induction h with
  | nil => rfl
  | blank hb _ ih => rw [List.filterMap_cons_none (item?_of_blank hb), ih hw]
  | item item hf hb _ ih =>
    obtain ⟨hi,his⟩ := List.forall_mem_cons.mp hw
    rw [List.filterMap_cons_some (item?_of_writable hf hb hi), ih his]

lemma Listing.noComma (h : Listing ps items) (hw : ∀ item ∈ items, Writable item) :
    ∀ piece ∈ ps, ',' ∉ piece := by
  induction h with
  | nil => simp
  | blank hb _ ih => exact List.forall_mem_cons.mpr ⟨notMem_of_blank isBlank_comma hb,ih hw⟩
  | item item hf hb _ ih =>
    obtain ⟨hi,his⟩ := List.forall_mem_cons.mp hw
    refine List.forall_mem_cons.mpr ⟨?_,ih his⟩
    simp [notMem_of_blank isBlank_comma hf, notMem_of_blank isBlank_comma hb, hi.noComma]

lemma listing_plain (items : List String) : Listing (items.map String.toList) items := by
  have hn : Blank [] := by simp [Blank]
  induction items with
  | nil => exact .nil
  | cons item items ih => simpa using Listing.item item hn hn ih

end Pieces

section Lists
variable {s item : String} {ps : List (List Char)} {items : List String}

lemma list_eq_filterMap (s : String) : list s = (pieces ',' s.toList).filterMap item? := by
  rw [list, List.filterMap_map]
  rfl

lemma writable_of_mem_list (h : item ∈ list s) : Writable item := by
  rw [list_eq_filterMap] at h
  obtain ⟨piece,hp,hi⟩ := List.mem_filterMap.mp h
  exact .of_item? hi (notMem_of_mem_pieces hp)

/-- What was written is read again. -/
lemma list_of_listing (h : Listing ps items) (hw : ∀ item ∈ items, Writable item) :
    list (String.ofList ([','].intercalate ps)) = items := by
  rw [list_eq_filterMap, String.toList_ofList]
  rcases eq_or_ne ps [] with rfl | hp
  · -- no pieces are joined to the empty text, which is cut into one empty piece
    cases h
    rfl
  · rw [pieces_intercalate hp (h.noComma hw), h.filterMap_item? hw]

lemma list_intercalate (hw : ∀ item ∈ items, Writable item) : list (",".intercalate items) = items := by
  have he : ",".intercalate items = String.ofList ([','].intercalate (items.map String.toList)) := by
    apply String.toList_injective
    simp only [String.toList_intercalate, String.toList_ofList]
    rfl
  rw [he, list_of_listing (listing_plain items) hw]

end Lists

/-- A list has an item for each piece that is not blank, in order: the piece without the blanks around it. These
items can be written in a list, and any items of which this is true are read from every list that they are
written in, whatever blanks and blank pieces there are. So a list that was read and put together again reads
the same. -/
theorem list_normalises (s : String) :
    (list s = ((pieces ',' s.toList).filter (¬ Blank ·)).map fun piece => String.ofList (trim piece)) ∧
    Listing (pieces ',' s.toList) (list s) ∧ (∀ item ∈ list s, Writable item) ∧
    (∀ (ps : List (List Char)) (items : List String), Listing ps items →
      (∀ item ∈ items, Writable item) → list (String.ofList ([','].intercalate ps)) = items) ∧
    list (",".intercalate (list s)) = list s := by
  have hw : ∀ item ∈ list s, Writable item := fun _ => writable_of_mem_list
  refine ⟨?_,?_,hw,fun _ _ => list_of_listing,list_intercalate hw⟩
  · rw [list_eq_filterMap, filterMap_item?]
  · rw [list_eq_filterMap]
    exact listing_filterMap_item? _

/-- The same item twice, blanks of several kinds and pieces that are blank or empty. The items are read again from
a list with other blanks and other pieces between them. -/
theorem list_normalises_repeated_item :
    let items := ["ops", "on call", "ops"]
    let ps := [['\t'], "ops".toList, " on call\n".toList, [], "ops ".toList, []]
    list ",ops ,\u3000on call,\t ,,\u00a0ops" = items ∧ Listing ps items ∧ (∀ item ∈ items, Writable item) ∧
      list (String.ofList ([','].intercalate ps)) = items ∧ list (",".intercalate items) = items := by
  intro items ps
  have h : list ",ops ,\u3000on call,\t ,,\u00a0ops" = items := by decide
  obtain ⟨-,-,hw,hwritten,hagain⟩ := list_normalises ",ops ,\u3000on call,\t ,,\u00a0ops"
  rw [h] at hw hagain
  have hn : Blank [] := by decide
  have hb : Blank [' '] := by decide
  have hl : Blank ['\n'] := by decide
  have ht : Blank ['\t'] := by decide
  have hps : Listing ps items := by
    have hlast := Listing.item "ops" hn hb (.blank hn .nil)
    have hmiddle := Listing.item "on call" hb hl (.blank hn hlast)
    exact .blank ht (.item "ops" hn hn hmiddle)
  exact ⟨h,hps,hw,hwritten ps items hps hw,hagain⟩

end Turnstile.Override
