import Turnstile.Overrides
import Turnstile.Proofs.Pieces
import Turnstile.Proofs.UserLookup

/-! Users in one text: pairs between commas, each an identity, a colon and a secret. Reading such a list and
writing it meet at `Writing`, which says of the pieces which pairs they stand for. Every list that can be read
comes to users that can be written, so that after one reading nothing is lost any more. -/
namespace Turnstile

namespace Override
open Text

/-- The piece has a colon, with this identity before the first one and this secret after it. Blanks count
only at the front of the secret. -/
def Names (piece : List Char) (e : String × String) : Prop :=
  ∃ front back, piece = front ++ ':' :: back ∧ ':' ∉ front ∧
    e = (String.ofList (trim front), String.ofList (trimBack back))

/-- The pair that a piece stands for, if any. -/
def named? (piece : List Char) : Option (String × String) := pair? (trim piece)

variable {piece : List Char} {e : String × String}

lemma isBlank_colon : isBlank ':' = false := by decide

lemma isBlank_comma : isBlank ',' = false := by decide

lemma named?_append_cons {front : List Char} (h : ':' ∉ front) (back : List Char) :
    named? (front ++ ':' :: back) =
      some (String.ofList (trim front), String.ofList (trimBack back)) := by
  have hf : ':' ∉ trimFront front := mt mem_of_mem_trimFront h
  rw [named?, trim_append_cons front back isBlank_colon, pair?, cutAt_append_cons hf, Option.map_some,
    ← trim_trimFront front]

lemma named?_eq_none_iff : named? piece = none ↔ ':' ∉ piece := by
  constructor
  · intro h hm
    obtain ⟨front,back,rfl,hf⟩ := List.eq_append_cons_of_mem hm
    cases (named?_append_cons hf back).symm.trans h
  · intro h
    rw [named?, pair?, cutAt_eq_none_iff.mpr (mt mem_of_mem_trim h)]
    rfl

lemma named?_eq_some_iff : named? piece = some e ↔ Names piece e := by
  constructor
  · intro h
    have hm : ':' ∈ piece := by
      by_contra hn
      cases (named?_eq_none_iff.mpr hn).symm.trans h
    obtain ⟨front,back,rfl,hf⟩ := List.eq_append_cons_of_mem hm
    rw [named?_append_cons hf] at h
    exact ⟨front,back,rfl,hf,(Option.some.inj h).symm⟩
  · rintro ⟨front,back,rfl,hf,rfl⟩
    exact named?_append_cons hf back

lemma notMem_of_blank {c : Char} (hc : isBlank c = false) {cs : List Char} (h : Blank cs) : c ∉ cs := by
  intro hm
  cases hc.symm.trans (h c hm)

/-! ### Reading -/

lemma mapM_eq_some_iff {α β : Type} {f : α → Option β} {l : List α} {bs : List β} :
    l.mapM f = some bs ↔ (∀ a ∈ l, (f a).isSome) ∧ l.filterMap f = bs := by
  induction l generalizing bs with
  | nil => simp
  | cons a l ih =>
    constructor
    · intro h
      rw [List.mapM_cons] at h
      obtain ⟨b,hb,hr⟩ := Option.bind_eq_some_iff.mp h
      obtain ⟨cs,hc,he⟩ := Option.bind_eq_some_iff.mp hr
      cases he
      obtain ⟨hs,rfl⟩ := ih.mp hc
      exact ⟨List.forall_mem_cons.mpr ⟨by simp [hb],hs⟩,List.filterMap_cons_some hb⟩
    · rintro ⟨hs,rfl⟩
      obtain ⟨ha,hl⟩ := List.forall_mem_cons.mp hs
      obtain ⟨b,hb⟩ := Option.isSome_iff_exists.mp ha
      rw [List.mapM_cons, hb, ih.mpr ⟨hl,rfl⟩, List.filterMap_cons_some hb]
      rfl

/-- The pieces that stand for something, cut free of blanks. -/
def items (s : String) : List (List Char) :=
  ((pieces ',' s.toList).map trim).filter (!·.isEmpty)

lemma mem_items_iff {s : String} {item : List Char} :
    item ∈ items s ↔ ∃ piece ∈ pieces ',' s.toList, ¬ Blank piece ∧ trim piece = item := by
  rw [items, List.mem_filter, List.mem_map]
  constructor
  · rintro ⟨⟨piece,hm,rfl⟩,hn⟩
    refine ⟨piece,hm,?_,rfl⟩
    intro hb
    rw [trim_of_blank hb] at hn
    cases hn
  · rintro ⟨piece,hm,hb,rfl⟩
    have hn : trim piece ≠ [] := mt trim_eq_nil_iff.mp hb
    exact ⟨⟨piece,hm,rfl⟩,by simpa using hn⟩

lemma filterMap_items (s : String) :
    (items s).filterMap pair? = (pieces ',' s.toList).filterMap named? := by
  rw [items, List.filterMap_filter, List.filterMap_map]
  congr 1
  funext piece
  rw [Function.comp_apply, named?]
  cases trim piece <;> rfl

/-- The pairs of a list are read if each piece has a colon, or is blank, and then later pairs go over
earlier ones. -/
lemma users?_eq_some_iff {s : String} {m : Users} :
    users? s = some m ↔
      (∀ piece ∈ pieces ',' s.toList, Blank piece ∨ ':' ∈ piece) ∧
        .ofList ((pieces ',' s.toList).filterMap named?) = m := by
  have hs (piece : List Char) : (pair? (trim piece)).isSome ↔ ':' ∈ piece := by
    rw [Option.isSome_iff_ne_none]
    exact not_iff_comm.mp named?_eq_none_iff.symm
  have hall : (∀ item ∈ items s, (pair? item).isSome) ↔
      ∀ piece ∈ pieces ',' s.toList, Blank piece ∨ ':' ∈ piece := by
    simp only [mem_items_iff, or_iff_not_imp_left]
    constructor
    · intro h piece hm hb
      exact (hs piece).mp (h _ ⟨piece,hm,hb,rfl⟩)
    · rintro h item ⟨piece,hm,hb,rfl⟩
      exact (hs piece).mpr (h piece hm hb)
  have hu : users? s = ((items s).mapM pair?).map Users.ofList := rfl
  rw [hu, Option.map_eq_some_iff]
  simp only [mapM_eq_some_iff, hall, filterMap_items]
  constructor
  · rintro ⟨es,⟨hp,rfl⟩,rfl⟩
    exact ⟨hp,rfl⟩
  · rintro ⟨hp,rfl⟩
    exact ⟨_,⟨hp,rfl⟩,rfl⟩

lemma users?_eq_none_iff {s : String} :
    users? s = none ↔ ∃ piece ∈ pieces ',' s.toList, ¬ Blank piece ∧ ':' ∉ piece := by
  constructor
  · intro h
    by_contra hn
    have hp : ∀ piece ∈ pieces ',' s.toList, Blank piece ∨ ':' ∈ piece := by
      intro piece hm
      by_contra hc
      exact hn ⟨piece,hm,not_or.mp hc⟩
    cases (users?_eq_some_iff.mpr ⟨hp,rfl⟩).symm.trans h
  · rintro ⟨piece,hm,hb,hc⟩
    rw [Option.eq_none_iff_forall_ne_some]
    intro m h
    exact ((users?_eq_some_iff.mp h).1 piece hm).elim hb hc

/-- The last piece that names an identity counts. -/
lemma lookup_filterMap_named? {ps : List (List Char)} {identity secret : String} :
    (ps.filterMap named?).reverse.lookup identity = some secret ↔
      ∃ before piece after, ps = before ++ piece :: after ∧ Names piece (identity, secret) ∧
        ∀ later ∈ after, ∀ other, ¬ Names later (identity, other) := by
  rw [Pairs.lookup_reverse_eq_some_iff]
  simp only [← named?_eq_some_iff]
  constructor
  · rintro ⟨front,back,he,hb⟩
    obtain ⟨as,bs,rfl,-,hbs⟩ := List.filterMap_eq_append_iff.mp he
    obtain ⟨cs,piece,ds,rfl,-,hp,rfl⟩ := List.filterMap_eq_cons_iff.mp hbs
    refine ⟨as ++ cs,piece,ds,by simp,hp,?_⟩
    intro later hl other ho
    exact hb _ (List.mem_filterMap.mpr ⟨later,hl,ho⟩) rfl
  · rintro ⟨before,piece,after,rfl,hp,ha⟩
    refine ⟨before.filterMap named?,after.filterMap named?,?_,?_⟩
    · rw [List.filterMap_append, List.filterMap_cons_some hp]
    · rintro ⟨name,other⟩ hm rfl
      obtain ⟨later,hl,ho⟩ := List.mem_filterMap.mp hm
      exact ha later hl other ho

lemma secret?_of_users? {s : String} {m : Users} (h : users? s = some m) (identity secret : String) :
    m.secret? identity = some secret ↔
      ∃ before piece after, pieces ',' s.toList = before ++ piece :: after ∧
        Names piece (identity, secret) ∧
          ∀ later ∈ after, ∀ other, ¬ Names later (identity, other) := by
  rw [← (users?_eq_some_iff.mp h).2, Users.secret?_ofList, lookup_filterMap_named?]

lemma mem_identities_of_users? {s : String} {m : Users} (h : users? s = some m) (identity : String) :
    identity ∈ m.identities ↔
      ∃ piece ∈ pieces ',' s.toList, ∃ secret, Names piece (identity, secret) := by
  rw [← (users?_eq_some_iff.mp h).2, Users.mem_identities_ofList, List.mem_map]
  simp only [← named?_eq_some_iff, List.mem_filterMap]
  constructor
  · rintro ⟨⟨_,secret⟩,⟨piece,hm,hp⟩,rfl⟩
    exact ⟨piece,hm,secret,hp⟩
  · rintro ⟨piece,hm,secret,hp⟩
    exact ⟨_,⟨piece,hm,hp⟩,rfl⟩

/-! ### Writing -/

/-- A pair that can be written in a list and read again. -/
structure Listable (e : String × String) : Prop where
  trimmed : trim e.1.toList = e.1.toList
  noColon : ':' ∉ e.1.toList
  noComma : ',' ∉ e.1.toList ∧ ',' ∉ e.2.toList
  noBlankEnd : trimBack e.2.toList = e.2.toList

/-- Pieces that write pairs, one after another: blanks may stand around an identity and after a secret, and
blank pieces anywhere. -/
inductive Writing : List (List Char) → List (String × String) → Prop
  | nil : Writing [] []
  | blank {piece ps es} (h : Blank piece) (rest : Writing ps es) : Writing (piece :: ps) es
  | pair {front middle back e ps es} (hf : Blank front) (hm : Blank middle) (hb : Blank back)
      (rest : Writing ps es) :
      Writing ((front ++ e.1.toList ++ middle ++ ':' :: (e.2.toList ++ back)) :: ps) (e :: es)

lemma named?_of_writes {front middle back : List Char} (hf : Blank front) (hm : Blank middle)
    (hb : Blank back) (he : Listable e) :
    named? (front ++ e.1.toList ++ middle ++ ':' :: (e.2.toList ++ back)) = some e := by
  have hc : ':' ∉ front ++ e.1.toList ++ middle := by
    simp [notMem_of_blank isBlank_colon hf, notMem_of_blank isBlank_colon hm, he.noColon]
  rw [named?_append_cons hc, trim_append_of_blank hf hm, trimBack_append_of_blank _ hb, he.trimmed,
    he.noBlankEnd, String.ofList_toList, String.ofList_toList]

variable {ps : List (List Char)} {es : List (String × String)}

lemma Writing.noComma (h : Writing ps es) (he : ∀ e ∈ es, Listable e) : ∀ piece ∈ ps, ',' ∉ piece := by
  induction h with
  | nil => simp
  | blank hb _ ih => exact List.forall_mem_cons.mpr ⟨notMem_of_blank isBlank_comma hb,ih he⟩
  | pair hf hm hb _ ih =>
    obtain ⟨hl,hes⟩ := List.forall_mem_cons.mp he
    refine List.forall_mem_cons.mpr ⟨?_,ih hes⟩
    simp [notMem_of_blank isBlank_comma hf, notMem_of_blank isBlank_comma hm,
      notMem_of_blank isBlank_comma hb, hl.noComma]

lemma Writing.readable (h : Writing ps es) : ∀ piece ∈ ps, Blank piece ∨ ':' ∈ piece := by
  induction h with
  | nil => simp
  | blank hb _ ih => exact List.forall_mem_cons.mpr ⟨Or.inl hb,ih⟩
  | pair _ _ _ _ ih => exact List.forall_mem_cons.mpr ⟨Or.inr (by simp),ih⟩

lemma Writing.filterMap_named? (h : Writing ps es) (he : ∀ e ∈ es, Listable e) :
    ps.filterMap named? = es := by
  induction h with
  | nil => rfl
  | blank hb _ ih =>
    have hn := named?_eq_none_iff.mpr (notMem_of_blank isBlank_colon hb)
    rw [List.filterMap_cons_none hn, ih he]
  | pair hf hm hb _ ih =>
    obtain ⟨hl,hes⟩ := List.forall_mem_cons.mp he
    rw [List.filterMap_cons_some (named?_of_writes hf hm hb hl), ih hes]

/-- What was written is read again. -/
lemma users?_of_writing (h : Writing ps es) (he : ∀ e ∈ es, Listable e) :
    users? (String.ofList ([','].intercalate ps)) = some (.ofList es) := by
  rw [users?_eq_some_iff, String.toList_ofList]
  rcases eq_or_ne ps [] with rfl | hp
  · cases h
    exact ⟨fun piece hm => Or.inl (by simp_all [pieces, Blank]),rfl⟩
  · rw [pieces_intercalate hp (h.noComma he), h.filterMap_named? he]
    exact ⟨h.readable,rfl⟩

lemma Listable.of_named (h : named? piece = some e) (hc : ',' ∉ piece) : Listable e := by
  obtain ⟨front,back,rfl,hf,rfl⟩ := named?_eq_some_iff.mp h
  obtain ⟨hcf,hcb⟩ := not_or.mp (mt List.mem_append.mpr hc)
  constructor
  · simp only [String.toList_ofList, trim_trim]
  · simpa using mt mem_of_mem_trim hf
  · simp only [String.toList_ofList]
    exact ⟨mt mem_of_mem_trim hcf,fun hm => hcb (List.mem_cons_of_mem _ (mem_of_mem_trimBack hm))⟩
  · simp only [String.toList_ofList, trimBack_trimBack]

end Override

namespace Users
open Override

/-- All pairs can be written in a list. -/
def Listable (users : Users) : Prop := ∀ e ∈ users.entries, Override.Listable e

/-- The users as a list. -/
def written (users : Users) : String :=
  ",".intercalate (users.entries.map fun e => e.1 ++ ":" ++ e.2)

lemma writing_plain (es : List (String × String)) :
    Writing (es.map fun e => (e.1 ++ ":" ++ e.2).toList) es := by
  have hn : Text.Blank [] := by simp [Text.Blank]
  induction es with
  | nil => exact .nil
  | cons e es ih => simpa using @Writing.pair [] [] [] e _ es hn hn hn ih

lemma written_eq (users : Users) :
    users.written =
      String.ofList ([','].intercalate (users.entries.map fun e => (e.1 ++ ":" ++ e.2).toList)) := by
  apply String.toList_injective
  simp only [written, String.toList_intercalate, String.toList_ofList, List.map_map]
  rfl

lemma listable_of_users? {s : String} {m : Users} (h : users? s = some m) : m.Listable := by
  rw [← (users?_eq_some_iff.mp h).2]
  intro e he
  obtain ⟨piece,hp,hn⟩ := List.mem_filterMap.mp (mem_of_mem_ofList he)
  exact .of_named hn (Text.notMem_of_mem_pieces hp)

lemma users?_of_writing_perm {m : Users} (hm : m.Listable) {es : List (String × String)}
    {ps : List (List Char)} (hp : es.Perm m.entries) (h : Writing ps es) :
    users? (String.ofList ([','].intercalate ps)) = some m := by
  rw [users?_of_writing h fun e he => hm e (hp.mem_iff.mp he), ofList_eq_insertAll,
    insertAll_of_perm hp]

lemma users?_written {m : Users} (hm : m.Listable) : users? m.written = some m := by
  rw [written_eq]
  exact users?_of_writing_perm hm (List.Perm.refl _) (writing_plain _)

end Users

namespace Override

/-- A list of users is refused if and only if a piece that is not blank has no colon. Otherwise each identity
has the secret of the last piece that names it. These users can be written in a list again, and any users of
whom this is true are read from every such list, in whatever order the pairs stand and however many blanks
and blank pieces there are. -/
theorem users?_piecewise (s : String) :
    (users? s = none ↔ ∃ piece ∈ Text.pieces ',' s.toList, ¬ Text.Blank piece ∧ ':' ∉ piece) ∧
    (∀ m, users? s = some m →
      (∀ identity secret, m.secret? identity = some secret ↔
        ∃ before piece after, Text.pieces ',' s.toList = before ++ piece :: after ∧
          Names piece (identity, secret) ∧
            ∀ later ∈ after, ∀ other, ¬ Names later (identity, other)) ∧
      m.Listable ∧ users? m.written = some m) ∧
    ∀ (m : Users) (es : List (String × String)) (ps : List (List Char)), m.Listable →
      es.Perm m.entries → Writing ps es → users? (String.ofList ([','].intercalate ps)) = some m := by
  refine ⟨users?_eq_none_iff,?_,?_⟩
  · intro m h
    have hl := Users.listable_of_users? h
    exact ⟨secret?_of_users? h,hl,Users.users?_written hl⟩
  · intro m es ps hm hp h
    exact Users.users?_of_writing_perm hm hp h

/-- A second pair for the same identity, an empty identity, a secret with a colon and blanks of its own. The
users are read again from a list in which the pairs change places. -/
theorem users?_piecewise_repeated_identity :
    let m := (Users.empty.insert "bob" "\t:q").insert "" "x"
    let ps := [[' '], "bob :\t:q".toList, [], ":x ".toList]
    users? " bob : a ,\t, :x,bob:\t:q " = some m ∧ m.secret? "bob" = some "\t:q" ∧
      users? m.written = some m ∧ [("bob", "\t:q"), ("", "x")].Perm m.entries ∧
        Writing ps [("bob", "\t:q"), ("", "x")] ∧
          users? (String.ofList ([','].intercalate ps)) = some m := by
  intro m ps
  have h : users? " bob : a ,\t, :x,bob:\t:q " = some m := by decide
  obtain ⟨hs,hl,hw⟩ := (users?_piecewise " bob : a ,\t, :x,bob:\t:q ").2.1 m h
  have hp : [("bob", "\t:q"), ("", "x")].Perm m.entries := List.Perm.swap ..
  have hn : Text.Blank [] := by decide
  have hb : Text.Blank [' '] := by decide
  have hps : Writing ps [("bob", "\t:q"), ("", "x")] := by
    have hx := @Writing.pair [] [] [' '] ("", "x") _ _ hn hn hb .nil
    have hbob := @Writing.pair [] [' '] [] ("bob", "\t:q") _ _ hn hb hn (.blank hn hx)
    exact .blank hb hbob
  refine ⟨h,?_,hw,hp,hps,?_⟩
  · exact (hs "bob" "\t:q").mpr ⟨[" bob : a ".toList, "\t".toList, " :x".toList],
      "bob:\t:q ".toList,[],by decide,named?_eq_some_iff.mp (by decide),by simp⟩
  · exact (users?_piecewise "").2.2 m _ ps hl hp hps

end Override

end Turnstile
