import Turnstile.Loader
import Turnstile.Proofs.VariableNames

/-! Files of variables and the null character. A value is put together from its line, from variables that
are set and from escapes, of which none stands for the null character. So a value can hold one only if the
file or a variable already does. -/
namespace Turnstile

/-- Neither a name nor a value holds the null character. -/
def Environment.NullFree (env : Environment) : Prop :=
  ∀ e ∈ env.entries, '\x00' ∉ e.1.toList ∧ '\x00' ∉ e.2.toList

/-- The content of the file, if it is one, holds no null character. -/
def Found.NullFree : Found → Prop
  | .text content => '\x00' ∉ content.toList
  | .bytes content => 0 ∉ content
  | _ => True

namespace Environment
variable {env : Environment} {name value : String}

lemma NullFree.after? (h : env.NullFree) (ha : env.after? name = some value) :
    '\x00' ∉ value.toList := by
  obtain ⟨⟨n,v⟩,he,hs⟩ := List.exists_of_findSome?_eq_some ha
  obtain ⟨rest,hr,rfl⟩ := Option.map_eq_some_iff.mp hs
  have hw : '\x00' ∉ (n ++ "=" ++ v).toList := by simpa using h _ he
  rw [Text.after?_eq_some_iff.mp hr] at hw
  simpa using fun hm => hw (List.mem_append_right _ hm)

lemma NullFree.setDefault (h : env.NullFree) (hn : '\x00' ∉ name.toList)
    (hv : '\x00' ∉ value.toList) : (env.setDefault name value).NullFree := by
  rw [Environment.setDefault]
  split
  · exact h
  · intro e he
    rcases List.mem_append.mp he with he | he
    · exact h e he
    · rw [List.mem_singleton.mp he]
      exact ⟨hn,hv⟩

end Environment

namespace DotEnv
variable {scope : Scope} {line : List Char}

/-- Neither the variables nor what earlier lines set hold the null character. -/
structure Scope.NullFree (scope : Scope) : Prop where
  env : scope.env.NullFree
  earlier : ∀ e ∈ scope.earlier, '\x00' ∉ e.2.toList

lemma Scope.NullFree.value (h : scope.NullFree) (name : List Char) :
    '\x00' ∉ scope.value name := by
  rw [Scope.value]
  cases ha : scope.env.after? (String.ofList name) with
  | some value => exact h.env.after? ha
  | none =>
    cases hl : scope.earlier.lookup (String.ofList name) with
    | some value =>
      obtain ⟨a,b,he,-⟩ := List.lookup_eq_some_iff.mp hl
      exact h.earlier (String.ofList name, value) (by simp [he])
    | none => simp

lemma escaped?_ne_null {c e : Char} (h : escaped? c = some e) : e ≠ '\x00' := by
  rintro rfl
  rw [escaped?] at h
  split at h
  · cases h
  · split at h
    · cases h
      contradiction
    · cases h

/-- A character adds itself, a value or what it is an escape for. -/
lemma readChar_nullFree (hs : scope.NullFree) {state next : ValueState} {c : Char}
    (hc : c ≠ '\x00') {added : List Char} (h : readChar scope state c = some (added, next)) :
    '\x00' ∉ added := by
  have hv (name : List Char) := hs.value name
  have he (s : ValueState) (h : (escaped? c).map (fun e => ([e], s)) = some (added, next)) :
      '\x00' ∉ added := by
    obtain ⟨e,he,h⟩ := Option.map_eq_some_iff.mp h
    cases h
    simpa using (escaped?_ne_null he).symm
  cases state with
  | bareEscape => exact he _ h
  | doubleEscape => exact he _ h
  | comment =>
    cases h
    simp
  | _ =>
    simp only [readChar] at h
    split_ifs at h <;> cases h <;> simp [hv, hc.symm]

lemma endValue_nullFree (hs : scope.NullFree) {state : ValueState} {rest : List Char}
    (h : endValue scope state = some rest) : '\x00' ∉ rest := by
  cases state with
  | name quoted letters =>
    cases quoted with
    | false =>
      cases h
      exact hs.value letters
    | true => cases h
  | _ => cases h <;> simp

lemma readValue_nullFree (hs : scope.NullFree) {state : ValueState} (hl : '\x00' ∉ line)
    {value : List Char} (h : readValue scope state line = some value) : '\x00' ∉ value := by
  induction line generalizing state value with
  | nil => exact endValue_nullFree hs h
  | cons c line ih =>
    rw [List.mem_cons, not_or] at hl
    obtain ⟨hc,hl⟩ := hl
    obtain ⟨⟨added,next⟩,ha,h⟩ := Option.bind_eq_some_iff.mp h
    obtain ⟨rest,hr,h⟩ := Option.bind_eq_some_iff.mp h
    cases h
    rw [List.mem_append, not_or]
    exact ⟨readChar_nullFree hs (Ne.symm hc) ha,ih hl hr⟩

lemma readKey_nullFree (hl : '\x00' ∉ line) {name : String} {rest : List Char}
    (h : readKey line = some (name, rest)) : '\x00' ∉ name.toList ∧ '\x00' ∉ rest := by
  cases line with
  | nil => cases h
  | cons c line =>
    simp only [readKey] at h
    split_ifs at h
    cases h
    constructor
    · simpa using fun hm => hl (List.takeWhile_subset _ hm)
    · exact fun hm => hl ((List.dropWhile_suffix _).mem (Text.mem_of_mem_trimFront hm))

lemma readEquals_nullFree (hl : '\x00' ∉ line) {rest : List Char}
    (h : readEquals line = some rest) : '\x00' ∉ rest := by
  rw [readEquals.eq_def] at h
  split at h
  · cases h
    exact fun hm => hl (List.mem_cons_of_mem _ (Text.mem_of_mem_trimFront hm))
  · cases h

lemma readName_nullFree (hl : '\x00' ∉ line) {name : String} {rest : List Char}
    (h : readName line = some (name, rest)) : '\x00' ∉ name.toList ∧ '\x00' ∉ rest := by
  obtain ⟨⟨key,after⟩,hk,h⟩ := Option.bind_eq_some_iff.mp h
  obtain ⟨hkey,ha⟩ := readKey_nullFree hl hk
  cases he : readEquals after with
  | some value =>
    simp only [he] at h
    cases h
    exact ⟨hkey,readEquals_nullFree ha he⟩
  | none =>
    simp only [he] at h
    split_ifs at h
    obtain ⟨⟨key,after⟩,hk,h⟩ := Option.bind_eq_some_iff.mp h
    obtain ⟨hkey,ha⟩ := readKey_nullFree ha hk
    obtain ⟨value,he,h⟩ := Option.bind_eq_some_iff.mp h
    cases h
    exact ⟨hkey,readEquals_nullFree ha he⟩

lemma readLine_nullFree (hs : scope.NullFree) (hl : '\x00' ∉ line) {name value : String}
    (h : readLine scope line = some (some (name, value))) :
    '\x00' ∉ name.toList ∧ '\x00' ∉ value.toList := by
  have ht : '\x00' ∉ Text.trim line := fun hm => hl (Text.mem_of_mem_trim hm)
  rw [readLine] at h
  split at h
  · cases h
  · cases h
  · obtain ⟨⟨key,rest⟩,hk,h⟩ := Option.bind_eq_some_iff.mp h
    obtain ⟨hkey,hrest⟩ := readName_nullFree ht hk
    dsimp only at h
    split at h
    · cases h
      exact ⟨hkey,by simp⟩
    · cases h
      exact ⟨hkey,by simp⟩
    · obtain ⟨cs,hv,h⟩ := Option.bind_eq_some_iff.mp h
      cases h
      exact ⟨hkey,by simpa using readValue_nullFree hs hrest hv⟩

lemma set_of_nullFree (env : Environment) (name : String) {value : String}
    (hv : '\x00' ∉ value.toList) : set env name value = .ok (env.setDefault name value) := by
  simp [set, hv]

lemma setLines_ne_nullCharacter {lines : List (Option (List Char))} (hs : scope.NullFree)
    (hl : ∀ line, some line ∈ lines → '\x00' ∉ line) :
    setLines scope lines ≠ .error .nullCharacter := by
  induction lines generalizing scope with
  | nil => simp [setLines]
  | cons line lines ih =>
    have hrest (line : List Char) (hm : some line ∈ lines) := hl line (List.mem_cons_of_mem _ hm)
    cases line with
    | none => simp [setLines]
    | some line =>
      match hr : readLine scope line with
      | none => simp [setLines, hr]
      | some none =>
        simp only [setLines, hr]
        exact ih hs hrest
      | some (some (name, value)) =>
        obtain ⟨hn,hv⟩ := readLine_nullFree hs (hl line (by simp)) hr
        simp only [setLines, hr, set_of_nullFree _ _ hv]
        exact ih ⟨hs.env.setDefault hn hv,List.forall_mem_cons.mpr ⟨hv,hs.earlier⟩⟩ hrest

/-- What stands before a comment is the beginning of the line. -/
lemma scanLine_isPrefix (state : LineState) (line : List Char) : (scanLine state line).1 <+: line := by
  induction line generalizing state with
  | nil => exact List.nil_prefix
  | cons c line ih =>
    rw [scanLine]
    split
    · exact List.nil_prefix
    · exact List.prefix_cons_inj c |>.mpr (ih _)

lemma chomp_isPrefix (cs : List Char) : chomp cs <+: cs := by
  rw [← List.reverse_suffix, chomp.eq_def]
  split
  · rename_i r hr
    exact ⟨['\n', '\r'],by simp [hr]⟩
  · rename_i r hr
    exact ⟨['\n'],by simp [hr]⟩
  · exact List.suffix_rfl

lemma joinLines_nullFree {state : LineState} {open? : List Char} {lines : List (Option (List Char))}
    (ho : '\x00' ∉ open?) (hl : ∀ line, some line ∈ lines → '\x00' ∉ line)
    (hm : some line ∈ joinLines state open? lines) : '\x00' ∉ line := by
  -- The text in hand belongs to a line that goes on; it starts without one and takes lines without one.
  fun_induction joinLines state open? lines with
  | case1 => cases hm
  | case2 => simp at hm
  | case3 => simp at hm
  | case4 state open? first rest _ ih =>
    exact ih (by simp) (fun line h => hl line (List.mem_cons_of_mem _ h)) hm
  | case5 state open? first rest _ before hs ih =>
    rcases List.mem_cons.mp hm with hm | hm
    · cases hm
      have hb : '\x00' ∉ before := by
        intro h
        have hp := scanLine_isPrefix state first
        rw [hs] at hp
        exact hl first (by simp) (hp.mem h)
      simp [ho, hb]
    · exact ih (by simp) (fun line h => hl line (List.mem_cons_of_mem _ h)) hm
  | case6 state open? first rest _ before hs ih =>
    rcases List.mem_cons.mp hm with hm | hm
    · cases hm
      have hf := hl first (by simp)
      exact fun h => (List.mem_append.mp ((chomp_isPrefix _).mem h)).elim ho hf
    · exact ih (by simp) (fun line h => hl line (List.mem_cons_of_mem _ h)) hm
  | case7 state open? first rest _ before next _ hs ih =>
    have hf := hl first (by simp)
    exact ih (by simp [ho, hf]) (fun line h => hl line (List.mem_cons_of_mem _ h)) hm

lemma apply_ne_nullCharacter {lines : List (Option (List Char))} {env : Environment}
    (he : env.NullFree) (hl : ∀ line, some line ∈ lines → '\x00' ∉ line) :
    apply lines env ≠ .error .nullCharacter := by
  have hs (line : List Char) (h : some line ∈ skipMark lines) : '\x00' ∉ line := by
    rw [skipMark.eq_def] at h
    split at h
    · rename_i first rest
      rcases List.mem_cons.mp h with h | h
      · cases h
        exact fun hm => hl _ List.mem_cons_self (List.mem_cons_of_mem _ hm)
      · exact hl line (List.mem_cons_of_mem _ h)
    · exact hl line h
  exact setLines_ne_nullCharacter ⟨he,by simp⟩ fun line h => joinLines_nullFree (by simp) hs h

/-- Cutting a file into lines loses nothing. -/
lemma flatten_rawLines {α : Type} [DecidableEq α] (feed : α) (xs : List α) :
    (rawLines feed xs).flatten = xs := by
  fun_induction rawLines feed xs <;> simp_all

end DotEnv

/-- In UTF-8 the null character is the byte zero. -/
lemma zero_mem_of_fromUTF8? {bytes : List UInt8} {s : String}
    (hs : String.fromUTF8? ⟨bytes.toArray⟩ = some s) (hc : '\x00' ∈ s.toList) : 0 ∈ bytes := by
  rw [String.fromUTF8?] at hs
  split at hs
  · cases hs
    have he := @String.utf8Encode_toList (String.fromUTF8 ⟨bytes.toArray⟩ ‹_›)
    obtain ⟨a,b,hl⟩ := List.append_of_mem hc
    have hb : (List.flatMap String.utf8EncodeChar (a ++ '\x00' :: b)) = bytes := by
      rw [hl] at he
      have hd := congrArg ByteArray.data he
      simpa [List.utf8Encode, String.fromUTF8] using hd
    rw [← hb]
    exact List.mem_flatMap.mpr ⟨'\x00',by simp,by decide⟩
  · cases hs

lemma Found.NullFree.lines? {found : Found} (h : found.NullFree)
    {lines : List (Option (List Char))} (hl : found.lines? = some lines) (line : List Char)
    (hm : some line ∈ lines) : '\x00' ∉ line := by
  cases found with
  | nothing => cases hl
  | directory => cases hl
  | text content =>
    cases hl
    obtain ⟨part,hp,hpart⟩ := List.mem_map.mp hm
    cases hpart
    intro hc
    apply h
    rw [← DotEnv.flatten_rawLines '\n' content.toList]
    exact List.mem_flatten_of_mem hp hc
  | bytes content =>
    cases hl
    obtain ⟨part,hp,hpart⟩ := List.mem_map.mp hm
    obtain ⟨s,hs,rfl⟩ := Option.map_eq_some_iff.mp hpart
    intro hc
    apply h
    rw [← DotEnv.flatten_rawLines 10 content]
    exact List.mem_flatten_of_mem hp (zero_mem_of_fromUTF8? hs hc)

end Turnstile
