import Turnstile.Proofs.Layers
import Turnstile.Proofs.Words

/-! Calls on a loader, in any order and number. The last call that brings a configuration replaces whatever
was there, the last call that names variables decides which of them count, and neither of the two disturbs the
other. A file and a text with the same content are taken alike. -/
namespace Turnstile

namespace Format

/-- The name in small letters. -/
def word : Format → String
  | toml => "toml"
  | json => "json"

/-- It is the name of the format, in small letters or capitals or both. -/
def NamedBy (format : Format) (name : String) : Prop := Text.Spells name format.word

lemma namedBy_iff (format : Format) (name : String) :
    format.NamedBy name ↔ Text.readsAs name format.word = true := by
  have hw : Text.Small format.word := by cases format <;> decide
  exact (Text.readsAs_iff hw).symm

end Format

namespace Loader

lemma format?_eq_some_iff {name : String} {format : Format} :
    format? name = some format ↔ format.NamedBy name := by
  have hne (ht : Text.readsAs name "toml" = true) : Text.readsAs name "json" = false := by
    rw [Text.readsAs, beq_iff_eq] at ht
    rw [Text.readsAs, ht]
    decide
  rw [format.namedBy_iff, format?]
  cases ht : Text.readsAs name "toml" with
  | true => cases format <;> simp [Format.word, ht, hne]
  | false => cases format <;> simp [Format.word, ht]

lemma format?_eq_none_iff {name : String} :
    format? name = none ↔ ∀ format : Format, ¬ format.NamedBy name := by
  rw [Option.eq_none_iff_forall_ne_some]
  exact forall_congr' fun format => not_congr format?_eq_some_iff

/-- A call on a loader. A file is looked for in the world as it is at the time of the call. -/
inductive Call where
  | defaults
  | development
  | production
  | text (content format : String)
  | file (w : World) (path : String)
  | optionalFile (w : World) (path : String)
  | scope (name : String)

namespace Call

def apply (l : Loader) : Call → Except ConfigError Loader
  | defaults => .ok l.withDefaults
  | development => .ok l.withDevelopment
  | production => .ok l.withProduction
  | text content format => l.withString content format
  | file w path => l.withFile w path
  | optionalFile w path => l.withOptionalFile w path
  | scope name => .ok (l.withScope name)

/-- The configuration that a text gives in the format with this name. -/
def inText? (content name : String) : Option Config :=
  (format? name).bind fun format => (readText Decode.config format content).toOption

/-- The configuration that the file at a path gives. -/
def inFile? (w : World) (path : String) : Option Config :=
  match w.file path with
  | .text content => (extension? path).bind (inText? content)
  | _ => none

/-- The configuration that a call brings. -/
def config? : Call → Option Config
  | defaults => some .default
  | development => some .development
  | production => some .production
  | text content format => inText? content format
  | file w path => inFile? w path
  | optionalFile w path => inFile? w path
  | scope _ => none

/-- The front of the names of variables that a call gives. -/
def scope? : Call → Option String
  | scope name => some name
  | _ => none

/-- It has no configuration to bring: it is about variables, or about a file that need not be there and is
not there. -/
def BringsNothing : Call → Prop
  | scope _ => True
  | optionalFile w path => w.file path = .nothing
  | _ => False

end Call

/-- The loader after these calls, if none of them fails. -/
def afterAll (l : Loader) (calls : List Call) : Except ConfigError Loader :=
  calls.foldlM Call.apply l

section Steps
variable {l m : Loader}

lemma withString_eq_ok {content name : String} (h : l.withString content name = .ok m) :
    ∃ c, Call.inText? content name = some c ∧ m = l.withConfig c := by
  rw [withString] at h
  cases hf : format? name with
  | none => rw [hf] at h; cases h
  | some format =>
    simp only [hf, readConfig] at h
    cases hr : readText Decode.config format content with
    | error e => rw [hr] at h; cases h
    | ok c =>
      rw [hr] at h
      cases h
      exact ⟨c,by simp [Call.inText?, hf, hr, Except.toOption],rfl⟩

lemma withFile_eq_ok {w : World} {path : String} (h : l.withFile w path = .ok m) :
    ∃ c, Call.inFile? w path = some c ∧ m = l.withConfig c := by
  obtain ⟨content,format,c,hc,hf,hr,rfl⟩ := withFile_eq_ok_iff.mp h
  obtain ⟨name,hn,hw⟩ := Option.bind_eq_some_iff.mp hf
  exact ⟨c,by simp [Call.inFile?, Call.inText?, hc, hn, hw, hr, Except.toOption],rfl⟩

/-- What a call that does not fail can do: it brings a configuration, or has none to bring. -/
lemma Call.apply_cases {call : Call} (h : call.apply l = .ok m) :
    (∃ c, call.config? = some c ∧ ¬ call.BringsNothing ∧ call.scope? = none ∧
      m = l.withConfig c) ∨
    (call.config? = none ∧ call.BringsNothing ∧ m.config = l.config ∧
      m.scope = (call.scope?.map fun name => some (Text.capitals name)).getD l.scope) := by
  cases call with
  | defaults => cases h; exact Or.inl ⟨_,rfl,id,rfl,rfl⟩
  | development => cases h; exact Or.inl ⟨_,rfl,id,rfl,rfl⟩
  | production => cases h; exact Or.inl ⟨_,rfl,id,rfl,rfl⟩
  | text content format =>
    obtain ⟨c,hc,hm⟩ := withString_eq_ok h
    exact Or.inl ⟨c,hc,id,rfl,hm⟩
  | file w path =>
    obtain ⟨c,hc,hm⟩ := withFile_eq_ok h
    exact Or.inl ⟨c,hc,id,rfl,hm⟩
  | optionalFile w path =>
    rw [apply, withOptionalFile] at h
    split at h
    · rename_i hn
      cases h
      exact Or.inr ⟨by simp [config?, inFile?, hn],hn,rfl,rfl⟩
    · rename_i hn
      obtain ⟨c,hc,hm⟩ := withFile_eq_ok h
      exact Or.inl ⟨c,hc,hn,rfl,hm⟩
  | scope name => cases h; exact Or.inr ⟨rfl,trivial,rfl,rfl⟩

lemma withFile_of_text {w : World} {path content name : String} (hc : w.file path = .text content)
    (hn : extension? path = some name) {format : Format} (hf : format.NamedBy name) :
    l.withFile w path = l.withString content name := by
  simp only [withFile, withString, hc, hn, Option.bind_some, format?_eq_some_iff.mpr hf]

lemma withString_of_namedBy {name : String} {format : Format} (hf : format.NamedBy name)
    (content : String) :
    l.withString content name = ((readText Decode.config format content).mapError .text).map
      l.withConfig := by
  simp only [withString, readConfig, format?_eq_some_iff.mpr hf]
  cases readText Decode.config format content <;> rfl

end Steps

section Runs
variable {l m : Loader} {calls : List Call}

lemma config_afterAll (h : l.afterAll calls = .ok m) :
    m.config = (Calls.last? Call.config? calls).getD l.config := by
  refine Calls.get_foldlM config Call.config? ?_ h
  intro s call t ht
  rcases Call.apply_cases ht with ⟨c,hc,-,-,rfl⟩ | ⟨hc,-,hk,-⟩
  · rw [hc]
    rfl
  · rw [hc, hk]
    rfl

lemma scope_afterAll (h : l.afterAll calls = .ok m) :
    m.scope = ((Calls.last? Call.scope? calls).map Text.capitals).or l.scope := by
  have hs := Calls.get_foldlM scope
    (fun call => call.scope?.map fun name => some (Text.capitals name)) ?_ h
  · rw [hs, Calls.last?_map]
    cases Calls.last? Call.scope? calls <;> rfl
  · intro s call t ht
    rcases Call.apply_cases ht with ⟨c,-,-,hn,rfl⟩ | ⟨-,-,-,hk⟩
    · rw [hn]
      rfl
    · exact hk

lemma bringsNothing_iff (h : l.afterAll calls = .ok m) {call : Call} (hc : call ∈ calls) :
    call.BringsNothing ↔ call.config? = none := by
  obtain ⟨u,v,hs⟩ := Calls.step_of_mem h hc
  rcases Call.apply_cases hs with ⟨c,hs,hb,-,-⟩ | ⟨hs,hb,-,-⟩
  · simp [hs, hb]
  · simp [hs, hb]

end Runs

/-- Any calls on a new loader. If none of them fails, the loader holds the configuration of the last
call that brought one, and counts the variables that the last call about variables named, wherever each of the
two calls stands. The only calls that bring none are those about variables and those about a file that need
not be there and is not. Loading then puts exactly these variables on top of that configuration.
A file is read as the text that it holds, in the format that the end of its name says, with the same
configuration or the same error. The letters of a format's name may be small or capital, and any other name is
refused. -/
theorem afterAll_start_last (calls : List Call) :
    let config := (Calls.last? Call.config? calls).getD .default
    let scope := (Calls.last? Call.scope? calls).map Text.capitals
    (∀ l, start.afterAll calls = .ok l →
      l = ⟨config, scope⟩ ∧
      (∀ call ∈ calls, call.BringsNothing ↔ call.config? = none) ∧
      ∀ env, l.load env =
        (match scope with
          | some scope => Override.apply scope env config
          | none => .ok config) >>= fun c => c.validate.map fun _ => c) ∧
    (∀ (m : Loader) (w : World) (path content : String), w.file path = .text content →
      (∀ name ∈ extension? path, ∀ format : Format, format.NamedBy name →
        m.withFile w path = m.withString content name) ∧
      ((∀ name ∈ extension? path, ∀ format : Format, ¬ format.NamedBy name) →
        m.withFile w path =
          .error (.validation ("unsupported configuration file format: " ++ path)))) ∧
    ∀ (m : Loader) (content name : String),
      (∀ format : Format, format.NamedBy name →
        m.withString content name =
          ((readText Decode.config format content).mapError .text).map m.withConfig) ∧
      ((∀ format : Format, ¬ format.NamedBy name) →
        m.withString content name =
          .error (.validation ("unsupported configuration format: " ++ name))) := by
  intro config scope
  refine ⟨?_,?_,?_⟩
  · intro l h
    have hc : l.config = config := config_afterAll h
    have hs : l.scope = scope := (scope_afterAll h).trans Option.or_none
    refine ⟨?_,fun call hm => bringsNothing_iff h hm,?_⟩
    · rw [← hc, ← hs]
    · intro env
      rw [load, overlaid, hc, hs]
      refine congrArg _ (funext fun c => ?_)
      cases c.validate <;> rfl
  · intro m w path content ht
    refine ⟨fun name hn format hf => withFile_of_text ht hn hf,?_⟩
    intro hn
    have hf : (extension? path).bind format? = none :=
      Option.bind_eq_none_iff.mpr fun name hname => format?_eq_none_iff.mpr (hn name hname)
    simp only [withFile, ht, hf]
  · intro m content name
    refine ⟨fun format hf => withString_of_namedBy hf content,?_⟩
    intro hn
    rw [withString, format?_eq_none_iff.mpr hn]

/-- The file replaces the preset and not only what it mentions, between two calls about variables; the optional
file is missing. As a text the file gives the same under another spelling of its format, and a name without an
end is refused. -/
theorem afterAll_start_last_file :
    let content := "[routing]\nprivileged = [\"ops\"]\n"
    let w : World := ⟨.empty, .nothing, fun path =>
      if path = "a.Toml" ∨ path = "toml" then .text content else .nothing⟩
    let calls : List Call :=
      [.development, .scope "gate", .file w "a.Toml", .scope "straße", .optionalFile w "b.json"]
    let l : Loader := ⟨⟨.default, ⟨["ops"], .standard⟩, .default⟩, some "STRASSE"⟩
    let env : Environment := ⟨[("STRASSE__ROUTING__PRIVILEGED", "root"),
      ("GATE__ROUTING__PRIVILEGED", "x")]⟩
    start.afterAll calls = .ok l ∧
      l.config.telemetry.logging ≠ Config.development.telemetry.logging ∧
      l.load env = .ok ⟨.default, ⟨["root"], .standard⟩, .default⟩ ∧
      start.withFile w "a.Toml" = start.withString content "Toml" ∧
      start.withString content "Toml" = start.withString content "toML" ∧
      start.withFile w "toml" =
        .error (.validation "unsupported configuration file format: toml") := by
  intro content w calls l env
  have h : start.afterAll calls = .ok l := by decide +kernel
  obtain ⟨hrun,hfile,htext⟩ := afterAll_start_last calls
  obtain ⟨hl,-,hload⟩ := hrun l h
  obtain ⟨hc,hs⟩ := Loader.mk.inj hl
  have hm : Format.toml.NamedBy "Toml" := format?_eq_some_iff.mp (by decide)
  have hu : Format.toml.NamedBy "toML" := format?_eq_some_iff.mp (by decide)
  have hn : ∀ name ∈ extension? "toml", ∀ format : Format, ¬ format.NamedBy name := by
    rw [show extension? "toml" = none by decide]
    simp
  refine ⟨h,by decide,?_,?_,?_,?_⟩
  · have ho : Override.apply "STRASSE" env ⟨.default, ⟨["ops"], .standard⟩, .default⟩ =
        .ok ⟨.default, ⟨["root"], .standard⟩, .default⟩ := by
      refine Override.apply_eq_ok_iff.mpr fun leaf => ?_
      cases leaf <;> decide
    rw [hload, ← hc, ← hs]
    simp only [ho]
    decide +kernel
  · exact (hfile start w "a.Toml" content (by decide)).1 "Toml" (by decide) .toml hm
  · rw [(htext start content "Toml").1 .toml hm, (htext start content "toML").1 .toml hu]
  · exact (hfile start w "toml" content (by decide)).2 hn

end Loader

end Turnstile
