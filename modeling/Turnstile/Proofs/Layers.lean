import Turnstile.Proofs.DocumentFields
import Turnstile.Proofs.ProgramRun

/-! Where the fields of a loaded configuration come from. Each of them, whatever the others come from, is
what its variable says, or else what the file of variables sets its variable to, or else what the file of
the configuration gives for it, or else its default value. The file of the configuration may itself be named
by a variable of either kind. -/
namespace Turnstile
open Pairs

namespace Environment
variable (env : Environment)

/-- With these variables, each unless it is set already. -/
def defaults (pairs : List (String × String)) : Environment :=
  pairs.foldl (fun env pair => env.setDefault pair.1 pair.2) env

lemma get?_setDefault (name value other : String) :
    (env.setDefault name value).get? other = (env.get? other).or ([(name, value)].lookup other) := by
  rw [setDefault]
  cases hg : env.get? name with
  | none => exact List.lookup_append
  | some old =>
    rcases eq_or_ne other name with rfl | hne
    · rw [hg, Option.some_or]
    · rw [lookup_cons_of_ne hne, List.lookup_nil, Option.or_none]

lemma last?_setDefault (name value other : String) :
    (env.setDefault name value).last? other = (env.last? other).or ([(name, value)].lookup other) := by
  rw [setDefault]
  cases hg : env.get? name with
  | none =>
    rcases eq_or_ne other name with rfl | hne
    · have hl : env.last? other = none := lookup_reverse_eq_none_iff.mpr hg
      rw [hl, last?]
      simp
    · rw [lookup_cons_of_ne hne, List.lookup_nil, Option.or_none, last?, List.reverse_append]
      exact lookup_cons_of_ne hne value
  | some old =>
    rcases eq_or_ne other name with rfl | hne
    · have hl : env.last? other ≠ none := by
        rw [last?, ne_eq, lookup_reverse_eq_none_iff]
        exact Option.ne_none_iff_exists'.mpr ⟨old,hg⟩
      obtain ⟨v,hv⟩ := Option.ne_none_iff_exists'.mp hl
      rw [hv, Option.some_or]
    · rw [lookup_cons_of_ne hne, List.lookup_nil, Option.or_none]

/-- What is set already stays, and of several new values the first counts. -/
lemma get?_defaults (pairs : List (String × String)) (name : String) :
    (env.defaults pairs).get? name = (env.get? name).or (pairs.lookup name) := by
  induction pairs generalizing env with
  | nil => exact Option.or_none.symm
  | cons pair pairs ih =>
    have hs : env.defaults (pair :: pairs) = (env.setDefault pair.1 pair.2).defaults pairs := rfl
    rw [hs, ih, get?_setDefault, Option.or_assoc, ← lookup_cons_eq_or]

lemma last?_defaults (pairs : List (String × String)) (name : String) :
    (env.defaults pairs).last? name = (env.last? name).or (pairs.lookup name) := by
  induction pairs generalizing env with
  | nil => exact Option.or_none.symm
  | cons pair pairs ih =>
    have hs : env.defaults (pair :: pairs) = (env.setDefault pair.1 pair.2).defaults pairs := rfl
    rw [hs, ih, last?_setDefault, Option.or_assoc, ← lookup_cons_eq_or]

end Environment

/-- The pairs of a name and a value that the lines set, in order, also those that come too late. -/
def DotEnv.definitions (scope : Scope) : List (Option (List Char)) → List (String × String)
  | some line :: rest =>
    match readLine scope line with
    | some (some (name, value)) =>
      (name, value) ::
        definitions ⟨scope.env.setDefault name value, (name, value) :: scope.earlier⟩ rest
    | some none => definitions scope rest
    | none => []
  | _ => []

lemma DotEnv.setLines_eq_ok {scope : Scope} {lines : List (Option (List Char))} {env : Environment}
    (h : setLines scope lines = .ok env) : env = scope.env.defaults (definitions scope lines) := by
  induction lines generalizing scope with
  | nil => cases h; rfl
  | cons line rest ih =>
    cases line with
    | none => cases h
    | some line =>
      rw [setLines] at h
      rw [definitions]
      cases hl : readLine scope line with
      | none => rw [hl] at h; cases h
      | some said =>
        rw [hl] at h
        cases said with
        | none => exact ih h
        | some pair =>
          obtain ⟨set,hs,hr⟩ := Except.bind_eq_ok_iff.mp h
          rw [DotEnv.set] at hs
          split at hs
          · cases hs
          · cases hs
            exact ih hr

namespace World
variable {w v : World}

/-- What the file of variables sets. -/
def defined (w : World) : List (String × String) :=
  match w.dotEnv.lines? with
  | none => []
  | some lines =>
    DotEnv.definitions ⟨w.env, []⟩ (DotEnv.joinLines .complete [] (DotEnv.skipMark lines))

lemma withDotEnv_eq_ok_iff :
    w.withDotEnv = .ok v ↔ (w.dotEnv.lines? = none ∧ v = w) ∨
      ∃ lines env, w.dotEnv.lines? = some lines ∧ DotEnv.apply lines w.env = .ok env ∧
        v = { w with env := env } := by
  rw [withDotEnv]
  cases w.dotEnv.lines? with
  | none => simp [eq_comm]
  | some lines =>
    cases ha : DotEnv.apply lines w.env with
    | error fault => cases fault <;> simp [ha]
    | ok env => simp [ha, eq_comm]

lemma withDotEnv_eq_ok (h : w.withDotEnv = .ok v) :
    v = { w with env := w.env.defaults w.defined } := by
  rw [defined]
  rcases withDotEnv_eq_ok_iff.mp h with ⟨hl,rfl⟩ | ⟨lines,env,hl,ha,rfl⟩
  · rw [hl]
    rfl
  · rw [hl]
    exact congrArg (World.mk · _ _) (DotEnv.setLines_eq_ok ha)

/-- The file of variables does not depend on any other file. -/
lemma withDotEnv_with_file (h : w.withDotEnv = .ok v) (file : String → Found) :
    ({ w with file := file } : World).withDotEnv = .ok { v with file := file } := by
  rcases withDotEnv_eq_ok_iff.mp h with ⟨hl,rfl⟩ | ⟨lines,env,hl,ha,rfl⟩
  · exact withDotEnv_eq_ok_iff.mpr (Or.inl ⟨hl,rfl⟩)
  · exact withDotEnv_eq_ok_iff.mpr (Or.inr ⟨lines,env,hl,ha,rfl⟩)

end World

namespace Loader

lemma withFile_eq_ok_iff {l m : Loader} {w : World} {path : String} :
    l.withFile w path = .ok m ↔ ∃ content format d, w.file path = .text content ∧
      (extension? path).bind format? = some format ∧
        readText Decode.config format content = .ok d ∧ m = l.withConfig d := by
  rw [withFile]
  cases w.file path with
  | nothing => simp
  | directory => simp
  | bytes content => simp
  | text content =>
    cases hf : (extension? path).bind format? with
    | none => simp
    | some format =>
      simp only [readConfig]
      cases hr : readText Decode.config format content <;> simp [Except.map, hr, eq_comm]

end Loader

namespace Program
open Override
variable {w v : World} {c : Config}

/-- The path of the file of the configuration, if a variable names one. -/
def namedPath? (w : World) : Option String :=
  (w.env.get? fileVariable).or (w.defined.lookup fileVariable)

/-- Where the file of the configuration is looked for. -/
def path (w : World) : String := (namedPath? w).getD defaultFile

lemma path_of_named {named : String} (h : namedPath? w = some named) : path w = named := by
  rw [path, h]
  rfl

lemma path_of_unnamed (h : namedPath? w = none) : path w = defaultFile := by
  rw [path, h]
  rfl

/-- The document in the file of the configuration, if that is a text in some format. -/
def document? (w : World) : Option (Format × Node) :=
  match w.file (path w) with
  | .text content =>
    ((extension? (path w)).bind Loader.format?).map fun format =>
      (format, (Document.of format content).root)
  | _ => none

/-- What the file of the configuration gives for a field. -/
def inFile? (w : World) (leaf : Leaf) : Option (Format × Node) :=
  (document? w).bind fun (format, node) => (Decode.held? leaf node).map fun value => (format, value)

/-- What a field comes to, from the first layer that says something about it: the variables of the process,
those of the file of variables, the file of the configuration, the defaults. Nothing if this layer says
something that is not acceptable. -/
def effective? (w : World) (leaf : Leaf) : Option leaf.Value :=
  let name := leaf.variableName scope
  match w.env.last? name, w.defined.lookup name, inFile? w leaf with
  | some text, _, _ => leaf.read? text
  | none, some text, _ => leaf.read? text
  | none, none, some (format, value) => (leaf.decode format value).toOption
  | none, none, none => some (leaf.get .default)

/-- The configuration before the variables are taken into account. -/
def base (w : World) : Except Stop Loader :=
  match namedPath? w with
  | some path => inContext ["loading " ++ path] (Loader.start.withFile w path)
  | none => inContext [] (Loader.start.withOptionalFile w defaultFile)

lemma get_of_withFile {l : Loader} (h : Loader.start.withFile w (path w) = .ok l) (leaf : Leaf) :
    (match inFile? w leaf with
      | some (format, value) => (leaf.decode format value).toOption
      | none => some (leaf.get .default)) = some (leaf.get l.config) := by
  obtain ⟨content,format,d,hc,hf,hd,rfl⟩ := Loader.withFile_eq_ok_iff.mp h
  obtain ⟨hpresent,habsent⟩ :=
    Decode.finds_held? leaf format _ d (readText_eq_ok_iff.mp hd).1
  simp only [inFile?, document?, hc, hf, Option.map_some, Option.bind_some]
  cases hg : Decode.held? leaf (Document.of format content).root with
  | none => exact congrArg some (habsent hg).symm
  | some value =>
    simp [hpresent value hg, Except.toOption, Loader.withConfig]

/-- A field of the base is what the file gives for it, or its default value. -/
lemma get_of_base {l : Loader} (h : base w = .ok l) (leaf : Leaf) :
    (match inFile? w leaf with
      | some (format, value) => (leaf.decode format value).toOption
      | none => some (leaf.get .default)) = some (leaf.get l.config) := by
  rw [base] at h
  cases hp : namedPath? w with
  | some named =>
    rw [hp] at h
    exact get_of_withFile (path_of_named hp ▸ inContext_eq_ok_iff.mp h) leaf
  | none =>
    rw [hp] at h
    have hw := path_of_unnamed hp
    have hl := inContext_eq_ok_iff.mp h
    rw [Loader.withOptionalFile] at hl
    split at hl
    · rename_i hn
      cases hl
      simp only [inFile?, document?, hw, hn, Option.bind_none]
      rfl
    · exact get_of_withFile (hw ▸ hl) leaf

lemma capitals_scope : Text.capitals scope = scope := by decide

lemma namedFile?_eq (h : w.withDotEnv = .ok v) : namedFile? v.env = namedPath? w := by
  rw [World.withDotEnv_eq_ok h, namedFile?, Environment.get?_defaults]
  rfl

/-- The world in which the variables of the file are set differs in its variables only. -/
lemma assembled_eq (h : w.withDotEnv = .ok v) :
    assembled w = (base w >>= fun l =>
      inContext ["invalid configuration"] ((l.withScope scope).overlaid v.env)) := by
  have hv := World.withDotEnv_eq_ok h
  have hf (path : String) : Loader.start.withFile v path = Loader.start.withFile w path := by
    rw [hv]
    rfl
  have ho : Loader.start.withOptionalFile v defaultFile =
      Loader.start.withOptionalFile w defaultFile := by
    rw [hv]
    rfl
  rw [assembled, h, base, ← namedFile?_eq h]
  change (match namedFile? v.env with
    | some path => inContext ["loading " ++ path] (Loader.start.withFile v path) >>= _
    | none => inContext [] (Loader.start.withOptionalFile v defaultFile) >>= _) = _
  simp only [hf, ho]
  cases namedFile? v.env <;> rfl

/-- The two layers of variables are one environment when they are taken into account. -/
lemma effective?_eq (h : w.withDotEnv = .ok v) {l : Loader} (hb : base w = .ok l) (leaf : Leaf) :
    effective? w leaf = overlaid? scope v.env l.config leaf := by
  rw [World.withDotEnv_eq_ok h, effective?, overlaid?, Environment.last?_defaults, ← get_of_base hb leaf]
  cases w.env.last? (leaf.variableName scope) with
  | some text => rfl
  | none =>
    cases w.defined.lookup (leaf.variableName scope) with
    | some text => rfl
    | none => cases inFile? w leaf <;> rfl

lemma assembled_eq_ok_iff (h : w.withDotEnv = .ok v) :
    assembled w = .ok c ↔ (∃ l, base w = .ok l) ∧ ∀ leaf, effective? w leaf = some (leaf.get c) := by
  have hover (l : Loader) (hb : base w = .ok l) :
      (l.withScope scope).overlaid v.env = .ok c ↔
        ∀ leaf, effective? w leaf = some (leaf.get c) := by
    have ho : (l.withScope scope).overlaid v.env =
        Override.apply (Text.capitals scope) v.env l.config := rfl
    simp only [ho, capitals_scope, Override.apply_eq_ok_iff, effective?_eq h hb]
  rw [assembled_eq h, Except.bind_eq_ok_iff]
  simp only [inContext_eq_ok_iff]
  constructor
  · rintro ⟨l,hb,ho⟩
    exact ⟨⟨l,hb⟩,(hover l hb).mp ho⟩
  · rintro ⟨⟨l,hb⟩,he⟩
    exact ⟨l,hb,(hover l hb).mpr he⟩

lemma loadConfig_of_base {v : World} (h : w.withDotEnv = .ok v) {l : Loader} (hb : base w = .ok l) :
    loadConfig w = inContext ["invalid configuration"] ((l.withScope scope).load v.env) := by
  rw [loadConfig_eq, assembled_eq h, hb, inContext_load]
  rfl

lemma base_congr {u : World} (he : u.env = w.env) (hd : u.dotEnv = w.dotEnv)
    (hf : u.file (path w) = w.file (path w)) : base u = base w := by
  have hn : namedPath? u = namedPath? w := by
    rw [namedPath?, namedPath?, World.defined, World.defined, he, hd]
  rw [base, base, hn]
  cases hp : namedPath? w with
  | some named =>
    rw [path_of_named hp] at hf
    simp only [Loader.withFile, hf]
  | none =>
    rw [path_of_unnamed hp] at hf
    simp only [Loader.withOptionalFile, Loader.withFile, hf]

/-- The configuration that the program loads, where the file of variables makes sense. It is loaded if the
file of the configuration can be taken, each field comes to something, and the whole passes the checks; then
it consists of what the fields come to, each by itself out of the first layer that says something about it.
A variable of the process, or else one of the file of variables, names the file of the configuration, and
then that has to be there. Otherwise it is the usual one, and if there is none, all that counts is the
variables and the defaults. No other file counts. -/
theorem loadConfig_layered {w v : World} (h : w.withDotEnv = .ok v) :
    (∀ c, loadConfig w = .ok c ↔
      (∃ l, base w = .ok l) ∧ (∀ leaf, effective? w leaf = some (leaf.get c)) ∧
        c.validate = .ok ()) ∧
    (∀ named, namedPath? w = some named → w.file named = .nothing →
      loadConfig w = .error (.config ["loading " ++ named] (.fileNotFound named))) ∧
    (namedPath? w = none → w.file defaultFile = .nothing →
      (∀ leaf, inFile? w leaf = none) ∧
        loadConfig w = inContext ["invalid configuration"]
          ((Loader.start.withScope scope).load v.env)) ∧
    ∀ file : String → Found, file (path w) = w.file (path w) →
      loadConfig { w with file := file } = loadConfig w := by
  refine ⟨?_,?_,?_,?_⟩
  · intro c
    rw [loadConfig_eq_ok_iff, assembled_eq_ok_iff h, and_assoc]
  · intro named hn hf
    have hb : base w = .error (.config ["loading " ++ named] (.fileNotFound named)) := by
      simp only [base, hn, Loader.withFile, hf]
      rfl
    rw [loadConfig_eq, assembled_eq h, hb]
    rfl
  · intro hn hf
    have hb : base w = .ok Loader.start := by
      simp only [base, hn, Loader.withOptionalFile, hf]
      rfl
    refine ⟨?_,loadConfig_of_base h hb⟩
    intro leaf
    simp [inFile?, document?, path_of_unnamed hn, hf]
  · intro file hf
    have hu := World.withDotEnv_with_file h file
    have hb : base { w with file := file } = base w := base_congr rfl rfl hf
    rw [loadConfig_eq, loadConfig_eq, assembled_eq h, assembled_eq hu, hb]

/-- Each layer has a field of its own to say something about, and the layers below it contradict. The file of
variables names the file of the configuration, which is then missed if it is gone. -/
theorem loadConfig_layered_four_layers :
    let lines := "GATEHOUSE_CONFIG=a.json\nGATEHOUSE__ROUTING__PRIVILEGED=x\n" ++
      "GATEHOUSE__ROUTING__DEFAULT_ROUTE=standard"
    let content := "\x7b\"routing\":\x7b\"privileged\":[\"y\"],\"default_route\":\"standard\"\x7d," ++
      "\"telemetry\":\x7b\"service_name\":\"z\"\x7d\x7d"
    let w : World := ⟨⟨[("GATEHOUSE__ROUTING__DEFAULT_ROUTE", "admin")]⟩, .text lines,
      fun path => if path = "a.json" then .text content else .nothing⟩
    let v : World := { w with env := ⟨[("GATEHOUSE__ROUTING__DEFAULT_ROUTE", "admin"),
      ("GATEHOUSE_CONFIG", "a.json"), ("GATEHOUSE__ROUTING__PRIVILEGED", "x")]⟩ }
    w.withDotEnv = .ok v ∧
      loadConfig w = .ok ⟨.default, ⟨["x"], .admin⟩, ⟨"z", .default, .default⟩⟩ ∧
      loadConfig { w with file := fun _ => .nothing } =
        .error (.config ["loading a.json"] (.fileNotFound "a.json")) := by
  intro lines content w v
  have ha : DotEnv.apply (DotEnv.textLines lines) w.env = .ok v.env := by decide +kernel
  have h : w.withDotEnv = .ok v :=
    World.withDotEnv_eq_ok_iff.mpr (Or.inr ⟨_,_,rfl,ha,rfl⟩)
  have hn : namedPath? w = some "a.json" := (namedFile?_eq h).symm
  have hl : Loader.start.withFile w "a.json" =
      .ok ⟨⟨.default, ⟨["y"], .standard⟩, ⟨"z", .default, .default⟩⟩, none⟩ :=
    Loader.withFile_eq_ok_iff.mpr
      ⟨content,.json,_,rfl,by decide +kernel,by decide +kernel,rfl⟩
  have hb : base w = .ok ⟨⟨.default, ⟨["y"], .standard⟩, ⟨"z", .default, .default⟩⟩, none⟩ := by
    simp only [base, hn, hl]
    rfl
  have he (leaf : Leaf) : effective? w leaf =
      some (leaf.get ⟨.default, ⟨["x"], .admin⟩, ⟨"z", .default, .default⟩⟩) := by
    rw [effective?_eq h hb]
    cases leaf <;> rfl
  refine ⟨h,((loadConfig_layered h).1 _).mpr ⟨⟨_,hb⟩,he,by decide +kernel⟩,?_⟩
  exact (loadConfig_layered (World.withDotEnv_with_file h _)).2.1 "a.json" hn rfl

end Program

end Turnstile
