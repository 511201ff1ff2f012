import Turnstile.Loader
import Turnstile.Proofs.Basics
import Turnstile.Proofs.Leaves
import Turnstile.Proofs.VariableNames

/-! Variables on top of a configuration. Each of the eight variables writes its own field, so that in the
end a field is what its variable says, or what it was before if there is no such variable, and the order in
which the variables are taken into account does not matter. If one of them makes no sense, the first of
these by name is to blame. -/
namespace Turnstile
open Pairs

namespace Environment
/-- The last value of a variable. -/
def last? (env : Environment) (name : String) : Option String := env.entries.reverse.lookup name

lemma lookup_latest (entries : List (String × String)) (name : String) :
    (latest entries).lookup name = entries.reverse.lookup name := by
  induction entries with
  | nil => rfl
  | cons entry rest ih =>
    obtain ⟨n,value⟩ := entry
    rw [List.reverse_cons, List.lookup_append, ← ih, latest]
    rcases eq_or_ne name n with rfl | hn
    · split
      · rename_i h
        have hs : (latest rest).lookup name ≠ none := by
          rw [ih, ne_eq, lookup_reverse_eq_none_iff]
          exact Option.isSome_iff_ne_none.mp h
        obtain ⟨v,hv⟩ := Option.ne_none_iff_exists'.mp hs
        rw [hv, Option.some_or]
      · rename_i h
        have hs : (latest rest).lookup name = none := by
          rw [ih, lookup_reverse_eq_none_iff]
          exact Option.not_isSome_iff_eq_none.mp h
        rw [hs, List.lookup_cons_self, List.lookup_cons_self, Option.none_or]
    · rw [lookup_cons_of_ne hn, List.lookup_nil, Option.or_none]
      split
      · rfl
      · exact lookup_cons_of_ne hn value

lemma lookup_settings (env : Environment) (name : String) :
    env.settings.lookup name = env.last? name :=
  lookup_latest env.entries name

lemma nodup_settings (env : Environment) : (env.settings.map Prod.fst).Nodup := by
  rw [settings]
  induction env.entries with
  | nil => exact List.nodup_nil
  | cons entry rest ih =>
    obtain ⟨n,value⟩ := entry
    rw [latest]
    split
    · exact ih
    · rename_i h
      refine List.nodup_cons.mpr ⟨?_,ih⟩
      rw [← lookup_eq_none_iff_notMem, lookup_latest, lookup_reverse_eq_none_iff]
      exact Option.not_isSome_iff_eq_none.mp h

end Environment

namespace Override
variable {scope : String}

lemma applyVariable_of_unknown {name : String} (h : ∀ leaf : Leaf, name ≠ leaf.variableName scope)
    (c : Config) (value : String) : applyVariable scope c name value = .ok c := by
  cases hl : leaf? scope name with
  | none => rw [applyVariable, hl]
  | some leaf => exact absurd ((leaf?_eq_some_iff scope name leaf).mp hl) (h leaf)

lemma applyVariable_of_leaf (leaf : Leaf) (c : Config) (value : String) :
    applyVariable scope c (leaf.variableName scope) value =
      match leaf.read? value with
      | some v => .ok (leaf.put c v)
      | none => .error (.badVariable (leaf.variableName scope) leaf.expected) := by
  rw [applyVariable, (leaf?_eq_some_iff scope _ leaf).mpr rfl]
  simp only [Leaf.set_eq_map_read?]
  cases leaf.read? value <;> rfl

/-- If the variable is the one of a field, its value is acceptable. -/
def Taken (scope : String) (setting : String × String) : Prop :=
  ∀ leaf : Leaf, setting.1 = leaf.variableName scope → (leaf.read? setting.2).isSome

/-- The value that settings give a field, if they give it an acceptable one. -/
def given? (scope : String) (settings : List (String × String)) (leaf : Leaf) : Option leaf.Value :=
  (settings.lookup (leaf.variableName scope)).bind leaf.read?

/-- One variable writes the field that it names, and nothing else. -/
lemma applyVariable_of_taken {name value : String} (h : Taken scope (name, value)) (c : Config) :
    ∃ d, applyVariable scope c name value = .ok d ∧
      ∀ leaf, leaf.get d = (given? scope [(name, value)] leaf).getD (leaf.get c) := by
  by_cases hn : ∃ leaf : Leaf, name = leaf.variableName scope
  · obtain ⟨leaf,rfl⟩ := hn
    obtain ⟨v,hv⟩ := Option.isSome_iff_exists.mp (h leaf rfl)
    refine ⟨leaf.put c v,?_,?_⟩
    · rw [applyVariable_of_leaf, hv]
    · intro other
      rcases eq_or_ne other leaf with rfl | ho
      · simp [given?, hv, Leaf.get_put]
      · have hne := (variableName_injective scope).ne ho
        rw [given?, lookup_cons_of_ne hne, Leaf.get_put_of_ne c ho]
        rfl
  · refine ⟨c,applyVariable_of_unknown (not_exists.mp hn) c value,?_⟩
    intro leaf
    rw [given?, lookup_cons_of_ne fun he => hn ⟨leaf,he.symm⟩]
    rfl

/-- Variables write the fields that they name, each of them once, and nothing else. -/
lemma applyVariables_of_taken {settings : List (String × String)}
    (hn : (settings.map Prod.fst).Nodup) (h : ∀ setting ∈ settings, Taken scope setting)
    (c : Config) :
    ∃ d, applyVariables scope c settings = .ok d ∧
      ∀ leaf, leaf.get d = (given? scope settings leaf).getD (leaf.get c) := by
  induction settings generalizing c with
  | nil => exact ⟨c,rfl,fun _ => rfl⟩
  | cons setting settings ih =>
    obtain ⟨name,value⟩ := setting
    obtain ⟨hname,hrest⟩ := List.nodup_cons.mp hn
    obtain ⟨ht,hs⟩ := List.forall_mem_cons.mp h
    obtain ⟨d,hd,hdl⟩ := applyVariable_of_taken ht c
    obtain ⟨e,he,hel⟩ := ih hrest hs d
    refine ⟨e,?_,?_⟩
    · rw [applyVariables, hd]
      exact he
    · intro leaf
      rw [hel, hdl]
      rcases eq_or_ne (leaf.variableName scope) name with rfl | hne
      · simp [given?, lookup_eq_none_iff_notMem.mpr hname]
      · simp [given?, lookup_cons_of_ne hne]

/-- The first variable that has no acceptable value is to blame, whatever comes after it. -/
lemma applyVariables_of_refused {before after : List (String × String)} {leaf : Leaf} {value : String}
    (h : ∀ setting ∈ before, Taken scope setting) (hr : leaf.read? value = none) (c : Config) :
    applyVariables scope c (before ++ (leaf.variableName scope, value) :: after) =
      .error (.badVariable (leaf.variableName scope) leaf.expected) := by
  induction before generalizing c with
  | nil =>
    rw [List.nil_append, applyVariables, applyVariable_of_leaf, hr]
    rfl
  | cons setting before ih =>
    obtain ⟨ht,hb⟩ := List.forall_mem_cons.mp h
    obtain ⟨d,hd,-⟩ := applyVariable_of_taken ht c
    rw [List.cons_append, applyVariables, hd]
    exact ih hb d

/-- Variables are either all acceptable or there is a first among them that is not. -/
lemma taken_or_first_refused (scope : String) (settings : List (String × String)) :
    (∀ setting ∈ settings, Taken scope setting) ∨
      ∃ before leaf value after, settings = before ++ (Leaf.variableName scope leaf, value) :: after ∧
        (∀ setting ∈ before, Taken scope setting) ∧ leaf.read? value = none := by
  induction settings with
  | nil => exact Or.inl (by simp)
  | cons setting settings ih =>
    by_cases ht : Taken scope setting
    · rcases ih with h | ⟨before,leaf,value,after,rfl,hb,hr⟩
      · exact Or.inl (List.forall_mem_cons.mpr ⟨ht,h⟩)
      · exact Or.inr ⟨setting :: before,leaf,value,after,rfl,List.forall_mem_cons.mpr ⟨ht,hb⟩,hr⟩
    · obtain ⟨name,value⟩ := setting
      simp only [Taken, not_forall] at ht
      obtain ⟨leaf,rfl,hr⟩ := ht
      exact Or.inr ⟨[],leaf,value,settings,rfl,by simp,by simpa using hr⟩

variable {env : Environment}

/-- The variable of the field is there, with a value that is not acceptable. -/
def Refused (scope : String) (env : Environment) (leaf : Leaf) : Prop :=
  ∃ value, env.last? (leaf.variableName scope) = some value ∧ leaf.read? value = none

/-- Of the refused variables it is the first by name. -/
structure Blamed (scope : String) (env : Environment) (leaf : Leaf) : Prop where
  refused : Refused scope env leaf
  first : ∀ other, Refused scope env other → leaf.variableName scope ≤ other.variableName scope

lemma Blamed.unique {a b : Leaf} (ha : Blamed scope env a) (hb : Blamed scope env b) : a = b :=
  variableName_injective scope
    (String.le_antisymm (ha.first b hb.refused) (hb.first a ha.refused))

/-- The field of the configuration with the variables taken into account. -/
def overlay (scope : String) (env : Environment) (c : Config) (leaf : Leaf) : leaf.Value :=
  ((env.last? (leaf.variableName scope)).bind leaf.read?).getD (leaf.get c)

lemma given?_of_perm {settings : List (String × String)} (hp : settings.Perm env.settings)
    (leaf : Leaf) :
    given? scope settings leaf = (env.last? (leaf.variableName scope)).bind leaf.read? := by
  rw [given?, lookup_perm hp env.nodup_settings, env.lookup_settings]

lemma mem_settings_iff (name value : String) :
    (name, value) ∈ env.settings ↔ env.last? name = some value := by
  rw [← env.lookup_settings, lookup_eq_some_iff_mem env.nodup_settings]

lemma taken_of_mem_settings (h : ∀ leaf, ¬ Refused scope env leaf) {setting : String × String}
    (hm : setting ∈ env.settings) : Taken scope setting := by
  intro leaf hl
  by_contra hr
  refine h leaf ⟨setting.2,?_,by simpa using hr⟩
  rw [← mem_settings_iff, ← hl]
  exact hm

/-- If all variables are acceptable, they can be taken into account in any order. -/
lemma applyVariables_of_perm {settings : List (String × String)} (hp : settings.Perm env.settings)
    (h : ∀ leaf, ¬ Refused scope env leaf) (c : Config) :
    ∃ d, applyVariables scope c settings = .ok d ∧ Leaf.get d = overlay scope env c := by
  have hn : (settings.map Prod.fst).Nodup := (hp.map Prod.fst).nodup_iff.mpr env.nodup_settings
  have ht : ∀ setting ∈ settings, Taken scope setting := fun setting hm =>
    taken_of_mem_settings h (hp.mem_iff.mp hm)
  obtain ⟨d,hd,hl⟩ := applyVariables_of_taken hn ht c
  refine ⟨d,hd,?_⟩
  funext leaf
  rw [hl, given?_of_perm hp, overlay]

lemma sorted_perm (env : Environment) : env.sorted.Perm env.settings :=
  List.mergeSort_perm _ _

lemma pairwise_sorted (env : Environment) : env.sorted.Pairwise (·.1 ≤ ·.1) := by
  have h := @List.pairwise_mergeSort (String × String) (fun a b => a.1 ≤ b.1)
    (by simpa using fun _ _ _ => String.le_trans) (by simpa using String.le_total) env.settings
  simpa [Environment.sorted] using h

lemma apply_of_accepted (h : ∀ leaf, ¬ Refused scope env leaf) (c : Config) :
    ∃ d, apply scope env c = .ok d ∧ Leaf.get d = overlay scope env c :=
  applyVariables_of_perm (sorted_perm env) h c

/-- The variables are taken into account by name, so it is the first refused one that is met. -/
lemma apply_of_refused (h : ∃ leaf, Refused scope env leaf) (c : Config) :
    ∃ leaf, Blamed scope env leaf ∧
      apply scope env c = .error (.badVariable (leaf.variableName scope) leaf.expected) := by
  have hm (name value : String) : (name, value) ∈ env.sorted ↔ env.last? name = some value := by
    rw [(sorted_perm env).mem_iff, mem_settings_iff]
  rcases taken_or_first_refused scope env.sorted with ht | ⟨before,leaf,value,after,hs,hb,hr⟩
  · obtain ⟨leaf,value,hl,hr⟩ := h
    have hsome := ht _ ((hm _ _).mpr hl) leaf rfl
    simp [hr] at hsome
  · refine ⟨leaf,⟨⟨value,(hm _ _).mp (by simp [hs]),hr⟩,?_⟩,?_⟩
    -- Another refused one stands after it, as all before are acceptable, and so does not come first.
    · rintro other ⟨w,hw,hn⟩
      have ho : (other.variableName scope, w) ∈ before ++ (leaf.variableName scope, value) :: after :=
        hs ▸ (hm _ _).mpr hw
      have hp := pairwise_sorted env
      rw [hs] at hp
      rcases List.mem_append.mp ho with ho | ho
      · simpa [hn] using hb _ ho other rfl
      · rcases List.mem_cons.mp ho with ho | ho
        · have he : other.variableName scope = leaf.variableName scope := congrArg Prod.fst ho
          exact he ▸ String.le_refl _
        · exact (List.pairwise_cons.mp (List.pairwise_append.mp hp).2.1).1 _ ho
    · rw [apply, hs, applyVariables_of_refused hb hr]

/-- The result depends on the variables of the fields, and on a field of the base only where there is no
variable for it. -/
lemma apply_congr {others : Environment} {c d : Config}
    (hv : ∀ leaf : Leaf, env.last? (leaf.variableName scope) = others.last? (leaf.variableName scope))
    (hc : ∀ leaf : Leaf, env.last? (leaf.variableName scope) = none → leaf.get c = leaf.get d) :
    apply scope env c = apply scope others d := by
  have hr (leaf : Leaf) : Refused scope env leaf ↔ Refused scope others leaf := by
    rw [Refused, Refused, hv]
  by_cases h : ∃ leaf, Refused scope env leaf
  · obtain ⟨a,ha,hea⟩ := apply_of_refused h c
    obtain ⟨b,hb,heb⟩ := apply_of_refused (h.imp fun leaf => (hr leaf).mp) d
    have hab : Blamed scope env b := ⟨(hr b).mpr hb.refused,fun o ho => hb.first o ((hr o).mp ho)⟩
    rw [hea, heb, ha.unique hab]
  · obtain ⟨a,ha,hga⟩ := apply_of_accepted (not_exists.mp h) c
    obtain ⟨b,hb,hgb⟩ := apply_of_accepted (fun leaf => mt (hr leaf).mpr (not_exists.mp h leaf)) d
    have hg : Leaf.get a = Leaf.get b := by
      rw [hga, hgb]
      funext leaf
      cases hl : env.last? (leaf.variableName scope) with
      | none =>
        rw [overlay, overlay, ← hv, hl]
        exact hc leaf hl
      | some value =>
        have hn : leaf.read? value ≠ none := fun hn => h ⟨leaf,value,hl,hn⟩
        obtain ⟨v,hread⟩ := Option.ne_none_iff_exists'.mp hn
        simp [overlay, ← hv, hl, hread]
    rw [ha, hb, Leaf.config_ext hg]

/-- What a field comes to: what its variable says, if that is acceptable, or what it was. -/
def overlaid? (scope : String) (env : Environment) (c : Config) (leaf : Leaf) : Option leaf.Value :=
  match env.last? (leaf.variableName scope) with
  | some text => leaf.read? text
  | none => some (leaf.get c)

/-- The variables on top of a configuration make one with what each field comes to. -/
lemma apply_eq_ok_iff {c d : Config} :
    apply scope env c = .ok d ↔ ∀ leaf : Leaf, overlaid? scope env c leaf = some (leaf.get d) := by
  simp only [overlaid?]
  -- Both ways it is decided first that no variable is refused, so that there is an overlay to compare with.
  constructor
  · intro h leaf
    have hn (leaf : Leaf) : ¬ Refused scope env leaf := by
      intro hr
      obtain ⟨least,-,he⟩ := apply_of_refused ⟨leaf,hr⟩ c
      cases he.symm.trans h
    obtain ⟨e,he,hg⟩ := apply_of_accepted hn c
    cases he.symm.trans h
    rw [hg, overlay]
    cases hl : env.last? (leaf.variableName scope) with
    | none => rfl
    | some text =>
      obtain ⟨v,hv⟩ := Option.ne_none_iff_exists'.mp fun hv => hn leaf ⟨text,hl,hv⟩
      simp [hv]
  · intro h
    have hn (leaf : Leaf) : ¬ Refused scope env leaf := by
      rintro ⟨text,hl,hv⟩
      have hs := h leaf
      rw [hl] at hs
      cases hv.symm.trans hs
    obtain ⟨e,he,hg⟩ := apply_of_accepted hn c
    have hde : e = d := by
      apply Leaf.config_ext
      funext leaf
      have hs := h leaf
      rw [hg, overlay]
      cases hl : env.last? (leaf.variableName scope) with
      | none =>
        rw [hl] at hs
        exact Option.some.inj hs
      | some text =>
        rw [hl] at hs
        simp only at hs
        simp [hs]
    rw [he, hde]

end Override

namespace Loader
open Override

/-- Variables on top of a configuration, under any front. Eight names count, of which each leads to a field
of its own, and any other variable changes nothing. If no variable is refused, each field is what its
variable says, or as it was before where there is none, in whatever order the variables are taken into
account; where all eight are there, nothing is left of what was before. If some are refused, the first of
these by name is reported, with what was expected of it. -/
theorem overlaid_fieldwise (l : Loader) (front : String) :
    let scope := Text.capitals front
    let names := Leaf.all.map (Leaf.variableName scope)
    let overlaid (l : Loader) (env : Environment) := (l.withScope front).overlaid env
    names = [scope ++ "__CREDENTIALS__USERS", scope ++ "__ROUTING__PRIVILEGED",
      scope ++ "__ROUTING__DEFAULT_ROUTE", scope ++ "__TELEMETRY__SERVICE_NAME",
      scope ++ "__TELEMETRY__LOGGING__ENABLED", scope ++ "__TELEMETRY__LOGGING__LEVEL",
      scope ++ "__TELEMETRY__LOGGING__FORMAT", scope ++ "__TELEMETRY__METRICS__ENABLED"] ∧
    names.Nodup ∧
    (∀ name leaf, leaf? scope name = some leaf ↔ name = leaf.variableName scope) ∧
    (∀ (leaf : Leaf) (value : String) (v : leaf.Value) (c : Config), leaf.read? value = some v →
      ∃ d, applyVariable scope c (leaf.variableName scope) value = .ok d ∧ leaf.get d = v ∧
        ∀ other, other ≠ leaf → other.get d = other.get c) ∧
    (∀ (name value : String) (c : Config), name ∉ names → applyVariable scope c name value = .ok c) ∧
    ∀ env : Environment,
      ((∀ leaf, ¬ Refused scope env leaf) →
        ∃ d, overlaid l env = .ok d ∧ (∀ leaf, leaf.get d = overlay scope env l.config leaf) ∧
          ∀ settings, settings.Perm env.settings →
            applyVariables scope l.config settings = .ok d) ∧
      (∀ others : Environment, (∀ name ∈ names, env.last? name = others.last? name) →
        overlaid l env = overlaid l others) ∧
      ((∀ name ∈ names, (env.last? name).isSome) → ∀ base, overlaid l env = overlaid base env) ∧
      ∀ leaf, Refused scope env leaf →
        ∃ least, Blamed scope env least ∧
          overlaid l env = .error (.badVariable (least.variableName scope) least.expected) := by
  intro scope names overlaid
  have hmem (leaf : Leaf) : leaf.variableName scope ∈ names := List.mem_map_of_mem leaf.mem_all
  refine ⟨?_,?_,leaf?_eq_some_iff scope,?_,?_,?_⟩
  · simp [names, Leaf.all, Leaf.variableName, Leaf.path, String.append_assoc]
  · exact (List.nodup_map_iff (variableName_injective scope)).mpr (by decide)
  · intro leaf value v c hv
    refine ⟨leaf.put c v,?_,leaf.get_put c v,fun other ho => Leaf.get_put_of_ne c ho v⟩
    rw [applyVariable_of_leaf, hv]
  · intro name value c hn
    apply applyVariable_of_unknown
    rintro leaf rfl
    exact hn (hmem leaf)
  · intro env
    refine ⟨?_,?_,?_,?_⟩
    · intro h
      obtain ⟨d,hd,hg⟩ := apply_of_accepted h l.config
      refine ⟨d,hd,congrFun hg,?_⟩
      intro settings hp
      obtain ⟨e,he,hge⟩ := applyVariables_of_perm hp h l.config
      rw [he, Leaf.config_ext (hge.trans hg.symm)]
    · intro others h
      exact apply_congr (fun leaf => h _ (hmem leaf)) fun _ _ => rfl
    · intro h base
      refine apply_congr (fun _ => rfl) fun leaf hl => ?_
      have hs := h _ (hmem leaf)
      rw [hl] at hs
      cases hs
    · intro leaf hr
      exact apply_of_refused ⟨leaf,hr⟩ l.config

/-- Of two refused variables the one that comes first by name is reported, although it was set last. With
it gone, and a name in small letters in its place, the privileged are overridden and nothing else. -/
theorem overlaid_fieldwise_two_refused :
    let overlaid (entries : List (String × String)) := (start.withScope "t").overlaid ⟨entries⟩
    overlaid [("T__TELEMETRY__METRICS__ENABLED", "maybe"), ("T__ROUTING__PRIVILEGED", "root"),
        ("T__ROUTING__DEFAULT_ROUTE", "lobby")] =
      .error (.badVariable "T__ROUTING__DEFAULT_ROUTE" "expected 'admin' or 'standard'") ∧
    ∃ d, overlaid [("T__routing__default_route", "lobby"), ("T__ROUTING__PRIVILEGED", "root, ,ops")] =
        .ok d ∧ d.routing = ⟨["root", "ops"], .standard⟩ ∧ d.telemetry = .default := by
  intro overlaid
  obtain ⟨-,-,-,-,-,h⟩ := overlaid_fieldwise start "t"
  have hc : Text.capitals "t" = "T" := by decide
  rw [hc] at h
  constructor
  · have hr : Refused "T" ⟨[("T__TELEMETRY__METRICS__ENABLED", "maybe"),
        ("T__ROUTING__PRIVILEGED", "root"), ("T__ROUTING__DEFAULT_ROUTE", "lobby")]⟩
        .defaultRoute := ⟨"lobby",by decide,by decide⟩
    obtain ⟨least,hb,he⟩ := (h _).2.2.2 _ hr
    cases least with
    | defaultRoute => exact he
    | users =>
      obtain ⟨value,hv,-⟩ := hb.refused
      cases hv
    | _ => exact absurd (hb.first _ hr) (by decide)
  · have hn (leaf : Leaf) : ¬ Refused "T" ⟨[("T__routing__default_route", "lobby"),
        ("T__ROUTING__PRIVILEGED", "root, ,ops")]⟩ leaf := by
      rintro ⟨value,hv,hr⟩
      cases leaf with
      | privileged => cases hr
      | _ => cases hv
    obtain ⟨d,hd,hl,-⟩ := (h _).1 hn
    have he : d = { Config.default with routing := ⟨["root", "ops"], .standard⟩ } := by
      apply Leaf.config_ext
      funext leaf
      rw [hl]
      cases leaf <;> rfl
    subst he
    exact ⟨_,hd,rfl,rfl⟩

end Loader

end Turnstile
