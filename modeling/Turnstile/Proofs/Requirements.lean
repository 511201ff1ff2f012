import Turnstile.Proofs.ItemLists
import Turnstile.Proofs.Overlay

/-! What a configuration has to be like to be loaded. Four requirements are looked at in a fixed order, after
the variables were taken into account, and the first that is not met is reported. Variables can bring in an
identity without letters among the users, but none among the privileged. -/
namespace Turnstile

lemma createFilter_eq_aborted_iff (level : String) :
    createFilter level = .error .aborted ↔ Filter.read level = .error .splitCharacter := by
  rw [createFilter]
  split <;> simp_all

/-- What is asked of a configuration. -/
inductive Requirement where
  | users
  | privileged
  | serviceName
  | logLevel
  deriving DecidableEq, Repr

namespace Requirement

/-- The field that it is about. -/
def field : Requirement → String
  | users => "credentials.users"
  | privileged => "routing.privileged"
  | serviceName => "telemetry.service_name"
  | logLevel => "telemetry.logging.level"

lemma field_injective : Function.Injective field := by
  intro a b h
  cases a <;> cases b <;> simp_all [field]

/-- Its place in the order in which they are looked at. -/
def rank : Requirement → Nat
  | users => 0
  | privileged => 1
  | serviceName => 2
  | logLevel => 3

/-- Identities are not empty, the service has a name, and the level of the log makes sense if there is to be
a log. -/
def Met (c : Config) : Requirement → Prop
  | users => "" ∉ c.credentials.users.identities
  | privileged => "" ∉ c.routing.privileged
  | serviceName => ¬ Text.Blank c.telemetry.serviceName.toList
  | logLevel =>
    c.telemetry.logging.enabled = true → ∃ filter, createFilter c.telemetry.logging.level = .ok filter

/-- Of the requirements that are not met it is the first. -/
structure FirstUnmet (c : Config) (r : Requirement) : Prop where
  unmet : ¬ r.Met c
  earlier : ∀ other : Requirement, other.rank < r.rank → other.Met c

variable {c : Config}

lemma exists_firstUnmet (h : ∃ r : Requirement, ¬ r.Met c) : ∃ r, FirstUnmet c r := by
  obtain ⟨r,hr⟩ := h
  induction hn : r.rank using Nat.strong_induction_on generalizing r with
  | _ n ih =>
    by_cases he : ∀ other : Requirement, other.rank < r.rank → other.Met c
    · exact ⟨r,hr,he⟩
    · push Not at he
      obtain ⟨other,hlt,ho⟩ := he
      exact ih other.rank (hn ▸ hlt) other ho rfl

end Requirement

namespace Config
open Requirement
variable {c : Config} {r : Requirement}

lemma any_isEmpty_iff (names : List String) : names.any (·.isEmpty) = true ↔ "" ∈ names := by
  simp [List.any_eq_true]

lemma isEmpty_trimmed_iff (s : String) : (Text.trimmed s).isEmpty = true ↔ Text.Blank s.toList := by
  rw [String.isEmpty_iff, Text.trimmed, ← Text.trim_eq_nil_iff]
  exact String.ofList_eq_empty_iff

/-- What is said of a level that the reader of filters refuses. -/
def levelReason (level : String) (e : TelemetryError) : String :=
  (TelemetryError.invalidConfig ("log level `" ++ level ++ "`: " ++ e.message)).message

/-- With the other requirements met, all depends on the level. -/
lemma validate_of_named (hu : users.Met c) (hp : privileged.Met c) (hs : serviceName.Met c) :
    c.validate =
      if c.telemetry.logging.enabled = true then
        match createFilter c.telemetry.logging.level with
        | .ok _ => .ok ()
        | .error .aborted => .error .aborted
        | .error e =>
          .error (.invalidValue logLevel.field (levelReason c.telemetry.logging.level e))
      else .ok () := by
  have hl : c.telemetry.logConfig.level = c.telemetry.logging.level := rfl
  rw [validate, if_neg (mt (any_isEmpty_iff _).mp hu), if_neg (mt (any_isEmpty_iff _).mp hp),
    if_neg (mt (isEmpty_trimmed_iff _).mp hs), LogConfig.validate, hl]
  congr 1
  cases createFilter c.telemetry.logging.level with
  | ok filter => rfl
  | error e => cases e <;> rfl

lemma validate_of_met (h : ∀ r : Requirement, r.Met c) : c.validate = .ok () := by
  rw [validate_of_named (h users) (h privileged) (h serviceName)]
  split
  · rename_i he
    obtain ⟨filter,hf⟩ := h logLevel he
    rw [hf]
  · rfl

/-- The first requirement that is not met is reported, unless the reader of filters breaks down over it. -/
lemma validate_of_firstUnmet (h : r.FirstUnmet c) :
    (∃ reason, c.validate = .error (.invalidValue r.field reason)) ∨
      (r = logLevel ∧ Filter.read c.telemetry.logging.level = .error .splitCharacter ∧
        c.validate = .error .aborted) := by
  have hmet (other : Requirement) (hlt : other.rank < r.rank) : other.Met c := h.earlier other hlt
  cases r with
  | users =>
    have hu := (any_isEmpty_iff _).mpr (not_not.mp h.unmet)
    exact Or.inl ⟨_,by rw [validate, if_pos hu]; rfl⟩
  | privileged =>
    have hu := mt (any_isEmpty_iff _).mp (hmet users (by decide))
    have hp := (any_isEmpty_iff _).mpr (not_not.mp h.unmet)
    exact Or.inl ⟨_,by rw [validate, if_neg hu, if_pos hp]; rfl⟩
  | serviceName =>
    have hu := mt (any_isEmpty_iff _).mp (hmet users (by decide))
    have hp := mt (any_isEmpty_iff _).mp (hmet privileged (by decide))
    have hs := (isEmpty_trimmed_iff _).mpr (not_not.mp h.unmet)
    exact Or.inl ⟨_,by rw [validate, if_neg hu, if_neg hp, if_pos hs]; rfl⟩
  | logLevel =>
    obtain ⟨he,hf⟩ := Classical.not_imp.mp h.unmet
    have hv := validate_of_named (hmet users (by decide)) (hmet privileged (by decide))
      (hmet serviceName (by decide))
    rw [if_pos he] at hv
    cases hc : createFilter c.telemetry.logging.level with
    | ok filter => exact absurd ⟨filter,hc⟩ hf
    | error e =>
      rw [hc] at hv
      cases e with
      | aborted => exact Or.inr ⟨rfl,(createFilter_eq_aborted_iff _).mp hc,hv⟩
      | _ => exact Or.inl ⟨_,hv⟩

lemma validate_eq_ok_iff : c.validate = .ok () ↔ ∀ r : Requirement, r.Met c := by
  refine ⟨?_,validate_of_met⟩
  intro h
  by_contra hn
  obtain ⟨r,hr⟩ := exists_firstUnmet (not_forall.mp hn)
  rcases validate_of_firstUnmet hr with ⟨reason,hv⟩ | ⟨-,-,hv⟩
  · cases hv.symm.trans h
  · cases hv.symm.trans h

/-- What is reported is the first requirement that is not met. -/
lemma firstUnmet_of_validate {reason : String}
    (h : c.validate = .error (.invalidValue r.field reason)) : r.FirstUnmet c := by
  have hu : ∃ r : Requirement, ¬ r.Met c := by
    by_contra hn
    cases (validate_of_met (not_exists_not.mp hn)).symm.trans h
  obtain ⟨first,hf⟩ := exists_firstUnmet hu
  rcases validate_of_firstUnmet hf with ⟨note,hv⟩ | ⟨-,-,hv⟩
  · obtain ⟨he,-⟩ := ConfigError.invalidValue.inj (Except.error.inj (hv.symm.trans h))
    exact field_injective he ▸ hf
  · cases hv.symm.trans h

end Config

namespace Loader
open Override Requirement
variable {l : Loader} {env : Environment} {c : Config}

lemma load_of_overlaid (h : l.overlaid env = .ok c) :
    l.load env = (c.validate >>= fun _ => .ok c) := by
  rw [load, h]
  rfl

lemma load_eq_ok_iff : l.load env = .ok c ↔ l.overlaid env = .ok c ∧ ∀ r : Requirement, r.Met c := by
  rw [load, Except.bind_eq_ok_iff, ← Config.validate_eq_ok_iff]
  constructor
  · rintro ⟨d,hd,h⟩
    obtain ⟨⟨⟩,hv,⟨⟩⟩ := Except.bind_eq_ok_iff.mp h
    exact ⟨hd,hv⟩
  · rintro ⟨hd,hv⟩
    exact ⟨c,hd,Except.bind_eq_ok_iff.mpr ⟨(),hv,rfl⟩⟩

lemma load_of_invalid {e : ConfigError} (h : l.overlaid env = .ok c) (hv : c.validate = .error e) :
    l.load env = .error e := by
  rw [load_of_overlaid h, hv]
  rfl

lemma overlaid_eq_error {e : ConfigError} (h : l.overlaid env = .error e) :
    ∃ name reason, e = .badVariable name reason := by
  rw [overlaid] at h
  split at h
  · rename_i scope _
    by_cases hr : ∃ leaf, Refused scope env leaf
    · obtain ⟨leaf,-,he⟩ := apply_of_refused hr l.config
      exact ⟨_,_,Except.error.inj (h.symm.trans he)⟩
    · obtain ⟨d,hd,-⟩ := apply_of_accepted (not_exists.mp hr) l.config
      cases h.symm.trans hd
  · cases h

/-- A field is what its variable says, if that is there. -/
lemma read?_of_overlaid {scope text : String} {leaf : Leaf} (hs : l.scope = some scope)
    (h : l.overlaid env = .ok c) (ht : env.last? (leaf.variableName scope) = some text) :
    leaf.read? text = some (leaf.get c) := by
  rw [overlaid, hs] at h
  have hl := apply_eq_ok_iff.mp h leaf
  rw [overlaid?, ht] at hl
  exact hl

/-- The first requirement that is not met is reported by the loader too. -/
lemma load_of_firstUnmet {first : Requirement} (hc : l.overlaid env = .ok c) (hf : first.FirstUnmet c) :
    (∃ reason, l.load env = .error (.invalidValue first.field reason)) ∨
      (first = .logLevel ∧ Filter.read c.telemetry.logging.level = .error .splitCharacter ∧
        l.load env = .error .aborted) := by
  rcases Config.validate_of_firstUnmet hf with ⟨reason,hv⟩ | ⟨hr,hb,hv⟩
  · exact Or.inl ⟨reason,load_of_invalid hc hv⟩
  · exact Or.inr ⟨hr,hb,load_of_invalid hc hv⟩

/-- Where a requirement of the configuration is reported, it is its first that is not met. -/
lemma firstUnmet_of_load {first : Requirement} {reason : String}
    (h : l.load env = .error (.invalidValue first.field reason)) :
    ∃ c, l.overlaid env = .ok c ∧ first.FirstUnmet c := by
  cases hc : l.overlaid env with
  | error e =>
    obtain ⟨name,note,rfl⟩ := overlaid_eq_error hc
    rw [load, hc] at h
    cases h
  | ok c =>
    rw [load_of_overlaid hc] at h
    rcases Except.bind_eq_error_iff.mp h with hv | ⟨-,-,h⟩
    · exact ⟨c,rfl,Config.firstUnmet_of_validate hv⟩
    · cases h

section Variables
variable {scope text : String} (hs : l.scope = some scope)
include hs

lemma users_met_iff_of_variable (ht : env.last? (Leaf.users.variableName scope) = some text)
    (hc : l.overlaid env = .ok c) :
    users.Met c ↔ ¬ ∃ piece ∈ Text.pieces ',' text.toList, ∃ secret, Names piece ("", secret) :=
  not_congr (mem_identities_of_users? (read?_of_overlaid hs hc ht) "")

lemma privileged_met_of_variable (ht : env.last? (Leaf.privileged.variableName scope) = some text)
    (hc : l.overlaid env = .ok c) : privileged.Met c := by
  have hp : some (Override.list text) = some c.routing.privileged := read?_of_overlaid hs hc ht
  rw [Requirement.Met, ← Option.some.inj hp]
  exact fun hm => (Override.writable_of_mem_list hm).nonempty rfl

end Variables

/-- A configuration is loaded if and only if the variables can be taken into account and what they make of it
meets all requirements, and it is then exactly that. A variable that makes no sense is reported before
anything else, and otherwise the first requirement that is not met, whichever others are not met either. If
the users come from a variable, they meet theirs if and only if no piece of it names the empty identity, and
privileged identities that come from a variable always do. -/
theorem load_requirements (l : Loader) (env : Environment) :
    (∀ c, l.load env = .ok c ↔ l.overlaid env = .ok c ∧ ∀ r : Requirement, r.Met c) ∧
    (∀ e, l.overlaid env = .error e →
      l.load env = .error e ∧ ∃ name reason, e = .badVariable name reason) ∧
    (∀ c, l.overlaid env = .ok c → (∃ r : Requirement, ¬ r.Met c) →
      ∃ first : Requirement, first.FirstUnmet c ∧
        ((∃ reason, l.load env = .error (.invalidValue first.field reason)) ∨
          (first = .logLevel ∧ Filter.read c.telemetry.logging.level = .error .splitCharacter ∧
            l.load env = .error .aborted))) ∧
    ∀ scope, l.scope = some scope →
      (∀ text, env.last? (Leaf.users.variableName scope) = some text →
        (∀ c, l.overlaid env = .ok c →
          (Requirement.users.Met c ↔
            ¬ ∃ piece ∈ Text.pieces ',' text.toList, ∃ secret, Names piece ("", secret))) ∧
        ((∃ piece ∈ Text.pieces ',' text.toList, ∃ secret, Names piece ("", secret)) →
          (∀ c, l.load env ≠ .ok c) ∧ ∀ c, l.overlaid env = .ok c →
            ∃ reason, l.load env = .error (.invalidValue Requirement.users.field reason))) ∧
      ∀ text, env.last? (Leaf.privileged.variableName scope) = some text →
        (∀ c, l.overlaid env = .ok c → Requirement.privileged.Met c) ∧
        ∀ reason, l.load env ≠ .error (.invalidValue Requirement.privileged.field reason) := by
  refine ⟨fun c => load_eq_ok_iff,?_,?_,?_⟩
  · intro e he
    exact ⟨by rw [load, he]; rfl,overlaid_eq_error he⟩
  · intro c hc hu
    obtain ⟨first,hf⟩ := exists_firstUnmet hu
    exact ⟨first,hf,load_of_firstUnmet hc hf⟩
  · intro scope hs
    constructor
    · intro text ht
      have hmet (c : Config) (hc : l.overlaid env = .ok c) := users_met_iff_of_variable hs ht hc
      refine ⟨hmet,?_⟩
      intro hn
      constructor
      · intro c h
        obtain ⟨hc,hr⟩ := load_eq_ok_iff.mp h
        exact (hmet c hc).mp (hr users) hn
      · intro c hc
        have hu : users.FirstUnmet c :=
          ⟨fun hm => (hmet c hc).mp hm hn,fun other ho => absurd ho (Nat.not_lt_zero _)⟩
        rcases load_of_firstUnmet hc hu with h | ⟨hr,-⟩
        · exact h
        · cases hr
    · intro text ht
      have hmet (c : Config) (hc : l.overlaid env = .ok c) := privileged_met_of_variable hs ht hc
      refine ⟨hmet,?_⟩
      intro reason hl
      obtain ⟨c,hc,hf⟩ := firstUnmet_of_load hl
      exact hf.unmet (hmet c hc)

/-- An empty identity among the users of a variable is reported although the service has no name either. The
empty identity among the privileged is reported only where no variable replaces them. -/
theorem load_requirements_two_unmet :
    let base : Config := { Config.default with routing := ⟨[""], .standard⟩ }
    let l : Loader := ⟨base, some "T"⟩
    let env : Environment := ⟨[("T__CREDENTIALS__USERS", "bob:pw, :x"),
      ("T__ROUTING__PRIVILEGED", "root, "), ("T__TELEMETRY__SERVICE_NAME", "\t")]⟩
    (∃ c, l.overlaid env = .ok c ∧ c.routing.privileged = ["root"] ∧ ¬ Requirement.serviceName.Met c) ∧
      (∃ reason, l.load env = .error (.invalidValue "credentials.users" reason)) ∧
      ∃ reason, l.load .empty = .error (.invalidValue "routing.privileged" reason) := by
  intro base l env
  have hc : l.overlaid env = .ok ⟨⟨(Users.empty.insert "bob" "pw").insert "" "x"⟩,
      ⟨["root"], .standard⟩, { base.telemetry with serviceName := "\t" }⟩ := by
    refine apply_eq_ok_iff.mpr fun leaf => ?_
    cases leaf <;> decide
  have hb : l.overlaid .empty = .ok base := by
    refine apply_eq_ok_iff.mpr fun leaf => ?_
    cases leaf <;> rfl
  refine ⟨⟨_,hc,rfl,not_not.mpr (by decide)⟩,?_,?_⟩
  · have hn : Names " :x".toList ("", "x") := named?_eq_some_iff.mp (by decide)
    obtain ⟨hu,-⟩ := (load_requirements l env).2.2.2 "T" rfl
    exact ((hu _ rfl).2 ⟨_,by decide,_,hn⟩).2 _ hc
  · have hu : Requirement.users.Met base := show "" ∉ base.credentials.users.identities by decide
    have hp : ¬ Requirement.privileged.Met base := not_not.mpr (by decide)
    obtain ⟨first,hf,h⟩ := (load_requirements l .empty).2.2.1 base hb ⟨_,hp⟩
    cases first with
    | users => exact absurd hu hf.unmet
    | privileged =>
      rcases h with h | ⟨h,-⟩
      · exact h
      · cases h
    | serviceName => exact absurd (hf.earlier .privileged (by decide)) hp
    | logLevel => exact absurd (hf.earlier .privileged (by decide)) hp

end Loader

end Turnstile
