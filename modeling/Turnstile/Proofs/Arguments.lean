import Turnstile.CommandLine
import Turnstile.Proofs.Basics

/-! What the arguments of the command line ask for. They are read one at a time, options only as long as
none was kept and no separator came; so nothing after the first argument is ever an option, and the forms
that the arguments can have are a short list. -/
namespace Turnstile

namespace UsageError

lemma message_unknownArgument (argument : String) :
    (unknownArgument argument).message = "Unknown argument: " ++ argument := rfl

lemma message_wrongCount (count : Nat) :
    (wrongCount count).message =
      "Expected <IDENTITY> <SECRET>, got " ++ toString count ++ " argument(s)" := rfl

lemma message_unknownArgument_ne (argument : String) (count : Nat) :
    (unknownArgument argument).message ≠ (wrongCount count).message := by
  rw [message_unknownArgument, message_wrongCount]
  intro h
  have hc := congrArg (fun s => s.toList.head?) h
  simp at hc

/-- A refusal is told apart from any other by its text. -/
lemma message_injective : Function.Injective message := by
  intro e e' h
  cases e with
  | unknownArgument argument =>
    cases e' with
    | unknownArgument argument' =>
      rw [message_unknownArgument, message_unknownArgument, String.append_right_inj] at h
      rw [h]
    | wrongCount count => exact absurd h (message_unknownArgument_ne _ _)
  | wrongCount count =>
    cases e' with
    | unknownArgument argument => exact absurd h.symm (message_unknownArgument_ne _ _)
    | wrongCount count' =>
      rw [message_wrongCount, message_wrongCount, String.append_left_inj, String.append_right_inj,
        Nat.toString_eq_ofList_toDigits, Nat.toString_eq_ofList_toDigits, String.ofList_inj] at h
      -- A number can be read off its digits.
      have hc : count = count' := by
        simpa using congrArg (Nat.ofDigitChars 10 · 0) h
      rw [hc]

variable {result : Except UsageError α}

lemma mapError_message_eq_ok_iff {a : α} : result.mapError message = .ok a ↔ result = .ok a := by
  cases result <;> simp [Except.mapError]

lemma mapError_message_eq_error_iff {e : UsageError} :
    result.mapError message = .error e.message ↔ result = .error e := by
  cases result <;> simp [Except.mapError, message_injective.eq_iff]

end UsageError

namespace Command

/-- How far the arguments are read: those that were kept, and whether a separator came. -/
structure Scan where
  kept : List String
  separated : Bool
  deriving DecidableEq

namespace Scan

def start : Scan := ⟨[], false⟩

def keep (s : Scan) (argument : String) : Scan := { s with kept := s.kept ++ [argument] }

/-- Options are no longer looked for. -/
def Deaf (s : Scan) : Prop := s.separated = true ∨ s.kept ≠ []

/-- Reads an argument. An option puts an end to the reading, with what comes of it. -/
def next (s : Scan) (argument : String) : Except (Except UsageError Command) Scan :=
  if s.separated || !s.kept.isEmpty then .ok (s.keep argument)
  else if argument = "--" then .ok { s with separated := true }
  else if argument = "--help" || argument = "-h" then .error (.ok .help)
  else if argument = "--version" || argument = "-v" then .error (.ok .version)
  else if looksLikeOption argument then .error (.error (.unknownArgument argument))
  else .ok (s.keep argument)

/-- What comes of the arguments in the end. -/
def finish : Except (Except UsageError Command) Scan → Except UsageError Command
  | .ok s => ofPair s.kept
  | .error r => r

variable {s : Scan} {argument : String}

lemma keep_deaf (s : Scan) (argument : String) : (s.keep argument).Deaf := by
  simp [Deaf, keep]

lemma next_of_deaf (h : s.Deaf) (argument : String) : s.next argument = .ok (s.keep argument) := by
  rw [next, if_pos]
  simpa [Deaf] using h

/-- Once options are no longer looked for all the rest is kept. -/
lemma foldlM_next_of_deaf (h : s.Deaf) (arguments : List String) :
    arguments.foldlM next s = .ok { s with kept := s.kept ++ arguments } := by
  induction arguments generalizing s with
  | nil => simp [pure, Except.pure]
  | cons argument rest ih =>
    rw [List.foldlM_cons, next_of_deaf h]
    exact (ih (s.keep_deaf argument)).trans (by simp [keep])

lemma next_start (argument : String) :
    start.next argument =
      if argument = "--" then .ok ⟨[], true⟩
      else if argument = "--help" || argument = "-h" then .error (.ok .help)
      else if argument = "--version" || argument = "-v" then .error (.ok .version)
      else if looksLikeOption argument then .error (.error (.unknownArgument argument))
      else .ok (start.keep argument) := rfl

/-- Whatever comes first, if it is no option then none is looked for after it. -/
lemma deaf_of_next_start (h : start.next argument = .ok s) : s.Deaf := by
  rw [next_start] at h
  split_ifs at h
  · cases h
    exact Or.inl rfl
  · cases h
    exact keep_deaf ..

lemma deaf_of_foldlM_start {arguments : List String} (hne : arguments ≠ [])
    (h : arguments.foldlM next start = .ok s) : s.Deaf := by
  obtain ⟨first,rest,rfl⟩ := List.exists_cons_of_ne_nil hne
  rw [List.foldlM_cons, Except.bind_eq_ok_iff] at h
  obtain ⟨t,ht,h⟩ := h
  rw [foldlM_next_of_deaf (deaf_of_next_start ht)] at h
  cases h
  exact (deaf_of_next_start ht).imp id fun hk => by simp [hk]

end Scan

/-- Reading the arguments one at a time comes to the same. -/
lemma parse_eq_finish (arguments : List String) :
    parse arguments = Scan.finish (arguments.foldlM Scan.next Scan.start) := by
  cases arguments with
  | nil => rfl
  | cons first rest =>
    rw [List.foldlM_cons, Scan.next_start, parse]
    split_ifs
    · have h : (⟨[], true⟩ : Scan).Deaf := Or.inl rfl
      exact (congrArg Scan.finish (Scan.foldlM_next_of_deaf h rest)).symm
    · rfl
    · rfl
    · rfl
    · exact (congrArg Scan.finish (Scan.foldlM_next_of_deaf (Scan.start.keep_deaf first) rest)).symm

/-- Begins with a dash. -/
def Dashed (argument : String) : Prop := argument.toList.head? = some '-'

instance : DecidablePred Dashed := fun argument =>
  inferInstanceAs (Decidable (argument.toList.head? = some '-'))

/-- May stand for an identity without a separator before it. -/
def Plain (argument : String) : Prop := ¬ Dashed argument ∨ argument = "-"

/-- Looks like an option and is none. -/
def Unknown (argument : String) : Prop :=
  Dashed argument ∧ 1 < argument.length ∧ argument ∉ ["--", "--help", "-h", "--version", "-v"]

lemma looksLikeOption_iff {argument : String} :
    looksLikeOption argument = true ↔ Dashed argument ∧ 1 < argument.length := by
  rw [looksLikeOption, Dashed, ← String.length_toList]
  rcases argument.toList with _ | ⟨c,_ | ⟨d,rest⟩⟩
  · simp
  · simp
  · by_cases h : c = '-' <;> simp [h]

lemma plain_iff {argument : String} : Plain argument ↔ looksLikeOption argument = false := by
  rw [← Bool.not_eq_true, looksLikeOption_iff, not_and, Plain, ← imp_iff_not_or]
  refine imp_congr_right fun hd => ?_
  constructor
  · rintro rfl
    decide
  · intro hl
    rw [Dashed, List.head?_eq_some_iff] at hd
    obtain ⟨rest,hr⟩ := hd
    rw [← String.length_toList, hr, List.length_cons] at hl
    rw [List.length_eq_zero_iff.mp (by omega : rest.length = 0)] at hr
    exact String.toList_injective hr

/-- The forms that the arguments can have, each with what comes of it. -/
inductive Usage : List String → Except UsageError Command → Prop
  | separated (identity secret : String) : Usage ["--", identity, secret] (.ok (.login ⟨identity, secret⟩))
  | plain {identity : String} (h : Plain identity) (secret : String) :
      Usage [identity, secret] (.ok (.login ⟨identity, secret⟩))
  | help {first : String} (h : first = "--help" ∨ first = "-h") (rest : List String) :
      Usage (first :: rest) (.ok .help)
  | version {first : String} (h : first = "--version" ∨ first = "-v") (rest : List String) :
      Usage (first :: rest) (.ok .version)
  | unknown {first : String} (h : Unknown first) (rest : List String) :
      Usage (first :: rest) (.error (.unknownArgument first))
  | separatedCount {rest : List String} (h : rest.length ≠ 2) :
      Usage ("--" :: rest) (.error (.wrongCount rest.length))
  | plainCount {arguments : List String} (hp : ∀ first ∈ arguments.head?, Plain first)
      (h : arguments.length ≠ 2) : Usage arguments (.error (.wrongCount arguments.length))

lemma ofPair_of_length_ne {arguments : List String} (h : arguments.length ≠ 2) :
    ofPair arguments = .error (.wrongCount arguments.length) := by
  rw [ofPair]
  rintro identity secret rfl
  exact h rfl

lemma usage_ofPair {arguments : List String} (h : ∀ first ∈ arguments.head?, Plain first) :
    Usage arguments (ofPair arguments) := by
  by_cases hl : arguments.length = 2
  · obtain ⟨identity,secret,rfl⟩ := List.length_eq_two.mp hl
    exact .plain (h identity rfl) secret
  · rw [ofPair_of_length_ne hl]
    exact .plainCount h hl

lemma usage_separated_ofPair (rest : List String) : Usage ("--" :: rest) (ofPair rest) := by
  by_cases hl : rest.length = 2
  · obtain ⟨identity,secret,rfl⟩ := List.length_eq_two.mp hl
    exact .separated identity secret
  · rw [ofPair_of_length_ne hl]
    exact .separatedCount hl

lemma usage_parse (arguments : List String) : Usage arguments (parse arguments) := by
  cases arguments with
  | nil => exact usage_ofPair (by simp)
  | cons first rest =>
    rw [parse]
    split_ifs with hs hh hv ho
    · exact hs ▸ usage_separated_ofPair rest
    · exact .help (by simpa using hh) rest
    · exact .version (by simpa using hv) rest
    · obtain ⟨hd,hl⟩ := looksLikeOption_iff.mp ho
      refine .unknown ⟨hd,hl,?_⟩ rest
      simp_all
    · exact usage_ofPair (by simpa using plain_iff.mpr (Bool.eq_false_iff.mpr ho))

lemma Plain.ne {first option : String} (h : Plain first) (ho : looksLikeOption option = true) :
    first ≠ option := by
  rintro rfl
  exact Bool.false_ne_true ((plain_iff.mp h).symm.trans ho)

lemma parse_of_plain {arguments : List String} (h : ∀ first ∈ arguments.head?, Plain first) :
    parse arguments = ofPair arguments := by
  cases arguments with
  | nil => rfl
  | cons first rest =>
    have hp : Plain first := h first rfl
    have hno (option : String) (ho : looksLikeOption option = true) : first ≠ option := hp.ne ho
    rw [parse, if_neg (hno _ (by decide)), if_neg, if_neg, if_neg (by simp [plain_iff.mp hp])]
    · simpa using ⟨hno "--version" (by decide),hno "-v" (by decide)⟩
    · simpa using ⟨hno "--help" (by decide),hno "-h" (by decide)⟩

lemma parse_eq_of_usage {arguments : List String} {r : Except UsageError Command}
    (h : Usage arguments r) : parse arguments = r := by
  cases h with
  | separated identity secret => rfl
  | plain h secret => exact parse_of_plain (by simpa using h)
  | help h rest => rcases h with rfl | rfl <;> rfl
  | version h rest => rcases h with rfl | rfl <;> rfl
  | unknown h rest =>
    obtain ⟨hd,hl,hn⟩ := h
    simp only [List.mem_cons, List.not_mem_nil, or_false, not_or] at hn
    simp [parse, looksLikeOption_iff.mpr ⟨hd,hl⟩, hn]
  | separatedCount h => exact ofPair_of_length_ne h
  | plainCount hp h => exact (parse_of_plain hp).trans (ofPair_of_length_ne h)

lemma parse_eq_iff_usage {arguments : List String} {r : Except UsageError Command} :
    parse arguments = r ↔ Usage arguments r :=
  ⟨fun h => h ▸ usage_parse arguments,parse_eq_of_usage⟩

/-- An identity and a secret, after a separator or with an identity that needs none. -/
def GivesLogin (arguments : List String) (identity secret : String) : Prop :=
  arguments = ["--", identity, secret] ∨ (arguments = [identity, secret] ∧ Plain identity)

def AsksHelp (arguments : List String) : Prop :=
  arguments.head? = some "--help" ∨ arguments.head? = some "-h"

def AsksVersion (arguments : List String) : Prop :=
  arguments.head? = some "--version" ∨ arguments.head? = some "-v"

def BeginsUnknown (arguments : List String) (argument : String) : Prop :=
  arguments.head? = some argument ∧ Unknown argument

/-- The arguments without a separator before them. -/
def unseparated (arguments : List String) : List String :=
  if arguments.head? = some "--" then arguments.tail else arguments

section Forms
variable {arguments : List String}

lemma parse_eq_login_iff {identity secret : String} :
    parse arguments = .ok (.login ⟨identity, secret⟩) ↔ GivesLogin arguments identity secret := by
  rw [parse_eq_iff_usage]
  constructor
  · intro h
    cases h with
    | separated => exact Or.inl rfl
    | plain h => exact Or.inr ⟨rfl,h⟩
  · rintro (rfl | ⟨rfl,h⟩)
    · exact .separated identity secret
    · exact .plain h secret

lemma parse_eq_help_iff : parse arguments = .ok .help ↔ AsksHelp arguments := by
  rw [parse_eq_iff_usage, AsksHelp]
  constructor
  · intro h
    cases h with
    | help h => simpa using h
  · cases arguments with
    | nil => simp
    | cons first rest => exact fun h => .help (by simpa using h) rest

lemma parse_eq_version_iff : parse arguments = .ok .version ↔ AsksVersion arguments := by
  rw [parse_eq_iff_usage, AsksVersion]
  constructor
  · intro h
    cases h with
    | version h => simpa using h
  · cases arguments with
    | nil => simp
    | cons first rest => exact fun h => .version (by simpa using h) rest

lemma parse_eq_unknownArgument_iff {argument : String} :
    parse arguments = .error (.unknownArgument argument) ↔ BeginsUnknown arguments argument := by
  rw [parse_eq_iff_usage]
  constructor
  · intro h
    cases h with
    | unknown h => exact ⟨rfl,h⟩
  · rintro ⟨hh,h⟩
    obtain ⟨rest,rfl⟩ := List.head?_eq_some_iff.mp hh
    exact .unknown h rest

lemma eq_length_of_wrongCount {n : Nat} (h : parse arguments = .error (.wrongCount n)) :
    n = (unseparated arguments).length := by
  cases parse_eq_iff_usage.mp h with
  | separatedCount => rfl
  | plainCount hp =>
    rw [unseparated, if_neg]
    intro hs
    exact (hp "--" hs).ne (by decide) rfl

/-- Whatever has none of the other forms has the wrong number of arguments. -/
lemma parse_eq_wrongCount_iff {n : Nat} :
    parse arguments = .error (.wrongCount n) ↔
      (∀ identity secret, ¬ GivesLogin arguments identity secret) ∧ ¬ AsksHelp arguments ∧
        ¬ AsksVersion arguments ∧ (∀ argument, ¬ BeginsUnknown arguments argument) ∧
          n = (unseparated arguments).length := by
  simp only [← parse_eq_login_iff, ← parse_eq_help_iff, ← parse_eq_version_iff,
    ← parse_eq_unknownArgument_iff]
  constructor
  · intro h
    have hn := eq_length_of_wrongCount h
    simp [h, hn]
  · rintro ⟨hl,hh,hv,hu,rfl⟩
    rcases hr : parse arguments with (argument | n) | (attempt | _ | _)
    · exact absurd hr (hu argument)
    · rw [eq_length_of_wrongCount hr]
    · exact absurd hr (hl attempt.identity attempt.secret)
    · exact absurd hr hh
    · exact absurd hr hv

end Forms

lemma ofPair_eq_or_logins {l m : List String} (h : m.length = l.length) :
    ofPair m = ofPair l ∨ ∃ a b, ofPair m = .ok (.login a) ∧ ofPair l = .ok (.login b) := by
  by_cases h2 : l.length = 2
  · obtain ⟨identity,secret,rfl⟩ := List.length_eq_two.mp h2
    obtain ⟨identity',secret',rfl⟩ := List.length_eq_two.mp h
    exact Or.inr ⟨_,_,rfl,rfl⟩
  · rw [ofPair_of_length_ne h2, ofPair_of_length_ne (h ▸ h2), h]
    exact Or.inl rfl

/-- The arguments after the first do not matter unless they are taken as they are. -/
lemma parse_eq_or_logins {arguments others : List String} (hl : others.length = arguments.length)
    (hh : others.head? = arguments.head?) :
    parse others = parse arguments ∨
      ∃ a b, parse others = .ok (.login a) ∧ parse arguments = .ok (.login b) := by
  cases arguments with
  | nil =>
    rw [List.length_eq_zero_iff.mp hl]
    exact Or.inl rfl
  | cons first rest =>
    obtain ⟨rest',rfl⟩ := List.head?_eq_some_iff.mp hh
    rw [parse, parse]
    split_ifs
    · exact ofPair_eq_or_logins (by simpa using hl)
    · exact Or.inl rfl
    · exact Or.inl rfl
    · exact Or.inl rfl
    · exact ofPair_eq_or_logins hl

/-- The arguments are a login if they are an identity and a secret, after a separator if the identity looks
like an option; they ask for help or for the version, or begin with an option that is unknown, by their first
one alone; anything else is refused with the number of what is there to take. An argument that is not the
first is taken as it is. -/
theorem parse_grammar (arguments : List String) :
    let result := (parse arguments).mapError UsageError.message
    (∀ identity secret, result = .ok (.login ⟨identity, secret⟩) ↔
      arguments = ["--", identity, secret] ∨
        (arguments = [identity, secret] ∧ (¬ Dashed identity ∨ identity = "-"))) ∧
    (∀ identity secret, parse ["--", identity, secret] = .ok (.login ⟨identity, secret⟩)) ∧
    (result = .ok .help ↔ arguments.head? = some "--help" ∨ arguments.head? = some "-h") ∧
    (result = .ok .version ↔ arguments.head? = some "--version" ∨ arguments.head? = some "-v") ∧
    (∀ argument, result = .error ("Unknown argument: " ++ argument) ↔
      arguments.head? = some argument ∧ Dashed argument ∧ 1 < argument.length ∧
        argument ∉ ["--", "--help", "-h", "--version", "-v"]) ∧
    (∀ n : Nat,
      result = .error ("Expected <IDENTITY> <SECRET>, got " ++ toString n ++ " argument(s)") ↔
        (∀ identity secret, ¬ GivesLogin arguments identity secret) ∧ ¬ AsksHelp arguments ∧
          ¬ AsksVersion arguments ∧ (∀ argument, ¬ BeginsUnknown arguments argument) ∧
            n = (unseparated arguments).length) ∧
    (∀ others : List String, others.length = arguments.length → others.head? = arguments.head? →
      parse others = parse arguments ∨
        ∃ a b, parse others = .ok (.login a) ∧ parse arguments = .ok (.login b)) ∧
    parse arguments = Scan.finish (arguments.foldlM Scan.next Scan.start) ∧
    ∀ before s, before ≠ [] → before.foldlM Scan.next Scan.start = .ok s →
      ∀ argument, s.next argument = .ok (s.keep argument) := by
  refine ⟨?_,?_,?_,?_,?_,?_,?_,parse_eq_finish arguments,?_⟩
  · intro identity secret
    rw [UsageError.mapError_message_eq_ok_iff]
    exact parse_eq_login_iff
  · intro identity secret
    exact parse_eq_of_usage (.separated identity secret)
  · rw [UsageError.mapError_message_eq_ok_iff]
    exact parse_eq_help_iff
  · rw [UsageError.mapError_message_eq_ok_iff]
    exact parse_eq_version_iff
  · intro argument
    rw [← UsageError.message_unknownArgument, UsageError.mapError_message_eq_error_iff]
    exact parse_eq_unknownArgument_iff
  · intro n
    rw [← UsageError.message_wrongCount, UsageError.mapError_message_eq_error_iff]
    exact parse_eq_wrongCount_iff
  · intro others hl hh
    exact parse_eq_or_logins hl hh
  · intro before s hne hs
    exact Scan.next_of_deaf (Scan.deaf_of_foldlM_start hne hs)

/-- What looks like an option is a secret after an identity, and nothing after an option. -/
theorem parse_grammar_dashed_second :
    parse ["admin", "--help"] = .ok (.login ⟨"admin", "--help"⟩) ∧
      (⟨["admin"], false⟩ : Scan).next "--help" = .ok ⟨["admin", "--help"], false⟩ ∧
      parse ["-x", "--help"] = parse ["-x", "--"] := by
  obtain ⟨hl,-,-,-,-,-,-,-,hs⟩ := parse_grammar ["admin", "--help"]
  obtain ⟨-,-,-,-,-,-,ho,-,-⟩ := parse_grammar ["-x", "--"]
  refine ⟨?_,?_,?_⟩
  · rw [← UsageError.mapError_message_eq_ok_iff]
    exact (hl "admin" "--help").mpr (Or.inr ⟨rfl,Or.inl (by decide)⟩)
  · exact hs ["admin"] _ (List.cons_ne_nil _ _) rfl "--help"
  · rcases ho ["-x", "--help"] rfl rfl with h | ⟨a,b,h,-⟩
    · exact h
    · cases h

end Command
end Turnstile
