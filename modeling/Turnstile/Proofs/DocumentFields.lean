import Turnstile.Proofs.PartialDocuments

/-! The fields of a configuration in any document that is taken, however it is written. A table gives its
parts by their names. A list may stand in its place, and gives them in the order in which they are declared.
What is given for a field is all that the field is read from, and a field that nothing is given for has its
default value. -/
namespace Turnstile

/-- What is given for the part with this name, out of parts with these names. -/
def Node.part? (names : List String) (name : String) (node : Node) : Option Node :=
  match Decode.listOf? node with
  | some (values, _) => values[names.idxOf name]?
  | none => (Decode.tableOf? node).bind fun (entries, _) => entries.lookup (.named name)

namespace Decode
variable {σ α β : Type} {known : List Field} {build : Row known → σ} {format : Format} {name word : String}
  {t base : σ} {decode : Decoder α} {get : σ → α}

/-- Among items with names, what stands under a name is the item in the name's position. -/
lemma lookup_zip {names : List String} {values : List Node} (hm : name ∈ names) :
    ((names.zip values).map fun (name, value) => (Key.named name, value)).lookup (.named name) =
      values[names.idxOf name]? := by
  induction names generalizing values with
  | nil => cases hm
  | cons first names ih =>
    cases values with
    | nil => rfl
    | cons value values =>
      by_cases hn : first = name
      · subst hn
        simp
      · have hi : (first :: names).idxOf name = names.idxOf name + 1 := List.idxOf_cons_ne _ hn
        have hk : Key.named name ≠ .named first := fun he => hn (Key.named.inj he).symm
        rw [hi, List.getElem?_cons_succ, ← ih ((List.mem_cons.mp hm).resolve_left (Ne.symm hn))]
        exact Pairs.lookup_cons_of_ne hk value

/-- What is given for a part is what the fields hold under its name, in whichever way they were written. -/
lemma part?_eq_lookup {names : List String} {node : Node} {entries : List (Key × Node)}
    {ending : Option Fault} (hm : name ∈ names)
    (he : entriesOf? format names node = some (entries, ending)) :
    node.part? names name = entries.lookup (.named name) := by
  rw [entriesOf?] at he
  rw [Node.part?]
  cases hl : listOf? node with
  | some list =>
    rw [hl] at he
    cases he
    exact (lookup_zip hm).symm
  | none =>
    simp only [hl] at he ⊢
    rw [he, Option.bind_some]

/-- One part of a record, out of whatever the record is read from. -/
lemma get_of_record (hr : Reads build name decode get) (hb : blank build = base)
    (hm : name ∈ known.map (·.name)) {node : Node} (h : record word known build format node = .ok t) :
    (∀ value, node.part? (known.map (·.name)) name = some value →
      decode format value = .ok (get t)) ∧
    (node.part? (known.map (·.name)) name = none → get t = get base) := by
  obtain ⟨entries,filled,he,hf,rfl⟩ := record_eq_ok_iff.mp h
  obtain ⟨hpresent,habsent⟩ := get_of_fields hr hf
  rw [part?_eq_lookup hm he, ← hb]
  constructor
  · intro value hv
    obtain ⟨before,after,hs,-⟩ := List.lookup_eq_some_iff.mp hv
    exact hpresent value (by simp [hs])
  · intro hv
    refine habsent fun value hmem => ?_
    have hne := List.lookup_eq_none_iff.mp hv _ hmem
    simp at hne

/-- What is found in a document is what this part of its value is read from, and the part has its standard
value if nothing is found. -/
def Finds (outer : Decoder σ) (find : Node → Option Node) (inner : Decoder α) (part : σ → α)
    (standard : α) : Prop :=
  ∀ format node t, outer format node = .ok t →
    (∀ value, find node = some value → inner format value = .ok (part t)) ∧
      (find node = none → part t = standard)

lemma finds_self (standard : σ) {outer : Decoder σ} : Finds outer some outer id standard := by
  intro format node t h
  exact ⟨fun _ hv => Option.some.inj hv ▸ h,fun hn => by cases hn⟩

/-- What is found in a part of a record is found in the record. -/
lemma finds_part (hr : Reads build name decode get) (hb : blank build = base)
    (hm : name ∈ known.map (·.name)) {find : Node → Option Node} {inner : Decoder β} (part : α → β)
    (h : Finds decode find inner part (part (get base))) :
    Finds (record word known build) (fun node => (node.part? (known.map (·.name)) name).bind find) inner
      (fun t => part (get t)) (part (get base)) := by
  intro format node t ht
  obtain ⟨hpresent,habsent⟩ := get_of_record hr hb hm ht
  cases hp : node.part? (known.map (·.name)) name with
  | none => simpa [hp] using congrArg part (habsent hp)
  | some child => simpa [hp] using h format child (get t) (hpresent child hp)

open Override

/-- The way to a field: at each step a table, and the name of one of its parts. -/
def Table.steps : Leaf → List (Table × String)
  | .users => [(config, "credentials"), (credentials, "users")]
  | .privileged => [(config, "routing"), (routing, "privileged")]
  | .defaultRoute => [(config, "routing"), (routing, "default_route")]
  | .serviceName => [(config, "telemetry"), (telemetry, "service_name")]
  | .logEnabled => [(config, "telemetry"), (telemetry, "logging"), (logging, "enabled")]
  | .logLevel => [(config, "telemetry"), (telemetry, "logging"), (logging, "level")]
  | .logFormat => [(config, "telemetry"), (telemetry, "logging"), (logging, "format")]
  | .metricsEnabled => [(config, "telemetry"), (telemetry, "metrics"), (metrics, "enabled")]

/-- What is given at the end of the way. -/
def walk? : List (Table × String) → Node → Option Node
  | [], node => some node
  | (table, name) :: steps, node => (node.part? table.names name).bind (walk? steps)

/-- What a document holds for a field. -/
def held? (leaf : Leaf) (node : Node) : Option Node := walk? (Table.steps leaf) node

lemma finds_held? (leaf : Leaf) :
    Finds config (held? leaf) leaf.decode leaf.get (leaf.get .default) := by
  cases leaf with
  | users =>
    exact finds_part reads_credentials blank_config (by decide) (·.users)
      (finds_part reads_users blank_credentials (by decide) id (finds_self _))
  | privileged =>
    exact finds_part reads_routing blank_config (by decide) (·.privileged)
      (finds_part reads_privileged blank_routing (by decide) id (finds_self _))
  | defaultRoute =>
    exact finds_part reads_routing blank_config (by decide) (·.defaultRoute)
      (finds_part reads_defaultRoute blank_routing (by decide) id (finds_self _))
  | serviceName =>
    exact finds_part reads_telemetry blank_config (by decide) (·.serviceName)
      (finds_part reads_serviceName blank_telemetry (by decide) id (finds_self _))
  | logEnabled =>
    exact finds_part reads_telemetry blank_config (by decide) (·.logging.enabled)
      (finds_part reads_logging blank_telemetry (by decide) (·.enabled)
        (finds_part reads_logEnabled blank_logging (by decide) id (finds_self _)))
  | logLevel =>
    exact finds_part reads_telemetry blank_config (by decide) (·.logging.level)
      (finds_part reads_logging blank_telemetry (by decide) (·.level)
        (finds_part reads_logLevel blank_logging (by decide) id (finds_self _)))
  | logFormat =>
    exact finds_part reads_telemetry blank_config (by decide) (·.logging.format)
      (finds_part reads_logging blank_telemetry (by decide) (·.format)
        (finds_part reads_logFormat blank_logging (by decide) id (finds_self _)))
  | metricsEnabled =>
    exact finds_part reads_telemetry blank_config (by decide) (·.metrics.enabled)
      (finds_part reads_metrics blank_telemetry (by decide) (·.enabled)
        (finds_part reads_metricsEnabled blank_metrics (by decide) id (finds_self _)))

end Decode

/-- The document that a text is in a format. -/
def Document.of (format : Format) (content : String) : Document :=
  match format with
  | .json => Json.read content
  | .toml =>
    match Toml.read content with
    | some root => ⟨root, none⟩
    | none => ⟨.faulty .missing .malformed (some .malformed), none⟩

lemma Document.decode_eq_ok_iff {α : Type} {decode : Decoder α} {format : Format} {d : Document}
    {v : α} : d.decode format decode = .ok v ↔ decode format d.root = .ok v ∧ d.trailing = none := by
  rw [Document.decode]
  cases decode format d.root with
  | error e => simp [bind, Except.bind]
  | ok u => cases d.trailing <;> simp [bind, Except.bind, Fault.check]

lemma readText_eq_ok_iff {α : Type} {decode : Decoder α} {format : Format} {content : String} {v : α} :
    readText decode format content = .ok v ↔
      decode format (Document.of format content).root = .ok v ∧
        (Document.of format content).trailing = none := by
  rw [← Document.decode_eq_ok_iff]
  cases format with
  | json =>
    rw [readText, Document.of]
    cases (Json.read content).decode .json decode <;> simp
  | toml =>
    rw [readText, Document.of]
    cases Toml.read content with
    | some root => cases Document.decode .toml decode ⟨root, none⟩ <;> simp
    | none =>
      cases Document.decode .toml decode
        ⟨.faulty .missing .malformed (some .malformed), none⟩ <;> simp

end Turnstile
