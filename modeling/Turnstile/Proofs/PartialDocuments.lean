import Turnstile.Config.Document
import Turnstile.Proofs.Leaves
import Turnstile.Proofs.Records
import Turnstile.Proofs.UserLookup

/-! Documents that give a configuration in part. Whatever is left out, fields or whole tables, takes its
default value, and the rest is as it was given; a field and the section it belongs to have defaults of their
own, and they agree. Anything else that stands in a document is refused: a field
that its table does not have, and a value of a kind that its field does not take. -/
namespace Turnstile

/-- The kinds of values. -/
inductive Node.Kind where
  | null
  | boolean
  | integer
  | real
  | text
  | moment
  | list
  | table
  | faulty
  deriving DecidableEq, Repr

def Node.kind : Node → Node.Kind
  | null => .null
  | boolean _ => .boolean
  | integer _ => .integer
  | real _ => .real
  | text _ => .text
  | moment _ => .moment
  | list .. => .list
  | series _ => .list
  | table .. => .table
  | faulty .. => .faulty

namespace Decode
variable {format : Format} {node : Node}

lemma kind_of_boolean {v : Bool} (h : boolean format node = .ok v) : node.kind = .boolean := by
  cases node <;> first | rfl | cases h

lemma kind_of_text {v : String} (h : text format node = .ok v) : node.kind = .text := by
  cases node <;> first | rfl | cases h

lemma kind_of_texts {v : List String} (h : texts format node = .ok v) : node.kind = .list := by
  cases node <;> first | rfl | cases h

lemma kind_of_users {v : Users} (h : users format node = .ok v) :
    node.kind = .table ∨ node.kind = .moment := by
  cases node <;> first | exact Or.inl rfl | exact Or.inr rfl | cases h

lemma kind_of_choice {α : Type} {values : List α} {nameOf : α → String} {v : α}
    (h : choice values nameOf format node = .ok v) : node.kind = .text ∨ node.kind = .table := by
  cases node with
  | text value => exact Or.inl rfl
  | table entries ending => exact Or.inr rfl
  | faulty remnant used skipped => cases format <;> cases remnant <;> cases h
  | _ => cases format <;> cases h

end Decode

namespace Override.Leaf

/-- The path of the field in documents. -/
def place : Leaf → List String
  | users => ["credentials", "users"]
  | privileged => ["routing", "privileged"]
  | defaultRoute => ["routing", "default_route"]
  | serviceName => ["telemetry", "service_name"]
  | logEnabled => ["telemetry", "logging", "enabled"]
  | logLevel => ["telemetry", "logging", "level"]
  | logFormat => ["telemetry", "logging", "format"]
  | metricsEnabled => ["telemetry", "metrics", "enabled"]

/-- What the field is read by. -/
def decode : (leaf : Leaf) → Decoder leaf.Value
  | users => Decode.users
  | privileged => Decode.texts
  | defaultRoute => Decode.route
  | serviceName => Decode.text
  | logEnabled => Decode.boolean
  | logLevel => Decode.text
  | logFormat => Decode.logFormat
  | metricsEnabled => Decode.boolean

/-- The kinds of values that the field takes. A date or a time passes for a table of users, and a table
with the name of a value for the value. -/
def kinds : Leaf → List Node.Kind
  | users => [.table, .moment]
  | privileged => [.list]
  | defaultRoute => [.text, .table]
  | serviceName => [.text]
  | logEnabled => [.boolean]
  | logLevel => [.text]
  | logFormat => [.text, .table]
  | metricsEnabled => [.boolean]

lemma kind_mem_kinds {leaf : Leaf} {format : Format} {value : Node} {v : leaf.Value}
    (h : leaf.decode format value = .ok v) : value.kind ∈ leaf.kinds := by
  cases leaf with
  | users => rcases Decode.kind_of_users h with hk | hk <;> simp [kinds, hk]
  | privileged => simp [kinds, Decode.kind_of_texts h]
  | defaultRoute => rcases Decode.kind_of_choice h with hk | hk <;> simp [kinds, hk]
  | serviceName => simp [kinds, Decode.kind_of_text h]
  | logEnabled => simp [kinds, Decode.kind_of_boolean h]
  | logLevel => simp [kinds, Decode.kind_of_text h]
  | logFormat => rcases Decode.kind_of_choice h with hk | hk <;> simp [kinds, hk]
  | metricsEnabled => simp [kinds, Decode.kind_of_boolean h]

end Override.Leaf

namespace Decode
variable {format : Format}

section Parts

lemma reads_users : Reads credentialsOf "users" users (·.users) :=
  reads_at credentialsOf (0 : Fin 1) rfl fun _ => rfl

lemma reads_privileged : Reads routingOf "privileged" texts (·.privileged) :=
  reads_at routingOf (0 : Fin 2) rfl fun _ => rfl

lemma reads_defaultRoute : Reads routingOf "default_route" route (·.defaultRoute) :=
  reads_at routingOf (1 : Fin 2) rfl fun _ => rfl

lemma reads_logEnabled : Reads loggingOf "enabled" boolean (·.enabled) :=
  reads_at loggingOf (0 : Fin 3) rfl fun _ => rfl

lemma reads_logLevel : Reads loggingOf "level" text (·.level) :=
  reads_at loggingOf (1 : Fin 3) rfl fun _ => rfl

lemma reads_logFormat : Reads loggingOf "format" logFormat (·.format) :=
  reads_at loggingOf (2 : Fin 3) rfl fun _ => rfl

lemma reads_metricsEnabled : Reads metricsOf "enabled" boolean (·.enabled) :=
  reads_at metricsOf (0 : Fin 1) rfl fun _ => rfl

lemma reads_serviceName : Reads telemetryOf "service_name" text (·.serviceName) :=
  reads_at telemetryOf (0 : Fin 3) rfl fun _ => rfl

lemma reads_logging : Reads telemetryOf "logging" logging (·.logging) :=
  reads_at telemetryOf (1 : Fin 3) rfl fun _ => rfl

lemma reads_metrics : Reads telemetryOf "metrics" metrics (·.metrics) :=
  reads_at telemetryOf (2 : Fin 3) rfl fun _ => rfl

lemma reads_credentials : Reads configOf "credentials" credentials (·.credentials) :=
  reads_at configOf (0 : Fin 3) rfl fun _ => rfl

lemma reads_routing : Reads configOf "routing" routing (·.routing) :=
  reads_at configOf (1 : Fin 3) rfl fun _ => rfl

lemma reads_telemetry : Reads configOf "telemetry" telemetry (·.telemetry) :=
  reads_at configOf (2 : Fin 3) rfl fun _ => rfl

end Parts

section Standards

/-! A section whose fields all take their own values is the default section. -/

lemma blank_credentials : blank credentialsOf = .default := rfl

lemma blank_routing : blank routingOf = .default := rfl

lemma blank_logging : blank loggingOf = .default := rfl

lemma blank_metrics : blank metricsOf = .default := rfl

lemma blank_telemetry : blank telemetryOf = .default := rfl

lemma blank_config : blank configOf = .default := rfl

/-- A table with nothing in it is the default section, in each of the six places. -/
lemma defaults_of_empty (format : Format) :
    credentials format (.tableOf []) = .ok .default ∧ routing format (.tableOf []) = .ok .default ∧
      logging format (.tableOf []) = .ok .default ∧ metrics format (.tableOf []) = .ok .default ∧
      telemetry format (.tableOf []) = .ok .default ∧ config format (.tableOf []) = .ok .default := by
  refine ⟨?_,?_,?_,?_,?_,?_⟩
  · rw [credentials, record_empty, blank_credentials]
  · rw [routing, record_empty, blank_routing]
  · rw [logging, record_empty, blank_logging]
  · rw [metrics, record_empty, blank_metrics]
  · rw [telemetry, record_empty, blank_telemetry]
  · rw [config, record_empty, blank_config]

end Standards

open Override

/-- The value at the place of a field is what the field is read from. -/
lemma leads_place (leaf : Leaf) : Leads config leaf.place leaf.decode leaf.get := by
  cases leaf with
  | users => exact leads_cons reads_credentials (leads_cons reads_users leads_nil)
  | privileged => exact leads_cons reads_routing (leads_cons reads_privileged leads_nil)
  | defaultRoute => exact leads_cons reads_routing (leads_cons reads_defaultRoute leads_nil)
  | serviceName => exact leads_cons reads_telemetry (leads_cons reads_serviceName leads_nil)
  | logEnabled =>
    exact leads_cons reads_telemetry (leads_cons reads_logging (leads_cons reads_logEnabled leads_nil))
  | logLevel =>
    exact leads_cons reads_telemetry (leads_cons reads_logging (leads_cons reads_logLevel leads_nil))
  | logFormat =>
    exact leads_cons reads_telemetry (leads_cons reads_logging (leads_cons reads_logFormat leads_nil))
  | metricsEnabled =>
    exact leads_cons reads_telemetry
      (leads_cons reads_metrics (leads_cons reads_metricsEnabled leads_nil))

/-- The six tables. -/
inductive Table where
  | config
  | credentials
  | routing
  | telemetry
  | logging
  | metrics
  deriving DecidableEq, Repr

namespace Table

/-- The path of the table in documents. -/
def place : Table → List String
  | config => []
  | credentials => ["credentials"]
  | routing => ["routing"]
  | telemetry => ["telemetry"]
  | logging => ["telemetry", "logging"]
  | metrics => ["telemetry", "metrics"]

/-- The names of its fields. -/
def names : Table → List String
  | config => ["credentials", "routing", "telemetry"]
  | credentials => ["users"]
  | routing => ["privileged", "default_route"]
  | telemetry => ["service_name", "logging", "metrics"]
  | logging => ["enabled", "level", "format"]
  | metrics => ["enabled"]

lemma mem_names {table : Table} {node : Node} {entries : List (Key × Node)} {ending : Option Fault}
    {name : String} {value : Node} {d : Config} (h : Decode.config format node = .ok d)
    (ha : node.At table.place (.table entries ending)) (hm : (.named name, value) ∈ entries) :
    name ∈ table.names := by
  cases table with
  | config => exact known_of_record (leads_nil format node d _ h ha) hm
  | credentials =>
    exact known_of_record (leads_cons reads_credentials leads_nil format node d _ h ha) hm
  | routing => exact known_of_record (leads_cons reads_routing leads_nil format node d _ h ha) hm
  | telemetry => exact known_of_record (leads_cons reads_telemetry leads_nil format node d _ h ha) hm
  | logging =>
    exact known_of_record
      (leads_cons reads_telemetry (leads_cons reads_logging leads_nil) format node d _ h ha) hm
  | metrics =>
    exact known_of_record
      (leads_cons reads_telemetry (leads_cons reads_metrics leads_nil) format node d _ h ha) hm

end Table

/-- The pairs as a table of texts. -/
def userTable (entries : List (String × String)) : Node :=
  .tableOf (entries.map fun (identity, secret) => (identity, .text secret))

section Written

lemma userEntries_map (format : Format) (users : Users) (entries : List (String × String)) :
    userEntries format users ((entries.map fun (identity, secret) => (identity, Node.text secret)).map
      fun (name, value) => (.named name, value)) = .ok (users.insertAll entries) := by
  induction entries generalizing users with
  | nil => rfl
  | cons e entries ih => exact ih (users.insert e.1 e.2)

/-- All pairs of a table are taken, the later of two for one identity on top of the earlier. -/
lemma users_userTable (format : Format) (entries : List (String × String)) :
    users format (userTable entries) = .ok (Users.empty.insertAll entries) := by
  change (userEntries format .empty _ >>= fun users => Fault.check none >>= fun _ => .ok users) = _
  rw [userEntries_map]
  rfl

lemma textItems_map (format : Format) (vs : List String) :
    textItems format (vs.map .text) = .ok vs := by
  induction vs with
  | nil => rfl
  | cons v vs ih =>
    change (textItems format (vs.map .text) >>= fun others => .ok (v :: others)) = _
    rw [ih]
    rfl

lemma means_users (u : Users) : Means users
    (fun node => ∃ entries, entries.Perm u.entries ∧ node = userTable entries) u := by
  rintro format _ ⟨entries,hp,rfl⟩
  rw [users_userTable, Users.insertAll_of_perm hp]

lemma means_texts (vs : List String) : Means texts (· = .listOf (vs.map .text)) vs := by
  rintro format _ rfl
  change (textItems format (vs.map .text) >>= fun values => Fault.check none >>= fun _ => .ok values) = _
  rw [textItems_map]
  rfl

lemma means_text (v : String) : Means text (· = .text v) v := by
  rintro format _ rfl
  rfl

lemma means_boolean (v : Bool) : Means boolean (· = .boolean v) v := by
  rintro format _ rfl
  rfl

lemma means_route (v : Route) : Means route (· = v.toNode) v := by
  rintro format _ rfl
  cases format <;> cases v <;> rfl

lemma means_logFormat (v : LogFormat) : Means logFormat (· = v.toNode) v := by
  rintro format _ rfl
  cases format <;> cases v <;> rfl

end Written

end Decode

/-- The document of a section gives it in part: some of its fields, in any order, each with its value. -/
def CredentialsSection.HasPart (s : CredentialsSection) : Node → Prop :=
  Node.SomeOf [("users", fun node =>
    ∃ entries, entries.Perm s.users.entries ∧ node = Decode.userTable entries)]

def RoutingSection.HasPart (s : RoutingSection) : Node → Prop :=
  Node.SomeOf [("privileged", (· = .listOf (s.privileged.map .text))),
    ("default_route", (· = s.defaultRoute.toNode))]

def LoggingSection.HasPart (s : LoggingSection) : Node → Prop :=
  Node.SomeOf [("enabled", (· = .boolean s.enabled)), ("level", (· = .text s.level)),
    ("format", (· = s.format.toNode))]

def MetricsSection.HasPart (s : MetricsSection) : Node → Prop :=
  Node.SomeOf [("enabled", (· = .boolean s.enabled))]

def TelemetrySection.HasPart (s : TelemetrySection) : Node → Prop :=
  Node.SomeOf [("service_name", (· = .text s.serviceName)), ("logging", s.logging.HasPart),
    ("metrics", s.metrics.HasPart)]

/-- Some of the sections in part. -/
def Config.HasPart (c : Config) : Node → Prop :=
  Node.SomeOf [("credentials", c.credentials.HasPart), ("routing", c.routing.HasPart),
    ("telemetry", c.telemetry.HasPart)]

namespace Decode
open Override

section Taken

lemma takes_credentials (s : CredentialsSection) : Takes credentials s.HasPart := by
  apply takes_someOf
  simp only [List.forall_mem_cons]
  exact ⟨⟨_,rfl,(means_users s.users).takes⟩,by simp⟩

lemma takes_routing (s : RoutingSection) : Takes routing s.HasPart := by
  apply takes_someOf
  simp only [List.forall_mem_cons]
  exact ⟨⟨_,rfl,(means_texts _).takes⟩,
    ⟨_,rfl,(means_route _).takes⟩,by simp⟩

lemma takes_logging (s : LoggingSection) : Takes logging s.HasPart := by
  apply takes_someOf
  simp only [List.forall_mem_cons]
  exact ⟨⟨_,rfl,(means_boolean _).takes⟩,
    ⟨_,rfl,(means_text _).takes⟩,
    ⟨_,rfl,(means_logFormat _).takes⟩,by simp⟩

lemma takes_metrics (s : MetricsSection) : Takes metrics s.HasPart := by
  apply takes_someOf
  simp only [List.forall_mem_cons]
  exact ⟨⟨_,rfl,(means_boolean _).takes⟩,by simp⟩

lemma takes_telemetry (s : TelemetrySection) : Takes telemetry s.HasPart := by
  apply takes_someOf
  simp only [List.forall_mem_cons]
  exact ⟨⟨_,rfl,(means_text _).takes⟩,
    ⟨_,rfl,takes_logging s.logging⟩,
    ⟨_,rfl,takes_metrics s.metrics⟩,by simp⟩

lemma takes_config (c : Config) : Takes config c.HasPart := by
  apply takes_someOf
  simp only [List.forall_mem_cons]
  exact ⟨⟨_,rfl,takes_credentials c.credentials⟩,
    ⟨_,rfl,takes_routing c.routing⟩,
    ⟨_,rfl,takes_telemetry c.telemetry⟩,by simp⟩

end Taken

section Followed

lemma follows_users (s : CredentialsSection) :
    Follows credentials s.HasPart ["users"] (·.users) s.users CredentialsSection.default.users :=
  follows_cons reads_users blank_credentials (by simp) id (follows_nil (means_users s.users) _)

lemma follows_routing (s : RoutingSection) :
    Follows routing s.HasPart ["privileged"] (·.privileged) s.privileged
        RoutingSection.default.privileged ∧
      Follows routing s.HasPart ["default_route"] (·.defaultRoute) s.defaultRoute
        RoutingSection.default.defaultRoute :=
  ⟨follows_cons reads_privileged blank_routing (by simp) id (follows_nil (means_texts s.privileged) _),
    follows_cons reads_defaultRoute blank_routing (by simp) id (follows_nil (means_route s.defaultRoute) _)⟩

lemma follows_logging (s : LoggingSection) :
    Follows logging s.HasPart ["enabled"] (·.enabled) s.enabled LoggingSection.default.enabled ∧
      Follows logging s.HasPart ["level"] (·.level) s.level LoggingSection.default.level ∧
      Follows logging s.HasPart ["format"] (·.format) s.format LoggingSection.default.format :=
  ⟨follows_cons reads_logEnabled blank_logging (by simp) id (follows_nil (means_boolean s.enabled) _),
    follows_cons reads_logLevel blank_logging (by simp) id (follows_nil (means_text s.level) _),
    follows_cons reads_logFormat blank_logging (by simp) id (follows_nil (means_logFormat s.format) _)⟩

lemma follows_metrics (s : MetricsSection) :
    Follows metrics s.HasPart ["enabled"] (·.enabled) s.enabled MetricsSection.default.enabled :=
  follows_cons reads_metricsEnabled blank_metrics (by simp) id (follows_nil (means_boolean s.enabled) _)

lemma follows_serviceName (s : TelemetrySection) :
    Follows telemetry s.HasPart ["service_name"] (·.serviceName) s.serviceName
      TelemetrySection.default.serviceName :=
  follows_cons reads_serviceName blank_telemetry (by simp) id (follows_nil (means_text s.serviceName) _)

/-- What holds of a part of the section on logging holds of it as a part of the section on telemetry. -/
lemma follows_telemetry_logging {α : Type} {s : TelemetrySection} {path : List String}
    (part : LoggingSection → α) {given : α}
    (h : Follows logging s.logging.HasPart path part given (part .default)) :
    Follows telemetry s.HasPart ("logging" :: path) (fun t => part t.logging) given (part .default) :=
  follows_cons reads_logging blank_telemetry (by simp) part h

lemma follows_telemetry_metrics {α : Type} {s : TelemetrySection} {path : List String}
    (part : MetricsSection → α) {given : α}
    (h : Follows metrics s.metrics.HasPart path part given (part .default)) :
    Follows telemetry s.HasPart ("metrics" :: path) (fun t => part t.metrics) given (part .default) :=
  follows_cons reads_metrics blank_telemetry (by simp) part h

/-- Each field follows its place in the document, and else keeps its default. -/
lemma follows_place (c : Config) (leaf : Leaf) :
    Follows config c.HasPart leaf.place leaf.get (leaf.get c) (leaf.get .default) := by
  cases leaf with
  | users =>
    exact follows_cons reads_credentials blank_config (by simp) (·.users) (follows_users c.credentials)
  | privileged =>
    exact follows_cons reads_routing blank_config (by simp) (·.privileged) (follows_routing c.routing).1
  | defaultRoute =>
    exact follows_cons reads_routing blank_config (by simp) (·.defaultRoute) (follows_routing c.routing).2
  | serviceName =>
    exact follows_cons reads_telemetry blank_config (by simp) (·.serviceName)
      (follows_serviceName c.telemetry)
  | logEnabled =>
    exact follows_cons reads_telemetry blank_config (by simp) (·.logging.enabled)
      (follows_telemetry_logging (·.enabled) (follows_logging c.telemetry.logging).1)
  | logLevel =>
    exact follows_cons reads_telemetry blank_config (by simp) (·.logging.level)
      (follows_telemetry_logging (·.level) (follows_logging c.telemetry.logging).2.1)
  | logFormat =>
    exact follows_cons reads_telemetry blank_config (by simp) (·.logging.format)
      (follows_telemetry_logging (·.format) (follows_logging c.telemetry.logging).2.2)
  | metricsEnabled =>
    exact follows_cons reads_telemetry blank_config (by simp) (·.metrics.enabled)
      (follows_telemetry_metrics (·.enabled) (follows_metrics c.telemetry.metrics))

end Followed

section Whole

lemma hasPart_credentials (s : CredentialsSection) : s.HasPart s.toNode :=
  ⟨_,rfl,by simp,by simpa using ⟨_,List.Perm.refl _,rfl⟩⟩

lemma hasPart_routing (s : RoutingSection) : s.HasPart s.toNode :=
  ⟨_,rfl,by simp,by simp⟩

lemma hasPart_logging (s : LoggingSection) : s.HasPart s.toNode :=
  ⟨_,rfl,by simp,by simp⟩

lemma hasPart_metrics (s : MetricsSection) : s.HasPart s.toNode :=
  ⟨_,rfl,by simp,by simp⟩

lemma hasPart_telemetry (s : TelemetrySection) : s.HasPart s.toNode :=
  ⟨_,rfl,by simp,by simp [hasPart_logging, hasPart_metrics]⟩

lemma hasPart_toNode (c : Config) : c.HasPart c.toNode :=
  ⟨_,rfl,by simp,by simp [hasPart_credentials, hasPart_routing, hasPart_telemetry]⟩

lemma has_toNode (c : Config) (leaf : Leaf) : c.toNode.Has leaf.place := by
  cases leaf <;>
    simp [Node.Has, Leaf.place, Config.toNode, CredentialsSection.toNode, RoutingSection.toNode,
      TelemetrySection.toNode, LoggingSection.toNode, MetricsSection.toNode, Node.at_tableOf_iff,
      Node.at_nil_iff]

end Whole

lemma means_userTable (entries : List (String × String)) :
    Means users (· = userTable entries) (Users.empty.insertAll entries) := by
  rintro format _ rfl
  exact users_userTable format entries

lemma config_userTable (format : Format) (entries : List (String × String)) :
    ∃ d, config format (.tableOf [("credentials", .tableOf [("users", userTable entries)])]) = .ok d ∧
      d.credentials.users = Users.empty.insertAll entries := by
  have hu : Takes credentials (Node.SomeOf [("users", (· = userTable entries))]) := by
    apply takes_someOf
    simp only [List.forall_mem_cons]
    exact ⟨⟨_,rfl,(means_userTable entries).takes⟩,by simp⟩
  have hc : Takes config
      (Node.SomeOf [("credentials", Node.SomeOf [("users", (· = userTable entries))])]) := by
    apply takes_someOf
    simp only [List.forall_mem_cons]
    exact ⟨⟨_,rfl,hu⟩,by simp⟩
  have hs : Node.SomeOf [("users", (· = userTable entries))]
      (.tableOf [("users", userTable entries)]) := ⟨_,rfl,by simp,by simp⟩
  obtain ⟨d,hd⟩ := hc format (.tableOf [("credentials", .tableOf [("users", userTable entries)])])
    ⟨_,rfl,by simp,by simpa using hs⟩
  have ha : (Node.tableOf [("credentials", .tableOf [("users", userTable entries)])]).At
      (Leaf.place .users) (userTable entries) := by
    simp [Leaf.place, Node.at_tableOf_iff, Node.at_nil_iff]
  have hl := leads_place .users format _ d _ hd ha
  exact ⟨d,hd,Except.ok.inj (hl.symm.trans (users_userTable format entries))⟩

/-- Documents and configurations, in either format. A part of the document of a configuration, in any
order, is taken: what it holds is as it was given, and every other field keeps its default. A table with
nothing in it, whose fields all take their own values, is the default section. So only the fields count and
not the tables around them; the whole document gives the configuration back. A field that one of the six
tables does not have is refused, and so is a value of a kind that its field does not take. Only the table of
users has room for any name, and the later of two secrets for one identity stands. A date or a time in its
place is a table with one name. -/
theorem config_of_part (format : Format) :
    (∀ (c : Config) (node : Node), c.HasPart node →
      ∃ d, config format node = .ok d ∧ ∀ leaf : Leaf,
        (node.Has leaf.place → leaf.get d = leaf.get c) ∧
        (¬ node.Has leaf.place → leaf.get d = leaf.get .default)) ∧
    (credentials format (.tableOf []) = .ok .default ∧ routing format (.tableOf []) = .ok .default ∧
      logging format (.tableOf []) = .ok .default ∧ metrics format (.tableOf []) = .ok .default ∧
      telemetry format (.tableOf []) = .ok .default ∧ config format (.tableOf []) = .ok .default) ∧
    (∀ (c : Config) (node other : Node), c.HasPart node → c.HasPart other →
      (∀ leaf : Leaf, node.Has leaf.place ↔ other.Has leaf.place) →
        config format node = config format other) ∧
    (∀ c : Config, c.HasPart c.toNode ∧ config format c.toNode = .ok c) ∧
    (∀ (node : Node) (table : Table) (entries : List (Key × Node)) (ending : Option Fault)
        (name : String) (value : Node), node.At table.place (.table entries ending) →
      (.named name, value) ∈ entries → name ∉ table.names → ∃ e, config format node = .error e) ∧
    (∀ (node : Node) (leaf : Leaf) (value : Node), node.At leaf.place value →
      value.kind ∉ leaf.kinds → ∃ e, config format node = .error e) ∧
    (∀ entries : List (String × String), ∃ d,
      config format (.tableOf [("credentials", .tableOf [("users", userTable entries)])]) = .ok d ∧
      ∀ identity, d.credentials.users.secret? identity = entries.reverse.lookup identity) ∧
    ∀ (node : Node) (d : Config) (written : String), config format node = .ok d →
      node.At (Leaf.place .users) (.moment written) →
        d.credentials.users = Users.empty.insert momentKey written := by
  have hpart (c : Config) (node : Node) (h : c.HasPart node) : ∃ d, config format node = .ok d ∧
      ∀ leaf, node.Tells (Leaf.place leaf) (leaf.get d) (leaf.get c) (leaf.get .default) := by
    obtain ⟨d,hd⟩ := takes_config c format node h
    exact ⟨d,hd,fun leaf => follows_place c leaf format node d h hd⟩
  refine ⟨?_,defaults_of_empty format,?_,?_,?_,?_,?_,?_⟩
  · intro c node h
    obtain ⟨d,hd,ht⟩ := hpart c node h
    exact ⟨d,hd,fun leaf => ⟨(ht leaf).present,(ht leaf).absent⟩⟩
  · intro c node other hn ho hsame
    obtain ⟨d,hd,ht⟩ := hpart c node hn
    obtain ⟨e,he,hu⟩ := hpart c other ho
    have hde : d = e := by
      apply Leaf.config_ext
      funext leaf
      by_cases hp : node.Has leaf.place
      · rw [(ht leaf).present hp, (hu leaf).present ((hsame leaf).mp hp)]
      · rw [(ht leaf).absent hp, (hu leaf).absent (mt (hsame leaf).mpr hp)]
    rw [hd, he, hde]
  · intro c
    obtain ⟨d,hd,ht⟩ := hpart c c.toNode (hasPart_toNode c)
    have hdc : d = c := Leaf.config_ext (funext fun leaf => (ht leaf).present (has_toNode c leaf))
    exact ⟨hasPart_toNode c,hdc ▸ hd⟩
  · intro node table entries ending name value ha hm hn
    cases hd : config format node with
    | error e => exact ⟨e,rfl⟩
    | ok d => exact absurd (Table.mem_names hd ha hm) hn
  · intro node leaf value ha hk
    cases hd : config format node with
    | error e => exact ⟨e,rfl⟩
    | ok d => exact absurd (Leaf.kind_mem_kinds (leads_place leaf format node d value hd ha)) hk
  · intro entries
    obtain ⟨d,hd,hu⟩ := config_userTable format entries
    refine ⟨d,hd,?_⟩
    intro identity
    have he : Users.empty.secret? identity = none := rfl
    rw [hu, Users.secret?_insertAll, he, Option.or_none]
  · intro node d written hd ha
    exact (Except.ok.inj (leads_place .users format node d _ hd ha)).symm

/-- Two fields of a section are given, and nothing of its neighbours or of the routing, although their tables
are there. A field that no section has and a text in the place of a list are refused. -/
theorem config_of_part_two_fields :
    let c : Config := ⟨.default, ⟨["root"], .admin⟩, ⟨"door", ⟨false, "debug", .pretty⟩, ⟨true⟩⟩⟩
    let node : Node := .tableOf [("telemetry", .tableOf [("metrics", .tableOf []),
      ("logging", .tableOf [("format", .text "pretty"), ("enabled", .boolean false)])]),
      ("routing", .tableOf [])]
    c.HasPart node ∧
    config .toml node = .ok ⟨.default, .default, ⟨"gatehouse", ⟨false, "info", .pretty⟩, .default⟩⟩ ∧
    (∃ e, config .json (.tableOf [("telemetry", .tableOf [("colour", .null)])]) = .error e) ∧
    ∃ e, config .json (.tableOf [("routing", .tableOf [("privileged", .text "root")])]) = .error e := by
  intro c node
  have hl : c.telemetry.logging.HasPart
      (.tableOf [("format", .text "pretty"), ("enabled", .boolean false)]) :=
    ⟨_,rfl,by simp,by simp [c, LogFormat.toNode, LogFormat.name]⟩
  have hm : c.telemetry.metrics.HasPart (.tableOf []) := ⟨_,rfl,by simp,by simp⟩
  have hr : c.routing.HasPart (.tableOf []) := ⟨_,rfl,by simp,by simp⟩
  have ht : c.telemetry.HasPart (.tableOf [("metrics", .tableOf []),
      ("logging", .tableOf [("format", .text "pretty"), ("enabled", .boolean false)])]) :=
    ⟨_,rfl,by simp,by simp [hl, hm]⟩
  have hp : c.HasPart node := ⟨_,rfl,by simp,by simp [hr, ht]⟩
  refine ⟨hp,?_,?_,?_⟩
  · obtain ⟨d,hd,hleaf⟩ := (config_of_part .toml).1 c node hp
    have he : d = ⟨.default, .default, ⟨"gatehouse", ⟨false, "info", .pretty⟩, .default⟩⟩ := by
      apply Leaf.config_ext
      funext leaf
      cases leaf with
      | logEnabled => exact (hleaf .logEnabled).1 (by simp [node, Node.Has, Leaf.place,
          Node.at_tableOf_iff, Node.at_nil_iff])
      | logFormat => exact (hleaf .logFormat).1 (by simp [node, Node.Has, Leaf.place,
          Node.at_tableOf_iff, Node.at_nil_iff])
      | _ => exact (hleaf _).2 (by simp [node, Node.Has, Leaf.place, Node.at_tableOf_iff])
    rw [hd, he]
  · exact (config_of_part .json).2.2.2.2.1 _ .telemetry [(.named "colour", .null)] none "colour" .null
      (Node.at_tableOf_iff.mpr ⟨.tableOf [("colour", .null)],by simp,.here _⟩) (by simp) (by decide)
  · exact (config_of_part .json).2.2.2.2.2.1 _ .privileged (.text "root")
      (by simp [Leaf.place, Node.at_tableOf_iff, Node.at_nil_iff]) (by decide)

/-- A date is no table, and yet it is taken for the users; nor is a table a text, and yet it is taken for a
route. -/
theorem config_date_for_users :
    let dated : Node := .tableOf [("credentials", .tableOf [("users", .moment "1979-05-27")])]
    let nested : Node := .tableOf [("routing", .tableOf [("default_route", .tableOf [("admin", .null)])])]
    dated.At ["credentials", "users"] (.moment "1979-05-27") ∧
    (Node.moment "1979-05-27").kind ≠ .table ∧
    (∃ d, config .toml dated = .ok d ∧
      d.credentials.users.entries = [("$__toml_private_datetime", "1979-05-27")]) ∧
    ∃ d, config .json nested = .ok d ∧ d.routing.defaultRoute = .admin := by
  intro dated nested
  refine ⟨?_,by decide,⟨_,rfl,rfl⟩,⟨_,rfl,rfl⟩⟩
  simp [dated, Node.at_tableOf_iff, Node.at_nil_iff]

end Decode

end Turnstile
