import Turnstile.Config.Sections

/-! Configurations put together section by section. A section that is never set takes its default
value. -/
namespace Turnstile

structure ConfigBuilder where
  credentials : Option CredentialsSection
  routing : Option RoutingSection
  telemetry : Option TelemetrySection

namespace ConfigBuilder

/-- Nothing set. -/
def empty : ConfigBuilder := ⟨none, none, none⟩

def withCredentials (b : ConfigBuilder) (s : CredentialsSection) : ConfigBuilder :=
  { b with credentials := some s }

/-- With one more user. If no users were set, there is no other. -/
def withUser (b : ConfigBuilder) (identity secret : String) : ConfigBuilder :=
  let users := (b.credentials.map (·.users)).getD .empty
  { b with credentials := some ⟨users.insert identity secret⟩ }

def withRouting (b : ConfigBuilder) (s : RoutingSection) : ConfigBuilder :=
  { b with routing := some s }

def withTelemetry (b : ConfigBuilder) (s : TelemetrySection) : ConfigBuilder :=
  { b with telemetry := some s }

def build (b : ConfigBuilder) : Config where
  credentials := b.credentials.getD .default
  routing := b.routing.getD .default
  telemetry := b.telemetry.getD .default

end ConfigBuilder

end Turnstile
