import Turnstile.Config.Builder
import Turnstile.Proofs.UserLookup

/-! Calls on a builder, in any order and number. What each section comes to depends on the calls about it and on
nothing else. The users are those of the last whole section, or nobody, and those put in after it; the
demonstration users are there only if nothing was said about users, or if a call brought them. -/
namespace Turnstile.ConfigBuilder

inductive Call where
  | credentials (s : CredentialsSection)
  | user (identity secret : String)
  | routing (s : RoutingSection)
  | telemetry (s : TelemetrySection)

/-- The sections that calls are about. -/
inductive Slot where
  | credentials
  | routing
  | telemetry
  deriving DecidableEq

namespace Call

def apply (b : ConfigBuilder) : Call → ConfigBuilder
  | credentials s => b.withCredentials s
  | user identity secret => b.withUser identity secret
  | routing s => b.withRouting s
  | telemetry s => b.withTelemetry s

def slot : Call → Slot
  | credentials _ => .credentials
  | user _ _ => .credentials
  | routing _ => .routing
  | telemetry _ => .telemetry

def routing? : Call → Option RoutingSection
  | routing s => some s
  | _ => none

def telemetry? : Call → Option TelemetrySection
  | telemetry s => some s
  | _ => none

/-- The user that a call puts in. -/
def user? : Call → Option (String × String)
  | user identity secret => some (identity, secret)
  | _ => none

end Call

def Slot.Section : Slot → Type
  | credentials => CredentialsSection
  | routing => RoutingSection
  | telemetry => TelemetrySection

/-- A section as it was set. -/
def get (b : ConfigBuilder) : (slot : Slot) → Option slot.Section
  | .credentials => b.credentials
  | .routing => b.routing
  | .telemetry => b.telemetry

/-- The builder after these calls. -/
def afterAll (b : ConfigBuilder) (calls : List Call) : ConfigBuilder := calls.foldl Call.apply b

/-- The users so far. -/
def users (b : ConfigBuilder) : Users := (b.credentials.map (·.users)).getD .empty

/-- The users that the calls put in, one after another. -/
def added (calls : List Call) : List (String × String) := calls.filterMap Call.user?

section Steps
variable (b : ConfigBuilder) (calls : List Call)

lemma afterAll_append (more : List Call) :
    b.afterAll (calls ++ more) = (b.afterAll calls).afterAll more :=
  List.foldl_append

lemma routing_afterAll :
    (b.afterAll calls).build.routing = (Calls.last? Call.routing? calls).getD b.build.routing := by
  refine Calls.get_foldl (fun b => b.build.routing) Call.routing? ?_ b
  intro s call
  cases call <;> rfl

lemma telemetry_afterAll :
    (b.afterAll calls).build.telemetry =
      (Calls.last? Call.telemetry? calls).getD b.build.telemetry := by
  refine Calls.get_foldl (fun b => b.build.telemetry) Call.telemetry? ?_ b
  intro s call
  cases call <;> rfl

/-- Where no call replaces all users, those put in come on top of the users so far. -/
lemma users_afterAll (h : ∀ s, .credentials s ∉ calls) :
    (b.afterAll calls).users = b.users.insertAll (added calls) := by
  induction calls generalizing b with
  | nil => rfl
  | cons call calls ih =>
    have hr : ∀ s, .credentials s ∉ calls := fun s hs => h s (List.mem_cons_of_mem call hs)
    have hs : b.afterAll (call :: calls) = (call.apply b).afterAll calls := rfl
    rw [hs, ih _ hr]
    cases call with
    | credentials s => exact absurd List.mem_cons_self (h s)
    | user identity secret => rfl
    | routing s => rfl
    | telemetry s => rfl

lemma isSome_credentials_afterAll :
    (b.afterAll calls).credentials.isSome = true ↔
      b.credentials.isSome = true ∨ ∃ call ∈ calls, call.slot = .credentials := by
  induction calls generalizing b with
  | nil => simp [afterAll]
  | cons call calls ih =>
    have hs : b.afterAll (call :: calls) = (call.apply b).afterAll calls := rfl
    rw [hs, ih, List.exists_mem_cons_iff]
    cases call <;> simp [Call.apply, Call.slot, withCredentials, withUser, withRouting, withTelemetry]

lemma users_build (h : b.credentials.isSome = true) : b.build.credentials.users = b.users := by
  obtain ⟨s,hs⟩ := Option.isSome_iff_exists.mp h
  simp [build, users, hs]

lemma get_apply_of_ne {call : Call} {slot : Slot} (h : call.slot ≠ slot) :
    (call.apply b).get slot = b.get slot := by
  cases call <;> cases slot <;> simp_all [Call.slot] <;> rfl

lemma get_apply_congr {b d : ConfigBuilder} {slot : Slot} (h : b.get slot = d.get slot) (call : Call) :
    (call.apply b).get slot = (call.apply d).get slot := by
  by_cases hs : call.slot = slot
  · cases call with
    | user identity secret =>
      subst hs
      have hc : b.credentials = d.credentials := h
      simp only [Call.apply, withUser, hc]
      rfl
    | credentials s => subst hs; rfl
    | routing s => subst hs; rfl
    | telemetry s => subst hs; rfl
  · rw [get_apply_of_ne b hs, get_apply_of_ne d hs, h]

/-- A section depends on the calls about it only. -/
lemma get_afterAll_filter (slot : Slot) :
    (b.afterAll calls).get slot = (b.afterAll (calls.filter (·.slot = slot))).get slot := by
  refine Calls.get_foldl_filter (get · slot) ?_ (fun s t call h => get_apply_congr h call) rfl
  intro s call h
  exact get_apply_of_ne s (by simpa using h)

lemma build_congr {b d : ConfigBuilder} (h : ∀ slot, b.get slot = d.get slot) : b.build = d.build := by
  have hc : b.credentials = d.credentials := h .credentials
  have hr : b.routing = d.routing := h .routing
  have ht : b.telemetry = d.telemetry := h .telemetry
  rw [build, build, hc, hr, ht]

/-- Once something is said about users, the users of the configuration are those so far. -/
lemma users_build_afterAll (h : ∃ call ∈ calls, call.slot = .credentials) :
    (b.afterAll calls).build.credentials.users = (b.afterAll calls).users :=
  users_build _ ((isSome_credentials_afterAll b calls).mpr (Or.inr h))

end Steps

/-- Any calls on a new builder. If none is about users, the users are the demonstration users. Otherwise they
are those of the last whole section and, over them, those put in after it, the last one for each identity; where
there is no whole section, they are those put in and nobody else. An identity is there only if one of these
calls says so. The other two sections are what the last call about them says, or the default. Calls may come in
any other order that keeps the calls about each section in theirs. -/
theorem build_afterAll (calls : List Call) :
    let c := (empty.afterAll calls).build
    let users := c.credentials.users
    ((∀ call ∈ calls, call.slot ≠ .credentials) → c.credentials = .default) ∧
    (∀ before s after, calls = before ++ .credentials s :: after →
      (∀ other, .credentials other ∉ after) → ∀ identity,
        users.secret? identity =
          ((added after).reverse.lookup identity).or (s.users.secret? identity) ∧
        (identity ∈ users.identities ↔
          identity ∈ s.users.identities ∨ identity ∈ (added after).map Prod.fst)) ∧
    ((∃ call ∈ calls, call.slot = .credentials) → (∀ s, .credentials s ∉ calls) → ∀ identity,
      users.secret? identity = (added calls).reverse.lookup identity ∧
      (identity ∈ users.identities ↔ identity ∈ (added calls).map Prod.fst)) ∧
    c.routing = (Calls.last? Call.routing? calls).getD .default ∧
    c.telemetry = (Calls.last? Call.telemetry? calls).getD .default ∧
    ∀ others, (∀ slot, others.filter (·.slot = slot) = calls.filter (·.slot = slot)) →
      (empty.afterAll others).build = c := by
  intro c users
  refine ⟨?_,?_,?_,routing_afterAll empty calls,telemetry_afterAll empty calls,?_⟩
  · intro h
    have hn : (empty.afterAll calls).credentials = none := by
      rw [← Option.not_isSome_iff_eq_none, isSome_credentials_afterAll]
      rintro (he | ⟨call,hc,hs⟩)
      · cases he
      · exact h call hc hs
    simp only [c, build, hn]
    rfl
  · intro before s after hs hl identity
    have hu : users = s.users.insertAll (added after) := by
      have hc : ∃ call ∈ calls, call.slot = .credentials := ⟨.credentials s,by simp [hs],rfl⟩
      have ha : empty.afterAll calls =
          ((empty.afterAll before).withCredentials s).afterAll after := by
        rw [hs, afterAll_append]
        rfl
      change (empty.afterAll calls).build.credentials.users = _
      rw [users_build_afterAll empty calls hc, ha, users_afterAll _ after hl]
      rfl
    rw [hu]
    exact ⟨s.users.secret?_insertAll (added after) identity,
      s.users.mem_identities_insertAll (added after) identity⟩
  · intro hc hl identity
    have hu : users = Users.empty.insertAll (added calls) :=
      (users_build_afterAll empty calls hc).trans (users_afterAll empty calls hl)
    have he : Users.empty.secret? identity = none := rfl
    rw [hu, Users.secret?_insertAll, Users.mem_identities_insertAll, he, Option.or_none]
    simp [Users.identities, Users.empty]
  · intro others h
    refine build_congr fun slot => ?_
    rw [get_afterAll_filter, h slot, ← get_afterAll_filter]

/-- A user put in before the whole section is gone, and so are the demonstration users. Of two secrets for one
identity the later stands, and the section does not mind that a call about routes comes between. -/
theorem build_afterAll_discarded_user :
    let root : CredentialsSection := ⟨.ofList [("root", "toor"), ("ops", "x")]⟩
    let route : Call := .routing ⟨["root"], .admin⟩
    let calls : List Call := [.user "early" "y", .credentials root, .user "ops" "old", route,
      .user "ops" "new"]
    let others : List Call := [route, .user "early" "y", .credentials root, .user "ops" "old",
      .user "ops" "new"]
    let c := (empty.afterAll calls).build
    c.credentials.users.secret? "ops" = some "new" ∧ c.credentials.users.secret? "root" = some "toor" ∧
      "early" ∉ c.credentials.users.identities ∧ "admin" ∉ c.credentials.users.identities ∧
      c.routing = ⟨["root"], .admin⟩ ∧ c.telemetry = .default ∧
      (empty.afterAll others).build = c := by
  intro root route calls others c
  obtain ⟨-,hover,-,hr,ht,hreorder⟩ := build_afterAll calls
  have hu := hover [.user "early" "y"] root [.user "ops" "old", route, .user "ops" "new"] rfl
    (by simp [route])
  refine ⟨(hu "ops").1,(hu "root").1,?_,?_,hr,ht,?_⟩
  · rw [(hu "early").2]
    decide
  · rw [(hu "admin").2]
    decide
  · exact hreorder others fun slot => by cases slot <;> rfl

end Turnstile.ConfigBuilder
