/-! Identities and their secrets: each identity once, in the order of the identities, so that two
collections with the same answers are the same collection. -/
namespace Turnstile

namespace Users

/-- Puts a pair in its place, over an earlier one for the same identity. -/
def insertEntry (identity secret : String) : List (String × String) → List (String × String)
  | [] => [(identity, secret)]
  | entry :: rest =>
    if identity < entry.1 then (identity, secret) :: entry :: rest
    else if identity = entry.1 then (identity, secret) :: rest
    else entry :: insertEntry identity secret rest

/-- In strict order of the identities. -/
def Ordered (entries : List (String × String)) : Prop := entries.Pairwise (·.1 < ·.1)

theorem mem_insertEntry {identity secret : String} {entries : List (String × String)}
    {e : String × String} (h : e ∈ insertEntry identity secret entries) :
    e = (identity, secret) ∨ e ∈ entries := by
  induction entries with
  | nil => exact Or.inl (by simpa [insertEntry] using h)
  | cons entry rest ih =>
    unfold insertEntry at h
    split at h
    · simpa using h
    · split at h
      · rcases List.mem_cons.1 h with h | h
        · exact Or.inl h
        · exact Or.inr (List.mem_cons_of_mem _ h)
      · rcases List.mem_cons.1 h with h | h
        · exact Or.inr (h ▸ List.mem_cons_self)
        · exact (ih h).imp id (List.mem_cons_of_mem _)

theorem Ordered.insertEntry {identity secret : String} {entries : List (String × String)}
    (h : Ordered entries) : Ordered (insertEntry identity secret entries) := by
  induction entries with
  | nil => exact List.pairwise_singleton ..
  | cons entry rest ih =>
    have hr := List.pairwise_cons.1 h
    unfold Users.insertEntry
    split
    · rename_i hlt
      refine List.pairwise_cons.2 ⟨fun e he => ?_, h⟩
      rcases List.mem_cons.1 he with rfl | he
      · exact hlt
      · exact String.lt_trans hlt (hr.1 e he)
    · rename_i hge
      split
      · rename_i heq
        exact List.pairwise_cons.2 ⟨fun e he => heq ▸ hr.1 e he, hr.2⟩
      · rename_i hne
        refine List.pairwise_cons.2 ⟨fun e he => ?_, ih hr.2⟩
        rcases mem_insertEntry he with rfl | he
        · exact String.not_le.1 fun hle => hne (String.le_antisymm hle (String.not_lt.1 hge))
        · exact hr.1 e he

end Users

/-- Secrets by identity. -/
structure Users where
  entries : List (String × String)
  ordered : Users.Ordered entries
  deriving DecidableEq

namespace Users

/-- Nobody. -/
def empty : Users := ⟨[], List.Pairwise.nil⟩

instance : Inhabited Users := ⟨empty⟩

/-- With this secret for the identity, in place of an earlier one. -/
def insert (users : Users) (identity secret : String) : Users :=
  ⟨insertEntry identity secret users.entries, users.ordered.insertEntry⟩

/-- The secret of an identity. -/
def secret? (users : Users) (identity : String) : Option String :=
  (users.entries.find? (·.1 = identity)).map (·.2)

/-- An identity with a secret, if only an empty one. -/
def contains (users : Users) (identity : String) : Bool := (users.secret? identity).isSome

/-- The identities, in order. -/
def identities (users : Users) : List String := users.entries.map (·.1)

def size (users : Users) : Nat := users.entries.length

def isEmpty (users : Users) : Bool := users.entries.isEmpty

/-- The pairs of a list. Of two pairs for one identity the later stands. -/
def ofList : List (String × String) → Users
  | [] => empty
  | (identity, secret) :: rest =>
    let users := ofList rest
    if users.contains identity then users else users.insert identity secret

/-- The two demonstration users. -/
def demo : Users := (empty.insert "admin" "admin").insert "user" "user"

end Users

end Turnstile
