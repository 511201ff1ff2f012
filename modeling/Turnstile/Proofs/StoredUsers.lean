import Mathlib.Data.Finset.Card
import Turnstile.Proofs.UserLookup
import Turnstile.Store

/-! Stores of known users, made of pairs of an identity and a secret. The last pair for an identity is the one
that counts, whether the pairs are collected at once or put in one after another. -/
namespace Turnstile

/-- A lookup looks at the pairs with the name only. -/
lemma Pairs.lookup_filter (entries : List (String × String)) (name : String) :
    (entries.filter (·.1 = name)).lookup name = entries.lookup name := by
  induction entries with
  | nil => rfl
  | cons e entries ih =>
    obtain ⟨n,value⟩ := e
    rcases eq_or_ne name n with rfl | hn
    · simp
    · rw [lookup_cons_of_ne hn, List.filter_cons_of_neg (by simpa using hn.symm), ih]

namespace Users
variable (pairs : List (String × String))

lemma toFinset_identities_ofList :
    (ofList pairs).identities.toFinset = (pairs.map Prod.fst).toFinset := by
  ext identity
  rw [List.mem_toFinset, List.mem_toFinset, mem_identities_ofList]

/-- Each identity counts once. -/
lemma size_ofList : (ofList pairs).size = (pairs.map Prod.fst).toFinset.card := by
  rw [← toFinset_identities_ofList, identities, List.toFinset_card_of_nodup (nodup_identities _),
    List.length_map]
  rfl

lemma isEmpty_ofList : (ofList pairs).isEmpty = true ↔ pairs = [] := by
  have hs : (ofList pairs).isEmpty = true ↔ (ofList pairs).size = 0 := by
    rw [isEmpty, List.isEmpty_iff_length_eq_zero, size]
  rw [hs, size_ofList, Finset.card_eq_zero, List.toFinset_eq_empty_iff, List.map_eq_nil_iff]

variable {pairs}

lemma ofList_congr {others : List (String × String)}
    (h : ∀ identity, others.filter (·.1 = identity) = pairs.filter (·.1 = identity)) :
    ofList others = ofList pairs := by
  apply ext_secret?
  intro identity
  rw [secret?_ofList, secret?_ofList, ← Pairs.lookup_filter others.reverse,
    ← Pairs.lookup_filter pairs.reverse, List.filter_reverse, List.filter_reverse, h]

end Users

namespace Store
variable (label : Nat) (users : Users) (identity secret : String)

lemma exists_inMemory_iff :
    (inMemory label users).answer (.userExists identity) = .ok true ↔ identity ∈ users.identities := by
  rw [← Users.contains_eq_true_iff]
  exact ⟨Except.ok.inj,congrArg Except.ok⟩

lemma verify_inMemory_iff :
    (inMemory label users).answer (.verifyPassword identity secret) = .ok true ↔
      users.secret? identity = some secret := by
  rw [← beq_iff_eq (a := users.secret? identity)]
  exact ⟨Except.ok.inj,congrArg Except.ok⟩

/-- A store of known users never fails. -/
lemma exists_answer_inMemory (query : Query) :
    ∃ known, (inMemory label users).answer query = .ok known := by
  cases query with
  | userExists identity => exact ⟨_,rfl⟩
  | verifyPassword identity secret => exact ⟨_,rfl⟩

lemma answer_inMemory_of_ne {query : Query} (h : (inMemory label users).answer query ≠ .ok true) :
    (inMemory label users).answer query = .ok false := by
  obtain ⟨known,hk⟩ := exists_answer_inMemory label users query
  cases known with
  | true => exact absurd hk h
  | false => exact hk

/-- A store made of pairs, in which an identity may come several times. Collected or put in one after another,
they make the same store. It knows the identities that come in some pair, and the secret of an identity is
exactly that of its last pair, so no identity has two and one that is not known has none. It never fails. There
are as many users as different identities. The pairs may come in any other order that keeps those for each
identity in theirs. -/
theorem inMemory_ofList (label : Nat) (pairs : List (String × String)) :
    let users := Users.ofList pairs
    let store := inMemory label users
    let known (identity : String) := store.answer (.userExists identity)
    let verified (identity secret : String) := store.answer (.verifyPassword identity secret)
    inMemory label (pairs.foldl (fun users e => users.insert e.1 e.2) .empty) = store ∧
    (∀ identity, known identity = .ok true ↔ identity ∈ pairs.map Prod.fst) ∧
    (∀ identity secret, verified identity secret = .ok true ↔
      ∃ before after, pairs = before ++ (identity, secret) :: after ∧
        ∀ e ∈ after, e.1 ≠ identity) ∧
    (∀ identity secret, verified identity secret = .ok true → known identity = .ok true ∧
      ∀ other, verified identity other = .ok true → other = secret) ∧
    (∀ identity, identity ∉ pairs.map Prod.fst →
      known identity = .ok false ∧ ∀ secret, verified identity secret = .ok false) ∧
    (∀ query, ∃ yes, store.answer query = .ok yes) ∧
    users.size = (pairs.map Prod.fst).toFinset.card ∧
    (users.isEmpty = true ↔ pairs = []) ∧
    ∀ others, (∀ identity, others.filter (·.1 = identity) = pairs.filter (·.1 = identity)) →
      inMemory label (Users.ofList others) = store := by
  intro users store known verified
  have hknown (identity : String) : known identity = .ok true ↔ identity ∈ pairs.map Prod.fst :=
    (exists_inMemory_iff label users identity).trans (Users.mem_identities_ofList pairs identity)
  have hsecret (identity secret : String) :
      verified identity secret = .ok true ↔ pairs.reverse.lookup identity = some secret := by
    rw [← Users.secret?_ofList]
    exact verify_inMemory_iff label users identity secret
  have hlast (identity secret : String) (h : verified identity secret = .ok true) :
      known identity = .ok true := by
    rw [hsecret, Pairs.lookup_reverse_eq_some_iff] at h
    obtain ⟨before,after,rfl,-⟩ := h
    exact (hknown identity).mpr (by simp)
  refine ⟨?_,hknown,?_,?_,?_,exists_answer_inMemory label users,Users.size_ofList pairs,
    Users.isEmpty_ofList pairs,?_⟩
  · exact congrArg (inMemory label) (Users.ofList_eq_insertAll pairs).symm
  · intro identity secret
    rw [hsecret, Pairs.lookup_reverse_eq_some_iff]
  · intro identity secret h
    refine ⟨hlast identity secret h,fun other ho => ?_⟩
    rw [hsecret] at h ho
    exact Option.some.inj (ho.symm.trans h)
  · intro identity hn
    refine ⟨answer_inMemory_of_ne label users fun hk => hn ((hknown identity).mp hk),fun secret => ?_⟩
    exact answer_inMemory_of_ne label users fun hv =>
      hn ((hknown identity).mp (hlast identity secret hv))
  · intro others h
    exact congrArg (inMemory label) (Users.ofList_congr h)

/-- The second secret of an identity replaces the first, also when the pair between the two comes last. -/
theorem inMemory_ofList_second_secret :
    let pairs := [("admin", "old"), ("user", ""), ("admin", "new")]
    let others := [("admin", "old"), ("admin", "new"), ("user", "")]
    let store := inMemory 0 (.ofList pairs)
    store.answer (.verifyPassword "admin" "new") = .ok true ∧
      store.answer (.verifyPassword "admin" "old") = .ok false ∧
      store.answer (.verifyPassword "user" "") = .ok true ∧
      store.answer (.verifyPassword "ghost" "") = .ok false ∧
      (Users.ofList pairs).size = 2 ∧
      inMemory 0 (.ofList others) = store := by
  intro pairs others store
  obtain ⟨-,-,hverified,hlast,hunknown,-,hsize,-,hreorder⟩ := inMemory_ofList 0 pairs
  have hnew : store.answer (.verifyPassword "admin" "new") = .ok true :=
    (hverified "admin" "new").mpr ⟨[("admin", "old"), ("user", "")],[],rfl,by simp⟩
  have hold : store.answer (.verifyPassword "admin" "old") ≠ .ok true := fun h =>
    absurd ((hlast "admin" "new" hnew).2 "old" h) (by decide)
  have hfilter (identity : String) :
      others.filter (·.1 = identity) = pairs.filter (·.1 = identity) := by
    by_cases ha : "admin" = identity
    · subst ha
      decide
    · by_cases hu : "user" = identity <;> simp [others, pairs, ha, hu]
  refine ⟨hnew,answer_inMemory_of_ne 0 _ hold,?_,(hunknown "ghost" (by decide)).2 "",?_,
    hreorder others hfilter⟩
  · exact (hverified "user" "").mpr ⟨[("admin", "old")],[("admin", "new")],rfl,by decide⟩
  · rw [hsize]
    decide

end Store

end Turnstile
