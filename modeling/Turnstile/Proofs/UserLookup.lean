import Mathlib.Data.List.Sort
import Turnstile.Proofs.Basics
import Turnstile.Users

/-! Looking up the secret of an identity. A lookup finds exactly the pairs that a collection holds, and
collecting these pairs anew, in whatever order, gives the collection back. -/
namespace Turnstile.Users

lemma Ordered.eq_of_fst_eq {entries : List (String × String)} (h : Ordered entries)
    {a b : String × String} (ha : a ∈ entries) (hb : b ∈ entries) (hab : a.1 = b.1) : a = b := by
  induction entries with
  | nil => cases ha
  | cons entry rest ih =>
    obtain ⟨hlt,hr⟩ := List.pairwise_cons.mp h
    rcases List.mem_cons.mp ha with rfl | ha' <;> rcases List.mem_cons.mp hb with rfl | hb'
    · rfl
    · exact absurd (hlt b hb') (hab ▸ String.lt_irrefl _)
    · exact absurd (hlt a ha') (hab ▸ String.lt_irrefl _)
    · exact ih hr ha' hb'

lemma secret?_eq_some_iff (users : Users) (identity secret : String) :
    users.secret? identity = some secret ↔ (identity, secret) ∈ users.entries := by
  constructor
  · intro h
    obtain ⟨entry,hf,rfl⟩ := Option.map_eq_some_iff.mp h
    have hi : entry.1 = identity := by simpa using List.find?_some hf
    exact hi ▸ List.mem_of_find?_eq_some hf
  · intro h
    cases hf : users.entries.find? (·.1 = identity) with
    | none =>
      have hn := List.find?_eq_none.mp hf _ h
      simp at hn
    | some entry =>
      have hi : entry.1 = identity := by simpa using List.find?_some hf
      have he := users.ordered.eq_of_fst_eq (List.mem_of_find?_eq_some hf) h hi
      simp [secret?, hf, he]

lemma secret?_eq_none_iff (users : Users) (identity : String) :
    users.secret? identity = none ↔ ∀ secret, (identity, secret) ∉ users.entries := by
  rw [Option.eq_none_iff_forall_ne_some]
  exact forall_congr' fun secret => not_congr (users.secret?_eq_some_iff identity secret)

lemma contains_eq_true_iff (users : Users) (identity : String) :
    users.contains identity = true ↔ identity ∈ users.identities := by
  rw [contains, Option.isSome_iff_exists]
  simp [secret?_eq_some_iff, identities]

lemma insertEntry_of_lt {identity secret : String} {entries : List (String × String)}
    (h : ∀ e ∈ entries, identity < e.1) :
    insertEntry identity secret entries = (identity, secret) :: entries := by
  cases entries with
  | nil => rfl
  | cons entry rest => simp [insertEntry, h entry (by simp)]

lemma entries_ofList {entries : List (String × String)} (h : Ordered entries) :
    (ofList entries).entries = entries := by
  induction entries with
  | nil => rfl
  | cons entry rest ih =>
    obtain ⟨hlt,hr⟩ := List.pairwise_cons.mp h
    have hrest : (ofList rest).entries = rest := ih hr
    have hnone : (ofList rest).secret? entry.1 = none := by
      rw [secret?_eq_none_iff, hrest]
      intro secret hm
      exact String.lt_irrefl _ (hlt (entry.1, secret) hm)
    simp [ofList, contains, hnone, insert, hrest, insertEntry_of_lt hlt]

/-- A collection is rebuilt from its own pairs. -/
lemma ofList_entries (users : Users) : ofList users.entries = users := by
  have h := entries_ofList users.ordered
  cases hu : ofList users.entries with
  | mk entries ordered =>
    cases users
    simp only [hu] at h
    subst h
    rfl

lemma secret?_insert (users : Users) (identity secret other : String) :
    (users.insert identity secret).secret? other =
      if other = identity then some secret else users.secret? other := by
  change ((insertEntry identity secret users.entries).find? _).map _ =
    if _ then _ else (users.entries.find? _).map _
  induction users.entries with
  | nil => by_cases h : other = identity <;> simp [insertEntry, h, eq_comm]
  | cons entry rest ih =>
    rw [insertEntry]
    split
    · by_cases h : other = identity <;> simp [h, eq_comm]
    · split
      · rename_i he
        by_cases h : other = identity <;> simp [h, ← he, eq_comm]
      · rename_i hne
        by_cases he : entry.1 = other
        · have h : other ≠ identity := fun h => hne (he.trans h).symm
          simp [he, h]
        · simpa [he] using ih

lemma nodup_identities (users : Users) : (users.entries.map Prod.fst).Nodup := by
  apply List.pairwise_map.mpr
  apply List.Pairwise.imp _ users.ordered
  rintro a b h he
  exact String.lt_irrefl _ (he ▸ h)

/-- Collections that answer alike are the same. -/
lemma ext_secret? {users others : Users}
    (h : ∀ identity, users.secret? identity = others.secret? identity) : users = others := by
  have hm (e : String × String) : e ∈ users.entries ↔ e ∈ others.entries := by
    rw [← Prod.mk.eta (p := e), ← secret?_eq_some_iff, ← secret?_eq_some_iff, h]
  have hp : users.entries.Perm others.entries :=
    (List.perm_ext_iff_of_nodup users.nodup_identities.of_map others.nodup_identities.of_map).mpr hm
  have he : users.entries = others.entries := by
    refine List.Perm.eq_of_pairwise ?_ users.ordered others.ordered hp
    exact fun a b _ _ hab hba => absurd hba (String.lt_asymm hab)
  cases users
  cases others
  cases he
  rfl

/-- With these pairs put in one after another. -/
def insertAll (users : Users) (entries : List (String × String)) : Users :=
  entries.foldl (fun users e => users.insert e.1 e.2) users

lemma secret?_insertAll (users : Users) (entries : List (String × String)) (identity : String) :
    (users.insertAll entries).secret? identity =
      (entries.reverse.lookup identity).or (users.secret? identity) := by
  induction entries generalizing users with
  | nil => rfl
  | cons e entries ih =>
    obtain ⟨name,secret⟩ := e
    rw [insertAll, List.foldl_cons, ← insertAll, ih, secret?_insert, List.reverse_cons,
      List.lookup_append, Option.or_assoc]
    congr 1
    by_cases h : identity = name
    · simp [h]
    · simp [Pairs.lookup_cons_of_ne h, h]

lemma mem_identities_insertAll (users : Users) (entries : List (String × String)) (identity : String) :
    identity ∈ (users.insertAll entries).identities ↔
      identity ∈ users.identities ∨ identity ∈ entries.map Prod.fst := by
  rw [← contains_eq_true_iff, ← contains_eq_true_iff, contains, contains, secret?_insertAll,
    Option.isSome_or, Bool.or_eq_true, Option.isSome_iff_ne_none, ne_eq,
    Pairs.lookup_reverse_eq_none_iff, Pairs.lookup_eq_none_iff_notMem, not_not, or_comm]

/-- The pairs of a collection make it up, whatever their order. -/
lemma insertAll_of_perm {users : Users} {entries : List (String × String)}
    (h : entries.Perm users.entries) : empty.insertAll entries = users := by
  apply ext_secret?
  intro identity
  apply Option.ext
  intro secret
  have hr : entries.reverse.Perm users.entries := (List.reverse_perm entries).trans h
  have he : empty.secret? identity = none := rfl
  rw [secret?_insertAll, Pairs.lookup_perm hr users.nodup_identities, he, Option.or_none,
    Pairs.lookup_eq_some_iff_mem users.nodup_identities, secret?_eq_some_iff]

/-- Of several pairs for an identity the last one counts. -/
lemma secret?_ofList (entries : List (String × String)) (identity : String) :
    (ofList entries).secret? identity = entries.reverse.lookup identity := by
  induction entries with
  | nil => rfl
  | cons e entries ih =>
    obtain ⟨name,secret⟩ := e
    rw [List.reverse_cons, List.lookup_append, ← ih, ofList]
    split
    · rename_i h
      rcases eq_or_ne identity name with rfl | hn
      · obtain ⟨known,hk⟩ := Option.isSome_iff_exists.mp h
        rw [hk, Option.some_or]
      · rw [Pairs.lookup_cons_of_ne hn, List.lookup_nil, Option.or_none]
    · rename_i h
      rw [secret?_insert]
      split
      · rename_i hn
        subst hn
        rw [Option.not_isSome_iff_eq_none.mp h, List.lookup_cons_self, Option.none_or]
      · rename_i hn
        rw [Pairs.lookup_cons_of_ne hn, List.lookup_nil, Option.or_none]

lemma mem_of_mem_ofList {entries : List (String × String)} {e : String × String}
    (h : e ∈ (ofList entries).entries) : e ∈ entries := by
  have hs := (secret?_eq_some_iff (ofList entries) e.1 e.2).mpr h
  rw [secret?_ofList] at hs
  obtain ⟨before,after,rfl,-⟩ := (Pairs.lookup_reverse_eq_some_iff e.2).mp hs
  simp

lemma mem_identities_ofList (entries : List (String × String)) (identity : String) :
    identity ∈ (ofList entries).identities ↔ identity ∈ entries.map Prod.fst := by
  rw [← contains_eq_true_iff, contains, secret?_ofList, Option.isSome_iff_ne_none, ne_eq,
    Pairs.lookup_reverse_eq_none_iff, Pairs.lookup_eq_none_iff_notMem, not_not]

lemma ofList_eq_insertAll (entries : List (String × String)) :
    ofList entries = empty.insertAll entries := by
  apply ext_secret?
  intro identity
  have he : empty.secret? identity = none := rfl
  rw [secret?_ofList, secret?_insertAll, he, Option.or_none]

end Turnstile.Users
