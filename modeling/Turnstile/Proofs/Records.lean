import Turnstile.Document.Decode
import Turnstile.Proofs.Basics

/-! Records out of tables. A table that is taken has known names only, and none of them twice, and what
stands under a name is all that counts for its part of the record; a part without a field has the standard
value of the field. So a record can be told from its table one part at a time, and the parts of a part
likewise. Where a record has a default of its own as well, the two have to agree. -/
namespace Turnstile

namespace Node

/-- The value stands at the end of the path, which leads through tables. -/
inductive At : Node → List String → Node → Prop
  | here (node : Node) : At node [] node
  | inside {entries : List (Key × Node)} {ending : Option Fault} {name : String} {child : Node}
      {path : List String} {value : Node} (mem : (.named name, child) ∈ entries)
      (rest : At child path value) : At (.table entries ending) (name :: path) value

lemma at_nil_iff {node value : Node} : node.At [] value ↔ value = node := by
  constructor
  · rintro ⟨⟩
    rfl
  · rintro rfl
    exact .here _

lemma at_tableOf_iff {es : List (String × Node)} {name : String} {path : List String} {value : Node} :
    (tableOf es).At (name :: path) value ↔ ∃ child, (name, child) ∈ es ∧ child.At path value := by
  constructor
  · intro h
    cases h with
    | inside mem rest =>
      obtain ⟨⟨n,v⟩,he,hk⟩ := List.mem_map.mp mem
      cases hk
      exact ⟨_,he,rest⟩
  · rintro ⟨child,he,rest⟩
    exact .inside (List.mem_map.mpr ⟨_,he,rfl⟩) rest

/-- A complete table of some of these fields, in any order. -/
def SomeOf (allowed : List (String × (Node → Prop))) (node : Node) : Prop :=
  ∃ es, node = tableOf es ∧ (es.map Prod.fst).Nodup ∧
    ∀ e ∈ es, ∃ fits, (e.1, fits) ∈ allowed ∧ fits e.2

/-- The path leads to a value. -/
def Has (node : Node) (path : List String) : Prop := ∃ value, node.At path value

/-- What is told is what was given if the path leads to a value, and else what stands by default. -/
structure Tells {α : Type} (node : Node) (path : List String) (told given standard : α) : Prop where
  present : node.Has path → told = given
  absent : ¬ node.Has path → told = standard

lemma tells_nil {α : Type} {node : Node} {told given : α} (h : told = given) (standard : α) :
    node.Tells [] told given standard :=
  ⟨fun _ => h,fun hn => absurd ⟨node,.here node⟩ hn⟩

end Node

namespace Decode
variable {σ α β : Type} {known : List Field} {build : Row known → σ} {format : Format}
  {slots filled : Slots known} {entries : List (Key × Node)} {name word : String} {value : Node} {t base : σ}

/-- The record whose fields were all left out. -/
def blank (build : Row known → σ) : σ := build fun i => (known.get i).standard

@[simp] lemma write_self (i : Fin known.length) (v : (known.get i).Value) :
    write slots i v i = some v := by simp [write]

@[simp] lemma write_of_ne {i j : Fin known.length} (h : j ≠ i) (v : (known.get i).Value) :
    write slots i v j = slots j := dif_neg h

lemma name_of_findFinIdx? {i : Fin known.length} (h : known.findFinIdx? (·.name = name) = some i) :
    (known.get i).name = name := by
  simpa using (List.findFinIdx?_eq_some_iff.mp h).1

lemma fields_named_eq_ok_iff :
    fields format slots ((.named name, value) :: entries) = .ok filled ↔
      ∃ i v, known.findFinIdx? (·.name = name) = some i ∧ slots i = none ∧
        (known.get i).decode format value = .ok v ∧
          fields format (write slots i v) entries = .ok filled := by
  rw [fields]
  cases known.findFinIdx? (·.name = name) with
  | none => simp
  | some i =>
    cases hs : slots i with
    | none => simp [hs, Except.bind_eq_ok_iff]
    | some w => simp [hs]

lemma known_of_fields (h : fields format slots entries = .ok filled)
    (hm : (.named name, value) ∈ entries) : name ∈ known.map (·.name) := by
  induction entries generalizing slots with
  | nil => cases hm
  | cons entry entries ih =>
    obtain ⟨key,v⟩ := entry
    cases key with
    | faulty used skipped => cases h
    | named n =>
      obtain ⟨i,w,hi,-,-,hu⟩ := fields_named_eq_ok_iff.mp h
      rcases hm with _ | ⟨_,hm⟩
      · exact List.mem_map.mpr ⟨known.get i,List.get_mem known i,name_of_findFinIdx? hi⟩
      · exact ih hu hm

/-- What a field is read from is what stands under its name, and this only once. -/
lemma slot_of_fields {i : Fin known.length} (hi : known.findFinIdx? (·.name = name) = some i)
    (h : fields format slots entries = .ok filled) :
    (∀ value, (.named name, value) ∈ entries →
      slots i = none ∧ ∃ v, filled i = some v ∧ (known.get i).decode format value = .ok v) ∧
    ((∀ value, (.named name, value) ∉ entries) → filled i = slots i) := by
  -- Over the entries that are left. If the first of them has the name, the slot is taken from then on, so
  -- that no later one can have it.
  induction entries generalizing slots with
  | nil =>
    cases h
    exact ⟨fun _ hm => (by cases hm),fun _ => rfl⟩
  | cons entry entries ih =>
    obtain ⟨key,w⟩ := entry
    cases key with
    | faulty used skipped => cases h
    | named n =>
      obtain ⟨j,v,hj,hs,hd,hu⟩ := fields_named_eq_ok_iff.mp h
      obtain ⟨hpresent,habsent⟩ := ih hu
      by_cases hn : n = name
      · subst hn
        obtain rfl : j = i := Option.some.inj (hj.symm.trans hi)
        have hnone (value : Node) : (.named n, value) ∉ entries := by
          intro hm
          cases (write_self j v).symm.trans (hpresent value hm).1
        have hfilled : filled j = some v := (habsent hnone).trans (write_self j v)
        refine ⟨?_,fun hno => absurd List.mem_cons_self (hno w)⟩
        rintro value (_ | ⟨_,hm⟩)
        · exact ⟨hs,v,hfilled,hd⟩
        · exact absurd hm (hnone value)
      · have hij : i ≠ j := by
          rintro rfl
          exact hn ((name_of_findFinIdx? hj).symm.trans (name_of_findFinIdx? hi))
        rw [write_of_ne hij] at hpresent habsent
        constructor
        · rintro value (_ | ⟨_,hm⟩)
          · exact absurd rfl hn
          · exact hpresent value hm
        · intro hno
          exact habsent fun value hm => hno value (List.mem_cons_of_mem _ hm)

/-- Fields with names of their own are taken if each of them is. -/
lemma exists_fields {es : List (String × Node)} (hn : (es.map Prod.fst).Nodup)
    (ha : ∀ e ∈ es, ∃ i v, known.findFinIdx? (·.name = e.1) = some i ∧ slots i = none ∧
      (known.get i).decode format e.2 = .ok v) :
    ∃ filled, fields format slots (es.map fun (name, value) => (.named name, value)) = .ok filled := by
  induction es generalizing slots with
  | nil => exact ⟨slots,rfl⟩
  | cons e es ih =>
    obtain ⟨hname,hn⟩ := List.nodup_cons.mp hn
    obtain ⟨⟨i,v,hi,hs,hd⟩,ha⟩ := List.forall_mem_cons.mp ha
    -- The fields still to come are others than the first one, so their slots are as empty as before.
    have hrest (e' : String × Node) (hm : e' ∈ es) :
        ∃ j w, known.findFinIdx? (·.name = e'.1) = some j ∧ write slots i v j = none ∧
          (known.get j).decode format e'.2 = .ok w := by
      obtain ⟨j,w,hj,hsj,hdj⟩ := ha e' hm
      have hij : j ≠ i := by
        rintro rfl
        have he : e'.1 = e.1 := (name_of_findFinIdx? hj).symm.trans (name_of_findFinIdx? hi)
        exact hname (he ▸ List.mem_map_of_mem hm)
      exact ⟨j,w,hj,(write_of_ne hij v).trans hsj,hdj⟩
    obtain ⟨filled,hf⟩ := ih hn hrest
    exact ⟨filled,fields_named_eq_ok_iff.mpr ⟨i,v,hi,hs,hd,hf⟩⟩

lemma record_eq_ok_iff {node : Node} :
    record word known build format node = .ok t ↔
      ∃ entries filled, entriesOf? format (known.map (·.name)) node = some (entries, none) ∧
        fields format (fun _ => none) entries = .ok filled ∧ build (complete filled) = t := by
  rw [record]
  cases entriesOf? format (known.map (·.name)) node with
  | none => simp
  | some table =>
    obtain ⟨entries,ending⟩ := table
    cases ending <;> simp [Fault.check, Except.bind_eq_ok_iff]

lemma record_table_eq_ok_iff {ending : Option Fault} :
    record word known build format (.table entries ending) = .ok t ↔
      ending = none ∧
        ∃ filled, fields format (fun _ => none) entries = .ok filled ∧ build (complete filled) = t := by
  have he : entriesOf? format (known.map (·.name)) (.table entries ending) = some (entries, ending) := rfl
  rw [record_eq_ok_iff, he]
  constructor
  · rintro ⟨entries,filled,he,hf,ht⟩
    cases he
    exact ⟨rfl,filled,hf,ht⟩
  · rintro ⟨rfl,filled,hf,ht⟩
    exact ⟨entries,filled,rfl,hf,ht⟩

/-- A table with nothing in it leaves out all fields. -/
lemma record_empty : record word known build format (.tableOf []) = .ok (blank build) := rfl

lemma known_of_record {ending : Option Fault}
    (h : record word known build format (.table entries ending) = .ok t)
    (hm : (.named name, value) ∈ entries) : name ∈ known.map (·.name) := by
  obtain ⟨-,filled,hf,-⟩ := record_table_eq_ok_iff.mp h
  exact known_of_fields hf hm

/-- The field with this name is read by this decoder, and into this part of the record. -/
def Reads (build : Row known → σ) (name : String) (decode : Decoder α) (get : σ → α) : Prop :=
  ∃ i, known.findFinIdx? (·.name = name) = some i ∧
    (∀ format value row, (known.get i).decode format value = .ok (row i) →
      decode format value = .ok (get (build row))) ∧
    ∀ row other : Row known, row i = other i → get (build row) = get (build other)

lemma reads_at (build : Row known → σ) (i : Fin known.length)
    (hi : known.findFinIdx? (·.name = name) = some i) {get : σ → (known.get i).Value}
    (h : ∀ row, get (build row) = row i) : Reads build name (known.get i).decode get := by
  refine ⟨i,hi,?_,?_⟩
  · intro format value row hd
    rw [hd, h]
  · intro row other he
    rw [h, h, he]

/-- One part of a record, out of the fields of a table. -/
lemma get_of_fields {decode : Decoder α} {get : σ → α} (hr : Reads build name decode get)
    (h : fields format (fun _ => none) entries = .ok filled) :
    (∀ value, (.named name, value) ∈ entries →
      decode format value = .ok (get (build (complete filled)))) ∧
    ((∀ value, (.named name, value) ∉ entries) →
      get (build (complete filled)) = get (blank build)) := by
  obtain ⟨i,hi,hread,hsame⟩ := hr
  obtain ⟨hpresent,habsent⟩ := slot_of_fields hi h
  constructor
  · intro value hm
    obtain ⟨-,v,hv,hd⟩ := hpresent value hm
    have hc : complete filled i = v := by simp [complete, hv]
    exact hread format value _ (hc ▸ hd)
  · intro hno
    refine hsame _ _ ?_
    simp [complete, habsent hno]

/-- What stands at the end of the path is read into this part of the value. -/
def Leads (decode : Decoder σ) (path : List String) (inner : Decoder α) (get : σ → α) : Prop :=
  ∀ format node t value, decode format node = .ok t → node.At path value →
    inner format value = .ok (get t)

lemma leads_nil {decode : Decoder σ} : Leads decode [] decode id := by
  intro format node t value h ha
  rw [Node.at_nil_iff.mp ha]
  exact h

/-- A path goes on from a part of a record to a part of that part. -/
lemma leads_cons {decode : Decoder α} {get : σ → α} (hr : Reads build name decode get)
    {path : List String} {inner : Decoder β} {part : α → β} (h : Leads decode path inner part) :
    Leads (record word known build) (name :: path) inner (part ∘ get) := by
  intro format node t value ht ha
  cases ha with
  | inside mem rest =>
    obtain ⟨-,filled,hf,rfl⟩ := record_table_eq_ok_iff.mp ht
    exact h format _ _ value ((get_of_fields hr hf).1 _ mem) rest

/-- Whatever fits is taken. -/
def Takes (decode : Decoder σ) (fits : Node → Prop) : Prop :=
  ∀ format node, fits node → ∃ t, decode format node = .ok t

/-- Whatever fits is read as this value. -/
def Means (decode : Decoder σ) (fits : Node → Prop) (given : σ) : Prop :=
  ∀ format node, fits node → decode format node = .ok given

lemma Means.takes {decode : Decoder σ} {fits : Node → Prop} {given : σ}
    (h : Means decode fits given) : Takes decode fits :=
  fun format node hf => ⟨given,h format node hf⟩

/-- Some of the fields, each with a value that is taken, make a table that is taken. -/
lemma takes_someOf {allowed : List (String × (Node → Prop))}
    (ha : ∀ e ∈ allowed, ∃ i, known.findFinIdx? (·.name = e.1) = some i ∧
      Takes (known.get i).decode e.2) :
    Takes (record word known build) (Node.SomeOf allowed) := by
  rintro format node ⟨es,rfl,hn,hfits⟩
  have hread (e : String × Node) (he : e ∈ es) :
      ∃ i v, known.findFinIdx? (·.name = e.1) = some i ∧ (fun _ => none : Slots known) i = none ∧
        (known.get i).decode format e.2 = .ok v := by
    obtain ⟨fits,hm,hfit⟩ := hfits e he
    obtain ⟨i,hi,htakes⟩ := ha _ hm
    obtain ⟨v,hv⟩ := htakes format e.2 hfit
    exact ⟨i,v,hi,rfl,hv⟩
  obtain ⟨filled,hf⟩ := exists_fields hn hread
  exact ⟨_,record_table_eq_ok_iff.mpr ⟨rfl,filled,hf,rfl⟩⟩

/-- Out of whatever fits, this part of the value is what was given at the end of the path, and else what
it is by default. -/
def Follows (decode : Decoder σ) (fits : Node → Prop) (path : List String) (part : σ → α)
    (given standard : α) : Prop :=
  ∀ format node t, fits node → decode format node = .ok t → node.Tells path (part t) given standard

lemma follows_nil {decode : Decoder α} {fits : Node → Prop} {given : α}
    (h : Means decode fits given) (standard : α) :
    Follows decode fits [] id given standard := by
  intro format node t hf ht
  have he : t = given := Except.ok.inj (ht.symm.trans (h format node hf))
  exact Node.tells_nil he standard

/-- A record follows its table part by part, if its parts are by default what they are without their
fields. -/
lemma follows_cons {allowed : List (String × (Node → Prop))} {fits : Node → Prop}
    {decode : Decoder α} {get : σ → α} (hr : Reads build name decode get) (hb : blank build = base)
    (hu : ∀ other, (name, other) ∈ allowed → other = fits) {path : List String} (part : α → β)
    {given : β} (h : Follows decode fits path part given (part (get base))) :
    Follows (record word known build) (Node.SomeOf allowed) (name :: path) (fun t => part (get t)) given
      (part (get base)) := by
  rintro format node t ⟨es,rfl,-,hfits⟩ ht
  obtain ⟨-,filled,hf,rfl⟩ := record_table_eq_ok_iff.mp ht
  obtain ⟨hpresent,habsent⟩ := get_of_fields hr hf
  rw [hb] at habsent
  have hchild (child : Node) (hm : (name, child) ∈ es) :
      child.Tells path (part (get (build (complete filled)))) given (part (get base)) := by
    obtain ⟨other,ha,hfit⟩ := hfits _ hm
    rw [hu other ha] at hfit
    exact h format child _ hfit (hpresent child (List.mem_map.mpr ⟨_,hm,rfl⟩))
  constructor
  · rintro ⟨value,hv⟩
    obtain ⟨child,hm,hat⟩ := Node.at_tableOf_iff.mp hv
    exact (hchild child hm).present ⟨value,hat⟩
  · intro hno
    -- A table may be there without the field; then its own default stands, which is that of the record.
    by_cases hm : ∃ child, (name, child) ∈ es
    · obtain ⟨child,hm⟩ := hm
      refine (hchild child hm).absent ?_
      rintro ⟨value,hat⟩
      exact hno ⟨value,Node.at_tableOf_iff.mpr ⟨child,hm,hat⟩⟩
    · refine congrArg part (habsent ?_)
      intro child hmem
      obtain ⟨⟨n,v⟩,he,hk⟩ := List.mem_map.mp hmem
      cases hk
      exact hm ⟨_,he⟩

end Decode

end Turnstile
