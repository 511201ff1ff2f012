import Turnstile.Overrides
import Turnstile.Proofs.Pieces

/-! The names of the variables that override fields. Cutting a text at double underscores loses nothing, so
whatever stands before it, a name leads to a field only if it is the name of that field. -/
namespace Turnstile

namespace Text

lemma after?_eq_some_iff {front cs rest : List Char} :
    after? front cs = some rest ↔ cs = front ++ rest := by
  induction front generalizing cs with
  | nil => simp [after?, eq_comm]
  | cons f front ih =>
    cases cs with
    | nil => simp [after?]
    | cons c cs => by_cases h : f = c <;> simp [after?, h, ih, eq_comm]

lemma segments_ne_nil (cs : List Char) : segments cs ≠ [] := by
  fun_cases segments cs <;> simp [onFirst]
  split <;> simp

/-- What was cut can be joined again. -/
lemma intercalate_segments (cs : List Char) : ['_', '_'].intercalate (segments cs) = cs := by
  fun_induction segments cs with
  | case1 => rfl
  | case2 r ih =>
    obtain ⟨p,ps,hr⟩ := List.exists_cons_of_ne_nil (segments_ne_nil r)
    rw [hr] at ih ⊢
    rw [List.intercalate_cons_cons, ih]
    rfl
  | case3 c r h ih => rw [intercalate_onFirst _ _ (segments_ne_nil r), ih]

end Text

namespace Override
variable (scope : String)

/-- The name of a variable after the part that all of them have in common. -/
def Leaf.ending (leaf : Leaf) : String := "__".intercalate leaf.path

lemma Leaf.find?_path (leaf : Leaf) : Leaf.all.find? (·.path = leaf.path) = some leaf := by
  cases leaf <;> decide

lemma segments_ending (leaf : Leaf) :
    (Text.segments leaf.ending.toList).map String.ofList = leaf.path := by
  cases leaf <;> decide

/-- The parts of a path are found only in the text that they make when they are joined. -/
lemma eq_ending_of_segments {leaf : Leaf} {rest : List Char}
    (h : (Text.segments rest).map String.ofList = leaf.path) : rest = leaf.ending.toList := by
  have hj : rest = ['_', '_'].intercalate (leaf.path.map String.toList) := by
    rw [← h, List.map_map]
    simp [Function.comp_def, Text.intercalate_segments]
  rw [hj, Leaf.ending, String.toList_intercalate]
  rfl

lemma toList_variableName (leaf : Leaf) :
    (leaf.variableName scope).toList = (scope ++ "__").toList ++ leaf.ending.toList := by
  rw [← String.toList_append]
  rfl

/-- A variable overrides a field if and only if it has the name of the field, letter by letter. -/
lemma leaf?_eq_some_iff (name : String) (leaf : Leaf) :
    leaf? scope name = some leaf ↔ name = leaf.variableName scope := by
  constructor
  · intro h
    obtain ⟨rest,hr,hf⟩ := Option.bind_eq_some_iff.mp h
    have hp : (Text.segments rest).map String.ofList = leaf.path := by
      have := List.find?_some hf
      simpa [eq_comm] using this
    apply String.toList_injective
    rw [Text.after?_eq_some_iff.mp hr, eq_ending_of_segments hp, toList_variableName]
  · rintro rfl
    apply Option.bind_eq_some_iff.mpr
    refine ⟨leaf.ending.toList,?_,?_⟩
    · exact Text.after?_eq_some_iff.mpr (toList_variableName scope leaf)
    · rw [segments_ending]
      exact leaf.find?_path

lemma variableName_injective : Function.Injective (Leaf.variableName scope) := by
  intro a b h
  have ha := (leaf?_eq_some_iff scope _ a).mpr rfl
  rw [h, (leaf?_eq_some_iff scope _ b).mpr rfl] at ha
  exact (Option.some.inj ha).symm

end Override

end Turnstile
