/-! Sets of characters as tables of ranges. -/
namespace Turnstile.Text

/-- In one of the ranges of a table, both ends included. -/
def within (table : Array (Nat × Nat)) (c : Char) : Bool :=
  table.any fun (first, last) => first ≤ c.toNat && c.toNat ≤ last

end Turnstile.Text
