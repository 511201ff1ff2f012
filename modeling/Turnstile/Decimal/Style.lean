import Turnstile.Decimal.Shortest

/-! How a binary number is written: where the positional form ends, and whether a whole number keeps
a point. The digits are always the shortest that read back. -/
namespace Turnstile.Decimal

/-- The decisions of a written form. A bound that is absent never ends the positional form. -/
structure Style where
  /-- The least position of the decimal point that is written positionally. -/
  leastPoint : Option Int
  /-- The greatest position of the decimal point that is written positionally. -/
  greatestPoint : Option Int
  /-- A whole number ends in `.0`. -/
  keepsPoint : Bool
  /-- An exponent that is not negative has a plus sign. -/
  signsExponent : Bool
  /-- Of two shortest decimals at equal distance, which is written. -/
  tie : Tie
  deriving Repr, DecidableEq

/-- Digits with their point in place, or followed by an exponent of ten. -/
def Style.digits (style : Style) (d : Digits) : String :=
  let ds := Nat.toDigits 10 d.coefficient
  let point : Int := ds.length + d.power
  let positional := style.leastPoint.all (· ≤ point) && style.greatestPoint.all (point ≤ ·)
  if positional then
    if 0 ≤ d.power then
      String.ofList (ds ++ List.replicate d.power.toNat '0') ++ (if style.keepsPoint then ".0" else "")
    else if 0 < point then
      String.ofList (ds.take point.toNat ++ '.' :: ds.drop point.toNat)
    else
      String.ofList ('0' :: '.' :: List.replicate (-point).toNat '0' ++ ds)
  else
    let mantissa := match ds with
      | [] => []
      | [c] => [c]
      | c :: r => c :: '.' :: r
    let sign := if style.signsExponent && 0 < point then "+" else ""
    String.ofList mantissa ++ "e" ++ sign ++ toString (point - 1)

/-- A number as text. -/
def Style.write (style : Style) (x : Float) : String :=
  if x.isNaN then "NaN"
  else
    let bits := x.toBits
    let sign := if bits.toNat / Nat.pow 2 63 = 1 then "-" else ""
    if x.isInf then sign ++ "inf"
    else
      let v := Binary.ofBits bits
      if v.significand = 0 then sign ++ (if style.keepsPoint then "0.0" else "0")
      else sign ++ style.digits (v.shortest style.tie)

/-- Always positional, whole numbers without a point. -/
def plain : Style := ⟨none, none, false, false, .up⟩

/-- Always positional, whole numbers with a point. -/
def pointed : Style := ⟨none, none, true, false, .up⟩

/-- Positional from `0.00001` to sixteen digits before the point, with a signed exponent beyond. -/
def compact : Style := ⟨some (-4), some 16, true, true, .toEven⟩

end Turnstile.Decimal
