/-! The binary number nearest to a decimal. -/
namespace Turnstile.Decimal

/-- The number nearest to `coefficient * 10 ^ power`. Exponents so large or small that the result is
infinite or zero are cut off first, which keeps the arithmetic small. -/
def nearest (coefficient : Nat) (power : Int) : Float :=
  let size : Int := (Nat.toDigits 10 coefficient).length + power
  if coefficient = 0 || size < -400 then 0.0
  else if 400 < size then 1.0 / 0.0
  else if power < 0 then Float.ofScientific coefficient true (-power).toNat
  else Float.ofScientific coefficient false power.toNat

end Turnstile.Decimal
