/-! The shortest decimal of a binary number: the fewest digits that read back as the same number, and
among decimals of that length the nearest. The search is exact, on natural numbers. -/
namespace Turnstile.Decimal

/-- The number `significand * 2 ^ exponent`. `edge` says that the numbers below it lie twice as close
as those above, as they do at a power of two. -/
structure Binary where
  significand : Nat
  exponent : Int
  edge : Bool
  deriving Repr, DecidableEq

/-- The number `coefficient * 10 ^ power`. -/
structure Digits where
  coefficient : Nat
  power : Int
  deriving Repr, DecidableEq

/-- The magnitude held by the 64 bits of a finite number. -/
def Binary.ofBits (bits : UInt64) : Binary :=
  let fraction := bits.toNat % Nat.pow 2 52
  let biased := bits.toNat / Nat.pow 2 52 % Nat.pow 2 11
  if biased = 0 then ⟨fraction, -1074, false⟩
  else ⟨Nat.pow 2 52 + fraction, Int.ofNat biased - 1075, fraction = 0 && biased ≠ 1⟩

/-- `a * 10 ^ p` against `b * 2 ^ q`, both as natural numbers on one scale. -/
def onOneScale (a : Nat) (p : Int) (b : Nat) (q : Int) : Nat × Nat :=
  (a * Nat.pow 10 p.toNat * Nat.pow 2 (-q).toNat,
    b * Nat.pow 2 q.toNat * Nat.pow 10 (-p).toNat)

/-- Reads back as `v`: it lies between the midpoints to the neighbours of `v`, on a midpoint only if
the significand is even. -/
def Binary.readsBack (v : Binary) (d : Digits) : Bool :=
  let below := if v.edge then 4 * v.significand - 1 else 4 * v.significand - 2
  let (x, low) := onOneScale d.coefficient d.power below (v.exponent - 2)
  let (y, high) := onOneScale d.coefficient d.power (4 * v.significand + 2) (v.exponent - 2)
  if v.significand % 2 = 0 then low ≤ x && y ≤ high else low < x && y < high

/-- The number of digits in front of the decimal point; zero or less if the first digit comes after
it, by the zeros in between. -/
def Binary.pointPosition (v : Binary) : Int :=
  let scaled := v.significand * Nat.pow 2 v.exponent.toNat
  let divisor := Nat.pow 2 (-v.exponent).toNat
  if divisor ≤ scaled then ((Nat.toDigits 10 (scaled / divisor)).length : Int)
  else
    match (List.range 400).find? fun j => divisor ≤ scaled * Nat.pow 10 (j + 1) with
    | some j => -(j : Int)
    | none => -400

/-- The largest multiple of `10 ^ p` that is not above `v`. -/
def Binary.floorAt (v : Binary) (p : Int) : Digits :=
  let (unit, scaled) := onOneScale 1 p v.significand v.exponent
  ⟨scaled / unit, p⟩

/-- Which of two neighbours is taken at equal distance. -/
inductive Tie where
  | toEven
  | up
  deriving Repr, DecidableEq

/-- Nearer to `d` than to the next multiple of the same power of ten, or at equal distance and `d` is
taken. -/
def Binary.roundsDown (v : Binary) (tie : Tie) (d : Digits) : Bool :=
  let (middle, scaled) := onOneScale (2 * d.coefficient + 1) d.power (2 * v.significand) v.exponent
  scaled < middle || (scaled = middle && tie = .toEven && d.coefficient % 2 = 0)

/-- The neighbour of `v` on a decimal grid that reads back, the nearer if both do. -/
def Binary.onGrid (v : Binary) (tie : Tie) (p : Int) : Option Digits :=
  let low := v.floorAt p
  let high : Digits := ⟨low.coefficient + 1, p⟩
  let (first, second) := if v.roundsDown tie low then (low, high) else (high, low)
  if v.readsBack first then some first
  else if v.readsBack second then some second
  else none

/-- Without zeros at the end of the coefficient. -/
def Digits.normal (d : Digits) : Digits :=
  let zeros := ((Nat.toDigits 10 d.coefficient).reverse.takeWhile (· == '0')).length
  ⟨d.coefficient / Nat.pow 10 zeros, d.power + zeros⟩

/-- The shortest decimal of a number other than zero. Seventeen digits always suffice. -/
def Binary.shortest (v : Binary) (tie : Tie) : Digits :=
  let point := v.pointPosition
  match (List.range 17).findSome? fun n => v.onGrid tie (point - Int.ofNat (n + 1)) with
  | some d => d.normal
  | none => v.floorAt (point - 17)

end Turnstile.Decimal
