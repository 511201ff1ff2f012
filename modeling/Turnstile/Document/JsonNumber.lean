import Turnstile.Document.Node
import Turnstile.Text.Digits

/-! Numbers of JSON texts. Whole numbers of 64 bits are exact. All others become binary numbers by way
of a significand of 64 bits, to which digits are added as long as they fit, and a scaling by powers of
ten; the last bit may therefore differ from that of the nearest number. -/
namespace Turnstile.Json

/-- A number as it is written. -/
structure Numeral where
  negative : Bool
  whole : List Char
  fraction : Option (List Char)
  /-- Whether the exponent is negative, and its digits. -/
  exponent : Option (Bool × List Char)
  deriving Repr, DecidableEq

/-- The significand with the digits that fit into 64 bits, up to the first that does not, and how many
they are. -/
def absorb (significand : Nat) : List Char → Nat × Nat
  | [] => (significand, 0)
  | c :: r =>
    let next := significand * 10 + Text.decimal [c]
    if next < Nat.pow 2 64 then
      let (result, taken) := absorb next r
      (result, taken + 1)
    else (significand, 0)

/-- Division by a power of ten, at most `10 ^ 308` at a time. -/
def shrink (x : Float) (power : Nat) : Float :=
  if power ≤ 308 then x / Float.ofScientific 1 false power
  else if x == 0.0 then x
  else shrink (x / Float.ofScientific 1 false 308) (power - 308)
termination_by power

/-- The significand scaled by a power of ten; nothing if the result is out of range. -/
def scale (significand : Nat) (power : Int) : Option Float :=
  let x := Float.ofNat significand
  if power < 0 then some (shrink x (-power).toNat)
  else if 308 < power then if significand = 0 then some x else none
  else
    let y := x * Float.ofScientific 1 false power.toNat
    if y.isInf then none else some y

namespace Numeral

/-- The size of a number that is not whole; nothing if it is out of range. -/
def magnitude (n : Numeral) : Option Float :=
  let (whole, taken) := absorb 0 n.whole
  let (significand, shift) := absorb whole (n.fraction.getD [])
  let power : Int := (n.whole.length - taken : Nat) - (shift : Int)
  match n.exponent with
  | none => scale significand power
  | some (negative, digits) =>
    let e := Text.decimal digits
    if e < Nat.pow 2 31 then scale significand (if negative then power - e else power + e)
    else if significand ≠ 0 && !negative then none
    else some 0.0

/-- The whole number written, if it is written as one and fits into 64 bits. -/
def integer? (n : Numeral) : Option Int :=
  match n.fraction, n.exponent with
  | none, none =>
    let v := Text.decimal n.whole
    if n.negative then if 0 < v && v ≤ Nat.pow 2 63 then some (-v) else none
    else if v < Nat.pow 2 64 then some v else none
  | _, _ => none

/-- The value of a number. One that is out of range is none, though nothing is wrong with its form. -/
def node (n : Numeral) : Node :=
  match n.integer? with
  | some v => .integer v
  | none =>
    match n.magnitude with
    | some x => .real (if n.negative then -x else x)
    | none => .faulty .word .malformed none

end Numeral

/-- The fault of a number that breaks off: one who passes over it does not care why. -/
def brokenNumber (rest : List Char) : Node :=
  .faulty .word (if rest.isEmpty then .cutShort else .malformed) (some .malformed)

/-- Reads the exponent of a number, from its sign on. -/
def readExponent (n : Numeral) (cs : List Char) : Node × Option (List Char) :=
  let (negative, cs) := match cs with
    | '+' :: r => (false, r)
    | '-' :: r => (true, r)
    | _ => (false, cs)
  match cs.takeWhile Text.isDigit with
  | [] => (brokenNumber cs, none)
  | digits =>
    (Numeral.node { n with exponent := some (negative, digits) }, some (cs.dropWhile Text.isDigit))

/-- Reads what may follow the digits of a number. -/
def readTail (n : Numeral) (cs : List Char) : Node × Option (List Char) :=
  match cs with
  | 'e' :: r => readExponent n r
  | 'E' :: r => readExponent n r
  | _ => (n.node, some cs)

/-- Reads a number from its first digit on, and gives what follows it if nothing is wrong with its
form. -/
def readNumber (negative : Bool) (cs : List Char) : Node × Option (List Char) :=
  let whole := cs.takeWhile Text.isDigit
  let rest := cs.dropWhile Text.isDigit
  if whole.isEmpty then (brokenNumber cs, none)
  else if whole.head? = some '0' && 1 < whole.length then
    (.faulty .word .malformed (some .malformed), none)
  else
    let n : Numeral := ⟨negative, whole, none, none⟩
    match rest with
    | '.' :: r =>
      match r.takeWhile Text.isDigit with
      | [] => (brokenNumber r, none)
      | digits => readTail { n with fraction := some digits } (r.dropWhile Text.isDigit)
    | _ => readTail n rest

end Turnstile.Json
