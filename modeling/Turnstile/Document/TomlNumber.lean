import Turnstile.Decimal.Reading
import Turnstile.Document.Node
import Turnstile.Text.Digits

/-! Numbers, dates and times of TOML documents. -/
namespace Turnstile.Toml

/-- Reads digits with single underscores between them. -/
def readDigits (isDigit : Char → Bool) : List Char → List Char × List Char
  | [] => ([], [])
  | '_' :: r =>
    match r with
    | c :: r' =>
      if isDigit c then
        let (ds, rest) := readDigits isDigit r'
        (c :: ds, rest)
      else ([], '_' :: c :: r')
    | [] => ([], ['_'])
  | c :: r =>
    if isDigit c then
      let (ds, rest) := readDigits isDigit r
      (c :: ds, rest)
    else ([], c :: r)

/-- Reads digits of which there is at least one. -/
def readSomeDigits (isDigit : Char → Bool) : List Char → Option (List Char × List Char)
  | c :: r => if isDigit c then some (readDigits isDigit (c :: r)) else none
  | [] => none

/-- Reads the digits of a whole number: a zero alone, or digits that begin with another. -/
def readWhole (cs : List Char) : Option (List Char × List Char) :=
  match cs with
  | '0' :: r => some (['0'], r)
  | cs => readSomeDigits Text.isDigit cs

/-- Reads an exponent after its letter. -/
def readExponent (cs : List Char) : Option (Int × List Char) :=
  match cs with
  | '-' :: r => (readSomeDigits Text.isDigit r).map fun (ds, rest) => (-Text.decimal ds, rest)
  | '+' :: r => (readSomeDigits Text.isDigit r).map fun (ds, rest) => (Text.decimal ds, rest)
  | r => (readSomeDigits Text.isDigit r).map fun (ds, rest) => (Text.decimal ds, rest)

/-- A number that is not whole. One that is too great has no value, but one that is too small is
infinite. -/
def realNode (negative : Bool) (whole fraction : List Char) (exponent : Int) : Option Node :=
  let x := Decimal.nearest (Text.decimal (whole ++ fraction)) (exponent - fraction.length)
  if negative then some (.real (-x))
  else if x.isInf then none
  else some (.real x)

/-- A whole number of 64 bits. -/
def integerNode (value : Int) : Option Node :=
  if -(Nat.pow 2 63 : Int) ≤ value && value < Nat.pow 2 63 then some (.integer value) else none

/-- Reads an exponent that may follow the digits of a number. -/
def readTail (negative : Bool) (whole fraction cs : List Char) : Option (Node × List Char) := do
  let (exponent, rest) ← match cs with
    | 'e' :: r => readExponent r
    | 'E' :: r => readExponent r
    | r => some (0, r)
  let node ← realNode negative whole fraction exponent
  some (node, rest)

/-- Reads a decimal number after its sign. -/
def readDecimal (negative : Bool) (cs : List Char) : Option (Node × List Char) := do
  let (whole, rest) ← readWhole cs
  match rest with
  | '.' :: r =>
    let (fraction, rest) ← readSomeDigits Text.isDigit r
    readTail negative whole fraction rest
  | 'e' :: _ => readTail negative whole [] rest
  | 'E' :: _ => readTail negative whole [] rest
  | rest =>
    let node ← integerNode (if negative then -Text.decimal whole else Text.decimal whole)
    some (node, rest)

/-- Reads a number after its sign. -/
def readSigned (negative : Bool) (cs : List Char) : Option (Node × List Char) :=
  match cs with
  | 'i' :: 'n' :: 'f' :: r => some (.real (if negative then -1.0 / 0.0 else 1.0 / 0.0), r)
  | 'n' :: 'a' :: 'n' :: r => some (.real (0.0 / 0.0), r)
  | cs => readDecimal negative cs

/-- Reads a whole number in a base of its own. -/
def readBased (base : Nat) (isDigit : Char → Bool) (cs : List Char) : Option (Node × List Char) := do
  let (ds, rest) ← readSomeDigits isDigit cs
  let node ← integerNode (Text.numeral base ds)
  some (node, rest)

/-- Reads a number, if there is one. -/
def readNumber (cs : List Char) : Option (Node × List Char) :=
  match cs with
  | '0' :: 'x' :: r => readBased 16 Text.isHexDigit r
  | '0' :: 'o' :: r => readBased 8 (fun c => '0' ≤ c && c ≤ '7') r
  | '0' :: 'b' :: r => readBased 2 (fun c => c = '0' || c = '1') r
  | '-' :: r => readSigned true r
  | '+' :: r => readSigned false r
  | cs => readSigned false cs

/-- Reads a number of exactly so many digits. -/
def readFixed (digits : Nat) (cs : List Char) : Option (Nat × List Char) :=
  let ds := cs.take digits
  if ds.length = digits && ds.all Text.isDigit then some (Text.decimal ds, cs.drop digits) else none

/-- Reads one character. -/
def expect (c : Char) : List Char → Option (List Char)
  | [] => none
  | d :: r => if d = c then some r else none

def isLeap (year : Nat) : Bool := year % 4 = 0 && (year % 100 ≠ 0 || year % 400 = 0)

def daysIn (year month : Nat) : Nat :=
  if month = 2 then if isLeap year then 29 else 28
  else if month = 4 || month = 6 || month = 9 || month = 11 then 30
  else 31

/-- A number with zeros in front, up to the width. -/
def padded (width n : Nat) : String :=
  let ds := Nat.toDigits 10 n
  String.ofList (List.replicate (width - ds.length) '0' ++ ds)

/-- Reads a date, and gives it in its standard form. -/
def readDate (cs : List Char) : Option (String × List Char) := do
  let (year, r) ← readFixed 4 cs
  let r ← expect '-' r
  let (month, r) ← readFixed 2 r
  let r ← expect '-' r
  let (day, r) ← readFixed 2 r
  if 1 ≤ month && month ≤ 12 && 1 ≤ day && day ≤ daysIn year month then
    some (padded 4 year ++ "-" ++ padded 2 month ++ "-" ++ padded 2 day, r)
  else none

/-- Reads an hour and a minute. -/
def readHour (cs : List Char) : Option (Nat × Nat × List Char) := do
  let (hour, r) ← readFixed 2 cs
  let r ← expect ':' r
  let (minute, r) ← readFixed 2 r
  if hour ≤ 23 && minute ≤ 59 then some (hour, minute, r) else none

/-- Fractions of a second in their standard form: nine digits count, and zeros at the end do not. -/
def fractionText (ds : List Char) : String :=
  let shown := ((ds.take 9).reverse.dropWhile (· = '0')).reverse
  if shown.isEmpty then "" else String.ofList ('.' :: shown)

/-- Reads a time of day, and gives it in its standard form. -/
def readTime (cs : List Char) : Option (String × List Char) := do
  let (hour, minute, r) ← readHour cs
  let r ← expect ':' r
  let (second, r) ← readFixed 2 r
  if 60 < second then none
  else
    let (fraction, r) ← match r with
      | '.' :: r =>
        let ds := r.takeWhile Text.isDigit
        if ds.isEmpty then none else some (fractionText ds, r.dropWhile Text.isDigit)
      | r => some ("", r)
    some (padded 2 hour ++ ":" ++ padded 2 minute ++ ":" ++ padded 2 second ++ fraction, r)

/-- Reads an offset from world time that may follow a time, and gives it in its standard form. -/
def readOffset (cs : List Char) : Option (String × List Char) :=
  let offset (sign : String) (cs : List Char) : Option (String × List Char) := do
    let (hour, minute, r) ← readHour cs
    let sign := if hour = 0 && minute = 0 then "+" else sign
    some (sign ++ padded 2 hour ++ ":" ++ padded 2 minute, r)
  match cs with
  | 'Z' :: r => some ("Z", r)
  | 'z' :: r => some ("Z", r)
  | '+' :: r => offset "+" r
  | '-' :: r => offset "-" r
  | r => some ("", r)

/-- Reads a date, a time, or a date with a time, if there is one. What follows a date after a blank
need not be a time. -/
def readMoment (cs : List Char) : Option (Node × List Char) :=
  match readDate cs with
  | some (date, rest) =>
    let timed := match rest with
      | 'T' :: r => readTime r
      | 't' :: r => readTime r
      | ' ' :: r => readTime r
      | _ => none
    match timed with
    | some (time, rest) =>
      (readOffset rest).map fun (offset, rest) => (.moment (date ++ "T" ++ time ++ offset), rest)
    | none => some (.moment date, rest)
  | none => (readTime cs).map fun (time, rest) => (.moment time, rest)

end Turnstile.Toml
