/-! Blank characters, and the ways a text is trimmed and cut into pieces.
Texts are handled as lists of characters; the functions on `String` at the end wrap them. -/
namespace Turnstile.Text

/-- The characters with the Unicode property White_Space. -/
def isBlank (c : Char) : Bool :=
  let n := c.toNat
  (9 ≤ n && n ≤ 13) || n == 0x20 || n == 0x85 || n == 0xa0 || n == 0x1680 ||
    (0x2000 ≤ n && n ≤ 0x200a) || n == 0x2028 || n == 0x2029 || n == 0x202f || n == 0x205f ||
    n == 0x3000

/-- Without the blanks at the front. -/
def trimFront (cs : List Char) : List Char := cs.dropWhile isBlank

/-- Without the blanks at the back. -/
def trimBack (cs : List Char) : List Char := (cs.reverse.dropWhile isBlank).reverse

/-- Without the blanks at either end. -/
def trim (cs : List Char) : List Char := trimBack (trimFront cs)

/-- Puts a character in front of the first of the pieces. -/
def onFirst (c : Char) : List (List Char) → List (List Char)
  | [] => [[c]]
  | p :: ps => (c :: p) :: ps

/-- The pieces between separators: `n` separators make `n + 1` pieces. -/
def pieces (sep : Char) : List Char → List (List Char)
  | [] => [[]]
  | c :: r => if c = sep then [] :: pieces sep r else onFirst c (pieces sep r)

/-- The pieces between double underscores, the leftmost pair first: of three underscores the third
opens the next piece. -/
def segments : List Char → List (List Char)
  | [] => [[]]
  | '_' :: '_' :: r => [] :: segments r
  | c :: r => onFirst c (segments r)

/-- The text before the first separator and the text after it; nothing if there is none. -/
def cutAt (sep : Char) : List Char → Option (List Char × List Char)
  | [] => none
  | c :: r => if c = sep then some ([], r) else (cutAt sep r).map fun (a, b) => (c :: a, b)

/-- The text after `front`, if it starts so. -/
def after? : (front : List Char) → List Char → Option (List Char)
  | [], cs => some cs
  | _ :: _, [] => none
  | f :: fs, c :: cs => if f = c then after? fs cs else none

/-- The letters A to Z made small. No other character turns into one of the letters a to j or l to z
when case is ignored, so this decides equality with words that have no `k`. -/
def small (cs : List Char) : List Char := cs.map Char.toLower

/-- `trim` of a text. -/
def trimmed (s : String) : String := String.ofList (trim s.toList)

/-- Reads as `word`, whatever the case of its letters. -/
def readsAs (s word : String) : Bool := small s.toList == word.toList

/-- The number of bytes in UTF-8. -/
def byteLength : List Char → Nat
  | [] => 0
  | c :: r => c.utf8Size + byteLength r

/-- The characters from byte `n` on; nothing if `n` is inside a character or past the end. -/
def dropBytes : Nat → List Char → Option (List Char)
  | 0, cs => some cs
  | _ + 1, [] => none
  | n + 1, c :: r => if c.utf8Size ≤ n + 1 then dropBytes (n + 1 - c.utf8Size) r else none

/-- The characters of the first `n` bytes; nothing if `n` is inside a character or past the end. -/
def takeBytes : Nat → List Char → Option (List Char)
  | 0, _ => some []
  | _ + 1, [] => none
  | n + 1, c :: r =>
    if c.utf8Size ≤ n + 1 then (takeBytes (n + 1 - c.utf8Size) r).map (c :: ·) else none

/-- The characters from byte `i` up to byte `j`. -/
def byteSlice (i j : Nat) (cs : List Char) : Option (List Char) :=
  (takeBytes j cs).bind (dropBytes i)

end Turnstile.Text
