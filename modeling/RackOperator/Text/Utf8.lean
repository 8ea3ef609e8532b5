/-!
# UTF-8

`decode?` reads a list of bytes as UTF-8 and fails on anything ill formed: a lone
continuation byte, an overlong form, half a surrogate pair, a value beyond
U+10FFFF. `decodeLossy` reads any bytes and puts U+FFFD in place of each longest
ill-formed piece.
-/

namespace RackOperator.Text.Utf8

/-- Whether a byte continues a character within given bounds. -/
def within (lo hi : UInt8) (b : UInt8) : Bool := lo ≤ b && b ≤ hi

/-- Bounds of the second byte and number of continuation bytes behind a first byte. -/
def shape? (b : UInt8) : Option (UInt8 × UInt8 × Nat) :=
  if within 0xC2 0xDF b then some (0x80, 0xBF, 1)
  else if b == 0xE0 then some (0xA0, 0xBF, 2)
  else if b == 0xED then some (0x80, 0x9F, 2)
  else if within 0xE1 0xEF b then some (0x80, 0xBF, 2)
  else if b == 0xF0 then some (0x90, 0xBF, 3)
  else if within 0xF1 0xF3 b then some (0x80, 0xBF, 3)
  else if b == 0xF4 then some (0x80, 0x8F, 3)
  else none

/-- The bits a first byte contributes, by the number of bytes that follow. -/
def leadBits (b : UInt8) : Nat → Nat
  | 1 => b.toNat % 32
  | 2 => b.toNat % 16
  | _ => b.toNat % 8

/-- Take continuation bytes: the value so far, the bytes still wanted, the bounds of the next. -/
def continueWith (value : Nat) (lo hi : UInt8) : Nat → List UInt8 → Option Nat × List UInt8
  | 0, bs => (some value, bs)
  | wanted + 1, b :: bs =>
    if within lo hi b then continueWith (value * 64 + b.toNat % 64) 0x80 0xBF wanted bs
    else (none, b :: bs)
  | _ + 1, [] => (none, [])

/-- The first character of some bytes, `none` for an ill-formed piece, and the bytes behind it. -/
def next (b : UInt8) (bs : List UInt8) : Option Char × List UInt8 :=
  if b < 0x80 then (some (Char.ofNat b.toNat), bs)
  else match shape? b with
    | none => (none, bs)
    | some (lo, hi, n) =>
      let (value, rest) := continueWith (leadBits b n) lo hi n bs
      (value.map Char.ofNat, rest)

/-- Read characters, at most as many as the fuel. -/
def readAll : Nat → List UInt8 → List Char → Option (List Char)
  | _, [], seen => some seen.reverse
  | 0, _ :: _, _ => none
  | fuel + 1, b :: bs, seen =>
    match next b bs with
    | (some c, rest) => readAll fuel rest (c :: seen)
    | (none, _) => none

/-- The text some bytes spell. -/
def decode? (bs : List UInt8) : Option String := (readAll bs.length bs []).map String.ofList

/-- Read characters with a replacement for ill-formed pieces. -/
def readLossy : Nat → List UInt8 → List Char → List Char
  | _, [], seen => seen.reverse
  | 0, _ :: _, seen => seen.reverse
  | fuel + 1, b :: bs, seen =>
    match next b bs with
    | (some c, rest) => readLossy fuel rest (c :: seen)
    | (none, rest) => readLossy fuel rest ('\uFFFD' :: seen)

/-- The text some bytes spell, U+FFFD for each ill-formed piece. -/
def decodeLossy (bs : List UInt8) : String := String.ofList (readLossy bs.length bs [])

/-- The bytes of a text. -/
def encode (s : String) : List UInt8 := s.toUTF8.toList

end RackOperator.Text.Utf8
