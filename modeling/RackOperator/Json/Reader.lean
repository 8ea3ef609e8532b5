import RackOperator.Json.Basic
import RackOperator.Text.Utf8

/-!
# Reading JSON text

`Json.parse?` reads bytes by RFC 8259: no byte-order mark, no comments, no
trailing comma, no raw control character in a string, nothing but blanks behind
the value. The reader keeps the open arrays and objects in a list of frames, so
nesting costs no call depth. What is well formed but denotes no value becomes
`Json.malformed`, as does every array or object nested deeper than `depthLimit`.
-/

namespace RackOperator.Json

open Text

/-- Arrays and objects nested deeper than this denote no value. -/
def depthLimit : Nat := 127

/-- An array or object whose end is not read yet; a name that spells no text is `none`. -/
inductive Frame where
  | items (seen : List Json)
  | fields (seen : List (Option String × Json)) (name : Option String)

/-- Drop blanks. -/
def skipBlank : List UInt8 → List UInt8
  | b :: bs => if b == 0x20 || b == 0x0A || b == 0x0D || b == 0x09 then skipBlank bs else b :: bs
  | [] => []

/-- The value of a hexadecimal digit. -/
def hexValue? (b : UInt8) : Option Nat :=
  if 0x30 ≤ b && b ≤ 0x39 then some (b.toNat - 0x30)
  else if 0x41 ≤ b && b ≤ 0x46 then some (b.toNat - 0x37)
  else if 0x61 ≤ b && b ≤ 0x66 then some (b.toNat - 0x57)
  else none

/-- Four hexadecimal digits. -/
def hex4? : List UInt8 → Option (Nat × List UInt8)
  | a :: b :: c :: d :: rest => do
    let a ← hexValue? a
    let b ← hexValue? b
    let c ← hexValue? c
    let d ← hexValue? d
    return (((a * 16 + b) * 16 + c) * 16 + d, rest)
  | _ => none

/-- The character a short escape stands for. -/
def escape? (b : UInt8) : Option UInt8 :=
  if b == 0x22 || b == 0x5C || b == 0x2F then some b
  else if b == 0x62 then some 8
  else if b == 0x66 then some 12
  else if b == 0x6E then some 10
  else if b == 0x72 then some 13
  else if b == 0x74 then some 9
  else none

/-- Put bytes in front of bytes kept in reverse. -/
def pushAll (bs seen : List UInt8) : List UInt8 := bs.foldl (fun s b => b :: s) seen

/-- The UTF-8 bytes of a code point. -/
def pointBytes (n : Nat) : List UInt8 := Utf8.encode (String.singleton (Char.ofNat n))

/-- A string behind its opening quote: its bytes (`none` once an escape spells half a surrogate
pair) and what follows the closing quote. -/
def stringBytes? :
    Nat → List UInt8 → Option (List UInt8) → Option (Option (List UInt8) × List UInt8)
  | 0, _, _ => none
  | _ + 1, [], _ => none
  | fuel + 1, b :: bs, seen =>
    if b == 0x22 then some (seen.map List.reverse, bs)
    else if b < 0x20 then none
    else if b == 0x5C then
      match bs with
      | [] => none
      | e :: rest =>
        if e == 0x75 then
          (hex4? rest).bind fun (u, rest) =>
            if 0xD800 ≤ u && u ≤ 0xDBFF then
              match rest with
              | 0x5C :: 0x75 :: low =>
                (hex4? low).bind fun (v, after) =>
                  if 0xDC00 ≤ v && v ≤ 0xDFFF then
                    let point := 0x10000 + (u - 0xD800) * 0x400 + (v - 0xDC00)
                    stringBytes? fuel after (seen.map (pushAll (pointBytes point)))
                  else stringBytes? fuel after none
              | _ => stringBytes? fuel rest none
            else if 0xDC00 ≤ u && u ≤ 0xDFFF then stringBytes? fuel rest none
            else stringBytes? fuel rest (seen.map (pushAll (pointBytes u)))
        else (escape? e).bind fun c => stringBytes? fuel rest (seen.map (c :: ·))
    else stringBytes? fuel bs (seen.map (b :: ·))

/-- A string behind its opening quote: its text, if it spells one, and what follows. Fuel that
exceeds the number of bytes is enough. -/
def string? (fuel : Nat) (bs : List UInt8) : Option (Option String × List UInt8) :=
  (stringBytes? fuel bs (some [])).map fun (text, rest) => (text.bind Utf8.decode?, rest)

/-- Whether a byte is a decimal digit. -/
def isDigit (b : UInt8) : Bool := 0x30 ≤ b && b ≤ 0x39

/-- The number digits spell. -/
def digitsValue (bs : List UInt8) : Nat := bs.foldl (fun n b => n * 10 + (b.toNat - 0x30)) 0

/-- Whether a decimal number with this whole digit string and power of ten rounds to a finite
double. -/
def isFinite (digits : List UInt8) (exponent : Int) : Bool :=
  let significant := digits.dropWhile (· == 0x30)
  let size : Int := significant.length + exponent
  if significant.isEmpty || size < 300 then true
  else if size > 310 then false
  else
    let m := digitsValue significant
    let bound := Nat.pow 2 1024 - Nat.pow 2 970
    if exponent ≥ 0 then m * Nat.pow 10 exponent.toNat < bound
    else m < bound * Nat.pow 10 (-exponent).toNat

/-- The decimals behind a point, without the point: none where there is no point, a failure where
there is nothing but one. -/
def decimals? : List UInt8 → Option (Option (List UInt8) × List UInt8)
  | 0x2E :: rest =>
    let ds := rest.takeWhile isDigit
    if ds.isEmpty then none else some (some ds, rest.dropWhile isDigit)
  | bs => some (none, bs)

/-- A sign and what follows it. -/
def sign : List UInt8 → List UInt8 × List UInt8
  | 0x2B :: rest => ([0x2B], rest)
  | 0x2D :: rest => ([0x2D], rest)
  | bs => ([], bs)

/-- A power of ten: its sign and digits, none where there is no power, a failure where there is no
digit. -/
def power? : List UInt8 → Option (Option (List UInt8 × List UInt8) × List UInt8)
  | e :: rest =>
    if e == 0x65 || e == 0x45 then
      let (s, rest) := sign rest
      let ds := rest.takeWhile isDigit
      if ds.isEmpty then none else some (some (s, ds), rest.dropWhile isDigit)
    else some (none, e :: rest)
  | [] => some (none, [])

/-- A number whose first character is at the front. -/
def number? (bs : List UInt8) : Option (Json × List UInt8) := do
  let (minus, body) : List UInt8 × List UInt8 := match bs with
    | 0x2D :: rest => ([0x2D], rest)
    | _ => ([], bs)
  let whole := body.takeWhile isDigit
  if whole.isEmpty || (whole.length > 1 && whole.head? == some 0x30) then none
  else
    let (decimals, rest) ← decimals? (body.dropWhile isDigit)
    let (power, rest) ← power? rest
    let n := digitsValue whole
    let isInteger := decimals.isNone && power.isNone
      && (if minus.isEmpty then n < UInt64.size else 0 < n && n ≤ UInt64.size / 2)
    if isInteger then return (.int (if minus.isEmpty then Int.ofNat n else -(Int.ofNat n)), rest)
    else
      let behindPoint := decimals.getD []
      let exponent : Int := match power with
        | none => 0
        | some (s, ds) => if s == [0x2D] then -(digitsValue ds : Nat) else (digitsValue ds : Nat)
      let tail := match decimals, power with
        | none, none => [0x2E, 0x30]
        | _, none => 0x2E :: behindPoint
        | none, some (s, ds) => 0x65 :: (s ++ ds)
        | some _, some (s, ds) => 0x2E :: (behindPoint ++ 0x65 :: (s ++ ds))
      let literal := minus ++ whole ++ tail
      if isFinite (whole ++ behindPoint) (exponent - behindPoint.length) then
        return (.fraction (String.ofList (literal.map fun b => Char.ofNat b.toNat)), rest)
      else return (.malformed, rest)

/-- A fixed word. -/
def word? (w : List UInt8) (j : Json) (bs : List UInt8) : Option (Json × List UInt8) :=
  if bs.take w.length == w then some (j, bs.drop w.length) else none

/-- A number, a word or a string. -/
def scalar? (fuel : Nat) (bs : List UInt8) : Option (Json × List UInt8) :=
  match bs with
  | [] => none
  | b :: rest =>
    if b == 0x22 then
      (string? fuel rest).map fun (text, rest) =>
        (match text with
          | some s => .str s
          | none => .malformed, rest)
    else if b == 0x6E then word? [0x6E, 0x75, 0x6C, 0x6C] .null bs
    else if b == 0x74 then word? [0x74, 0x72, 0x75, 0x65] (.bool true) bs
    else if b == 0x66 then word? [0x66, 0x61, 0x6C, 0x73, 0x65] (.bool false) bs
    else number? bs

/-- A field's name and colon, behind blanks. -/
def name? (fuel : Nat) (bs : List UInt8) : Option (Option String × List UInt8) :=
  match skipBlank bs with
  | 0x22 :: rest =>
    (string? fuel rest).bind fun (name, rest) =>
      match skipBlank rest with
      | 0x3A :: rest => some (name, rest)
      | _ => none
  | _ => none

/-- The object of the fields read, if all their names spell texts. -/
def closeFields (seen : List (Option String × Json)) : Json :=
  match seen.reverse.mapM fun p => p.1.map fun name => (name, p.2) with
  | some fields => .obj fields
  | none => .malformed

/-- The value a closed frame is, given how deep it stands. -/
def limited (depth : Nat) (j : Json) : Json := if depth > depthLimit then .malformed else j

/-- Read on: `done` is the value just read, or `none` where a value has to start. Each step takes at
least one byte, so fuel that exceeds the bytes at the start does so at every step, and is enough for
the string a step may read. -/
def read : Nat → Nat → List Frame → Option Json → List UInt8 → Option (Json × List UInt8)
  | 0, _, _, _, _ => none
  | fuel + 1, depth, frames, none, bs =>
    match skipBlank bs with
    | [] => none
    | b :: rest =>
      if b == 0x5B then
        match skipBlank rest with
        | 0x5D :: rest => read fuel depth frames (some (limited (depth + 1) (.arr []))) rest
        | _ => read fuel (depth + 1) (.items [] :: frames) none rest
      else if b == 0x7B then
        match skipBlank rest with
        | 0x7D :: rest => read fuel depth frames (some (limited (depth + 1) (.obj []))) rest
        | _ =>
          match name? fuel rest with
          | none => none
          | some (name, rest) => read fuel (depth + 1) (.fields [] name :: frames) none rest
      else
        match scalar? fuel (b :: rest) with
        | none => none
        | some (j, rest) => read fuel depth frames (some j) rest
  | _ + 1, _, [], some j, bs => some (j, bs)
  | fuel + 1, depth, .items seen :: frames, some j, bs =>
    match skipBlank bs with
    | 0x2C :: rest => read fuel depth (.items (j :: seen) :: frames) none rest
    | 0x5D :: rest =>
      read fuel (depth - 1) frames (some (limited depth (.arr (j :: seen).reverse))) rest
    | _ => none
  | fuel + 1, depth, .fields seen name :: frames, some j, bs =>
    match skipBlank bs with
    | 0x2C :: rest =>
      match name? fuel rest with
      | none => none
      | some (next, rest) => read fuel depth (.fields ((name, j) :: seen) next :: frames) none rest
    | 0x7D :: rest =>
      read fuel (depth - 1) frames (some (limited depth (closeFields ((name, j) :: seen)))) rest
    | _ => none

/-- The value some bytes spell, blanks around it allowed. -/
def parse? (bs : List UInt8) : Option Json :=
  (read (2 * bs.length + 2) 0 [] none bs).bind fun (j, rest) =>
    if (skipBlank rest).isEmpty then some j else none

/-- The value a text spells. -/
def parseText? (s : String) : Option Json := parse? (Utf8.encode s)

end RackOperator.Json
