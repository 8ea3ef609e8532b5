import RackOperator.Text.Blank
import RackOperator.Text.Decimal

/-!
# Instants and their RFC 3339 text

An `Instant` counts nanoseconds from 1970-01-01T00:00:00Z. `Rfc3339.parse?`
accepts a date, one of `T`, `t` or a space, a time with an optional fraction
(nine digits count, further ones are skipped) and an offset, `Z` or signed hours
and minutes up to 23:59. A second of 60 is the leap second behind second 59.
`Rfc3339.lenient?` also takes short fields, years with a sign and blanks between
the parts. Years beyond four digits are written with a sign.
-/

namespace RackOperator

/-- A point in time: nanoseconds from the start of 1970, UTC. Leap seconds are not counted; a point
in one has the count of the second before it, and says so. -/
structure Instant where
  nanos : Int
  leap : Bool := false
deriving DecidableEq, Repr, Inhabited

namespace Instant

/-- The instant a number of whole seconds after 1970. -/
def ofSeconds (s : Int) : Instant := { nanos := s * 1000000000 }

/-- Whole seconds since 1970, rounded toward the past. -/
def seconds (t : Instant) : Int := t.nanos.fdiv 1000000000

/-- The second of its day, from 0 to 86399; a leap second is that of the second before it. -/
def secondOfDay (t : Instant) : Int := t.seconds % 86400

/-- The count of nanoseconds, that of the second before a leap second included. -/
def count (t : Instant) : Int := if t.leap then t.nanos + 1000000000 else t.nanos

/-- The nanoseconds from one instant to another. Days have 86400 seconds; of the leap seconds the
two are in only that of the later time of day is counted, or both where the times of day are the
same. -/
def since (t u : Instant) : Int :=
  if u.secondOfDay < t.secondOfDay then t.count - u.nanos
  else if t.secondOfDay < u.secondOfDay then t.nanos - u.count
  else t.count - u.count

end Instant

namespace Text.Rfc3339

/-- Whether the year has a 29 February. -/
def isLeap (y : Int) : Bool := y % 4 == 0 && (y % 100 != 0 || y % 400 == 0)

/-- Days in a month. -/
def daysIn (y : Int) (m : Nat) : Nat :=
  if m == 2 then (if isLeap y then 29 else 28)
  else if m == 4 || m == 6 || m == 9 || m == 11 then 30 else 31

/-- Days from 1970-01-01 to a day of the Gregorian calendar. -/
def daysFromCivil (y : Int) (m d : Nat) : Int :=
  let y' := if m ≤ 2 then y - 1 else y
  let era := y'.fdiv 400
  let yoe := y' - era * 400
  let mp : Int := ((m : Int) + 9) % 12
  let doy := (153 * mp + 2) / 5 + (d : Int) - 1
  let doe := yoe * 365 + yoe / 4 - yoe / 100 + doy
  era * 146097 + doe - 719468

/-- Year, month and day of a day number counted from 1970-01-01. -/
def civilFromDays (days : Int) : Int × Int × Int :=
  let z := days + 719468
  let era := z.fdiv 146097
  let doe := z - era * 146097
  let yoe := (doe - doe / 1460 + doe / 36524 - doe / 146096) / 365
  let doy := doe - (365 * yoe + yoe / 4 - yoe / 100)
  let mp := (5 * doy + 2) / 153
  let d := doy - (153 * mp + 2) / 5 + 1
  let m := if mp < 10 then mp + 3 else mp - 9
  (yoe + era * 400 + (if m ≤ 2 then 1 else 0), m, d)

/-- Exactly this many decimal digits, and what follows them. -/
def fixed? (width : Nat) (cs : List Char) : Option (Nat × List Char) :=
  let ds := cs.take width
  if ds.length = width then (Decimal.natural? ds).map fun n => (n, cs.drop width) else none

/-- One given character, and what follows it. -/
def expect? (c : Char) : List Char → Option (List Char)
  | x :: rest => if x = c then some rest else none
  | [] => none

/-- A fraction of a second in nanoseconds: at least one digit, the tenth and later ones skipped. -/
def fraction? : List Char → Option (Nat × List Char)
  | '.' :: rest =>
    let ds := rest.takeWhile fun c => (Decimal.value? c).isSome
    if ds.isEmpty then none
    else
      let kept := ds.take 9
      (Decimal.natural? kept).map fun n =>
        (n * Nat.pow 10 (9 - kept.length), rest.drop ds.length)
  | cs => some (0, cs)

/-- An offset from UTC in seconds, and what follows it. -/
def offset? : List Char → Option (Int × List Char)
  | 'Z' :: rest => some (0, rest)
  | 'z' :: rest => some (0, rest)
  | c :: rest =>
    let sign : Option Int :=
      if c = '+' then some 1 else if c = '-' ∨ c = '\u2212' then some (-1) else none
    sign.bind fun s =>
      (fixed? 2 rest).bind fun (h, rest) =>
      (expect? ':' rest).bind fun rest =>
      (fixed? 2 rest).bind fun (m, rest) =>
        if h ≤ 23 ∧ m ≤ 59 then some (s * ((h : Int) * 3600 + (m : Int) * 60), rest) else none
  | [] => none

/-- Whether a day number belongs to a year from -262143 to 262142, the years dates are kept in. -/
def isKept (days : Int) : Bool :=
  daysFromCivil (-262143) 1 1 ≤ days && days < daysFromCivil 262143 1 1

/-- The instant of a date, a time and an offset, if they are in range and nothing is left over. -/
def compose? (y : Int) (m d h mi s ns : Nat) (off : Int) (rest : List Char) : Option Instant :=
  let days := daysFromCivil y m d
  let secs := days * 86400 + ((h * 3600 + mi * 60 + min s 59 : Nat) : Int) - off
  if rest.isEmpty && 1 ≤ m && m ≤ 12 && 1 ≤ d && d ≤ daysIn y m && h ≤ 23 && mi ≤ 59 && s ≤ 60
      && isKept days && isKept (secs.fdiv 86400) then
    some { nanos := secs * 1000000000 + ns, leap := s == 60 }
  else none

/-- The instant a text names. -/
def parseChars? (cs : List Char) : Option Instant := do
  let (y, cs) ← fixed? 4 cs
  let cs ← expect? '-' cs
  let (m, cs) ← fixed? 2 cs
  let cs ← expect? '-' cs
  let (d, cs) ← fixed? 2 cs
  let cs ← match cs with
    | 'T' :: rest => some rest
    | 't' :: rest => some rest
    | ' ' :: rest => some rest
    | _ => none
  let (h, cs) ← fixed? 2 cs
  let cs ← expect? ':' cs
  let (mi, cs) ← fixed? 2 cs
  let cs ← expect? ':' cs
  let (s, cs) ← fixed? 2 cs
  let (ns, cs) ← fraction? cs
  let (off, cs) ← offset? cs
  compose? y m d h mi s ns off cs

/-- The instant a text names. -/
def parse? (s : String) : Option Instant := parseChars? s.toList

/-- Between one and `most` digits behind blanks, and what follows them. -/
def upTo? (most : Nat) (cs : List Char) : Option (Nat × List Char) :=
  let cs := dropBlanks cs
  let ds := (cs.take most).takeWhile fun c => (Decimal.value? c).isSome
  (Decimal.natural? ds).map fun n => (n, cs.drop ds.length)

/-- A year behind blanks: up to four digits, or a sign and any number of digits. -/
def lenientYear? (cs : List Char) : Option (Int × List Char) :=
  let signed (sign : Int) (rest : List Char) :=
    let ds := rest.takeWhile fun c => (Decimal.value? c).isSome
    (Decimal.natural? ds).map fun n => (sign * (n : Nat), rest.drop ds.length)
  match dropBlanks cs with
  | '-' :: rest => signed (-1) rest
  | '+' :: rest => signed 1 rest
  | rest => (upTo? 4 rest).map fun (n, rest) => ((n : Nat), rest)

/-- An offset from UTC behind blanks: `UTC`, or one that leaves out the colon or has blanks. -/
def lenientOffset? (cs : List Char) : Option (Int × List Char) :=
  let cs := dropBlanks cs
  if (cs.take 3).map Char.toUpper = ['U', 'T', 'C'] then some (0, cs.drop 3)
  else match cs with
    | sign :: a :: b :: rest =>
      if sign = 'Z' ∨ sign = 'z' then offset? cs
      else offset? (sign :: a :: b :: ':' :: rest.dropWhile fun c => c = ':' || isBlank c)
    | _ => offset? cs

/-- The instant a text names when fields may be short and blanks may stand between the parts, as
object metadata is read. -/
def lenient? (s : String) : Option Instant := do
  let (y, cs) ← lenientYear? s.toList
  let cs ← expect? '-' (dropBlanks cs)
  let (m, cs) ← upTo? 2 cs
  let cs ← expect? '-' (dropBlanks cs)
  let (d, cs) ← upTo? 2 cs
  let cs ← match cs with
    | 'T' :: rest => some rest
    | 't' :: rest => some rest
    | ' ' :: rest => some rest
    | _ => none
  let (h, cs) ← upTo? 2 cs
  let cs ← expect? ':' (dropBlanks cs)
  let (mi, cs) ← upTo? 2 cs
  let cs ← expect? ':' (dropBlanks cs)
  let (sec, cs) ← upTo? 2 cs
  let (ns, cs) ← fraction? cs
  let (off, cs) ← lenientOffset? cs
  compose? y m d h mi sec ns off (dropBlanks cs)

/-- Digits padded with zeros in front to a width. -/
def padded (width n : Nat) : List Char :=
  let ds := Decimal.digits n
  List.replicate (width - ds.length) '0' ++ ds

/-- A year in four digits; one that does not fit gets a sign. -/
def yearText (y : Int) : List Char :=
  let ds := padded 4 y.natAbs
  if y < 0 then '-' :: ds else if 9999 < y then '+' :: ds else ds

/-- Date and time of an instant, without fraction and offset. -/
def dateTime (t : Instant) : List Char :=
  let s := t.seconds
  let days := s.fdiv 86400
  let rest := (s - days * 86400).toNat
  let (y, m, d) := civilFromDays days
  yearText y ++ '-' :: padded 2 m.toNat ++ '-' :: padded 2 d.toNat ++ 'T' ::
    padded 2 (rest / 3600) ++ ':' :: padded 2 (rest / 60 % 60) ++ ':' ::
    padded 2 (rest % 60 + if t.leap then 1 else 0)

/-- The instant in whole seconds, marked `Z`. -/
def wholeSeconds (t : Instant) : String := String.ofList (dateTime t ++ ['Z'])

/-- The instant to the nanosecond, with a numeric offset. -/
def precise (t : Instant) : String :=
  let ns := (t.nanos - t.seconds * 1000000000).toNat
  String.ofList (dateTime t ++ '.' :: padded 9 ns ++ "+00:00".toList)

end Text.Rfc3339

end RackOperator
