import RackOperator.Text.Quoted
import RackOperator.Text.Decimal
import RackOperator.Text.Utf8

/-!
# PEM files

A PEM file holds sections between a line that begins one and a line that ends it;
what stands outside of sections does not count. A section is labelled with what it
holds, and its contents are spelled in base64. `Pem.firstKey` finds the first
private key of a file, `Pem.fault?` what is malformed in it.
-/

namespace RackOperator.Pem

open Text

/-- What a file comes to as it is read. -/
inductive Fault where
  /-- A section that is not ended. -/
  | unended (marker : List UInt8)
  /-- A line that begins a section and does not close with five dashes. -/
  | illStarted (line : List UInt8)
  /-- A byte that base64 does not know. -/
  | invalidByte (b : UInt8)
  /-- Padding in front of the end of the contents. -/
  | earlyPadding
  /-- Contents cut off or padded to a wrong length. -/
  | wrongPadding
deriving DecidableEq, Repr

/-- The bytes in words. -/
def inWords (bs : List UInt8) : String := quoted (Utf8.decodeLossy bs)

/-- A fault in words. -/
def Fault.message : Fault → String
  | unended marker => "section end " ++ inWords marker ++ " missing"
  | illStarted line => "illegal section start: " ++ inWords line
  | invalidByte b => "InvalidCharacter(" ++ Decimal.natText b.toNat ++ ")"
  | earlyPadding => "PrematurePadding"
  | wrongPadding => "InvalidTrailingPadding"

/-- The lines of a file, each with its line break. -/
def lines (bs : List UInt8) : List (List UInt8) :=
  bs.foldr (fun b ls =>
    match b == 0x0A, ls with
    | true, _ => [b] :: ls
    | false, [] => [[b]]
    | false, line :: others => (b :: line) :: others) []

/-- Begins a section. -/
def beginning : List UInt8 := Utf8.encode "-----BEGIN "

/-- Ends a section, in front of its label. -/
def ending : List UInt8 := Utf8.encode "-----END "

/-- Closes the line that begins or ends a section. -/
def dashes : List UInt8 := Utf8.encode "-----"

/-- Whether a byte is a blank at the end of a line. -/
def isLineBlank (b : UInt8) : Bool := b == 0x0A || b == 0x0D || b == 0x20

/-- The label in a line that begins a section, if five dashes close the line, blanks among them and
behind them aside. -/
def label? (line : List UInt8) : Option (List UInt8) :=
  let reversed := (line.drop beginning.length).reverse
  let isClosing (b : UInt8) : Bool := b == 0x2D || isLineBlank b
  let closing := (reversed.takeWhile isClosing).reverse
  if closing.count 0x2D = 5 then
    some ((reversed.dropWhile isClosing).reverse ++ closing.takeWhile isLineBlank)
  else none

/-- The value of a base64 digit. -/
def digit? (b : UInt8) : Option Nat :=
  if 0x41 ≤ b && b ≤ 0x5A then some (b.toNat - 0x41)
  else if 0x61 ≤ b && b ≤ 0x7A then some (b.toNat - 0x61 + 26)
  else if 0x30 ≤ b && b ≤ 0x39 then some (b.toNat - 0x30 + 52)
  else if b == 0x2B then some 62
  else if b == 0x2F then some 63
  else none

/-- What is malformed in base64, blanks left out. -/
def base64Fault? (contents : List UInt8) : Option Fault :=
  let digits := contents.takeWhile fun b => (digit? b).isSome
  let behind := contents.dropWhile fun b => (digit? b).isSome
  match behind.find? fun b => b ≠ 0x3D with
  | some b => if (digit? b).isSome then some .earlyPadding else some (.invalidByte b)
  | none =>
    if (digits.length + behind.length) % 4 = 0 ∧ behind.length ≤ 2 then none
    else some .wrongPadding

/-- A section: its label and its contents. -/
structure Section where
  label : List UInt8
  contents : List UInt8

/-- Labels of what is known; the contents of other sections do not count. -/
def knownLabels : List (List UInt8) :=
  ["CERTIFICATE", "PUBLIC KEY", "RSA PRIVATE KEY", "PRIVATE KEY", "EC PRIVATE KEY", "X509 CRL",
    "CERTIFICATE REQUEST", "ECHCONFIG"].map Utf8.encode

/-- Labels of private keys. -/
def keyLabels : List (List UInt8) :=
  ["RSA PRIVATE KEY", "PRIVATE KEY", "EC PRIVATE KEY"].map Utf8.encode

/-- What is malformed in a section, if anything. -/
def Section.fault? (s : Section) : Option Fault :=
  if knownLabels.contains s.label then base64Fault? s.contents else none

/-- Read lines on, inside a section or outside of one, up to the first fault. -/
def readOn : Option Section → List (List UInt8) → List Section × Option Fault
  | none, [] => ([], none)
  | some s, [] => ([], some (.unended (ending ++ s.label ++ dashes)))
  | inside, line :: rest =>
    if beginning.isPrefixOf line then
      match label? line with
      | some label => readOn (some ⟨label, []⟩) rest
      | none => ([], some (.illStarted line))
    else match inside with
      | none => readOn none rest
      | some s =>
        if (ending ++ s.label ++ dashes).isPrefixOf line then
          match s.fault? with
          | some fault => ([], some fault)
          | none =>
            let (others, fault) := readOn none rest
            (s :: others, fault)
        else
          readOn (some { s with
            contents := s.contents ++ line.filter fun b => !(isLineBlank b || b == 0x09) }) rest

/-- The sections of a file up to the first fault, and that fault. -/
def sections (file : List UInt8) : List Section × Option Fault := readOn none (lines file)

/-- What is malformed in a file, if anything. -/
def fault? (file : List UInt8) : Option Fault := (sections file).2

/-- The first private key of a file; what is malformed behind it does not count. -/
def firstKey (file : List UInt8) : Except Fault (Option Section) :=
  let (known, fault) := sections file
  match known.find? fun s => keyLabels.contains s.label with
  | some key => .ok (some key)
  | none =>
    match fault with
    | some f => .error f
    | none => .ok none

end RackOperator.Pem
