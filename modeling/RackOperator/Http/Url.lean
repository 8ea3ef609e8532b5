import RackOperator.Http.Message
import RackOperator.Text.Decimal

/-!
# Request targets and URLs

A client either sends a target as it was put together, and then every character
has to be one that may stand there (`Target.ofText?`), or it reads a whole URL and
writes it anew (`Url.ofText?`): the host in lower case, the usual port left out,
dot segments resolved, and what may not stand in a path or query by its bytes.
-/

namespace RackOperator.Http

open Text

/-- Whether a character may stand in a path as it is. -/
def staysInPath (c : Char) : Bool :=
  let n := c.toNat
  n = 0x21 || n = 0x22 || (0x24 ≤ n && n ≤ 0x3B) || n = 0x3D || (0x40 ≤ n && n ≤ 0x5F)
    || 0x61 ≤ n

/-- Whether a character may stand in a query as it is. -/
def staysInQuery (c : Char) : Bool :=
  let n := c.toNat
  n = 0x21 || (0x24 ≤ n && n ≤ 0x3B) || n = 0x3D || 0x3F ≤ n

/-- The longest target, in bytes. -/
def longestTarget : Nat := 65534

/-- The target a text spells as it stands; what follows a `#` is no part of it. -/
def Target.ofText? (s : String) : Option Target :=
  let cs := s.toList.takeWhile (· ≠ '#')
  let path := cs.takeWhile (· ≠ '?')
  let query := (cs.dropWhile (· ≠ '?')).drop 1
  if path.all staysInPath && query.all staysInQuery && s.utf8ByteSize ≤ longestTarget then
    some ⟨String.ofList path, String.ofList query⟩
  else none

/-- A byte by its number. -/
def percentEncoded (b : UInt8) : List Char :=
  ['%', Nat.digitChar (b.toNat / 16), Nat.digitChar (b.toNat % 16)].map Char.toUpper

/-- A character of a URL; one that does not stay is written by its bytes. -/
def urlChar (stays : Char → Bool) (c : Char) : List Char :=
  if stays c then [c] else (Utf8.encode (String.singleton c)).flatMap percentEncoded

/-- Whether a visible ASCII character that is none of some others. -/
def visibleBut (others : List Char) (c : Char) : Bool :=
  0x20 < c.toNat && c.toNat < 0x7F && !others.contains c

/-- A path segment that stands for the one above: two dots, each maybe by its number. -/
def isDoubleDot (segment : List Char) : Bool :=
  ["..", "%2e.", ".%2e", "%2e%2e"].contains (String.ofList (segment.map Char.toLower))

/-- A path segment that stands for nothing. -/
def isSingleDot (segment : List Char) : Bool :=
  [".", "%2e"].contains (String.ofList (segment.map Char.toLower))

/-- A path segment written anew. -/
def segmentText (segment : List Char) : List Char :=
  segment.flatMap (urlChar (visibleBut ['"', '#', '<', '>', '?', '\x60', '\x7b', '\x7d']))

/-- Add a segment to the segments above it, innermost first. -/
def addSegment (above : List (List Char)) (segment : List Char) : List (List Char) :=
  if isDoubleDot segment then above.drop 1
  else if isSingleDot segment then above
  else segmentText segment :: above

/-- Split at each of some characters. -/
def splitAt (isCut : Char → Bool) : List Char → List (List Char)
  | [] => [[]]
  | c :: cs =>
    if isCut c then [] :: splitAt isCut cs
    else match splitAt isCut cs with
      | piece :: others => (c :: piece) :: others
      | [] => [[c]]

/-- Whether a character ends a path segment. -/
def isSlash (c : Char) : Bool := c = '/' || c = '\\'

/-- A path written anew; a last segment of dots leaves a slash at the end. -/
def urlPath (cs : List Char) : String :=
  let segments := splitAt isSlash (if cs.head?.any isSlash then cs.drop 1 else cs)
  let kept := segments.foldl addSegment []
  let last := segments.getLast?.getD []
  let kept := if isDoubleDot last || isSingleDot last then [] :: kept else kept
  String.ofList (kept.reverse.flatMap fun segment => '/' :: segment)

/-- A query written anew. -/
def urlQuery (cs : List Char) : String :=
  String.ofList (cs.flatMap (urlChar (visibleBut ['"', '#', '<', '>', '\''])))

/-- Whether a character may stand in a host's name. -/
def staysInHost (c : Char) : Bool :=
  visibleBut ['#', '%', '/', ':', '<', '>', '?', '@', '[', '\\', ']', '^', '|'] c

/-- A host's name in lower case, if it is one. -/
def host? (cs : List Char) : Option (List Char) :=
  if !cs.isEmpty && cs.all staysInHost then some (cs.map Char.toLower) else none

/-- What stands behind a host's name: nothing, or a colon and a port that is not the usual one. -/
def port? (usual : Nat) : List Char → Option (List Char)
  | [] => some []
  | ':' :: [] => some []
  | ':' :: digits =>
    ((Decimal.natural? digits).filter fun n => decide (n ≤ 65535)).map fun n =>
      if n = usual then [] else ':' :: Decimal.digits n
  | _ => none

/-- A URL, without its scheme. -/
structure Url where
  /-- The host's name, with the port if it is not the usual one. -/
  host : String
  target : Target
deriving DecidableEq, Repr

namespace Url

/-- Read what follows the scheme. -/
def ofRest? (usual : Nat) (rest : List Char) : Option Url := do
  let rest := rest.dropWhile isSlash
  let isEnd (c : Char) : Bool := isSlash c || c = '?' || c = '#'
  let authority := rest.takeWhile fun c => !isEnd c
  let behind := rest.dropWhile fun c => !isEnd c
  let authority := (splitAt (· = '@') authority).getLast?.getD []
  let name ← host? (authority.takeWhile (· ≠ ':'))
  let port ← port? usual (authority.dropWhile (· ≠ ':'))
  let shown := behind.takeWhile (· ≠ '#')
  let query := (shown.dropWhile (· ≠ '?')).drop 1
  return { host := String.ofList (name ++ port)
           target := ⟨urlPath (shown.takeWhile (· ≠ '?')), urlQuery query⟩ }

/-- Read a URL; line breaks and tabs in it do not count. -/
def ofText? (s : String) : Option Url :=
  let cs := s.toList.filter fun c => c ≠ '\t' && c ≠ '\n' && c ≠ '\r'
  let scheme := String.ofList (cs.takeWhile (· ≠ ':'))
  let rest := (cs.dropWhile (· ≠ ':')).drop 1
  if scheme = "http" then ofRest? 80 rest
  else if scheme = "https" then ofRest? 443 rest
  else none

end Url

end RackOperator.Http
