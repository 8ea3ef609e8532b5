/-!
# Log filters

A log filter is a list of directives, each a level for the targets that begin with
a name: `info`, `operator=debug,kube=off`. Of the directives that concern an event
the most specific one decides, and of equally specific ones the one added last.
A directive may also name, in brackets, a span (which concerns no event here) or a
field that an event has to carry.
-/

namespace RackOperator

/-- How much is logged: an event passes when its level is at most this. -/
inductive LogLevel where
  | off
  | error
  | warn
  | info
  | debug
  | trace
deriving DecidableEq, Repr

namespace LogLevel

/-- The levels in order, each with its name. -/
def names : List (String × LogLevel) :=
  [("off", off), ("error", error), ("warn", warn), ("info", info), ("debug", debug),
    ("trace", trace)]

/-- A level's place in the order. -/
def rank (l : LogLevel) : Nat := (names.map (·.2)).idxOf l

/-- A level by its name, case aside, or by its place. -/
def ofText? (s : String) : Option LogLevel :=
  match s.toList with
  | [c] => if '0' ≤ c ∧ c ≤ '5' then (names.map (·.2))[c.toNat - 48]? else none
  | cs => names.lookup (String.ofList (cs.map Char.toLower))

end LogLevel

/-- A level for some events. -/
structure LogDirective where
  /-- What an event's target has to begin with. -/
  target : Option String := none
  /-- A field that an event has to carry. -/
  field : Option String := none
  /-- Whether the directive is about spans and so concerns no event. -/
  ofSpan : Bool := false
  level : LogLevel
deriving DecidableEq, Repr

namespace LogDirective

/-- Whether a character may stand in a target. -/
def isTargetChar (c : Char) : Bool :=
  c.isAlphanum || c = '_' || c = ':' || c = '-' || 0x7F < c.toNat

/-- What stands in brackets: a span's name, and behind it a field in braces. -/
structure Bracket where
  span : List Char := []
  field : List Char := []

/-- A part of a directive in front of its level. -/
inductive Part where
  | target (name : List Char)
  | bracket (b : Bracket)

/-- What stands in brackets. -/
def Bracket.ofText (cs : List Char) : Bracket :=
  let behind := (cs.dropWhile (· ≠ '\x7b')).drop 1
  { span := cs.takeWhile (· ≠ '\x7b'), field := behind.takeWhile (· ≠ '\x7d') }

/-- The first part of a directive and what follows it. -/
def part? : List Char → Option (Part × List Char)
  | '[' :: rest =>
    match rest.dropWhile (· ≠ ']') with
    | ']' :: behind => some (.bracket (.ofText (rest.takeWhile (· ≠ ']'))), behind)
    | _ => none
  | cs =>
    let name := cs.takeWhile isTargetChar
    if name.isEmpty then none else some (.target name, cs.dropWhile isTargetChar)

/-- Up to two parts and what follows them. -/
def parts? (cs : List Char) : Option (List Part × List Char) :=
  (part? cs).map fun (first, rest) =>
    match part? rest with
    | some (second, rest) => ([first, second], rest)
    | none => ([first], rest)

/-- The level behind the parts; all levels when there is none. -/
def levelBehind? : List Char → Option LogLevel
  | [] => some .trace
  | ['='] => some .trace
  | '=' :: level => LogLevel.ofText? (String.ofList level)
  | _ => none

/-- The directive that parts and a level make. A name of a level is no target. -/
def ofParts (level : LogLevel) : List Part → LogDirective
  | [] => { level }
  | .target name :: rest =>
    let name := String.ofList name
    let d := ofParts level rest
    if (LogLevel.ofText? name).isSome || d.target.isSome then d else { d with target := some name }
  | .bracket b :: rest =>
    let d := ofParts level rest
    { d with
      field := if b.field.isEmpty then d.field else some (String.ofList b.field)
      ofSpan := d.ofSpan || !b.span.isEmpty || b.field.contains '=' }

/-- Read a directive. -/
def ofText? (s : String) : Option LogDirective :=
  match LogLevel.ofText? s with
  | some level => some { level }
  | none => do
    let (parts, rest) ← parts? s.toList
    let level ← levelBehind? rest
    return ofParts level parts

/-- Whether a directive is about an event of a target that carries some fields. -/
def concerns (d : LogDirective) (target : String) (fields : List String) : Bool :=
  !d.ofSpan && d.target.all (fun name => name.toList.isPrefixOf target.toList)
    && d.field.all fun name => fields.contains name

/-- How specific a directive is: the length of its target first, then whether it names a field. -/
def specificity (d : LogDirective) : Nat :=
  2 * (d.target.map fun name => name.length + 1).getD 0 + if d.field.isSome then 1 else 0

end LogDirective

/-- Directives in the order in which they were added. -/
abbrev LogFilter := List LogDirective

namespace LogFilter

/-- The parts between commas. -/
def pieces : List Char → List (List Char)
  | [] => [[]]
  | ',' :: cs => [] :: pieces cs
  | c :: cs =>
    match pieces cs with
    | piece :: others => (c :: piece) :: others
    | [] => [[c]]

/-- The directives of a text, and the pieces that are none. -/
def ofText (s : String) : LogFilter × List String :=
  ((pieces s.toList).filter fun piece => !piece.isEmpty).foldr
    (fun piece (known, unknown) =>
      match LogDirective.ofText? (String.ofList piece) with
      | some d => (d :: known, unknown)
      | none => (known, String.ofList piece :: unknown))
    ([], [])

/-- The directive that decides about an event. -/
def deciding? (f : LogFilter) (target : String) (fields : List String) : Option LogDirective :=
  (f.filter fun d => d.concerns target fields).foldl
    (fun best d =>
      match best with
      | none => some d
      | some b => if b.specificity ≤ d.specificity then some d else some b)
    none

/-- Whether an event of a level passes. -/
def passes (f : LogFilter) (level : LogLevel) (target : String) (fields : List String) : Bool :=
  match f.deciding? target fields with
  | none => false
  | some d => decide (level.rank ≤ d.level.rank)

end LogFilter

end RackOperator
