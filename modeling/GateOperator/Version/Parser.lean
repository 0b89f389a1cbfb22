import GateOperator.Data.Word
import GateOperator.Text.Quoted
import GateOperator.Version.Basic

/-!
Reading semantic versions. The numbers have no leading zeros and fit 64 bits; the numeric identifiers of
a pre-release have no leading zeros either, but may be of any size. An error names the part that was
being read.
-/

namespace GateOperator.Version

/-- The parts of a version, in the order in which they are read. -/
inductive Part where
  | major
  | minor
  | patch
  | preRelease
  | build
deriving DecidableEq

/-- The words for a part. -/
def Part.text : Part → String
  | major => "major version number"
  | minor => "minor version number"
  | patch => "patch version number"
  | preRelease => "pre-release identifier"
  | build => "build metadata"

/-- Why a text is not a semantic version. -/
inductive ParseError where
  | empty
  | unexpectedEnd (part : Part)
  | unexpected (c : Char) (part : Part)
  | unexpectedAfter (c : Char) (part : Part)
  | leadingZero (part : Part)
  | tooLarge (part : Part)
  | emptySegment (part : Part)
deriving DecidableEq

/-- The words for an error. -/
def ParseError.message : ParseError → String
  | empty => "empty string, expected a semver version"
  | unexpectedEnd part => "unexpected end of input while parsing " ++ part.text
  | unexpected c part => "unexpected character " ++ Text.Quoted.ofChar c ++ " while parsing " ++ part.text
  | unexpectedAfter c part => "unexpected character " ++ Text.Quoted.ofChar c ++ " after " ++ part.text
  | leadingZero part => "invalid leading zero in " ++ part.text
  | tooLarge part => "value of " ++ part.text ++ " exceeds u64::MAX"
  | emptySegment part => "empty identifier segment in " ++ part.text

/-- The value of decimal digits. -/
def value (digits : List Char) : Nat := digits.foldl (fun n c => n * 10 + (c.toNat - '0'.toNat)) 0

/-- More than one digit, the first of them zero. -/
def hasLeadingZero : List Char → Bool
  | '0' :: _ :: _ => true
  | _ => false

/-- The number at the front of a text, and what follows it. -/
def readNumber (part : Part) (text : List Char) : Except ParseError (Nat × List Char) :=
  match text.span Char.isDigit with
  | ([], []) => .error (.unexpectedEnd part)
  | ([], c :: _) => .error (.unexpected c part)
  | (digits, rest) =>
    if hasLeadingZero digits then .error (.leadingZero part)
    else if Word.size 64 ≤ value digits then .error (.tooLarge part)
    else .ok (value digits, rest)

/-- What follows the point that ends a part. -/
def afterPoint (part : Part) : List Char → Except ParseError (List Char)
  | [] => .error (.unexpectedEnd part)
  | c :: rest => if c = '.' then .ok rest else .error (.unexpectedAfter c part)

/-- A character that an identifier may hold. -/
def isIdentifierChar (c : Char) : Bool := c.isAlphanum || c = '-'

/-- A text cut at its points. -/
def segments : List Char → List (List Char)
  | [] => [[]]
  | c :: text =>
    if c = '.' then [] :: segments text
    else
      match segments text with
      | [] => [[c]]
      | segment :: more => (c :: segment) :: more

/-- An identifier of a pre-release; one of digits only is a number. -/
def readIdentifier (segment : List Char) : Except ParseError Identifier :=
  if segment = [] then .error (.emptySegment .preRelease)
  else if segment.all Char.isDigit then
    if hasLeadingZero segment then .error (.leadingZero .preRelease) else .ok (.numeric (value segment))
  else .ok (.alphanumeric (String.ofList segment))

/-- An identifier of build metadata. -/
def readBuildIdentifier (segment : List Char) : Except ParseError String :=
  if segment = [] then .error (.emptySegment .build) else .ok (String.ofList segment)

/-- The identifiers at the front of a text, and what follows them. -/
def readSegments {α : Type} (read : List Char → Except ParseError α) (text : List Char) :
    Except ParseError (List α × List Char) := do
  let (run, rest) := text.span fun c => isIdentifierChar c || c = '.'
  return (← (segments run).mapM read, rest)

/-- The pre-release, if there is one. -/
def readPreRelease : List Char → Except ParseError (Option (List Identifier) × List Char)
  | '-' :: text => do
    let (identifiers, rest) ← readSegments readIdentifier text
    return (some identifiers, rest)
  | text => .ok (none, text)

/-- The build metadata, if there are any. -/
def readBuild : List Char → Except ParseError (Option (List String) × List Char)
  | '+' :: text => do
    let (identifiers, rest) ← readSegments readBuildIdentifier text
    return (some identifiers, rest)
  | text => .ok (none, text)

/-- The last part that was read. -/
def lastPart (hasPreRelease hasBuild : Bool) : Part :=
  if hasBuild then .build else if hasPreRelease then .preRelease else .patch

/-- Reads a whole text as a version. -/
def readAll (text : List Char) : Except ParseError Version := do
  if text = [] then throw .empty
  let (major, text) ← readNumber .major text
  let text ← afterPoint .major text
  let (minor, text) ← readNumber .minor text
  let text ← afterPoint .minor text
  let (patch, text) ← readNumber .patch text
  let (preRelease, text) ← readPreRelease text
  let (build, text) ← readBuild text
  match text with
  | c :: _ => throw (.unexpectedAfter c (lastPart preRelease.isSome build.isSome))
  | [] => return ⟨major, minor, patch, preRelease.getD [], build.getD []⟩

/-- The version that a text writes. -/
def parse (text : String) : Except ParseError Version := readAll text.toList

end GateOperator.Version
