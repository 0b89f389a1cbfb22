import GateOperator.Data.Word
import GateOperator.Yaml.Cursor
import GateOperator.Yaml.Token
import GateOperator.Yaml.Token.Quoted

/-!
Reading tags, anchors and directives.
-/

namespace GateOperator.Yaml

/-- Reads a tag handle. In a directive it must end with a mark, unless it is the mark alone. -/
def readHandle (inDirective : Bool) (c : Cursor) : Option (List Char × Cursor) :=
  if !c.sees '!' then none
  else
    let (word, c) := (c.skip 1).span isWordChar
    if c.sees '!' then some ('!' :: word ++ ['!'], c.skip 1)
    else if inDirective && !word.isEmpty then none
    else some ('!' :: word, c)

/-- Characters of a tag; flow indicators count inside angle brackets and in directives only. -/
def isTagChar (verbatim : Bool) (c : Char) : Bool :=
  isWordChar c || ";/?:@&=+$.!~*'()%".contains c || (verbatim && (c = ',' || c = '[' || c = ']'))

/-- The number of octets of a character that begins with this octet. -/
def octetCount (octet : Nat) : Option Nat :=
  if octet < 0x80 then some 1
  else if octet / 0x20 = 6 then some 2
  else if octet / 0x10 = 14 then some 3
  else if octet / 8 = 30 then some 4
  else none

/-- The octet that a percent sign and two digits stand for. -/
def readOctet (c : Cursor) : Option Nat :=
  if c.sees '%' ∧ ((c.rest.drop 1).take 2).length = 2 then hexValue? ((c.rest.drop 1).take 2) else none

/-- Reads the further octets of a character. -/
def readOctets : Nat → Nat → Cursor → Option (Nat × Cursor)
  | 0, n, c => some (n, c)
  | left + 1, n, c => do
    let octet ← readOctet c
    if octet / 0x40 = 2 then readOctets left (n * 0x40 + octet % 0x40) (c.skip 3) else none

/-- Reads a character written as escaped octets. -/
def readEscapedChar (c : Cursor) : Option (Char × Cursor) := do
  let octet ← readOctet c
  let count ← octetCount octet
  let lead := if count = 1 then octet else octet % Word.size (7 - count)
  let (n, c) ← readOctets (count - 1) lead (c.skip 3)
  return (Char.ofNat n, c)

/-- Reads the characters of a tag; they are collected last first. -/
def readTagChars (verbatim : Bool) : Nat → List Char → Cursor → Option (List Char × Cursor)
  | 0, text, c => some (text.reverse, c)
  | fuel + 1, text, c =>
    match c.next? with
    | none => some (text.reverse, c)
    | some x =>
      if !isTagChar verbatim x then some (text.reverse, c)
      else if x = '%' then
        match readEscapedChar c with
        | none => none
        | some (y, c) => readTagChars verbatim fuel (y :: text) c
      else readTagChars verbatim fuel (x :: text) (c.skip 1)

/-- Reads a tag in a text; inside a flow collection a comma may follow it. -/
def readTag (inFlow : Bool) (c : Cursor) : Option (Token × Cursor) := do
  let (token, c) ←
    if c.at? 1 = some '<' then do
      let (uri, c) ← readTagChars true c.size [] (c.skip 2)
      if uri.isEmpty || !c.sees '>' then none
      pure (Token.tag "" (String.ofList uri), c.skip 1)
    else do
      let (handle, c) ← readHandle false c
      let (suffix, c) ← readTagChars false c.size [] c
      if 1 < handle.length ∧ handle.getLast? = some '!' then
        if suffix.isEmpty then none
        pure (Token.tag (String.ofList handle) (String.ofList suffix), c)
      else
        let suffix := handle.drop 1 ++ suffix
        if suffix.isEmpty then pure (Token.tag "" "!", c)
        else pure (Token.tag "!" (String.ofList suffix), c)
  if isGap c.next? || (inFlow && c.sees ',') then return (token, c)
  none

/-- Reads the name of an anchor or alias. -/
def readName (c : Cursor) : Option (String × Cursor) :=
  let (word, c) := (c.skip 1).span isWordChar
  let ends := isGap c.next? || c.next?.any fun x => "?:,]\x7d%@`".contains x
  if word.isEmpty || !ends then none else some (String.ofList word, c)

/-- Reads the number of a version; it has at most nine digits. -/
def readVersionNumber (c : Cursor) : Option (Nat × Cursor) :=
  let (digits, c) := c.span Char.isDigit
  if digits.isEmpty || 9 < digits.length then none
  else some (digits.foldl (fun n x => n * 10 + (x.toNat - 0x30)) 0, c)

/-- Reads a directive, from its percent sign to the end of its line. -/
def readDirective (c : Cursor) : Option (Token × Cursor) := do
  let (name, c) := (c.skip 1).span isWordChar
  if name.isEmpty || !isGap c.next? then none
  let c := c.skipWhile isBlank
  let (token, c) ←
    if name = ['Y', 'A', 'M', 'L'] then do
      let (major, c) ← readVersionNumber c
      if !c.sees '.' then none
      let (minor, c) ← readVersionNumber (c.skip 1)
      pure (Token.version major minor, c)
    else if name = ['T', 'A', 'G'] then do
      let (handle, c) ← readHandle true c
      if !c.next?.any isBlank then none
      let (tagStart, c) ← readTagChars true c.size [] (c.skipWhile isBlank)
      if tagStart.isEmpty || !isGap c.next? then none
      pure (Token.tagHandle (String.ofList handle) (String.ofList tagStart), c)
    else none
  let c := c.skipWhile isBlank
  let c := if c.sees '#' then c.skipLine else c
  if !isLineEnd c.next? then none
  return (token, if c.next?.any isBreak then c.newLine else c)

end GateOperator.Yaml
