import GateOperator.Text.Extending
import GateOperator.Text.Unprintable

/-!
Quoted text, as it appears in messages and event notes. A quote and a backslash are escaped by a
backslash, the usual controls have a letter, and other characters without a visible form of their own
are written by their code point in braces. Everything else stands as it is.
-/

namespace GateOperator.Text.Quoted

/-- Lower-case hexadecimal digits, without leading zeros. -/
def hex (n : Nat) : List Char := Nat.toDigits 16 n

/-- A character by its code point, in braces. -/
def byCodePoint (c : Char) : List Char :=
  ['\\', 'u', '\x7b'] ++ hex c.toNat ++ ['\x7d']

/-- A character that has to be named to be seen. -/
def isHidden (c : Char) : Bool := isExtending c || !isPrintable c

/-- The written form of one character between a pair of `quote` characters. -/
def escape (quote c : Char) : List Char :=
  if c = quote ∨ c = '\\' then ['\\', c]
  else if c = '\n' then ['\\', 'n']
  else if c = '\r' then ['\\', 'r']
  else if c = '\t' then ['\\', 't']
  else if c = '\x00' then ['\\', '0']
  else if isHidden c then byCodePoint c
  else [c]

/-- The written form of a text without its quotes. -/
def body (quote : Char) (text : List Char) : List Char := text.flatMap (escape quote)

/-- A text in double quotes; single quotes inside it stand as they are. -/
def ofString (text : String) : String :=
  String.ofList ('"' :: body '"' text.toList ++ ['"'])

/-- One character in single quotes; a double quote inside it stands as it is. -/
def ofChar (c : Char) : String := String.ofList ('\'' :: escape '\'' c ++ ['\''])

theorem body_cons (quote c : Char) (text : List Char) :
    body quote (c :: text) = escape quote c ++ body quote text := rfl

end GateOperator.Text.Quoted
