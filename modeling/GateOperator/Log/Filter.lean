import GateOperator.Log.Basic

/-!
Which log entries are shown. A setting is a list of rules, with commas between them. A rule names a part of
the program, the least important level that is shown of it, or both; of the rules that apply to an entry the
one for the longest name counts, and of two for one name the later.
-/

namespace GateOperator.Log

/-- A rule: of what is shown how much. -/
structure Rule where
  /-- What the targets begin with to which the rule applies. -/
  target : String := ""
  /-- The rank of the least important level that is shown; zero shows nothing. -/
  rank : Nat
deriving DecidableEq

namespace Rule

/-- The rank that a word stands for, in any case of its letters. -/
def rank? (word : String) : Option Nat :=
  match (word.toNat?).filter (· ≤ 5) with
  | some rank => some rank
  | none => ["off", "error", "warn", "info", "debug", "trace"].idxOf? (word.map Char.toLower)

/-- The rank of everything. -/
def everything : Nat := Level.trace.rank

/-- A character with which a rule may begin. -/
def mayBegin (c : Char) : Bool := c.isAlphanum || c = '-' || c = ':' || c = '_'

/-- A text begins as a rule may. -/
def begins (text : List Char) : Bool :=
  match text with
  | [] => false
  | c :: _ => mayBegin c

/-- Reads a rule. Blanks around it belong to the name of the part. -/
def read? (text : String) : Option Rule :=
  if text.contains '[' then none
  else
    match text.splitOn "=" with
    | [word] =>
      if begins (word.toList.dropWhile Char.isWhitespace) then
        match rank? word with
        | some rank => some { rank }
        | none => some { target := word, rank := everything }
      else none
    | [target, word] =>
      if !begins target.toList then none
      else if word = "" then some { target, rank := everything }
      else (rank? word).map fun rank => { target, rank }
    | _ => none

end Rule

/-- The rules that say what is shown. -/
abbrev Filter := List Rule

namespace Filter

/-- Of two rules the one that counts. -/
def decisive (a : Option Rule) (b : Rule) : Option Rule :=
  match a with
  | some a => if a.target.utf8ByteSize ≤ b.target.utf8ByteSize then some b else some a
  | none => some b

/-- The rule that counts for a target. -/
def rule? (f : Filter) (target : String) : Option Rule :=
  (f.filter fun r => target.startsWith r.target).foldl decisive none

def shows (f : Filter) (e : Entry) : Bool :=
  match f.rule? e.target with
  | some r => decide (e.level.rank ≤ r.rank)
  | none => false

/-- Reads rules; without any only errors are shown. -/
def read? (text : String) : Option Filter :=
  if text = "" then some [{ rank := Level.error.rank }] else (text.splitOn ",").mapM Rule.read?

/-- The filter that is used when none is set, or one that cannot be read. -/
def standard : Filter := [{ rank := Level.info.rank }]

def ofSetting (setting : Option String) : Filter := (setting.bind read?).getD standard

end Filter

end GateOperator.Log
