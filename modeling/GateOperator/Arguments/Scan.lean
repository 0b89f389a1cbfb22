import GateOperator.Arguments.Basic

/-!
Reading a command line from the left. The values of an option count only once the option is settled, which
happens when the next option comes or the line ends; so of several faults the first one to be settled is
told. After a separator no options are read any more, and no words either, since no mode takes any.
-/

namespace GateOperator.Arguments

/-- An argument by its form. -/
inductive Token where
  | separator
  /-- An option by its name, with the value that is attached to it. -/
  | option (name : String) (value : Option String)
  /-- An option by its first letter. -/
  | letter (c : Char)
  | word
deriving DecidableEq

/-- The form of an argument. A dash alone is a word. -/
def Token.of (argument : String) : Token :=
  match argument.toList with
  | ['-', '-'] => separator
  | '-' :: '-' :: rest =>
    let name := rest.takeWhile (· ≠ '=')
    match rest.drop name.length with
    | [] => option (String.ofList name) none
    | _ :: value => option (String.ofList name) (some (String.ofList value))
  | '-' :: c :: _ => letter c
  | _ => word

/-- What can be given to the program itself, or to one of its modes. -/
structure Grammar (σ : Type) where
  /-- The mode; none for the program itself, which alone has modes to choose from. -/
  mode : Option Mode
  parameters : List (Parameter σ)

/-- What has been read of a command line. -/
structure Scan (σ : Type) where
  settings : σ
  /-- The options that count as given, in the order in which they were first given. -/
  given : List (Parameter σ) := []
  /-- An option that is not settled, with its values so far. -/
  pending : Option (Parameter σ × List String) := none
  /-- The next word is a value of the pending option. -/
  isOpen : Bool := false
  /-- A known option has been read. -/
  found : Bool := false
  /-- The separator has been read. -/
  separated : Bool := false

namespace Scan

variable {σ : Type}

/-- The option counts as given. -/
def has (s : Scan σ) (p : Parameter σ) : Bool := s.given.any (·.name = p.name)

/-- The options that count as given after one more: an option that is repeated without leave counts no
    more, and one without a value never did. -/
def givenAfter (s : Scan σ) (p : Parameter σ) (values : List String) : List (Parameter σ) :=
  match p.arity with
  | .flag | .one =>
    if values.isEmpty then s.given
    else if s.has p then s.given.filter (·.name ≠ p.name)
    else s.given ++ [p]
  | .many => if values.isEmpty || s.has p then s.given else s.given ++ [p]

/-- The settings with the values of an option. -/
def takeAll (p : Parameter σ) : List String → σ → Except ArgumentError σ
  | [], settings => .ok settings
  | value :: values, settings =>
    match p.take value settings with
    | .error fault => .error (.ofFault p.shown value fault)
    | .ok settings => takeAll p values settings

/-- Accepts an option with its values. -/
def accept (s : Scan σ) (p : Parameter σ) (values : List String) : Except ArgumentError (Scan σ) := do
  if values.isEmpty then throw (.noValue p.shown)
  if p.arity ≠ .many ∧ s.has p then throw (.repeated p.shown)
  return { s with settings := ← takeAll p values s.settings, given := s.givenAfter p values }

/-- Settles the pending option. -/
def settle (s : Scan σ) : Except ArgumentError (Scan σ) :=
  match s.pending with
  | none => .ok s
  | some (p, values) => { s with pending := none, isOpen := false }.accept p values

/-- The options that count as given when the pending one is settled, whether it has a fault or not. -/
def givenAtEnd (s : Scan σ) : List (Parameter σ) :=
  match s.pending with
  | none => s.given
  | some (p, values) => s.givenAfter p values

/-- Reads a known option. -/
def option (s : Scan σ) (p : Parameter σ) (value : Option String) : Except ArgumentError (Scan σ) := do
  let s := { s with found := true }
  match p.arity, value with
  | .flag, none => (← s.settle).accept p ["true"]
  | .flag, some value => .error (.unneededValue p.shown value)
  | _, some value => (← s.settle).accept p [value]
  | _, none => return { ← s.settle with pending := some (p, []), isOpen := true }

/-- Reads a value of the pending option. -/
def value (s : Scan σ) (value : String) : Scan σ :=
  match s.pending with
  | none => s
  | some (p, values) => { s with pending := some (p, values ++ [value]), isOpen := p.arity = .many }

end Scan

namespace Grammar

variable {σ : Type}

/-- The options that ask to be told something, by their names. -/
def notices (g : Grammar σ) : List (String × ArgumentError) :=
  ("help", .help g.mode) :: if g.mode = none then [("version", .version)] else []

/-- What an option asks to be told, by its first letter. -/
def letters (g : Grammar σ) : List (Char × ArgumentError) :=
  ('h', .help g.mode) :: if g.mode = none then [('V', .version)] else []

/-- Tells what is asked for, unless the pending option has a fault. -/
def notify (s : Scan σ) (notice : ArgumentError) : Except ArgumentError (Scan σ) := do
  let _ ← s.settle
  throw notice

/-- The word that asks for help on a mode. -/
def helpWord : String := "help"

/-- A word that the program takes for a mode, if there are no options before it. -/
def isModeWord (g : Grammar σ) (word : String) : Bool :=
  g.mode = none && (word = helpWord || (Mode.named? word).isSome)

/-- The error that a word out of place is. -/
def stray (g : Grammar σ) (s : Scan σ) (word : String) : ArgumentError :=
  if g.mode ≠ none then .unknownArgument word
  else if s.found then .misplacedMode word (s.givenAtEnd.map (·.shown))
  else if s.separated && g.isModeWord word then .unknownArgument word
  else .unknownMode word

/-- What words after the one that asks for help ask for. -/
def helpOn : List String → ArgumentError
  | [] => .help none
  | word :: words =>
    if word = helpWord || (Mode.named? word).isSome then
      match words with
      | [] => .help (Mode.named? word)
      | other :: _ => .unknownMode other
    else .unknownMode word

/-- Reads an argument that asks for no mode. -/
def step (g : Grammar σ) (s : Scan σ) (argument : String) : Except ArgumentError (Scan σ) :=
  match Token.of argument with
  | .separator => .ok { s with separated := true }
  | .option name value =>
    match g.parameters.find? (·.name = name), g.notices.lookup name, value with
    | some p, _, _ => s.option p value
    | none, some notice, none => notify s notice
    | none, some _, some value => .error (.unneededValue ("--" ++ name) value)
    | none, none, _ => .error (.unknownArgument ("--" ++ name))
  | .letter c =>
    match g.letters.lookup c with
    | some notice => notify s notice
    | none => .error (.unknownArgument (String.ofList ['-', c]))
  | .word => if s.isOpen then .ok (s.value argument) else .error (g.stray s argument)

/-- Reads arguments up to a word that asks for a mode, and gives the mode with the arguments after it. -/
def scan (g : Grammar σ) (s : Scan σ) :
    List String → Except ArgumentError (Scan σ × Option (Mode × List String))
  | [] => .ok (s, none)
  | argument :: arguments =>
    if s.separated then .error (g.stray s argument)
    else if g.isModeWord argument && !s.isOpen && !s.found then
      match Mode.named? argument with
      | none => .error (helpOn arguments)
      | some m => .ok (s, some (m, arguments))
    else
      match g.step s argument with
      | .error e => .error e
      | .ok s => g.scan s arguments

/-- Takes an option that is not given from the environment. -/
def complete (env : Environment) (s : Scan σ) (p : Parameter σ) : Except ArgumentError (Scan σ) :=
  match p.fallback.bind env with
  | none => .ok s
  | some value => if s.has p then .ok s else s.accept p [value]

/-- The settings at the end of the line. -/
def finish (g : Grammar σ) (env : Environment) (s : Scan σ) : Except ArgumentError σ := do
  let s ← g.parameters.foldlM (complete env) (← s.settle)
  match g.parameters.filter fun p => p.required && !s.has p with
  | [] => return s.settings
  | missing => throw (.missing (missing.map (·.shown)))

end Grammar

end GateOperator.Arguments
