/-!
Times of objects: a date, a time of day and an offset from UTC, kept to the second. They are written in
UTC. Dates follow the Gregorian calendar without end in both directions.
-/

namespace GateOperator

/-- Seconds since the start of 1970 in UTC. -/
structure Timestamp where
  seconds : Int
deriving DecidableEq

namespace Timestamp

/-- A date of the Gregorian calendar. -/
structure Date where
  year : Int
  month : Nat
  day : Nat

/-- The year has a 29th of February. -/
def isLeap (year : Int) : Bool := year % 4 = 0 && (year % 100 ≠ 0 || year % 400 = 0)

/-- The length of a month. -/
def daysIn (year : Int) (month : Nat) : Nat :=
  if month = 2 then (if isLeap year then 29 else 28)
  else if month = 4 ∨ month = 6 ∨ month = 9 ∨ month = 11 then 30
  else 31

/-- Days from the start of 1970, with years that begin in March. -/
def Date.toDays (d : Date) : Int :=
  let year := if d.month ≤ 2 then d.year - 1 else d.year
  let era := year / 400
  let yearOfEra := year % 400
  let month : Int := (d.month + 9) % 12
  let dayOfYear := (153 * month + 2) / 5 + d.day - 1
  let dayOfEra := yearOfEra * 365 + yearOfEra / 4 - yearOfEra / 100 + dayOfYear
  era * 146097 + dayOfEra - 719468

/-- The date of a day counted from the start of 1970. -/
def Date.ofDays (days : Int) : Date :=
  let shifted := days + 719468
  let era := shifted / 146097
  let dayOfEra := shifted % 146097
  let yearOfEra := (dayOfEra - dayOfEra / 1460 + dayOfEra / 36524 - dayOfEra / 146096) / 365
  let dayOfYear := dayOfEra - (365 * yearOfEra + yearOfEra / 4 - yearOfEra / 100)
  let marchMonth := (5 * dayOfYear + 2) / 153
  let day := dayOfYear - (153 * marchMonth + 2) / 5 + 1
  let month := if marchMonth < 10 then marchMonth + 3 else marchMonth - 9
  ⟨yearOfEra + era * 400 + (if month ≤ 2 then 1 else 0), month.toNat, day.toNat⟩

/-- A number with leading zeros up to a width. -/
def padded (width n : Nat) : List Char :=
  let digits := Nat.toDigits 10 n
  List.replicate (width - digits.length) '0' ++ digits

/-- A year; outside four digits it has a sign and six. -/
def writeYear (year : Int) : List Char :=
  if 0 ≤ year ∧ year ≤ 9999 then padded 4 year.toNat
  else (if year < 0 then '-' else '+') :: padded 6 year.natAbs

/-- A time in UTC, to the second. -/
def write (t : Timestamp) : String :=
  let date := Date.ofDays (t.seconds / 86400)
  let second := (t.seconds % 86400).toNat
  String.ofList <|
    writeYear date.year ++ '-' :: padded 2 date.month ++ '-' :: padded 2 date.day ++
    'T' :: padded 2 (second / 3600) ++ ':' :: padded 2 (second / 60 % 60) ++ ':' :: padded 2 (second % 60) ++ ['Z']

/-- Exactly `count` digits at the front of a text. -/
def readDigits (count : Nat) (text : List Char) : Option (Nat × List Char) :=
  let digits := text.take count
  if digits.length = count ∧ digits.all Char.isDigit then
    some (digits.foldl (fun n c => n * 10 + (c.toNat - '0'.toNat)) 0, text.drop count)
  else none

/-- A separator that is there, or not, as `wanted`. -/
def readSeparator (c : Char) (wanted : Bool) : List Char → Option (List Char)
  | d :: rest => if wanted then (if d = c then some rest else none) else some (d :: rest)
  | [] => if wanted then none else some []

/-- A fraction of a second, which is not kept. -/
def skipFraction : List Char → Option (List Char)
  | c :: rest =>
    if c = '.' ∨ c = ',' then
      let digits := rest.takeWhile Char.isDigit
      if 1 ≤ digits.length ∧ digits.length ≤ 9 then some (rest.drop digits.length) else none
    else some (c :: rest)
  | [] => some []

/-- A date; its hyphens are both there or both missing. -/
def readDate (text : List Char) : Option (Date × List Char) := do
  let (year, text) ← readDigits 4 text
  let dashed := text.head? = some '-'
  let text ← readSeparator '-' dashed text
  let (month, text) ← readDigits 2 text
  let text ← readSeparator '-' dashed text
  let (day, text) ← readDigits 2 text
  if 1 ≤ month ∧ month ≤ 12 ∧ 1 ≤ day ∧ day ≤ daysIn year month then some (⟨year, month, day⟩, text) else none

/-- Seconds of the day; a leap second is taken for the one before it. -/
def readTime (text : List Char) : Option (Nat × List Char) := do
  let (hour, text) ← readDigits 2 text
  let colon := text.head? = some ':'
  let text ← readSeparator ':' colon text
  let (minute, text) ← readDigits 2 text
  let hasSecond := if colon then text.head? = some ':' else (readDigits 2 text).isSome
  let (second, text) ←
    if hasSecond then do
      let (second, text) ← readDigits 2 (← readSeparator ':' colon text)
      pure (second, ← skipFraction text)
    else pure (0, text)
  if hour ≤ 23 ∧ minute ≤ 59 ∧ second ≤ 60 then some (hour * 3600 + minute * 60 + min second 59, text) else none

/-- Seconds that the local time is ahead of UTC. -/
def readOffset : List Char → Option Int
  | ['Z'] => some 0
  | ['z'] => some 0
  | sign :: text => do
    let (hour, text) ← readDigits 2 text
    let (minute, text) ←
      match text with
      | [] => some (0, [])
      | ':' :: rest => readDigits 2 rest
      | _ => readDigits 2 text
    if text = [] ∧ hour ≤ 25 ∧ minute ≤ 59 ∧ (sign = '+' ∨ sign = '-') then
      let offset : Int := hour * 3600 + minute * 60
      some (if sign = '-' then -offset else offset)
    else none
  | [] => none

/-- The last second that has a date in every offset. -/
def last : Int := 253402207200

/-- Reads a date and time with its offset. -/
def read? (text : String) : Option Timestamp := do
  let (date, text) ← readDate text.toList
  match text with
  | separator :: text =>
    if separator = 'T' ∨ separator = 't' ∨ separator = ' ' then
      let (second, text) ← readTime text
      let offset ← readOffset text
      let t := date.toDays * 86400 + second - offset
      if t ≤ last then some ⟨t⟩ else none
    else none
  | [] => none

end Timestamp

end GateOperator
