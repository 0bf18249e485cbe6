-- Days and times as documents spell them: a day in digits, and behind it perhaps a time of day with
-- parts of a second and an offset from universal time.

import SourceAudit.Calendar
import SourceAudit.Text.Digits

namespace SourceAudit.Document.Yaml

open SourceAudit.Calendar
open SourceAudit.Text (numberOf takeAtMost)

/-- The time of day in a spelling. The offset is in minutes. -/
structure ClockText where
  hour : Nat
  minute : Nat
  second : Nat
  microsecond : Nat
  offset : Option Int
  deriving DecidableEq, Repr

/-- A spelling of a day or a time, read but not checked against the calendar. Days and months may
have one digit or two; a short day has one that is left out. -/
structure MomentText where
  year : Nat
  month : Nat
  day : Nat
  isShort : Bool
  clock : Option ClockText
  deriving DecidableEq, Repr

/-! ## Parts -/

/-- Reads digits, at least and at most so many. -/
def digits? (least most : Nat) (cs : List Char) : Option (List Char × List Char) :=
  let digits := takeAtMost Char.isDigit most cs
  if digits.length < least then none else some (digits, cs.drop digits.length)

/-- Goes past a character. -/
def past? (c : Char) : List Char → Option (List Char)
  | d :: rest => if d = c then some rest else none
  | [] => none

/-- Reads a colon and two digits. -/
def colonDigits? (cs : List Char) : Option (Nat × List Char) := do
  let (digits, rest) ← digits? 2 2 (← past? ':' cs)
  return (numberOf 10 digits, rest)

/-- Blanks inside of a line. -/
def isInnerBlank (c : Char) : Bool :=
  c == ' ' || c == '\t'

/-- Reads what stands between a day and a time. -/
def clockMark? : List Char → Option (List Char)
  | 'T' :: rest => some rest
  | 't' :: rest => some rest
  | c :: rest => if isInnerBlank c then some (rest.dropWhile isInnerBlank) else none
  | [] => none

/-- Reads the parts of a second, up to six digits of them. -/
def microsecond : List Char → Nat × List Char
  | '.' :: rest =>
    let digits := rest.takeWhile Char.isDigit
    (numberOf 10 (digits.take 6) * Nat.pow 10 (6 - digits.length), rest.drop digits.length)
  | rest => (0, rest)

/-- Reads an offset up to the end. Nothing stands for an unknown one. -/
def offset? (cs : List Char) : Option (Option Int) :=
  match cs.dropWhile isInnerBlank with
  | ['Z'] => some (some 0)
  | sign :: rest =>
    if sign = '+' ∨ sign = '-' then do
      let (hours, rest) ← digits? 1 2 rest
      let (minutes, rest) ← if rest.isEmpty then some (0, []) else colonDigits? rest
      if !rest.isEmpty then none
      else
        let span : Int := (numberOf 10 hours * 60 + minutes : Nat)
        some (some (if sign = '-' then -span else span))
    else none
  | [] => if cs.isEmpty then some none else none

/-- Reads a time of day up to the end. -/
def clockText? (cs : List Char) : Option ClockText := do
  let (hour, rest) ← digits? 1 2 (← clockMark? cs)
  let (minute, rest) ← colonDigits? rest
  let (second, rest) ← colonDigits? rest
  let (part, rest) := microsecond rest
  return ⟨numberOf 10 hour, minute, second, part, ← offset? rest⟩

/-- Reads a day or a time. -/
def momentText? (cs : List Char) : Option MomentText := do
  let (year, rest) ← digits? 4 4 cs
  let (month, rest) ← digits? 1 2 (← past? '-' rest)
  let (day, rest) ← digits? 1 2 (← past? '-' rest)
  let clock ← if rest.isEmpty then some none else (clockText? rest).map some
  return ⟨numberOf 10 year, numberOf 10 month, numberOf 10 day,
    month.length < 2 || day.length < 2, clock⟩

/-! ## Days and times that no tag announces -/

/-- A text is spelled like a day or a time. A day alone has all of its digits. -/
def isMomentText (cs : List Char) : Bool :=
  (momentText? cs).any fun moment => moment.clock.isSome || !moment.isShort

end SourceAudit.Document.Yaml
