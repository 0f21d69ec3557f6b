import PadGraph.Toml.Reader

/-!
# TOML dates and times

A date, a time, or a date and a time, which may have an offset. Dates must exist in the calendar.

* `Toml.date`, `Toml.time`, `Toml.offset` — read the parts.
* `Toml.dateTime` — reads any of the combinations.
-/

namespace PadGraph

namespace Toml

/-- Reads exactly `count` decimal digits as a number. -/
def fixedDigits : (count : Nat) → Reader Nat
  | 0, text => some (0, text)
  | count + 1, c :: rest =>
    if c.isDigit then
      (fixedDigits count rest).map fun (value, rest) =>
        ((c.toNat - '0'.toNat) * 10 ^ count + value, rest)
    else none
  | _ + 1, [] => none

/-- Reads a number of two digits that lies between two bounds. -/
def twoDigits (least greatest : Nat) : Reader Nat := fun text => do
  let (value, rest) ← fixedDigits 2 text
  if least ≤ value ∧ value ≤ greatest then some (value, rest) else none

/-- Whether a year has a 29th of February. -/
def isLeapYear (year : Nat) : Bool := year % 4 == 0 && (year % 100 != 0 || year % 400 == 0)

/-- The number of days in a month. -/
def daysInMonth (year month : Nat) : Nat :=
  if month = 2 then if isLeapYear year then 29 else 28
  else if month = 4 ∨ month = 6 ∨ month = 9 ∨ month = 11 then 30
  else 31

/-- Reads a date that exists. -/
def date : Reader Unit := fun text => do
  let (year, text) ← fixedDigits 4 text
  let text ← behind? '-' text
  let (month, text) ← twoDigits 1 12 text
  let text ← behind? '-' text
  let (_, text) ← twoDigits 1 (daysInMonth year month) text
  return ((), text)

/-- The rest of a text behind fractions of a second, which may be absent. -/
def skipSecondFraction : Text → Text
  | '.' :: c :: rest => if c.isDigit then rest.dropWhile Char.isDigit else '.' :: c :: rest
  | text => text

/-- Reads a time of day; a minute may have a leap second. -/
def time : Reader Unit := fun text => do
  let (_, text) ← twoDigits 0 23 text
  let text ← behind? ':' text
  let (_, text) ← twoDigits 0 59 text
  let text ← behind? ':' text
  let (_, text) ← twoDigits 0 60 text
  return ((), skipSecondFraction text)

/-- Reads the distance from universal time. -/
def offset : Reader Unit
  | c :: rest =>
    if c = 'Z' ∨ c = 'z' then some ((), rest)
    else if c = '+' ∨ c = '-' then do
      let (_, text) ← twoDigits 0 23 rest
      let text ← behind? ':' text
      let (_, text) ← twoDigits 0 59 text
      return ((), text)
    else none
  | [] => none

/-- Reads the time behind a date, with its offset if there is one. -/
def timeBehindDate : Reader Unit
  | c :: rest =>
    if c = 'T' ∨ c = 't' ∨ c = ' ' then do
      let (_, text) ← time rest
      match offset text with
      | some (_, rest) => return ((), rest)
      | none => return ((), text)
    else none
  | [] => none

/-- Reads a date, a date with a time, or a time. -/
def dateTime : Reader Unit := fun text =>
  match date text with
  | some (_, rest) =>
    match timeBehindDate rest with
    | some read => some read
    | none => some ((), rest)
  | none => time text

end Toml

end PadGraph
