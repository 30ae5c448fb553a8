import NativeCall.Toml.Parser

/-!
# Reading TOML: dates and times

A date, a time of day, or both with an optional offset. Days are checked against their
month; a sixtieth second is allowed.
-/

namespace NativeCall
namespace Toml
namespace Parser

def boundedNumber (digits low high : Nat) : Parser Nat := do
  let n := numberOf 10 (<- exactly digits isDigit)
  if low ≤ n ∧ n ≤ high then pure n else fail

def isLeapYear (year : Nat) : Bool :=
  year % 4 == 0 && (year % 100 != 0 || year % 400 == 0)

def daysInMonth (year month : Nat) : Nat :=
  if month = 2 then (if isLeapYear year then 29 else 28)
  else if month ∈ [4, 6, 9, 11] then 30
  else 31

def date : Parser Unit := do
  let year <- boundedNumber 4 0 9999
  char '-'
  let month <- boundedNumber 2 1 12
  char '-'
  let _ <- boundedNumber 2 1 (daysInMonth year month)

def timeOfDay : Parser Unit := do
  let _ <- boundedNumber 2 0 23
  char ':'
  let _ <- boundedNumber 2 0 59
  char ':'
  let _ <- boundedNumber 2 0 60
  let _ <- optional do
    char '.'
    let _ <- run1 isDigit

def timeOffset : Parser Unit :=
  firstOf
    [do let _ <- satisfy fun c => c == 'Z' || c == 'z',
     do
      let _ <- satisfy fun c => c == '+' || c == '-'
      let _ <- boundedNumber 2 0 23
      char ':'
      let _ <- boundedNumber 2 0 59]

def dateTime : Parser Unit :=
  firstOf
    [do
      date
      let _ <- optional do
        let _ <- satisfy fun c => c == 'T' || c == 't' || c == ' '
        timeOfDay
        let _ <- optional timeOffset,
     timeOfDay]

end Parser
end Toml
end NativeCall
