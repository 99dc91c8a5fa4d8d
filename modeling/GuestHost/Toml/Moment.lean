import GuestHost.Scalar
import GuestHost.Toml.Blank

/-!
# Dates and times in a document

A moment is a date, a time of day, or a date with a time of day and perhaps its
distance from universal time.  It is kept as a text of one form: the letter `T`
between date and time, `Z` for universal time, and of the fraction of a second nine
digits at most, without zeros at the end.
-/

namespace GuestHost.Toml

namespace Grammar

open GuestHost.Reader

/-- A decimal number of two digits between two bounds. -/
def twoDigits (low high : Nat) : Reader Nat := do
  let value := Literal.ofDigits 10 (← times 2 Char.isDigit)
  if low ≤ value ∧ value ≤ high then return value else failure

/-- The number of days in a month. -/
def daysInMonth (year month : Nat) : Nat :=
  if month = 2 then
    if year % 4 = 0 ∧ (year % 100 ≠ 0 ∨ year % 400 = 0) then 29 else 28
  else if month ∈ [4, 6, 9, 11] then 30
  else 31

/-- A number in decimal digits, with zeros in front up to a given width. -/
def padded (width number : Nat) : String :=
  String.ofList ((Nat.toDigits 10 number).leftpad width '0')

/-- A day of the calendar. -/
def date : Reader String := do
  let year := Literal.ofDigits 10 (← times 4 Char.isDigit)
  exactly "-"
  let month ← twoDigits 1 12
  exactly "-"
  let day ← twoDigits 1 (daysInMonth year month)
  return padded 4 year ++ "-" ++ padded 2 month ++ "-" ++ padded 2 day

/-- The fraction of a second. -/
def secondFraction : Reader String := do
  exactly "."
  let digits := (← some1 Char.isDigit).take 9
  let digits := (digits.reverse.dropWhile (· = '0')).reverse
  return if digits = [] then "" else "." ++ String.ofList digits

/-- A time of day.  A minute may have a leap second. -/
def timeOfDay : Reader String := do
  let hour ← twoDigits 0 23
  exactly ":"
  let minute ← twoDigits 0 59
  exactly ":"
  let second ← twoDigits 0 60
  let rest ← optional secondFraction
  return padded 2 hour ++ ":" ++ padded 2 minute ++ ":" ++ padded 2 second ++ rest.getD ""

/-- The distance from universal time; no distance is a positive one. -/
def distance : Reader String :=
  (do let _ ← one fun c => c = 'Z' ∨ c = 'z'
      return "Z")
    <|> (do
      let mark ← one fun c => c = '+' ∨ c = '-'
      let hour ← twoDigits 0 23
      exactly ":"
      let minute ← twoDigits 0 59
      let mark := if mark = '-' ∧ (hour ≠ 0 ∨ minute ≠ 0) then "-" else "+"
      return mark ++ padded 2 hour ++ ":" ++ padded 2 minute)

/-- What stands behind a date: a time of day, and perhaps a distance. -/
def timeBehindDate : Reader String := do
  let _ ← one fun c => c = 'T' ∨ c = 't' ∨ c = ' '
  return "T" ++ (← timeOfDay) ++ (← optional distance).getD ""

/-- A moment of any form. -/
def moment : Reader Scalar :=
  (do return .text ((← date) ++ (← optional timeBehindDate).getD ""))
    <|> (do return .text (← timeOfDay))

end Grammar

end GuestHost.Toml
