/-! # Dates and times

The date, time and date-time forms of the internet profile: a date of four, two and two digits that
exists in the calendar, and a time of day with an optional fraction of a second and a required
offset. The second may be sixty, the offset is less than a day, and its minus sign may be the
typographic one.
-/

namespace JsonSchema.Format

/-- The number of two decimal digits and what follows them. -/
def twoDigits? : List Char → Option (Nat × List Char)
  | a :: b :: rest =>
    if a.isDigit && b.isDigit then some ((a.toNat - 48) * 10 + (b.toNat - 48), rest) else none
  | _ => none

/-- What follows an expected character. -/
def after? (expected : Char) : List Char → Option (List Char)
  | c :: rest => if c = expected then some rest else none
  | [] => none

/-- Whether a year has a leap day. -/
def isLeapYear (year : Nat) : Bool := year % 4 == 0 && (year % 100 != 0 || year % 400 == 0)

/-- The number of days of a month; there are none in a month that does not exist. -/
def daysInMonth (year month : Nat) : Nat :=
  match month with
  | 1 | 3 | 5 | 7 | 8 | 10 | 12 => 31
  | 4 | 6 | 9 | 11 => 30
  | 2 => if isLeapYear year then 29 else 28
  | _ => 0

/-- What follows a date that exists. -/
def date? (text : List Char) : Option (List Char) := do
  let (century, rest) ← twoDigits? text
  let (decade, rest) ← twoDigits? rest
  let (month, rest) ← twoDigits? (← after? '-' rest)
  let (day, rest) ← twoDigits? (← after? '-' rest)
  if 1 ≤ day ∧ day ≤ daysInMonth (century * 100 + decade) month then some rest else none

/-- What follows the fraction of a second, if there is one. -/
def fraction? : List Char → Option (List Char)
  | '.' :: rest =>
    match rest with
    | c :: _ => if c.isDigit then some (rest.dropWhile Char.isDigit) else none
    | [] => none
  | rest => some rest

/-- What follows an offset from universal time. -/
def offset? : List Char → Option (List Char)
  | [] => none
  | c :: rest =>
    if c = 'Z' ∨ c = 'z' then some rest
    else if c = '+' ∨ c = '-' ∨ c.toNat = 0x2212 then do
      let (hours, rest) ← twoDigits? rest
      let (minutes, rest) ← twoDigits? (← after? ':' rest)
      if hours < 24 ∧ minutes < 60 then some rest else none
    else none

/-- What follows a time of day and its offset. -/
def time? (text : List Char) : Option (List Char) := do
  let (hour, rest) ← twoDigits? text
  let (minute, rest) ← twoDigits? (← after? ':' rest)
  let (second, rest) ← twoDigits? (← after? ':' rest)
  let rest ← fraction? rest
  if hour < 24 ∧ minute < 60 ∧ second ≤ 60 then offset? rest else none

/-- Whether a text is a date. -/
def isDate (text : String) : Bool := date? text.toList == some []

/-- Whether a text is a time with an offset. -/
def isTime (text : String) : Bool := time? text.toList == some []

/-- Whether a text is a date and a time divided by the letter T. -/
def isDateTime (text : String) : Bool :=
  match date? text.toList with
  | some (c :: rest) => (c == 'T' || c == 't') && time? rest == some []
  | _ => false

end JsonSchema.Format
