import Sharding.Calendar.DateTime
import Sharding.Text.Blank
import Sharding.Word

/-!
# Text of datetimes

Datetimes have two written forms. The plain form `2020-01-01 10:00:00` ends with the seconds. The
ISO form `2020-01-01T10:00:00.500` also has a fraction with three, six or nine digits, if there
is one. Years outside 0 to 9999 carry a sign.

Both are read with some freedom: blanks may precede every number, fields need not be padded, and
second 60 is a leap second.
-/

set_option autoImplicit false

namespace Sharding.Calendar

open scoped Word

def padded (width n : Nat) : String :=
  let digits := Nat.repr n
  String.ofList (List.replicate (width - digits.length) '0') ++ digits

/-- A year with at least four digits, and a sign outside 0 to 9999. -/
def yearText (year : Int) : String :=
  if year < 0 then "-" ++ padded 4 year.natAbs
  else if 9999 < year then "+" ++ padded 4 year.natAbs
  else padded 4 year.natAbs

def dateText (date : Date) : String :=
  yearText date.year ++ "-" ++ padded 2 date.month ++ "-" ++ padded 2 date.day

def clockText (time : TimeOfDay) : String :=
  padded 2 time.hour ++ ":" ++ padded 2 time.minute ++ ":" ++ padded 2 time.clockSecond

/-- The fraction of a second with the fewest of three, six or nine digits that are exact. -/
def fractionText (nano : Nat) : String :=
  if nano = 0 then ""
  else if nano % 1000000 = 0 then "." ++ padded 3 (nano / 1000000)
  else if nano % 1000 = 0 then "." ++ padded 6 (nano / 1000)
  else "." ++ padded 9 nano

def plainForm : String := "%Y-%m-%d %H:%M:%S"

def DateTime.plainText (moment : DateTime) : String :=
  dateText moment.date ++ " " ++ clockText moment.time

def DateTime.isoText (moment : DateTime) : String :=
  dateText moment.date ++ "T" ++ clockText moment.time ++ fractionText moment.time.clockNano

/-! ## Reading -/

def skipBlanks (chars : List Char) : List Char :=
  chars.dropWhile Text.isBlank

/-- The digits at the front, at most `most`, and what is left. There must be one. -/
def readDigits (most : Nat) (chars : List Char) : Option (Nat × List Char) :=
  let digits := (chars.take most).takeWhile Char.isDigit
  if digits.isEmpty then none
  else some (Nat.ofDigitChars 10 digits 0, chars.drop digits.length)

def readField (chars : List Char) : Option (Nat × List Char) :=
  readDigits 2 (skipBlanks chars)

/-- A year after any blanks: one to four digits, or a sign and any number of digits. -/
def readYear (chars : List Char) : Option (Int × List Char) :=
  match skipBlanks chars with
  | '-' :: rest => (readDigits rest.length rest).map fun (n, rest) => (-n, rest)
  | '+' :: rest => (readDigits rest.length rest).map fun (n, rest) => (n, rest)
  | rest => (readDigits 4 rest).map fun (n, rest) => (n, rest)

def expect (c : Char) : List Char → Option (List Char)
  | [] => none
  | d :: rest => if d = c then some rest else none

/-- The nanoseconds after a point: at least one digit, of which those after the ninth are
dropped. Without a point there are none. -/
def readNanos (chars : List Char) : Option (Nat × List Char) :=
  match chars with
  | '.' :: rest => do
    let (n, left) ← readDigits 9 rest
    return (n * 10 ^ (9 - (rest.length - left.length)), left.dropWhile Char.isDigit)
  | rest => some (0, rest)

def DateTime.ofFields? (year : Int) (month day hour minute second nano : Nat) :
    Option DateTime := do
  return { date := ← Date.ofFields? year month day
           time := ← TimeOfDay.ofFields? hour minute second nano }

/-- Reads the plain form. Blanks may replace the blank between date and time, which may also be
missing. Nothing may follow the seconds. -/
def DateTime.readPlain (chars : List Char) : Option DateTime := do
  let (year, chars) ← readYear chars
  let (month, chars) ← readField (← expect '-' chars)
  let (day, chars) ← readField (← expect '-' chars)
  let (hour, chars) ← readField chars
  let (minute, chars) ← readField (← expect ':' chars)
  let (second, chars) ← readField (← expect ':' chars)
  if chars.isEmpty then DateTime.ofFields? year month day hour minute second 0 else none

/-- Reads the ISO form. Blanks may precede the signs between the fields and follow at the end. -/
def DateTime.readIso (chars : List Char) : Option DateTime := do
  let (year, chars) ← readYear chars
  let (month, chars) ← readField (← expect '-' (skipBlanks chars))
  let (day, chars) ← readField (← expect '-' (skipBlanks chars))
  let (hour, chars) ← readField (← expect 'T' (skipBlanks chars))
  let (minute, chars) ← readField (← expect ':' (skipBlanks chars))
  let (second, chars) ← readField (← expect ':' (skipBlanks chars))
  let (nano, chars) ← readNanos chars
  if (skipBlanks chars).isEmpty then DateTime.ofFields? year month day hour minute second nano
  else none

def DateTime.ofIso? (text : String) : Option DateTime :=
  DateTime.readIso text.toList

/-- The characters whose UTF-8 form has exactly `size` bytes, if they end between two
characters. -/
def takeBytes? : Nat → List Char → Option (List Char)
  | 0, _ => some []
  | _ + 1, [] => none
  | size + 1, c :: rest =>
    if c.utf8Size ≤ size + 1 then (takeBytes? (size + 1 - c.utf8Size) rest).map (c :: ·)
    else none

def plainSize : Nat := 19

/-- The datetime at the front of a text in plain form. What follows the size of a padded form, a
fraction or a zone, is ignored. -/
def DateTime.ofText? (text : String) : Option DateTime :=
  let chars := Text.trimChars text.toList
  DateTime.readPlain ((takeBytes? plainSize chars).getD chars)

end Sharding.Calendar
