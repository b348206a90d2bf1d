import CodeHints.Analysis.Environment

/-!
# Where the log goes

Log files carry the time at which they were opened in their names. Dates follow the Gregorian
calendar; a date that does not exist has no file.

The level of the log belongs to the state of the pipeline. The lines of the log, the opening of its
file and the way in which it is set up are left out, since nothing ever reads them back. Of the
set-up only the error is here that is reported when it is done twice.
-/

namespace CodeHints

/-- A time of a day of the Gregorian calendar. -/
structure Timestamp where
  year : Int
  month : Nat
  day : Nat
  hour : Nat
  minute : Nat
  second : Nat
  deriving DecidableEq, Repr

namespace Timestamp

/-- A year with a twenty-ninth of February. -/
def isLeapYear (year : Int) : Bool := year % 4 = 0 && (year % 100 ≠ 0 || year % 400 = 0)

/-- The number of days of a month; nothing for a number that is no month. -/
def daysIn (year : Int) (month : Nat) : Nat :=
  if month = 2 then (if isLeapYear year then 29 else 28)
  else if [4, 6, 9, 11].contains month then 30
  else if 1 ≤ month ∧ month ≤ 12 then 31
  else 0

/-- The first and the last year of the calendar. -/
def yearRange : Int × Int := (-262143, 262142)

/-- Whether the time exists. -/
def isValid (t : Timestamp) : Bool :=
  yearRange.1 ≤ t.year && t.year ≤ yearRange.2 && 1 ≤ t.day && t.day ≤ daysIn t.year t.month
    && t.hour < 24 && t.minute < 60 && t.second < 60

/-- A number with at least so many digits. -/
def padded (width n : Nat) : String :=
  let digits := Nat.toDigits 10 n
  String.ofList (List.replicate (width - digits.length) '0' ++ digits)

/-- A year with at least four digits, and with its sign if it has not exactly four. -/
def yearText (year : Int) : String :=
  let digits := padded 4 year.natAbs
  if year < 0 then "-" ++ digits else if 9999 < year then "+" ++ digits else digits

/-- Date and time without separators, a hyphen between them. -/
def text (t : Timestamp) : String :=
  yearText t.year ++ padded 2 t.month ++ padded 2 t.day ++ "-" ++ padded 2 t.hour
    ++ padded 2 t.minute ++ padded 2 t.second

end Timestamp

/-- The path of the log file that is opened at a time. -/
def logFilePath (dir stem : String) (t : Timestamp) : String :=
  Path.join dir (stem ++ "-" ++ t.text ++ ".log")

/-- The directory of log files: below the data directory of the user, which is `dataHome` if that is
an absolute path, and a fixed place below `home` otherwise. -/
def defaultLogDir (home : String) (dataHome : Option String) : String :=
  let data := match dataHome with
    | some dir => if Path.isAbsolute dir then dir else Path.join home ".local/share"
    | none => Path.join home ".local/share"
  Path.join (Path.join data "pyhint") "logs"

/-- The error of setting up the log a second time. -/
def logAlreadySetUp : DaemonError :=
  .logging "a global default trace dispatcher has already been set"

end CodeHints
