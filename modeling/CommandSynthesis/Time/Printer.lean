import CommandSynthesis.Decimal.Digits
import CommandSynthesis.Time.Instant

set_option autoImplicit false

/-!
# Writing instants

An instant is written in the form of RFC 3339 in universal time, with no fraction or with as many
groups of three places as it needs; for the log with two groups, and for people without fraction. A
year of more than four digits, or before the year 0, has a sign. A leap second is the second 60.
-/

namespace CommandSynthesis

namespace Date

def printYear (year : Int) : List Char :=
  if 0 ≤ year ∧ year ≤ 9999 then Decimal.padded 4 year.toNat
  else (if year < 0 then '-' else '+') :: Decimal.padded 4 year.natAbs

def print (date : Date) : List Char :=
  printYear date.year ++ '-' :: Decimal.padded 2 date.month ++ '-' :: Decimal.padded 2 date.day

end Date

namespace TimeOfDay

def fraction (time : TimeOfDay) : Nat :=
  time.nanosecond % 1000000000

def print (time : TimeOfDay) : List Char :=
  Decimal.padded 2 (time.minute / 60) ++ ':' :: Decimal.padded 2 (time.minute % 60)
    ++ ':' :: Decimal.padded 2 (time.second + time.nanosecond / 1000000000)

/-- The fraction of the second, if there is one. -/
def printFraction (time : TimeOfDay) : List Char :=
  if time.fraction = 0 then []
  else if time.fraction % 1000000 = 0 then '.' :: Decimal.padded 3 (time.fraction / 1000000)
  else if time.fraction % 1000 = 0 then '.' :: Decimal.padded 6 (time.fraction / 1000)
  else '.' :: Decimal.padded 9 time.fraction

end TimeOfDay

namespace Instant

/-- The instant in the form of RFC 3339. -/
def print (instant : Instant) : String :=
  String.ofList (instant.date.print ++ 'T' :: instant.time.print ++ instant.time.printFraction
    ++ ['Z'])

/-- The instant to the microsecond, the form in which log lines have it. -/
def stamp (instant : Instant) : String :=
  String.ofList (instant.date.print ++ 'T' :: instant.time.print
    ++ '.' :: Decimal.padded 6 (instant.time.fraction / 1000) ++ ['Z'])

def display (instant : Instant) : String :=
  String.ofList (instant.date.print ++ ' ' :: instant.time.print)

end Instant

end CommandSynthesis
