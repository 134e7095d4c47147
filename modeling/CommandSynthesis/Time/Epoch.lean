import CommandSynthesis.Time.Instant

set_option autoImplicit false

/-!
# Counting from the epoch

The instant that lies a number of seconds after the start of the year 1970. Years are counted from
March, so that a leap day is the last of its year, in cycles of 400 years.
-/

namespace CommandSynthesis

namespace Date

/-- The days of a cycle of 400 years. -/
def cycleDays : Nat := 146097

/-- The days from the first of March of the year 0 to the start of the year 1970. -/
def epochDays : Nat := 719468

/-- The day that lies a number of days after the start of the year 1970. -/
def ofEpochDays? (days : Nat) : Option Date :=
  let shifted := days + epochDays
  let day := shifted % cycleDays
  let year := (day - day / 1460 + day / 36524 - day / 146096) / 365
  let dayOfYear := day - (365 * year + year / 4 - year / 100)
  let month := (5 * dayOfYear + 2) / 153
  let dayOfMonth := dayOfYear - (153 * month + 2) / 5 + 1
  let wholeYear := year + 400 * (shifted / cycleDays)
  if month < 10 then of? wholeYear (month + 3) dayOfMonth
  else of? (wholeYear + 1) (month - 9) dayOfMonth

end Date

/-- The instant that lies a number of seconds and nanoseconds after the start of the year 1970. -/
def Instant.ofEpoch? (seconds nanoseconds : Nat) : Option Instant := do
  let date ← Date.ofEpochDays? (seconds / 86400)
  let time ← TimeOfDay.of? (seconds % 86400 / 60) (seconds % 60) nanoseconds
  return ⟨date, time⟩

end CommandSynthesis
