import CommandSynthesis.Time.Date

set_option autoImplicit false

/-!
# Instants

A moment of universal time: a day and the time of that day to the nanosecond. The last second of
any minute may be a leap second, which takes the nanoseconds beyond a thousand million.
-/

namespace CommandSynthesis

/-- A time of day: minutes since midnight, seconds and nanoseconds. -/
structure TimeOfDay where
  minute : Nat
  second : Nat
  nanosecond : Nat
  minute_lt : minute < 1440
  second_lt : second < 60
  nanosecond_lt : nanosecond < if second = 59 then 2000000000 else 1000000000
  deriving DecidableEq, Repr

/-- A moment of universal time. -/
structure Instant where
  date : Date
  time : TimeOfDay
  deriving DecidableEq, Repr

namespace TimeOfDay

/-- The time of day with these numbers, if there is one. -/
def of? (minute second nanosecond : Nat) : Option TimeOfDay :=
  if h : minute < 1440 ∧ second < 60 ∧
      nanosecond < if second = 59 then 2000000000 else 1000000000 then
    some ⟨minute, second, nanosecond, h.1, h.2.1, h.2.2⟩
  else none

theorem of?_eq_some (time : TimeOfDay) :
    of? time.minute time.second time.nanosecond = some time := by
  simp [of?, time.minute_lt, time.second_lt, time.nanosecond_lt]

end TimeOfDay

namespace Instant

/-- The start of the year 1970. -/
def epoch : Instant :=
  ⟨⟨1970, 1, 1, by decide⟩, ⟨0, 0, 0, by decide, by decide, by decide⟩⟩

instance : Inhabited Instant := ⟨epoch⟩

/-- The moment at which clocks that are ahead by a number of minutes, less than a day, show a day
and a time. None when the day of universal time is out of range. -/
def ofLocal? (date : Date) (time : TimeOfDay) (ahead : Int) : Option Instant :=
  let minute := time.minute - ahead
  let date :=
    if minute < 0 then date.previous?
    else if minute < 1440 then some date
    else date.next?
  date.map fun date =>
    ⟨date, { time with
      minute := (minute % 1440).toNat
      minute_lt := by
        have := Int.emod_nonneg minute (show (1440 : Int) ≠ 0 by decide)
        have := Int.emod_lt_of_pos minute (show (0 : Int) < 1440 by decide)
        omega }⟩

end Instant

end CommandSynthesis
