set_option autoImplicit false

/-!
# Timebases

A timestamp counts units of its track's timebase, a rational number of seconds.

## Main definitions

* `LiveMedia.Timebase` — the unit of a timestamp.
* `LiveMedia.Timebase.toUsec` — a timestamp in whole microseconds.
-/

namespace LiveMedia

/-- The smallest 64-bit signed number. -/
def minInt64 : Int := -0x8000000000000000

/-- The largest 64-bit signed number. -/
def maxInt64 : Int := 0x7FFFFFFFFFFFFFFF

/-- The number `n`, if it fits in 64 bits with a sign. -/
def toInt64? (n : Int) : Option Int :=
  if minInt64 ≤ n ∧ n ≤ maxInt64 then some n else none

/-- The unit of a timestamp: `num / den` seconds. -/
structure Timebase where
  num : Int
  den : Int
  deriving DecidableEq, Repr

/-- The millisecond clock. -/
def Timebase.millis : Timebase := ⟨1, 1000⟩

/-- The timestamp `ts` in microseconds, truncated towards zero. There is none if the
denominator is zero or the value does not fit in 64 bits. -/
def Timebase.toUsec (tb : Timebase) (ts : Int) : Option Int :=
  if tb.den = 0 then none else toInt64? ((ts * 1000000 * tb.num).tdiv tb.den)

end LiveMedia
