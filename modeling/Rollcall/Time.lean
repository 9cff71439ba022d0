/-!
# Instants and durations

Both are natural numbers of nanoseconds, an instant counting from the moment the clock started. The
clock itself stands at whole milliseconds, so a timer goes off at the first whole millisecond at or
after the instant it is due. A duration spans at most 2^64 - 1 seconds and 999999999 nanoseconds; a
product beyond that saturates.
-/
namespace Rollcall

namespace Duration

def ofSecs (n : Nat) : Nat := n * 1000000000

def ofMillis (n : Nat) : Nat := n * 1000000

def longest : Nat := ofSecs 18446744073709551615 + 999999999

def secs (d : Nat) : Nat := d / 1000000000

def subsecNanos (d : Nat) : Nat := d % 1000000000

def millis (d : Nat) : Nat := d / 1000000

/-- The product, or the longest duration when the product is beyond it. -/
def scale (d k : Nat) : Nat := if d * k ≤ longest then d * k else longest

/-- A fraction of `width` decimal places, without its trailing zeros and, when nothing is left,
without its point. -/
def fractionText (width n : Nat) : String :=
  let digits := Nat.toDigits 10 n
  let padded := List.replicate (width - digits.length) '0' ++ digits
  match (padded.reverse.dropWhile (· = '0')).reverse with
  | [] => ""
  | kept => "." ++ String.ofList kept

/-- The largest unit that leaves a whole part, with as many places as are needed: `10s`, `1.5s`,
`250ms`, `0ns`. -/
def text (d : Nat) : String :=
  if 1000000000 ≤ d then toString (d / 1000000000) ++ fractionText 9 (d % 1000000000) ++ "s"
  else if 1000000 ≤ d then toString (d / 1000000) ++ fractionText 6 (d % 1000000) ++ "ms"
  else if 1000 ≤ d then toString (d / 1000) ++ fractionText 3 (d % 1000) ++ "µs"
  else toString d ++ "ns"

theorem scale_of_le {d k : Nat} (h : d * k ≤ longest) : scale d k = d * k :=
  if_pos h

end Duration

namespace Instant

/-- The first whole millisecond at or after an instant. -/
def ceilMilli (i : Nat) : Nat := (i + 999999) / 1000000 * 1000000

theorem le_ceilMilli (i : Nat) : i ≤ ceilMilli i := by
  unfold ceilMilli; omega

end Instant

end Rollcall
