/-!
# Spans of time

A `Duration` is a whole number of nanoseconds.  Its text is the number in the largest unit of
seconds, milliseconds, microseconds and nanoseconds in which the integer part is not zero, with
the fraction written without trailing zeros: `900s`, `1.5s`, `250ms`, `0ns`.
-/

namespace ClusterReady

/-- A span of time, counted in nanoseconds. -/
structure Duration where
  nanos : Nat
deriving DecidableEq, Repr, Inhabited

namespace Duration

/-- The empty span. -/
def zero : Duration := ⟨0⟩

def ofSecs (n : Nat) : Duration := ⟨1000000000 * n⟩

def ofMillis (n : Nat) : Duration := ⟨1000000 * n⟩

/-- The whole seconds of a span. -/
def secs (d : Duration) : Nat := d.nanos / 1000000000

/-- What is left of a span after its whole seconds. -/
def subsecNanos (d : Duration) : Nat := d.nanos % 1000000000

/-- A fraction of `width` decimal places, without its trailing zeros. -/
def fractionDigits (width frac : Nat) : String :=
  let digits := Nat.toDigits 10 frac
  let padded := List.replicate (width - digits.length) '0' ++ digits
  String.ofList (padded.reverse.dropWhile (· == '0')).reverse

/-- A number of nanoseconds in the unit that holds `10 ^ places` of them. -/
def inUnit (nanos places : Nat) (unit : String) : String :=
  let whole := toString (nanos / Nat.pow 10 places)
  let frac := nanos % Nat.pow 10 places
  if frac = 0 then whole ++ unit else whole ++ "." ++ fractionDigits places frac ++ unit

/-- The text of a span, in the largest unit with a nonzero integer part. -/
def text (d : Duration) : String :=
  if 1000000000 ≤ d.nanos then inUnit d.nanos 9 "s"
  else if 1000000 ≤ d.nanos then inUnit d.nanos 6 "ms"
  else if 1000 ≤ d.nanos then inUnit d.nanos 3 "µs"
  else inUnit d.nanos 0 "ns"

end Duration

end ClusterReady
