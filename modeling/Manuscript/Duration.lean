/-! Spans of time and how they are written. -/

namespace Manuscript

/-- A span of time. -/
structure Duration where
  /-- The full seconds. -/
  seconds : Nat
  /-- The nanoseconds beyond them. -/
  nanos : Nat := 0
  deriving DecidableEq

namespace Duration

/-- A span of full seconds. -/
def ofSeconds (seconds : Nat) : Duration := ⟨seconds, 0⟩

/-- A span of milliseconds. -/
def ofMillis (millis : Nat) : Duration := ⟨millis / 1000, millis % 1000 * 1000000⟩

/-- The decimals of a fraction that has the given number of places, without zeros at the end. -/
def decimals (places fraction : Nat) : String :=
  let digits := (toString fraction).toList
  let padded := List.replicate (places - digits.length) '0' ++ digits
  -- Without decimals there is no point either.
  match (padded.reverse.dropWhile (· = '0')).reverse with
  | [] => ""
  | kept => "." ++ String.ofList kept

/-- A span in the largest unit that does not exceed it. -/
def text (span : Duration) : String :=
  if 0 < span.seconds then toString span.seconds ++ decimals 9 span.nanos ++ "s"
  else if 1000000 ≤ span.nanos then
    toString (span.nanos / 1000000) ++ decimals 6 (span.nanos % 1000000) ++ "ms"
  else if 1000 ≤ span.nanos then
    toString (span.nanos / 1000) ++ decimals 3 (span.nanos % 1000) ++ "µs"
  else toString span.nanos ++ "ns"

end Duration

end Manuscript
