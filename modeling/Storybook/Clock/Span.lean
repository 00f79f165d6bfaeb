/-
**Spans of time.**

Instants and spans are natural numbers of nanoseconds. Motions count time in frames, of which sixty
make a second.

* `Span.millis`, `Span.second`: spans in nanoseconds;
* `Span.frames`: a span in frames;
* `Span.text`: a span in its largest unit.
-/

import Storybook.Number.Decimal

namespace Storybook.Span

/-- A second in nanoseconds. -/
def second : Nat :=
  1000000000

/-- Milliseconds in nanoseconds. -/
def millis (count : Nat) : Nat :=
  count * 1000000

/-- A span in seconds: the whole seconds and the fraction of one are rounded apart. -/
def seconds (span : Nat) : Single :=
  Single.ofInt (span / second) + Single.ofInt (span % second) / 1e9

/-- The length of a frame in milliseconds. -/
def frameMillis : Single :=
  1000 / 60

/-- A span in frames. -/
def frames (span : Nat) : Single :=
  seconds span * 1000 / frameMillis

/-- A span in the largest unit of which it holds at least one, with as many places as it takes. -/
def text (span : Nat) : String :=
  if second ≤ span then
    Decimal.positional ⟨span, -9⟩ ++ "s"
  else if 1000000 ≤ span then
    Decimal.positional ⟨span, -6⟩ ++ "ms"
  else if 1000 ≤ span then
    Decimal.positional ⟨span, -3⟩ ++ "µs"
  else
    Decimal.positional ⟨span, 0⟩ ++ "ns"

end Storybook.Span
