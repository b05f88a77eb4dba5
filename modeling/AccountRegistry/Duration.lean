/-
Spans of time of whole seconds and nanoseconds.

* **Duration** — fewer than `2 ^ 64` seconds and fewer than `10 ^ 9` nanoseconds;
* **Duration.times** — a multiple, which stops at the longest span;
* **Duration.shorter** — the lesser of two spans;
* **RetryPolicy** — how often to try and how long to wait in between;
* **RetryPolicy.delayAfter** — the wait after an attempt, doubling each time up to a cap.
-/
import AccountRegistry.Number.Power

namespace AccountRegistry

/-- A span of time. -/
structure Duration where
  secs : Nat
  nanos : Nat
  secs_lt : secs < 0x10000000000000000 := by decide
  nanos_lt : nanos < 1000000000 := by decide
  deriving DecidableEq

namespace Duration

/-- No time at all. -/
def zero : Duration := { secs := 0, nanos := 0 }

instance : Inhabited Duration := ⟨zero⟩

/-- The longest span. -/
def longest : Duration := { secs := 0xFFFFFFFFFFFFFFFF, nanos := 999999999 }

/-- A span of some seconds and nanoseconds, the latter carried over into the former. -/
def ofParts (secs nanos : Nat) : Duration :=
  if h : secs + nanos / 1000000000 < 0x10000000000000000 then
    ⟨secs + nanos / 1000000000, nanos % 1000000000, h, Nat.mod_lt _ (by decide)⟩
  else longest

/-- A span of whole seconds. -/
def ofSecs (n : Nat) : Duration :=
  ofParts n 0

/-- A span of whole milliseconds. -/
def ofMillis (n : Nat) : Duration :=
  ofParts (n / 1000) (n % 1000 * 1000000)

/-- The span in nanoseconds. -/
def toNanos (d : Duration) : Nat :=
  d.secs * 1000000000 + d.nanos

/-- The span in milliseconds, a part of one counted as a whole. -/
def toMillisUp (d : Duration) : Nat :=
  (d.toNanos + 999999) / 1000000

/-- Whether no time passes. -/
def isZero (d : Duration) : Bool :=
  d.secs == 0 && d.nanos == 0

/-- The span `k` times over, or the longest one. -/
def times (d : Duration) (k : Nat) : Duration :=
  ofParts (d.secs * k) (d.nanos * k)

/-- Whether `a` ends before `b`: by the seconds, then by the nanoseconds. -/
def before (a b : Duration) : Bool :=
  a.secs < b.secs || (a.secs == b.secs && a.nanos < b.nanos)

/-- The lesser of two spans. -/
def shorter (a b : Duration) : Duration :=
  if b.before a then b else a

end Duration

/-- How often to try and how long to wait in between. -/
structure RetryPolicy where
  maxAttempts : Nat
  base : Duration
  cap : Duration
  deriving DecidableEq, Inhabited

namespace RetryPolicy

/-- The usual policy. -/
def standard : RetryPolicy where
  maxAttempts := 32
  base := .ofMillis 1
  cap := .ofMillis 100

/-- Attempts without a pause. -/
def immediate (maxAttempts : Nat) : RetryPolicy where
  maxAttempts := maxAttempts
  base := .zero
  cap := .zero

/-- The factor of the wait after an attempt: a power of two as long as it fits 32 bits, and
the greatest number of 32 bits from then on. -/
def factor (attempt : Nat) : Nat :=
  if attempt - 1 < 32 then twoTo (attempt - 1) else 0xFFFFFFFF

/-- The wait after the given attempt. -/
def delayAfter (p : RetryPolicy) (attempt : Nat) : Duration :=
  (p.base.times (factor attempt)).shorter p.cap

/-- The number of attempts, at least one. -/
def bound (p : RetryPolicy) : Nat :=
  max p.maxAttempts 1

end RetryPolicy

end AccountRegistry
