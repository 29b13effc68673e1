/-! Spans of time and readings of a clock that never runs backwards, both in nanoseconds. -/

namespace ArenaThreads

structure Duration where
  nanos : Nat
  deriving DecidableEq, Repr

namespace Duration

def nanosPerSecond : Nat := 1000000000

def ofMillis (millis : Nat) : Duration := ⟨millis * 1000000⟩

def ofParts (seconds nanos : Nat) : Duration := ⟨seconds * nanosPerSecond + nanos⟩

def seconds (duration : Duration) : Nat := duration.nanos / nanosPerSecond

def subsecondNanos (duration : Duration) : Nat := duration.nanos % nanosPerSecond

end Duration

structure Instant where
  nanos : Nat
  deriving DecidableEq, Repr

namespace Instant

def limit : Nat := 0x8000_0000_0000_0000 * Duration.nanosPerSecond

def after? (now : Instant) (span : Duration) : Option Instant :=
  if now.nanos + span.nanos < limit then some ⟨now.nanos + span.nanos⟩ else none

def left (now deadline : Instant) : Duration := ⟨deadline.nanos - now.nanos⟩

end Instant

structure Timespec where
  seconds : Nat
  nanos : Nat
  deriving DecidableEq, Repr

namespace Timespec

def maximumSeconds : Nat := 0x7fff_ffff_ffff_ffff

/-- Spans of more seconds than fit wait for as many as fit. -/
def ofDuration (span : Duration) : Timespec :=
  ⟨min span.seconds maximumSeconds, span.subsecondNanos⟩

end Timespec

end ArenaThreads
