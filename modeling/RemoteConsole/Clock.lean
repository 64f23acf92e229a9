namespace RemoteConsole

abbrev Millis := Nat

def seconds (n : Nat) : Millis :=
  n * 1000

/-- Milliseconds since the start of 1970. The clock is ideal and has no end: a wait of some 2 ^ 63
seconds, which overflows a machine's clock, leads to an instant like any other. -/
structure Instant where
  millis : Int
  deriving DecidableEq, Inhabited

namespace Instant

def ofUnix (secs : Int) : Instant :=
  ⟨secs * 1000⟩

def unix (t : Instant) : UInt64 :=
  .ofNat (t.millis / 1000).toNat

def since (t earlier : Instant) : Millis :=
  (t.millis - earlier.millis).toNat

def after (t : Instant) (delay : Millis) : Instant :=
  ⟨t.millis + delay⟩

def max (a b : Instant) : Instant :=
  if a.millis < b.millis then b else a

end Instant

/-- A reading of the clock, with the random part of any wait that starts then. -/
structure Moment where
  now : Instant
  jitter : Millis := 0
  deriving DecidableEq, Inhabited

end RemoteConsole
