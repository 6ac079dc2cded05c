/-
  How long a wait for a frame may last.

  The driver takes a timeout as a 32-bit number of milliseconds whose largest value means "wait
  for ever". A finite timeout is kept below that value, and a span of time that is too long for a
  finite timeout becomes an infinite one.
-/

namespace CameraControl

/-! ## Spans of time -/

/-- A span of time: whole seconds, and the nanoseconds beyond them. -/
structure Duration where
  secs : UInt64
  nanos : UInt32
  nanos_lt : nanos.toNat < 1000000000
  deriving DecidableEq, Repr

namespace Duration

/-- The span of some seconds and nanoseconds. Nanoseconds beyond a second carry into the seconds;
    there is no span whose seconds do not fit into 64 bits. -/
def ofParts? (secs : UInt64) (nanos : UInt32) : Option Duration :=
  let whole := secs + (nanos / 1000000000).toUInt64
  -- a sum that has wrapped around is below both of its parts
  if whole < secs then none
  else
    some
      { secs := whole
        nanos := nanos % 1000000000
        nanos_lt := Nat.mod_lt _ (by decide) }

/-- The whole milliseconds of a span, counted in 128 bits. -/
def millis (d : Duration) : BitVec 128 :=
  d.secs.toBitVec.setWidth 128 * 1000 + (d.nanos / 1000000).toBitVec.setWidth 128

end Duration

/-! ## Timeouts -/

/-- How long a wait may last. -/
inductive Timeout where
  | infinite
  | millis (n : UInt32)
  deriving DecidableEq, Repr

namespace Timeout

/-- The number that means "wait for ever". -/
def forever : UInt32 := 0xFFFFFFFF

/-- The number that the driver takes. -/
def asMillis : Timeout → UInt32
  | infinite => forever
  | millis n => min n (forever - 1)

/-- A count in 32 bits; the largest one stands for those that do not fit. -/
def narrow (n : BitVec 128) : UInt32 :=
  if n.toNat < UInt32.size then UInt32.ofNat n.toNat else 0xFFFFFFFF

/-- A timeout that lasts as long as a span. Spans that a finite timeout cannot express are
    infinite. -/
def ofSpan (d : Duration) : Timeout :=
  if forever ≤ narrow d.millis then infinite else millis (narrow d.millis)

/-- A timeout that lasts some seconds and nanoseconds. -/
def ofDuration (secs : UInt64) (nanos : UInt32) : Timeout :=
  match Duration.ofParts? secs nanos with
  | some d => ofSpan d
  | none => infinite

/-- A timeout as messages show it. -/
def message : Timeout → String
  | infinite => "infinite"
  | millis n => s!"{n} ms"

/-- A timeout as its constructor and argument. -/
def inspect : Timeout → String
  | infinite => "Infinite"
  | millis n => s!"Millis({n})"

end Timeout

end CameraControl
