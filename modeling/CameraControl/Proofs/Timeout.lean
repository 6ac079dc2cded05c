import CameraControl.Timeout
import Mathlib.Algebra.Group.Nat.Defs

/-
  Spans of time as timeouts.

  The seconds and the nanoseconds of a span go through a carry, a count of milliseconds in 128 bits
  and a narrowing to 32 bits before they become a timeout. `toNanos` is the length of a span as a
  number without bounds: it is what the parts say, `toNanos_of_ofParts?`, none of the steps in
  between wraps around, `toNat_millis`, and so the number that the driver takes is the exact number
  of milliseconds, cut at the one that means "wait for ever", `toNat_asMillis_ofSpan`.
-/

namespace CameraControl

/-! ## Spans of time -/

namespace Duration

/-- The length of a span in nanoseconds. -/
def toNanos (d : Duration) : Nat := d.secs.toNat * 1000000000 + d.nanos.toNat

/-- There is a span of the given parts as long as the carry fits, and it is as long as they say. -/
theorem ofParts?_eq_some {secs : UInt64} {nanos : UInt32}
    (hfits : secs.toNat + nanos.toNat / 1000000000 < 2 ^ 64) :
    ∃ d, ofParts? secs nanos = some d ∧
      d.toNanos = secs.toNat * 1000000000 + nanos.toNat := by
  have hcarry : (nanos / 1000000000).toUInt64.toNat = nanos.toNat / 1000000000 := rfl
  have hwhole : (secs + (nanos / 1000000000).toUInt64).toNat =
      secs.toNat + nanos.toNat / 1000000000 := by
    rw [UInt64.toNat_add, hcarry, Nat.mod_eq_of_lt hfits]
  have hrest : (nanos % 1000000000).toNat = nanos.toNat % 1000000000 := rfl
  have hkept : ¬secs + (nanos / 1000000000).toUInt64 < secs := by
    rw [UInt64.lt_iff_toNat_lt, hwhole]
    omega
  refine ⟨_, if_neg hkept, ?_⟩
  show (secs + (nanos / 1000000000).toUInt64).toNat * 1000000000 +
    (nanos % 1000000000).toNat = _
  rw [hwhole, hrest]
  omega

/-- There is none if the carry does not fit: the sum wraps around by one turn and no more. -/
theorem ofParts?_eq_none {secs : UInt64} {nanos : UInt32}
    (hover : 2 ^ 64 ≤ secs.toNat + nanos.toNat / 1000000000) : ofParts? secs nanos = none := by
  have hcarry : (nanos / 1000000000).toUInt64.toNat = nanos.toNat / 1000000000 := rfl
  have hwrapped : secs + (nanos / 1000000000).toUInt64 < secs := by
    have hsecs := UInt64.toNat_lt secs
    have hnanos := UInt32.toNat_lt nanos
    rw [UInt64.lt_iff_toNat_lt, UInt64.toNat_add, hcarry]
    omega
  exact if_pos hwrapped

/-- A count of 128 bits is wide enough for the milliseconds of every span. -/
theorem toNat_millis (d : Duration) : d.millis.toNat = d.toNanos / 1000000 := by
  have hsecs : d.secs.toBitVec.toNat = d.secs.toNat := rfl
  have hnanos : (d.nanos / 1000000).toBitVec.toNat = d.nanos.toNat / 1000000 := rfl
  have hsecs_lt := UInt64.toNat_lt d.secs
  have hnanos_lt := d.nanos_lt
  rw [millis, toNanos, BitVec.toNat_add, BitVec.toNat_mul, BitVec.toNat_setWidth,
    BitVec.toNat_setWidth, hsecs, hnanos]
  have hthousand : (1000 : BitVec 128).toNat = 1000 := rfl
  rw [hthousand]
  omega

end Duration

/-! ## Timeouts -/

namespace Timeout

/-- Counts up to the largest one of 32 bits are narrowed without loss, and all others to it. -/
theorem toNat_narrow (n : BitVec 128) : (narrow n).toNat = min n.toNat (2 ^ 32 - 1) := by
  unfold narrow
  split
  · next hfits =>
    have hlt : n.toNat < 2 ^ 32 := hfits
    rw [UInt32.toNat_ofNat_of_lt' hlt]
    omega
  · next hover =>
    have hge : ¬n.toNat < 2 ^ 32 := hover
    show 2 ^ 32 - 1 = _
    omega

theorem toNat_forever : forever.toNat = 2 ^ 32 - 1 := rfl

/-- A span is without end as a timeout exactly when a finite one cannot express its milliseconds. -/
theorem ofSpan_eq_infinite_iff (d : Duration) :
    ofSpan d = infinite ↔ 2 ^ 32 - 1 ≤ d.toNanos / 1000000 := by
  have hreached : forever ≤ narrow d.millis ↔ 2 ^ 32 - 1 ≤ d.toNanos / 1000000 := by
    rw [UInt32.le_iff_toNat_le, toNat_forever, toNat_narrow, Duration.toNat_millis]
    omega
  rw [← hreached]
  unfold ofSpan
  split
  · next h => exact iff_of_true rfl h
  · next h => exact iff_of_false Timeout.noConfusion h

theorem toNat_asMillis_millis (n : UInt32) :
    (millis n).asMillis.toNat = min n.toNat (2 ^ 32 - 2) := by
  have hlast : (forever - 1).toNat = 2 ^ 32 - 2 := rfl
  show (if n ≤ forever - 1 then n else forever - 1).toNat = _
  split
  · next h =>
    rw [UInt32.le_iff_toNat_le, hlast] at h
    omega
  · next h =>
    rw [UInt32.le_iff_toNat_le, hlast] at h
    omega

/-- The driver takes the milliseconds of a span, up to the number that means "wait for ever". -/
theorem toNat_asMillis_ofSpan (d : Duration) :
    (ofSpan d).asMillis.toNat = min (d.toNanos / 1000000) (2 ^ 32 - 1) := by
  have hinfinite := ofSpan_eq_infinite_iff d
  by_cases hlong : 2 ^ 32 - 1 ≤ d.toNanos / 1000000
  · rw [hinfinite.mpr hlong, Nat.min_eq_right hlong]
    rfl
  · have hfinite : ofSpan d = millis (narrow d.millis) := by
      unfold ofSpan at hinfinite ⊢
      split
      · next h => exact absurd (hinfinite.mp (if_pos h)) hlong
      · rfl
    rw [hfinite, toNat_asMillis_millis, toNat_narrow, Duration.toNat_millis]
    omega

/-- No finite timeout is taken by the driver as one without end. -/
theorem asMillis_eq_forever_iff (t : Timeout) : t.asMillis = forever ↔ t = infinite := by
  cases t with
  | infinite => exact iff_of_true rfl rfl
  | millis n =>
    refine iff_of_false (fun h => ?_) Timeout.noConfusion
    have hnat := congrArg UInt32.toNat h
    rw [toNat_asMillis_millis, toNat_forever] at hnat
    omega

/-- Timeouts are exact, and infinite only where they have to be. The driver is told to wait for ever
    by an infinite timeout and by no other. Seconds and nanoseconds whose carry fits make a span as
    long as they say, and others make none. The timeout of a span is infinite exactly when its whole
    milliseconds reach the number that means "wait for ever", and otherwise the driver takes exactly
    these, so a longer span never has a shorter timeout. -/
theorem timeouts_saturate :
    (∀ t : Timeout, t.asMillis = forever ↔ t = infinite) ∧
    (∀ (secs : UInt64) (nanos : UInt32), secs.toNat + nanos.toNat / 1000000000 < 2 ^ 64 →
      let exact := (secs.toNat * 1000000000 + nanos.toNat) / 1000000
      (∃ d, Duration.ofParts? secs nanos = some d ∧
        d.toNanos = secs.toNat * 1000000000 + nanos.toNat ∧ ofDuration secs nanos = ofSpan d) ∧
      (ofDuration secs nanos = infinite ↔ 2 ^ 32 - 1 ≤ exact) ∧
      (exact < 2 ^ 32 - 1 → (ofDuration secs nanos).asMillis.toNat = exact) ∧
      (ofDuration secs nanos).asMillis.toNat = min exact (2 ^ 32 - 1)) ∧
    (∀ (secs : UInt64) (nanos : UInt32), 2 ^ 64 ≤ secs.toNat + nanos.toNat / 1000000000 →
      Duration.ofParts? secs nanos = none) ∧
    ∀ d d' : Duration, d.toNanos ≤ d'.toNanos → (ofSpan d).asMillis ≤ (ofSpan d').asMillis := by
  refine ⟨asMillis_eq_forever_iff, fun secs nanos hfits => ?_,
    fun _ _ => Duration.ofParts?_eq_none, fun d d' hle => ?_⟩
  · intro exact
    obtain ⟨d, hd, hnanos⟩ := Duration.ofParts?_eq_some hfits
    have hspan : ofDuration secs nanos = ofSpan d := by
      unfold ofDuration
      rw [hd]
    have hmillis : d.toNanos / 1000000 = exact := by rw [hnanos]
    have htaken := toNat_asMillis_ofSpan d
    rw [hmillis] at htaken
    rw [hspan, ofSpan_eq_infinite_iff, hmillis]
    refine ⟨⟨d, hd, hnanos, rfl⟩, Iff.rfl, fun hshort => ?_, htaken⟩
    rw [htaken, Nat.min_eq_left (Nat.le_of_lt hshort)]
  · rw [UInt32.le_iff_toNat_le, toNat_asMillis_ofSpan, toNat_asMillis_ofSpan]
    have hmillis : d.toNanos / 1000000 ≤ d'.toNanos / 1000000 := Nat.div_le_div_right hle
    omega

/-- A carry decides: with one nanosecond more, the nanoseconds make the last millisecond that the
    span has to have for ever. -/
theorem timeouts_saturate_at_carry :
    let d : Duration := ⟨4294967, 294999999, by decide⟩
    let d' : Duration := ⟨4294967, 295000000, by decide⟩
    (4294966 : UInt64).toNat + (1294999999 : UInt32).toNat / 1000000000 < 2 ^ 64 ∧
      (ofDuration 4294966 1294999999).asMillis.toNat = 4294967294 ∧
      (4294966 : UInt64).toNat + (1295000000 : UInt32).toNat / 1000000000 < 2 ^ 64 ∧
      ofDuration 4294966 1295000000 = infinite ∧
      Duration.ofParts? 0xFFFFFFFFFFFFFFFF 1000000000 = none ∧
      d.toNanos ≤ d'.toNanos ∧ (ofSpan d).asMillis ≤ (ofSpan d').asMillis := by
  intro d d'
  obtain ⟨-, hparts, hnone, hmono⟩ := timeouts_saturate
  have hshort : (4294966 : UInt64).toNat + (1294999999 : UInt32).toNat / 1000000000 < 2 ^ 64 := by
    decide
  have hlong : (4294966 : UInt64).toNat + (1295000000 : UInt32).toNat / 1000000000 < 2 ^ 64 := by
    decide
  have hlonger : d.toNanos ≤ d'.toNanos := by decide
  exact ⟨hshort, (hparts _ _ hshort).2.2.1 (by decide), hlong,
    (hparts _ _ hlong).2.1.mpr (by decide), hnone _ _ (by decide), hlonger, hmono _ _ hlonger⟩

end Timeout

end CameraControl
