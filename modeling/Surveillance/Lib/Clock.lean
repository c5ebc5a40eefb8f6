/-
# A millisecond clock that wraps

A 32-bit millisecond clock comes round every 49.7 days, and code subtracts two of its readings to
learn how much time has passed.  The difference is the time between them, less whole rounds: never
more than has passed, and exact for less than a round, as long as the reading subtracted from is
the LATER one.

That last condition is easily lost where two threads read the clock.  One takes its reading, the
other stamps an event with a reading of its own, and then the first subtracts the stamp from the
reading it took before: the difference is a whole round less the few milliseconds between them
(`millis_sub_early`), and every timeout has expired.

The time itself is a natural number here and never wraps; `millis` is what the clock shows of it.
-/
import Mathlib.Algebra.Group.Nat.Defs

/-- The reading of the clock at a time in milliseconds. -/
def millis (t : ℕ) : UInt32 := UInt32.ofNat t

theorem toNat_millis_sub {stamp now : ℕ} (h : stamp ≤ now) :
    (millis now - millis stamp).toNat = (now - stamp) % 2 ^ 32 := by
  rw [UInt32.toNat_sub, millis, millis, UInt32.toNat_ofNat', UInt32.toNat_ofNat']
  omega

/-- **No more than has passed**: a difference may be too small, after a round, but not too large. -/
theorem millis_sub_le {stamp now : ℕ} (h : stamp ≤ now) :
    (millis now - millis stamp).toNat ≤ now - stamp := by
  rw [toNat_millis_sub h]
  exact Nat.mod_le _ _

/-- **Exact for less than a round.** -/
theorem millis_sub_eq {stamp now : ℕ} (h : stamp ≤ now) (hround : now - stamp < 2 ^ 32) :
    (millis now - millis stamp).toNat = now - stamp := by
  rw [toNat_millis_sub h, Nat.mod_eq_of_lt hround]

/-- **A reading before the stamp looks like a round's time**, however short the time between the
two. -/
theorem millis_sub_early {stamp now : ℕ} (h : now < stamp) (hround : stamp - now ≤ 2 ^ 32) :
    (millis now - millis stamp).toNat = 2 ^ 32 - (stamp - now) := by
  rw [UInt32.toNat_sub, millis, millis, UInt32.toNat_ofNat', UInt32.toNat_ofNat']
  omega

/-- **A difference grows with the clock**, whatever it was taken to, until it wraps. -/
theorem millis_sub_add {stamp now : ℕ} (x : UInt32) (h : stamp ≤ now)
    (hround : (millis stamp - x).toNat + (now - stamp) < 2 ^ 32) :
    (millis now - x).toNat = (millis stamp - x).toNat + (now - stamp) := by
  have hx := x.toNat_lt
  rw [UInt32.toNat_sub, millis, UInt32.toNat_ofNat'] at hround
  rw [UInt32.toNat_sub, UInt32.toNat_sub, millis, millis, UInt32.toNat_ofNat',
    UInt32.toNat_ofNat']
  omega
