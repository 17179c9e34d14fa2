/-!
# Intervals

A length of time: whole seconds in a 64-bit word, and nanoseconds below one second. Main statements:
there is an interval of so many seconds and nanoseconds exactly if a word holds the seconds, those
carried from the nanoseconds included (`ofParts?_isSome`); it is as long as its parts together
(`toNanos_ofParts`); and an interval's own parts make it again (`ofParts?_parts`).
-/

namespace QueryAdmission

/-- Nanoseconds in a second. -/
abbrev nanosPerSecond : Nat := 1000000000

/-- A length of time. -/
structure Interval where
  secs : UInt64
  nanos : Nat
  nanos_lt : nanos < nanosPerSecond
  deriving DecidableEq, Repr

namespace Interval

/-- The length in nanoseconds. -/
def toNanos (d : Interval) : Nat := d.secs.toNat * nanosPerSecond + d.nanos

/-- Seconds and any number of nanoseconds: whole seconds among the nanoseconds are carried. There
is no interval of 2^64 seconds or more. -/
def ofParts? (secs nanos : Nat) : Option Interval :=
  if h : secs + nanos / nanosPerSecond < UInt64.size then
    some ⟨.ofNatLT (secs + nanos / nanosPerSecond) h, nanos % nanosPerSecond,
      Nat.mod_lt _ (by decide)⟩
  else none

/-- So many nanoseconds, of which a 64-bit word can count each. -/
def ofNanos (n : UInt64) : Interval :=
  ⟨.ofNat (n.toNat / nanosPerSecond), n.toNat % nanosPerSecond, Nat.mod_lt _ (by decide)⟩

theorem ofParts?_isSome {secs nanos : Nat} :
    (ofParts? secs nanos).isSome ↔ secs + nanos / nanosPerSecond < UInt64.size := by
  unfold ofParts?
  split
  · next h => exact ⟨fun _ => h, fun _ => rfl⟩
  · next h => exact ⟨fun hs => absurd hs Bool.false_ne_true, fun hs => absurd hs h⟩

theorem toNanos_ofParts {secs nanos : Nat} {d : Interval} (h : ofParts? secs nanos = some d) :
    d.toNanos = secs * nanosPerSecond + nanos := by
  unfold ofParts? at h
  split at h
  · cases h
    simp only [toNanos, UInt64.toNat_ofNatLT, nanosPerSecond]
    omega
  · cases h

/-- An interval's own parts make it again. -/
theorem ofParts?_parts (d : Interval) : ofParts? d.secs.toNat d.nanos = some d := by
  obtain ⟨s, n, hn⟩ := d
  have hq : s.toNat + n / nanosPerSecond = s.toNat := by rw [Nat.div_eq_of_lt hn, Nat.add_zero]
  have hs : s.toNat + n / nanosPerSecond < UInt64.size :=
    Nat.lt_of_le_of_lt (Nat.le_of_eq hq) s.toNat_lt_size
  have hw : UInt64.ofNatLT (s.toNat + n / nanosPerSecond) hs = s :=
    UInt64.toNat_inj.1 (by rw [UInt64.toNat_ofNatLT, hq])
  have hn' : n % nanosPerSecond = n := Nat.mod_eq_of_lt hn
  show ofParts? s.toNat n = _
  rw [ofParts?, dif_pos hs]
  simp only [hw, hn']

/-! ### Text -/

/-- The digits of `n`, with zeros in front up to the width. -/
def padded (width n : Nat) : List Char :=
  List.replicate (width - n.repr.toList.length) '0' ++ n.repr.toList

/-- A whole number of units and a fraction of `width` digits, whose trailing zeros are left out. -/
def decimal (whole fraction width : Nat) (unit : String) : String :=
  let digits := ((padded width fraction).reverse.dropWhile (· = '0')).reverse
  whole.repr ++ (if digits = [] then "" else "." ++ String.ofList digits) ++ unit

/-- The interval in the largest unit of which it has at least one. -/
def text (d : Interval) : String :=
  if 0 < d.secs.toNat then decimal d.secs.toNat d.nanos 9 "s"
  else if 1000000 ≤ d.nanos then decimal (d.nanos / 1000000) (d.nanos % 1000000) 6 "ms"
  else if 1000 ≤ d.nanos then decimal (d.nanos / 1000) (d.nanos % 1000) 3 "µs"
  else d.nanos.repr ++ "ns"

example : (ofNanos 15000000).text = "15ms" := by decide +kernel
example : (ofNanos 1050000000).text = "1.05s" := by decide +kernel
example : (ofNanos 30500).text = "30.5µs" := by decide +kernel
example : (ofNanos 0).text = "0ns" := by decide +kernel

end Interval

end QueryAdmission
