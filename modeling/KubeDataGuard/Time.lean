import Mathlib.Algebra.Group.Nat.Defs
import Mathlib.Data.List.Basic

/-!
# Time texts

The operator formats Unix seconds as RFC 3339; the worker formats datetimes
of microsecond resolution with `isoformat()` in UTC. Both count from the epoch.
-/

namespace KubeDataGuard

/-- Microseconds since the epoch, the resolution of `datetime` and `timestamptz`. -/
abbrev Instant := Int

def seconds (n : Int) : Instant := n * 1000000

/-- Year, month and day of a day number counted from 1970-01-01. -/
def civilDate (day : Int) : Int × Int × Int :=
  let z := day + 719468
  let era := z.fdiv 146097
  let dayOfEra := z - era * 146097
  let yearOfEra := (dayOfEra - dayOfEra / 1460 + dayOfEra / 36524 - dayOfEra / 146096) / 365
  let dayOfYear := dayOfEra - (365 * yearOfEra + yearOfEra / 4 - yearOfEra / 100)
  let shifted := (5 * dayOfYear + 2) / 153
  let month := if shifted < 10 then shifted + 3 else shifted - 9
  let year := yearOfEra + era * 400 + (if month ≤ 2 then 1 else 0)
  (year, month, dayOfYear - (153 * shifted + 2) / 5 + 1)

def pad (width : Nat) (n : Int) : String :=
  let digits := (toString n).toList
  String.ofList (List.replicate (width - digits.length) '0' ++ digits)

/-- `YYYY-MM-DDTHH:MM:SS` of Unix seconds in UTC. -/
def secondsText (unix : Int) : String :=
  let (year, month, day) := civilDate (unix.fdiv 86400)
  let rest := unix.fmod 86400
  pad 4 year ++ "-" ++ pad 2 month ++ "-" ++ pad 2 day ++ "T" ++
    pad 2 (rest / 3600) ++ ":" ++ pad 2 (rest % 3600 / 60) ++ ":" ++ pad 2 (rest % 60)

/-- `Format(time.RFC3339)` of a time in UTC. -/
def rfc3339 (unix : Int) : String := secondsText unix ++ "Z"

/-- `iso`: `isoformat()` in UTC, without a fraction when it is zero. -/
def iso (t : Instant) : String :=
  let fraction := t.fmod 1000000
  secondsText (t.fdiv 1000000) ++ (if fraction = 0 then "" else "." ++ pad 6 fraction) ++ "+00:00"

/-- `strftime("%Y-%m-%dT%H:%M:%SZ", gmtime())`. -/
def strftimeUtc (t : Instant) : String := secondsText (t.fdiv 1000000) ++ "Z"

theorem pad_nat (width n : Nat) : (pad width n).toList =
    List.replicate (width - (Nat.toDigits 10 n).length) '0' ++ Nat.toDigits 10 n := by
  have digits : (toString (n : Int)).toList = Nat.toDigits 10 n := Nat.toList_repr
  rw [pad, String.toList_ofList, digits]

theorem pad_value (width n : Nat) : Nat.ofDigitChars 10 (pad width n).toList 0 = n := by
  rw [pad_nat, Nat.ofDigitChars_append, Nat.ofDigitChars_replicate_zero, Nat.mul_zero,
    Nat.ofDigitChars_ten_toDigits]

theorem pad_digits {width n : Nat} {c : Char} (h : c ∈ (pad width n).toList) : c.isDigit := by
  rw [pad_nat] at h
  rcases List.mem_append.mp h with h | h
  · rw [List.eq_of_mem_replicate h]
    rfl
  · exact Nat.isDigit_of_mem_toDigits (by decide) (by decide) h

/-- A padded number is read back. -/
theorem pad_injective (width : Nat) {m n : Nat} (h : pad width m = pad width n) : m = n := by
  rw [← pad_value width m, h, pad_value]

/-- A number that fits is padded to the width exactly. -/
theorem pad_length {width n : Nat} (positive : 0 < width) (fits : n < 10 ^ width) :
    (pad width n).toList.length = width := by
  have short := (Nat.length_toDigits_le_iff (by decide) positive).mpr fits
  rw [pad_nat, List.length_append, List.length_replicate]
  omega

example : rfc3339 1781265600 = "2026-06-12T12:00:00Z" := by decide +kernel

example : iso 1767225602000500 = "2026-01-01T00:00:02.000500+00:00" := by decide +kernel

end KubeDataGuard
