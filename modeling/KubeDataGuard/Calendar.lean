import KubeDataGuard.General.TextOrder
import KubeDataGuard.Time

/-!
# Dates and times in order

The fields of a date, read from the year down, order dates as time does; so do
the texts `isoformat()` makes of them, for the years a `datetime` can have.
-/

namespace KubeDataGuard

/-- Year, month and day, the first difference deciding. -/
def Earlier (a b : Int × Int × Int) : Prop :=
  a.1 < b.1 ∨ a.1 = b.1 ∧ (a.2.1 < b.2.1 ∨ a.2.1 = b.2.1 ∧ a.2.2 < b.2.2)

/-- The year a day falls in when years begin in March, and its day of that year. -/
def marchYear (day : Int) : Int × Int :=
  let z := day + 719468
  let era := z.fdiv 146097
  let dayOfEra := z - era * 146097
  let yearOfEra := (dayOfEra - dayOfEra / 1460 + dayOfEra / 36524 - dayOfEra / 146096) / 365
  (yearOfEra + era * 400, dayOfEra - (365 * yearOfEra + yearOfEra / 4 - yearOfEra / 100))

/-- The date of a day of a year that begins in March: months of 153 days in five, and
January and February of the year after. -/
def marchDate (year dayOfYear : Int) : Int × Int × Int :=
  let shifted := (5 * dayOfYear + 2) / 153
  let month := if shifted < 10 then shifted + 3 else shifted - 9
  (year + (if month ≤ 2 then 1 else 0), month, dayOfYear - (153 * shifted + 2) / 5 + 1)

theorem civilDate_eq (day : Int) :
    civilDate day = marchDate (marchYear day).1 (marchYear day).2 := rfl

theorem yearOfEra_bounds {dayOfEra yearOfEra : Int} (low : 0 ≤ dayOfEra) (high : dayOfEra ≤ 146096)
    (h : yearOfEra =
      (dayOfEra - dayOfEra / 1460 + dayOfEra / 36524 - dayOfEra / 146096) / 365) :
    0 ≤ yearOfEra ∧ yearOfEra ≤ 399 ∧ 365 * yearOfEra + yearOfEra / 4 - yearOfEra / 100 ≤ dayOfEra ∧
      dayOfEra ≤ 365 * yearOfEra + yearOfEra / 4 - yearOfEra / 100 + 365 := by
  have range : 0 ≤ yearOfEra ∧ yearOfEra ≤ 399 := by omega
  have leapDays : yearOfEra / 4 ≤ dayOfEra / 1460 ∧ dayOfEra / 1460 ≤ yearOfEra / 4 + 1 := by omega
  -- the last day of an era is the one that ends a century with a leap day
  have centuries : yearOfEra / 100 + dayOfEra / 146096 = dayOfEra / 36524 := by
    have century : dayOfEra / 36524 = 0 ∨ dayOfEra / 36524 = 1 ∨ dayOfEra / 36524 = 2 ∨
        dayOfEra / 36524 = 3 ∨ dayOfEra / 36524 = 4 := by omega
    rcases century with h | h | h | h | h <;> omega
  omega

theorem yearOfEra_mono {a b : Int} (low : 0 ≤ a) (le : a ≤ b) (high : b ≤ 146096) :
    (a - a / 1460 + a / 36524 - a / 146096) / 365 ≤
      (b - b / 1460 + b / 36524 - b / 146096) / 365 := by
  have leapDays : b / 1460 - a / 1460 ≤ b - a := by omega
  have centuries : b / 146096 - a / 146096 ≤ b / 36524 - a / 36524 := by omega
  exact Int.ediv_le_ediv (by decide) (by omega)

theorem dayOfEra_bounds (z : Int) :
    0 ≤ z - z.fdiv 146097 * 146097 ∧ z - z.fdiv 146097 * 146097 ≤ 146096 := by
  have era := Int.fdiv_eq_ediv_of_nonneg z (show (0 : Int) ≤ 146097 by decide)
  omega

theorem dayOfYear_bounds (day : Int) : 0 ≤ (marchYear day).2 ∧ (marchYear day).2 ≤ 365 := by
  obtain ⟨low, high⟩ := dayOfEra_bounds (day + 719468)
  have year := yearOfEra_bounds low high rfl
  simp only [marchYear]
  omega

theorem marchYear_lt {a b : Int} (h : a < b) :
    (marchYear a).1 < (marchYear b).1 ∨
      (marchYear a).1 = (marchYear b).1 ∧ (marchYear a).2 < (marchYear b).2 := by
  have eras : (a + 719468).fdiv 146097 ≤ (b + 719468).fdiv 146097 := by
    rw [Int.fdiv_eq_ediv_of_nonneg _ (by decide), Int.fdiv_eq_ediv_of_nonneg _ (by decide)]
    omega
  obtain ⟨lowA, highA⟩ := dayOfEra_bounds (a + 719468)
  obtain ⟨lowB, highB⟩ := dayOfEra_bounds (b + 719468)
  obtain ⟨-, lastA, -⟩ := yearOfEra_bounds lowA highA rfl
  obtain ⟨firstB, -⟩ := yearOfEra_bounds lowB highB rfl
  simp only [marchYear]
  rcases Int.lt_or_eq_of_le eras with before | same
  · left
    clear lowA highA lowB highB h
    generalize (_ - _ / 146096) / 365 = yearA at lastA ⊢
    generalize (_ - _ / 146096) / 365 = yearB at firstB ⊢
    omega
  · -- within an era the year does not go back, and in one year the day goes on
    rw [← same] at lowB highB firstB ⊢
    have days : a + 719468 - (a + 719468).fdiv 146097 * 146097 <
        b + 719468 - (a + 719468).fdiv 146097 * 146097 := by omega
    have years := yearOfEra_mono lowA (Int.le_of_lt days) highB
    generalize (a + 719468).fdiv 146097 = era at *
    generalize a + 719468 - era * 146097 = dayA at *
    generalize b + 719468 - era * 146097 = dayB at *
    generalize (dayA - dayA / 1460 + dayA / 36524 - dayA / 146096) / 365 = yearA at *
    generalize (dayB - dayB / 1460 + dayB / 36524 - dayB / 146096) / 365 = yearB at *
    clear eras lowA highA lowB highB
    rcases Int.lt_or_eq_of_le years with less | rfl
    · left
      omega
    · right
      omega

theorem marchDate_earlier {year year' day day' : Int} (low : 0 ≤ day) (high : day ≤ 365)
    (low' : 0 ≤ day') (high' : day' ≤ 365) (h : year < year' ∨ year = year' ∧ day < day') :
    Earlier (marchDate year day) (marchDate year' day') := by
  have first : 0 ≤ (5 * day + 2) / 153 ∧ (5 * day + 2) / 153 ≤ 11 := by omega
  have second : 0 ≤ (5 * day' + 2) / 153 ∧ (5 * day' + 2) / 153 ≤ 11 := by omega
  have months : day < day' → (5 * day + 2) / 153 ≤ (5 * day' + 2) / 153 := by omega
  simp only [Earlier, marchDate]
  generalize (5 * day + 2) / 153 = s at *
  generalize (5 * day' + 2) / 153 = t at *
  rcases h with before | ⟨rfl, before⟩
  · split <;> split <;> omega
  · rcases Int.lt_or_eq_of_le (months before) with less | rfl
    · split <;> split <;> omega
    · right
      exact ⟨rfl, Or.inr ⟨rfl, by omega⟩⟩

/-- A later day has a later date. -/
theorem civilDate_earlier {a b : Int} (h : a < b) : Earlier (civilDate a) (civilDate b) := by
  obtain ⟨lowA, highA⟩ := dayOfYear_bounds a
  obtain ⟨lowB, highB⟩ := dayOfYear_bounds b
  rw [civilDate_eq, civilDate_eq]
  exact marchDate_earlier lowA highA lowB highB (marchYear_lt h)

theorem civilDate_bounds (day : Int) :
    (1 ≤ (civilDate day).2.1 ∧ (civilDate day).2.1 ≤ 12) ∧
      (1 ≤ (civilDate day).2.2 ∧ (civilDate day).2.2 ≤ 31) := by
  obtain ⟨low, high⟩ := dayOfYear_bounds day
  rw [civilDate_eq]
  simp only [marchDate]
  constructor
  · split <;> omega
  · omega

/-! ## Texts -/

/-- The year of an instant, in UTC. -/
def year (t : Instant) : Int := (civilDate ((t.fdiv 1000000).fdiv 86400)).1

/-- What a `datetime` can hold: the years from `MINYEAR` to `MAXYEAR`. -/
def Representable (t : Instant) : Prop := 1 ≤ year t ∧ year t ≤ 9999

instance : DecidablePred Representable := fun _ => instDecidableAnd

/-- A field of one width decides, unless it is the same. -/
theorem pad_append_lt {width : Nat} {m n : Int} {x y : String} (positive : 0 < width) (low : 0 ≤ m)
    (high : n < 10 ^ width) (h : m < n ∨ m = n ∧ x < y) : pad width m ++ x < pad width n ++ y := by
  obtain ⟨m, rfl⟩ := Int.eq_ofNat_of_zero_le low
  obtain ⟨n, rfl⟩ := Int.eq_ofNat_of_zero_le (show 0 ≤ n by omega)
  have fitsN : n < 10 ^ width := by exact_mod_cast high
  have fitsM : m < 10 ^ width := by omega
  have same : (pad width m).toList.length = (pad width n).toList.length := by
    rw [pad_length positive fitsM, pad_length positive fitsN]
  apply Texts.append_lt same
  rcases h with less | ⟨equal, rest⟩
  · left
    have spelled : Nat.ofDigitChars 10 (pad width m).toList 0 <
        Nat.ofDigitChars 10 (pad width n).toList 0 := by
      rw [pad_value, pad_value]
      omega
    exact String.lt_iff_toList_lt.mpr
      (Texts.digits_lt (fun _ => pad_digits) (fun _ => pad_digits) same spelled)
  · right
    exact ⟨congrArg (pad width) equal, rest⟩

/-- A field and its separator, and what is behind them. -/
theorem field_lt {width : Nat} {m n : Int} {x y : String} (separator : String)
    (positive : 0 < width) (low : 0 ≤ m) (high : n < 10 ^ width)
    (h : m < n ∨ m = n ∧ x < y) : pad width m ++ (separator ++ x) < pad width n ++ (separator ++ y) := by
  apply pad_append_lt positive low high
  rcases h with less | ⟨equal, rest⟩
  · exact Or.inl less
  · exact Or.inr ⟨equal, Texts.append_left_lt separator rest⟩

theorem dateText_lt {d e : Int × Int × Int} {x y : String} (low : 0 ≤ d.1 ∧ 0 ≤ d.2.1 ∧ 0 ≤ d.2.2)
    (high : e.1 < 10000 ∧ e.2.1 < 100 ∧ e.2.2 < 100) (h : Earlier d e ∨ d = e ∧ x < y) :
    pad 4 d.1 ++ ("-" ++ (pad 2 d.2.1 ++ ("-" ++ (pad 2 d.2.2 ++ ("T" ++ x))))) <
      pad 4 e.1 ++ ("-" ++ (pad 2 e.2.1 ++ ("-" ++ (pad 2 e.2.2 ++ ("T" ++ y))))) := by
  apply field_lt "-" (by decide) low.1 high.1
  rcases h with (years | ⟨year, later⟩) | ⟨rfl, rest⟩
  · exact Or.inl years
  · refine Or.inr ⟨year, field_lt "-" (by decide) low.2.1 high.2.1 ?_⟩
    rcases later with months | ⟨month, days⟩
    · exact Or.inl months
    · exact Or.inr ⟨month, field_lt "T" (by decide) low.2.2 high.2.2 (Or.inl days)⟩
  · refine Or.inr ⟨rfl, field_lt "-" (by decide) low.2.1 high.2.1 (Or.inr ⟨rfl, ?_⟩)⟩
    exact field_lt "T" (by decide) low.2.2 high.2.2 (Or.inr ⟨rfl, rest⟩)

/-- The time of a day, of which `rest` seconds have passed. -/
theorem clockText_lt {rest rest' : Int} {x y : String} (low : 0 ≤ rest) (high : rest' < 86400)
    (h : rest < rest' ∨ rest = rest' ∧ x < y) :
    pad 2 (rest / 3600) ++ (":" ++ (pad 2 (rest % 3600 / 60) ++ (":" ++ (pad 2 (rest % 60) ++ x)))) <
      pad 2 (rest' / 3600) ++
        (":" ++ (pad 2 (rest' % 3600 / 60) ++ (":" ++ (pad 2 (rest' % 60) ++ y)))) := by
  have hours : rest / 3600 < rest' / 3600 ∨ rest / 3600 = rest' / 3600 ∧
      (rest % 3600 / 60 < rest' % 3600 / 60 ∨ rest % 3600 / 60 = rest' % 3600 / 60 ∧
        (rest % 60 < rest' % 60 ∨ rest % 60 = rest' % 60 ∧ x < y)) := by
    rcases h with less | ⟨rfl, last⟩
    · omega
    · exact Or.inr ⟨rfl, Or.inr ⟨rfl, Or.inr ⟨rfl, last⟩⟩⟩
  apply field_lt ":" (by decide) (by omega) (by omega)
  rcases hours with hours | ⟨hour, minutes⟩
  · exact Or.inl hours
  · refine Or.inr ⟨hour, field_lt ":" (by decide) (by omega) (by omega) ?_⟩
    rcases minutes with minutes | ⟨minute, seconds⟩
    · exact Or.inl minutes
    · exact Or.inr ⟨minute, pad_append_lt (by decide) (by omega) (by omega) seconds⟩

theorem secondsText_append (unix : Int) (x : String) :
    secondsText unix ++ x =
      let date := civilDate (unix.fdiv 86400)
      let rest := unix.fmod 86400
      pad 4 date.1 ++ ("-" ++ (pad 2 date.2.1 ++ ("-" ++ (pad 2 date.2.2 ++ ("T" ++
        (pad 2 (rest / 3600) ++ (":" ++ (pad 2 (rest % 3600 / 60) ++ (":" ++
          (pad 2 (rest % 60) ++ x)))))))))) := by
  simp only [secondsText, String.append_assoc]

/-- The later of two numbers has the greater quotient, or the same and the greater rest. -/
theorem fdiv_lt_or {a b n : Int} (positive : 0 < n) (h : a < b) :
    a.fdiv n < b.fdiv n ∨ a.fdiv n = b.fdiv n ∧ a.fmod n < b.fmod n := by
  have partsA := Int.mul_fdiv_add_fmod a n
  have partsB := Int.mul_fdiv_add_fmod b n
  have quotients : a.fdiv n ≤ b.fdiv n := by
    rw [Int.fdiv_eq_ediv_of_nonneg a positive.le, Int.fdiv_eq_ediv_of_nonneg b positive.le]
    exact Int.ediv_le_ediv positive h.le
  rcases Int.lt_or_eq_of_le quotients with less | same
  · exact Or.inl less
  · rw [same] at partsA
    exact Or.inr ⟨same, by omega⟩

/-- Up to the seconds, what comes first is earlier. -/
theorem secondsText_lt {a b : Int} {x y : String}
    (first : 0 ≤ (civilDate (a.fdiv 86400)).1) (last : (civilDate (b.fdiv 86400)).1 < 10000)
    (h : a < b ∨ a = b ∧ x < y) : secondsText a ++ x < secondsText b ++ y := by
  have boundsA := civilDate_bounds (a.fdiv 86400)
  have boundsB := civilDate_bounds (b.fdiv 86400)
  have lowA := Int.fmod_nonneg_of_pos a (show (0 : Int) < 86400 by decide)
  have highA := Int.fmod_lt_of_pos a (show (0 : Int) < 86400 by decide)
  have lowB := Int.fmod_nonneg_of_pos b (show (0 : Int) < 86400 by decide)
  have highB := Int.fmod_lt_of_pos b (show (0 : Int) < 86400 by decide)
  rw [secondsText_append, secondsText_append]
  apply dateText_lt (by omega) (by omega)
  rcases h with less | ⟨rfl, rest⟩
  · rcases fdiv_lt_or (show (0 : Int) < 86400 by decide) less with days | ⟨day, later⟩
    · exact Or.inl (civilDate_earlier days)
    · exact Or.inr ⟨congrArg civilDate day, clockText_lt lowA highB (Or.inl later)⟩
  · exact Or.inr ⟨rfl, clockText_lt lowA highA (Or.inr ⟨rfl, rest⟩)⟩

/-- No fraction comes before any fraction: `+` comes before `.`. -/
theorem fractionText_lt {f g : Int} (low : 0 ≤ f) (less : f < g) (high : g < 1000000) :
    (if f = 0 then "" else "." ++ pad 6 f) ++ "+00:00" <
      (if g = 0 then "" else "." ++ pad 6 g) ++ "+00:00" := by
  rw [if_neg (show g ≠ 0 by omega), String.append_assoc]
  split
  · rw [String.lt_iff_toList_lt]
    simp only [String.toList_append]
    exact List.cons_lt_cons_iff.mpr (Or.inl (by decide))
  · rw [String.append_assoc]
    exact Texts.append_left_lt "." (pad_append_lt (by decide) low high (Or.inl less))

/-- `isoformat()` keeps the order of time. -/
theorem iso_lt {a b : Instant} (ha : Representable a) (hb : Representable b) (h : a < b) :
    iso a < iso b := by
  have low := Int.fmod_nonneg_of_pos a (show (0 : Int) < 1000000 by decide)
  have high := Int.fmod_lt_of_pos b (show (0 : Int) < 1000000 by decide)
  rw [iso, iso, String.append_assoc, String.append_assoc]
  -- the year is the only field that could lose its width
  apply secondsText_lt (Int.le_trans (by decide) ha.1) (Int.lt_of_le_of_lt hb.2 (by decide))
  rcases fdiv_lt_or (show (0 : Int) < 1000000 by decide) h with seconds | ⟨second, fraction⟩
  · exact Or.inl seconds
  · exact Or.inr ⟨second, fractionText_lt low fraction high⟩

end KubeDataGuard
