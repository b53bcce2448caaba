import SupplyChainHub.Library.Numerals
import SupplyChainHub.Pipelines.Keys

/-!
Calendar dates as `datetime.date` counts them, and the texts they are written as: the order of the texts is that of
the days.
-/

namespace SupplyChainHub

def isLeap (year : Nat) : Bool := year % 4 = 0 && (year % 100 ≠ 0 || year % 400 = 0)

def monthLength (leap : Bool) (month : Nat) : Nat :=
  if month = 2 then 28 + leap.toNat
  else if month = 4 ∨ month = 6 ∨ month = 9 ∨ month = 11 then 30
  else 31

def daysBeforeYear (year : Nat) : Nat := (year - 1) * 365 + (year - 1) / 4 - (year - 1) / 100 + (year - 1) / 400

def daysBeforeMonth (leap : Bool) (month : Nat) : Nat :=
  ((List.range (month - 1)).map fun earlier => monthLength leap (earlier + 1)).sum

namespace CalendarDate

structure Valid (d : CalendarDate) : Prop where
  year : 1 ≤ d.year ∧ d.year ≤ 9999
  month : 1 ≤ d.month ∧ d.month ≤ 12
  day : 1 ≤ d.day ∧ d.day ≤ monthLength (isLeap d.year) d.month

instance (d : CalendarDate) : Decidable d.Valid :=
  decidable_of_iff ((1 ≤ d.year ∧ d.year ≤ 9999) ∧ (1 ≤ d.month ∧ d.month ≤ 12) ∧
    1 ≤ d.day ∧ d.day ≤ monthLength (isLeap d.year) d.month)
    ⟨fun all => ⟨all.1, all.2.1, all.2.2⟩, fun valid => ⟨valid.year, valid.month, valid.day⟩⟩

/-- `toordinal` -/
def ordinal (d : CalendarDate) : Nat := daysBeforeYear d.year + daysBeforeMonth (isLeap d.year) d.month + d.day

/-- The day after. -/
def next (d : CalendarDate) : CalendarDate :=
  if d.day < monthLength (isLeap d.year) d.month then { d with day := d.day + 1 }
  else if d.month < 12 then { d with month := d.month + 1, day := 1 }
  else ⟨d.year + 1, 1, 1⟩

def Before (d e : CalendarDate) : Prop :=
  d.year < e.year ∨ d.year = e.year ∧ (d.month < e.month ∨ d.month = e.month ∧ d.day < e.day)

end CalendarDate

/-! ### Days -/

section
variable {d e : CalendarDate}

theorem month_within (leap : Bool) {month : Nat} (late : month ≤ 12) :
    daysBeforeMonth leap month + monthLength leap month ≤ 365 + leap.toNat := by
  have each : ∀ leap : Bool, ∀ month ≤ 12, daysBeforeMonth leap month + monthLength leap month ≤ 365 + leap.toNat := by
    decide
  exact each leap month late

theorem month_before (leap : Bool) {month later : Nat} (after : month < later) (late : later ≤ 12) (first : 1 ≤ month) :
    daysBeforeMonth leap month + monthLength leap month ≤ daysBeforeMonth leap later := by
  have each : ∀ leap : Bool, ∀ later ≤ 12, ∀ month < later, 1 ≤ month →
      daysBeforeMonth leap month + monthLength leap month ≤ daysBeforeMonth leap later := by decide
  exact each leap later late month after first

theorem daysBeforeMonth_succ (leap : Bool) {month : Nat} (first : 1 ≤ month) :
    daysBeforeMonth leap (month + 1) = daysBeforeMonth leap month + monthLength leap month := by
  obtain ⟨m, rfl⟩ := Nat.exists_eq_add_of_le' first
  simp [daysBeforeMonth, List.range_succ]

theorem leap_count (year : Nat) : (year + 1) / 4 + (year + 1) / 400 + year / 100 =
    year / 4 + year / 400 + (year + 1) / 100 + (isLeap (year + 1)).toNat := by
  by_cases fourth : (year + 1) % 4 = 0
  · by_cases century : (year + 1) % 100 = 0
    · by_cases fourCenturies : (year + 1) % 400 = 0
      · have leap : isLeap (year + 1) = true := by simp [isLeap, fourth, fourCenturies]
        rw [leap, Bool.toNat_true]
        omega
      · have leap : isLeap (year + 1) = false := by simp [isLeap, century, fourCenturies]
        rw [leap, Bool.toNat_false]
        omega
    · have leap : isLeap (year + 1) = true := by simp [isLeap, fourth, century]
      rw [leap, Bool.toNat_true]
      omega
  · have leap : isLeap (year + 1) = false := by simp [isLeap, fourth]
    rw [leap, Bool.toNat_false]
    omega

theorem daysBeforeYear_succ {year : Nat} (first : 1 ≤ year) :
    daysBeforeYear (year + 1) = daysBeforeYear year + 365 + (isLeap year).toNat := by
  obtain ⟨y, rfl⟩ := Nat.exists_eq_add_of_le' first
  have leaps := leap_count y
  unfold daysBeforeYear
  rw [Nat.add_sub_cancel, Nat.add_sub_cancel]
  omega

theorem daysBeforeYear_mono {year later : Nat} (le : year ≤ later) : daysBeforeYear year ≤ daysBeforeYear later := by
  unfold daysBeforeYear
  rcases Nat.eq_or_lt_of_le (Nat.sub_le_sub_right le 1) with same | before
  · rw [same]
  · omega

theorem ordinal_next (valid : d.Valid) : d.next.ordinal = d.ordinal + 1 := by
  have first := valid.month.1
  have last := valid.day.2
  unfold CalendarDate.next
  split
  · rfl
  · rename_i ended
    have day : d.day = monthLength (isLeap d.year) d.month := by omega
    split
    · simp only [CalendarDate.ordinal, daysBeforeMonth_succ _ first, day]
      omega
    · rename_i december
      have twelve : d.month = 12 := by
        have := valid.month.2
        omega
      have full : ∀ leap : Bool, daysBeforeMonth leap 12 + monthLength leap 12 = 365 + leap.toNat := by decide
      have year := full (isLeap d.year)
      simp only [CalendarDate.ordinal, daysBeforeYear_succ valid.year.1, day, twelve]
      have start : daysBeforeMonth (isLeap (d.year + 1)) 1 = 0 := rfl
      omega

theorem ordinal_lt (first : d.Valid) (second : e.Valid) (before : d.Before e) : d.ordinal < e.ordinal := by
  have fits := first.day.2
  have positive := second.day.1
  unfold CalendarDate.ordinal
  rcases before with year | ⟨year, month | ⟨month, day⟩⟩
  · have within := month_within (isLeap d.year) first.month.2
    have yearEnd := daysBeforeYear_succ first.year.1
    have mono := daysBeforeYear_mono (show d.year + 1 ≤ e.year from year)
    omega
  · rw [← year]
    have before := month_before (isLeap d.year) month second.month.2 first.month.1
    omega
  · rw [← year, ← month]
    omega

theorem before_cases (d e : CalendarDate) : d.Before e ∨ d = e ∨ e.Before d := by
  cases d
  cases e
  unfold CalendarDate.Before
  simp only [CalendarDate.mk.injEq]
  omega

theorem ordinal_lt_iff (first : d.Valid) (second : e.Valid) : d.ordinal < e.ordinal ↔ d.Before e := by
  refine ⟨fun less => ?_, ordinal_lt first second⟩
  rcases before_cases d e with before | rfl | after
  · exact before
  · omega
  · have := ordinal_lt second first after
    omega

theorem ordinal_inj (first : d.Valid) (second : e.Valid) (same : d.ordinal = e.ordinal) : d = e := by
  rcases before_cases d e with before | equal | after
  · have := ordinal_lt first second before
    omega
  · exact equal
  · have := ordinal_lt second first after
    omega

/-! ### Texts -/

theorem padded_toList {width n : Nat} (positive : 0 < width) (fits : n < 10 ^ width) :
    (padded width n).toList = Numerals.digits width n := by
  rw [padded, String.toList_append, String.toList_ofList, ← String.length_toList, Nat.toList_repr]
  exact Numerals.replicate_toDigits positive fits

theorem day_le (valid : d.Valid) : d.day ≤ 31 := by
  refine valid.day.2.trans ?_
  unfold monthLength
  cases isLeap d.year <;> split <;> (try split) <;> decide

theorem isoformat_toList (valid : d.Valid) : d.isoformat.toList =
    Numerals.digits 4 d.year ++ '-' :: (Numerals.digits 2 d.month ++ '-' :: Numerals.digits 2 d.day) := by
  have dash : "-".toList = ['-'] := rfl
  have month := valid.month.2
  have day := day_le valid
  unfold CalendarDate.isoformat
  simp only [String.toList_append, dash, List.append_assoc, List.cons_append, List.nil_append]
  rw [padded_toList (by decide) (Nat.lt_of_le_of_lt valid.year.2 (by decide)),
    padded_toList (by decide) (Nat.lt_of_le_of_lt month (by decide)),
    padded_toList (by decide) (Nat.lt_of_le_of_lt day (by decide))]

theorem isoformat_length (valid : d.Valid) : d.isoformat.toList.length = 10 := by
  rw [isoformat_toList valid]
  simp

/-- The texts stand in the order of the days. -/
theorem isoformat_lt (first : d.Valid) (second : e.Valid) (before : d.Before e) :
    d.isoformat.toList < e.isoformat.toList := by
  have years : d.year < 10 ^ 4 ∧ e.year < 10 ^ 4 :=
    ⟨Nat.lt_of_le_of_lt first.year.2 (by decide), Nat.lt_of_le_of_lt second.year.2 (by decide)⟩
  have months : d.month < 10 ^ 2 ∧ e.month < 10 ^ 2 :=
    ⟨Nat.lt_of_le_of_lt first.month.2 (by decide), Nat.lt_of_le_of_lt second.month.2 (by decide)⟩
  have days : d.day < 10 ^ 2 ∧ e.day < 10 ^ 2 :=
    ⟨Nat.lt_of_le_of_lt (day_le first) (by decide), Nat.lt_of_le_of_lt (day_le second) (by decide)⟩
  rw [isoformat_toList first, isoformat_toList second, Numerals.append_lt_append (by simp)]
  rcases before with year | ⟨year, later⟩
  · exact .inl ((Numerals.digits_lt years.1 years.2).mpr year)
  · refine .inr ⟨congrArg _ year, List.cons_lt_cons_iff.mpr (.inr ⟨rfl, ?_⟩)⟩
    rw [Numerals.append_lt_append (by simp)]
    rcases later with month | ⟨month, day⟩
    · exact .inl ((Numerals.digits_lt months.1 months.2).mpr month)
    · exact .inr ⟨congrArg _ month, List.cons_lt_cons_iff.mpr (.inr ⟨rfl, (Numerals.digits_lt days.1 days.2).mpr day⟩)⟩

end

end SupplyChainHub
