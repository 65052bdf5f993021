import VulnScan.Time.Calendar

/-! # Days and dates

`dateOfDay` gives every day a date that exists, and `dayNumber` takes it back to the day. The day is
looked for in its year and then in its month, so both lemmas rest on what `monthAndDay` finds.
-/

set_option autoImplicit false

namespace VulnScan.Time

/-- The total of some lengths, counted from `start`. -/
def total (start : Nat) (ls : List Nat) : Nat := ls.foldl (· + ·) start

theorem total_cons (start l : Nat) (ls : List Nat) :
    total start (l :: ls) = total (start + l) ls := rfl

/-- Day `k` lies in one of the months, and as many days come before it as the months before it
have and the days before it in its month. -/
theorem monthAndDay_spec {ls : List Nat} {k start : Nat} (m : Nat)
    (h : start + k < total start ls) :
    ∃ i, ∃ hi : i < ls.length, (monthAndDay m ls k).1 = m + i ∧
      1 ≤ (monthAndDay m ls k).2 ∧ (monthAndDay m ls k).2 ≤ ls[i] ∧
      total start (ls.take i) + ((monthAndDay m ls k).2 - 1) = start + k := by
  induction ls generalizing k start m with
  | nil => exact absurd h (by simp [total])
  | cons l ls ih =>
    by_cases hk : k < l
    · refine ⟨0, Nat.succ_pos _, ?_⟩
      simp only [monthAndDay, if_pos hk, List.getElem_cons_zero, List.take_zero, total,
        List.foldl_nil]
      omega
    · have hlater : start + l + (k - l) < total (start + l) ls := by
        rw [total_cons] at h
        omega
      obtain ⟨i, hi, hmonth, hfirst, hlast, hcount⟩ := ih (m + 1) hlater
      refine ⟨i + 1, Nat.succ_lt_succ hi, ?_⟩
      simp only [monthAndDay, if_neg hk, List.getElem_cons_succ, List.take_succ_cons, total_cons]
      exact ⟨by omega, hfirst, hlast, by omega⟩

/-- The months of a year have as many days as the year. -/
theorem total_monthLengths (y : Int) :
    total 0 (monthLengths y) = if isLeapYear y then 366 else 365 := by
  cases h : isLeapYear y <;> simp [total, monthLengths, h]

/-- A date is found within its year. -/
theorem day_lt_total (n : Int) :
    (n - yearStart (yearOfDay n)).toNat < total 0 (monthLengths (yearOfDay n)) := by
  have hbounds := yearOfDay_bounds n
  have hnext := yearStart_succ (yearOfDay n)
  rw [total_monthLengths]
  split at hnext <;> simp_all <;> omega

theorem dateOfDay_spec (n : Int) :
    ∃ i, ∃ hi : i < (monthLengths (yearOfDay n)).length, (dateOfDay n).month = i + 1 ∧
      1 ≤ (dateOfDay n).day ∧ (dateOfDay n).day ≤ (monthLengths (yearOfDay n))[i] ∧
      (total 0 ((monthLengths (yearOfDay n)).take i) : Int) + ((dateOfDay n).day - 1 : Nat)
        = n - yearStart (yearOfDay n) := by
  have hlt : 0 + (n - yearStart (yearOfDay n)).toNat < total 0 (monthLengths (yearOfDay n)) := by
    rw [Nat.zero_add]
    exact day_lt_total n
  obtain ⟨i, hi, hmonth, hfirst, hlast, hcount⟩ := monthAndDay_spec 1 hlt
  have hyear := (yearOfDay_bounds n).1
  refine ⟨i, hi, ?_, hfirst, hlast, ?_⟩
  · exact hmonth.trans (Nat.add_comm _ _)
  · have hday : (dateOfDay n).day = (monthAndDay 1 (monthLengths (yearOfDay n))
        (n - yearStart (yearOfDay n)).toNat).2 := rfl
    rw [hday]
    omega

/-- Every day has a date that exists. -/
theorem isValid_dateOfDay (n : Int) : (dateOfDay n).isValid = true := by
  obtain ⟨i, hi, hmonth, hfirst, hlast, -⟩ := dateOfDay_spec n
  have hcount : i < 12 := hi
  have hlength : monthLength (dateOfDay n).year (dateOfDay n).month
      = (monthLengths (yearOfDay n))[i] := by
    have hyear : (dateOfDay n).year = yearOfDay n := rfl
    rw [monthLength, hmonth, hyear, if_neg (Nat.succ_ne_zero i), Nat.add_sub_cancel,
      List.getD_eq_getElem?_getD, List.getElem?_eq_getElem hi]
    rfl
  simp only [Date.isValid, hlength, Bool.and_eq_true, decide_eq_true_eq]
  omega

/-- No month has more than 31 days. -/
theorem day_dateOfDay_le (n : Int) : (dateOfDay n).day ≤ 31 := by
  obtain ⟨i, hi, -, -, hlast, -⟩ := dateOfDay_spec n
  have hlong : ∀ l ∈ monthLengths (yearOfDay n), l ≤ 31 := by
    intro l hl
    simp only [monthLengths, List.mem_cons, List.not_mem_nil, or_false] at hl
    split at hl <;> omega
  exact Nat.le_trans hlast (hlong _ (List.getElem_mem hi))

/-- The date of a day has the number of the day. -/
theorem dayNumber_dateOfDay (n : Int) : dayNumber (dateOfDay n) = n := by
  obtain ⟨i, hi, hmonth, -, -, hcount⟩ := dateOfDay_spec n
  have hyear : (dateOfDay n).year = yearOfDay n := rfl
  have hstart : monthStart (yearOfDay n) (i + 1) = total 0 ((monthLengths (yearOfDay n)).take i) :=
    rfl
  rw [dayNumber, hyear, hmonth, hstart]
  omega

theorem yearStart_mono {y y' : Int} (h : y ≤ y') : yearStart y ≤ yearStart y' := by
  simp only [yearStart]
  omega

/-- Days between the first days of two years lie in the years between. -/
theorem yearOfDay_between {first last n : Int} (hfirst : yearStart first ≤ n)
    (hlast : n < yearStart (last + 1)) : first ≤ yearOfDay n ∧ yearOfDay n ≤ last := by
  have hbounds := yearOfDay_bounds n
  constructor
  · refine Int.not_lt.1 fun hearly => ?_
    have := yearStart_mono (show yearOfDay n + 1 ≤ first by omega)
    omega
  · refine Int.not_lt.1 fun hlate => ?_
    have := yearStart_mono (show last + 1 ≤ yearOfDay n by omega)
    omega

end VulnScan.Time
