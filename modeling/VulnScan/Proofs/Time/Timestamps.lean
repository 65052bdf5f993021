import VulnScan.Proofs.Outcomes
import VulnScan.Proofs.Text.Numerals
import VulnScan.Proofs.Text.Pieces
import VulnScan.Proofs.Time.Dates
import VulnScan.Time.Timestamp.Reader

/-! # Timestamps are read as they are written

A timestamp is read from its own text (`read_text`): in leap seconds, with any number of nanoseconds
and in years that take more than four digits or a sign. Each part of the text has a lemma that says
what its reader makes of it and that it leaves the rest.

One kind of timestamp is lost: a leap second after a second other than 59 has the text of the next
second, and is read as that (`settled`). No text is read as such a timestamp (`isCivil_of_read`).
-/

set_option autoImplicit false

namespace VulnScan.Time.Timestamp

open Text

/-! ## Blanks -/

/-- No blank stands in front of digits. -/
theorem trimLeft_digits {ds r : List Char} (hds : ∀ c ∈ ds, isDigit c = true) (hne : ds ≠ []) :
    trimLeft (ds ++ r) = ds ++ r := by
  obtain ⟨c, cs, rfl⟩ := List.exists_cons_of_ne_nil hne
  exact trimLeft_cons (isBlank_of_isDigit (hds c List.mem_cons_self)) _

/-! ## Numbers -/

theorem number_append {width : Option Nat} {ds r : List Char} (hds : ∀ c ∈ ds, isDigit c = true)
    (hne : ds ≠ []) (hr : NoDigit r) (hwidth : ∀ w, width = some w → ds.length ≤ w)
    (hvalue : value ds < 0x8000000000000000) : number width (ds ++ r) = .ok (value ds, r) := by
  have hsome : ds ++ r ≠ [] := by simp [hne]
  cases width with
  | none => simp [number, takeWhile_isDigit hds hr, hne, hvalue]
  | some w =>
    have htaken : ds.take w = ds := List.take_of_length_le (hwidth w rfl)
    simp [number, takeWhile_isDigit hds hr, htaken, hne, hvalue]

/-- The numeral of a number, filled with zeros. -/
theorem number_padded {width : Option Nat} {w n : Nat} (hw : 0 < w) (hn : n < 10 ^ w)
    (hwidth : ∀ v, width = some v → w ≤ v) (hbound : n < 0x8000000000000000) {r : List Char}
    (hr : NoDigit r) : number width (padded w n ++ r) = .ok (n, r) := by
  have hvalue := value_padded w n
  have hread : number width (padded w n ++ r) = .ok (value (padded w n), r) :=
    number_append (fun _ => isDigit_of_mem_padded) (padded_ne_nil w n) hr
      (fun v hv => by rw [length_padded hw hn]; exact hwidth v hv) (by rwa [hvalue])
  rwa [hvalue] at hread

theorem field_append {low high n : Nat} (hlow : low ≤ n) (hhigh : n ≤ high) (hn : n < 100)
    {r : List Char} (hr : NoDigit r) : field low high (padded 2 n ++ r) = .ok (n, r) := by
  have hread : number (some 2) (padded 2 n ++ r) = .ok (n, r) :=
    number_padded (Nat.succ_pos 1) hn (by simp) (by omega) hr
  rw [field, trimLeft_digits (fun _ => isDigit_of_mem_padded) (padded_ne_nil 2 n), hread]
  simp [bind, Except.bind, hlow, hhigh]

theorem mark_cons {c : Char} (h : isBlank c = false) (r : List Char) :
    mark c (c :: r) = .ok ((), r) := by
  simp [mark, trimLeft_cons h]

/-! ## Years -/

theorem yearWithin_plain {low high : Int} {n : Nat} (hn : n < 10000) (hlow : low ≤ n)
    (hhigh : n < high) {r : List Char} (hr : NoDigit r) :
    yearWithin low high (padded 4 n ++ r) = .ok ((n : Int), r) := by
  have hdigits : ∀ c ∈ padded 4 n, isDigit c = true := fun _ => isDigit_of_mem_padded
  have hread : number (some 4) (padded 4 n ++ r) = .ok (n, r) :=
    number_padded (by decide) hn (by simp) (by omega) hr
  have hmark : ∀ {c t}, padded 4 n ++ r = c :: t → isDigit c = true := by
    intro c t h
    obtain ⟨d, ds, hds⟩ := List.exists_cons_of_ne_nil (padded_ne_nil 4 n)
    rw [hds, List.cons_append] at h
    cases h
    exact hdigits _ (by rw [hds]; exact List.mem_cons_self)
  rw [yearWithin, trimLeft_digits hdigits (padded_ne_nil 4 n)]
  split
  · next h => exact absurd (hmark h) (by decide)
  · next h => exact absurd (hmark h) (by decide)
  · simp [bind, Except.bind, pure, Except.pure, hread, hlow, hhigh]

/-- A year with a sign has any number of digits. -/
theorem number_year {n : Nat} (hn : n < 1000000) {r : List Char} (hr : NoDigit r) :
    number none (padded 4 n ++ r) = .ok (n, r) := by
  have hvalue := value_padded 4 n
  have hread := number_append (fun _ => isDigit_of_mem_padded) (padded_ne_nil 4 n) hr
    (show ∀ w, none = some w → (padded 4 n).length ≤ w by simp) (by omega)
  rwa [hvalue] at hread

theorem yearWithin_minus {low high : Int} {n : Nat} (hn : n < 1000000) (hlow : low ≤ -(n : Int))
    (hhigh : -(n : Int) < high) {r : List Char} (hr : NoDigit r) :
    yearWithin low high ('-' :: padded 4 n ++ r) = .ok (-(n : Int), r) := by
  rw [yearWithin, List.cons_append, trimLeft_cons (by decide)]
  simp [bind, Except.bind, pure, Except.pure, number_year hn hr, hlow, hhigh]

theorem yearWithin_plus {low high : Int} {n : Nat} (hn : n < 1000000) (hlow : low ≤ n)
    (hhigh : n < high) {r : List Char} (hr : NoDigit r) :
    yearWithin low high ('+' :: padded 4 n ++ r) = .ok ((n : Int), r) := by
  rw [yearWithin, List.cons_append, trimLeft_cons (by decide)]
  simp [bind, Except.bind, pure, Except.pure, number_year hn hr, hlow, hhigh]

/-- A year is read from its text, whether it has a sign or not. -/
theorem year_append {y : Int} (hfirst : firstYear ≤ y) (hlast : y ≤ lastYear) {r : List Char}
    (hr : NoDigit r) : year (yearText y ++ r) = .ok (y, r) := by
  simp only [firstYear, lastYear] at hfirst hlast
  rw [year, yearText]
  by_cases hplain : 0 ≤ y ∧ y ≤ 9999
  · have hy : (y.toNat : Int) = y := Int.toNat_of_nonneg hplain.1
    have hread := yearWithin_plain (show y.toNat < 10000 by omega)
      (show (-0x80000000 : Int) ≤ y.toNat by omega) (show (y.toNat : Int) < 0x80000000 by omega) hr
    rw [hy] at hread
    rwa [if_pos hplain]
  · rw [if_neg hplain]
    have hdigits : y.natAbs < 1000000 := by omega
    by_cases hneg : y < 0
    · have hy : -(y.natAbs : Int) = y := by omega
      have hread := yearWithin_minus hdigits (show (-0x80000000 : Int) ≤ -(y.natAbs : Int) by omega)
        (show -(y.natAbs : Int) < 0x80000000 by omega) hr
      rw [hy] at hread
      rwa [if_pos hneg]
    · have hy : (y.natAbs : Int) = y := by omega
      have hread := yearWithin_plus hdigits (show (-0x80000000 : Int) ≤ y.natAbs by omega)
        (show (y.natAbs : Int) < 0x80000000 by omega) hr
      rw [hy] at hread
      rwa [if_neg hneg]

/-! ## Fractions of a second -/

/-- Places after the point that stand for nanoseconds. -/
theorem fraction_places {w n : Nat} (hw : 0 < w) (hw9 : w ≤ 9) (hn : n < 10 ^ w) {r : List Char}
    (hr : NoDigit r) : fraction ('.' :: (padded w n ++ r)) = .ok (n * Nat.pow 10 (9 - w), r) := by
  have hbound : n < 0x8000000000000000 := by
    have : 10 ^ w ≤ 10 ^ 9 := Nat.pow_le_pow_right (by decide) hw9
    omega
  have hread : number (some 9) (padded w n ++ r) = .ok (n, r) :=
    number_padded hw hn (by rintro v ⟨⟩; exact hw9) hbound hr
  have hrest : r.dropWhile isDigit = r := by
    cases r with
    | nil => rfl
    | cons c r => simp [hr c rfl]
  have hplaces : (padded w n ++ r).length - r.length = w := by
    rw [List.length_append, length_padded hw hn]
    omega
  simp only [fraction, hread, bind, Except.bind, hplaces, hrest]

theorem fraction_append {n : Nat} (hn : n < nanosPerSecond) {r : List Char}
    (hr : NoDigit r) (hpoint : ∀ t, r ≠ '.' :: t) : fraction (nanoText n ++ r) = .ok (n, r) := by
  simp only [nanosPerSecond] at hn
  rw [nanoText]
  split
  · next hzero =>
    rw [List.nil_append, fraction, hzero]
    exact hpoint
  · split
    · next hmillis =>
      rw [List.cons_append, fraction_places (by decide) (by decide) (by omega) hr]
      congr 2
      show n / 1000000 * 1000000 = n
      omega
    · split
      · next hmicros =>
        rw [List.cons_append, fraction_places (by decide) (by decide) (by omega) hr]
        congr 2
        show n / 1000 * 1000 = n
        omega
      · rw [List.cons_append, fraction_places (by decide) (by decide) (by omega) hr]
        simp

/-! ## The whole text -/

theorem zone_utc : zone ['Z'] = .ok (0, []) := rfl

theorem of?_self (t : Timestamp) : of? t.day t.second t.nano = some t := by
  simp [of?, t.isMoment]

/-- What the parts of a timestamp satisfy. -/
theorem bounds (t : Timestamp) : firstDay ≤ t.day ∧ t.day ≤ lastDay ∧ t.second < 86400 ∧
    t.nano < 2000000000 := by
  have h := t.isMoment
  simp only [Time.isMoment, secondsPerDay, nanosPerSecond, Bool.and_eq_true,
    decide_eq_true_eq] at h
  omega

theorem year_bounds (t : Timestamp) : firstYear ≤ t.date.year ∧ t.date.year ≤ lastYear := by
  obtain ⟨hfirst, hlast, -, -⟩ := t.bounds
  exact yearOfDay_between hfirst (by rw [lastDay] at hlast; omega)

/-- The date and the time of a timestamp, at no offset, are that timestamp. -/
theorem atOffset_date (t : Timestamp) : atOffset t.date t.second t.nano 0 = .ok t := by
  obtain ⟨hfirst, hlast⟩ := t.year_bounds
  obtain ⟨-, -, hsecond, -⟩ := t.bounds
  have hvalid : t.date.isValid = true := isValid_dateOfDay t.day
  have hday : dayNumber t.date = t.day := dayNumber_dateOfDay t.day
  have hdays : ((t.second : Int) - 0) / (secondsPerDay : Int) = 0 := by
    simp only [secondsPerDay]
    omega
  have hseconds : (((t.second : Int) - 0) % (secondsPerDay : Int)).toNat = t.second := by
    simp only [secondsPerDay]
    omega
  have hyears : ¬ t.date.year < firstYear ∧ ¬ lastYear < t.date.year := by omega
  rw [atOffset]
  simp only [hvalid, hyears.1, hyears.2, hday, hdays, hseconds, Int.add_zero, of?_self]
  simp

theorem text_eq (t : Timestamp) :
    t.text = yearText t.date.year ++ '-' :: (padded 2 t.date.month ++ '-' :: (padded 2 t.date.day
      ++ 'T' :: (padded 2 (t.second / 3600) ++ ':' :: (padded 2 (t.second / 60 % 60)
        ++ ':' :: (padded 2 (t.second % 60 + t.nano / nanosPerSecond)
          ++ (nanoText (t.nano % nanosPerSecond) ++ ['Z'])))))) := by
  simp [text]

/-- A point, or the end of the text, comes after the seconds. -/
theorem noDigit_nanoText (n : Nat) : NoDigit (nanoText n ++ ['Z']) := by
  rw [nanoText]
  split
  · exact noDigit_cons (by decide) _
  · split
    · exact noDigit_cons (by decide) _
    · split <;> exact noDigit_cons (by decide) _

/-! ## Leap seconds -/

/-- A leap second of the timestamp, if it is one, follows a second 59. -/
def isCivil (t : Timestamp) : Bool := t.nano < nanosPerSecond || t.second % 60 = 59

theorem isCivil_iff {t : Timestamp} :
    t.isCivil = true ↔ t.nano < 1000000000 ∨ t.second % 60 = 59 := by
  simp [isCivil, nanosPerSecond]

/-- A timestamp with a misplaced leap second, at the second after it. -/
theorem isMoment_next {t : Timestamp} (h : ¬ t.isCivil = true) :
    Time.isMoment t.day (t.second + 1) (t.nano - nanosPerSecond) = true := by
  obtain ⟨hfirst, hlast, hsecond, hnano⟩ := t.bounds
  rw [isCivil_iff] at h
  simp only [Time.isMoment, secondsPerDay, nanosPerSecond, Bool.and_eq_true, decide_eq_true_eq]
  omega

/-- The timestamp that the text of `t` stands for: a leap second that follows another second than
59 is taken for the next second. -/
def settled (t : Timestamp) : Timestamp :=
  if h : t.isCivil = true then t
  else ⟨t.day, t.second + 1, t.nano - nanosPerSecond, isMoment_next h⟩

theorem settled_of_isCivil {t : Timestamp} (h : t.isCivil = true) : t.settled = t := dif_pos h

theorem settled_of_not_isCivil {t : Timestamp} (h : ¬ t.isCivil = true) :
    t.settled = ⟨t.day, t.second + 1, t.nano - nanosPerSecond, isMoment_next h⟩ := dif_neg h

theorem isCivil_settled (t : Timestamp) : t.settled.isCivil = true := by
  by_cases h : t.isCivil = true
  · rwa [settled_of_isCivil h]
  · have hnano := t.bounds.2.2.2
    rw [settled_of_not_isCivil h, isCivil_iff]
    left
    show t.nano - 1000000000 < 1000000000
    omega

theorem settled_eq_self_iff {t : Timestamp} : t.settled = t ↔ t.isCivil = true :=
  ⟨fun h => h ▸ t.isCivil_settled, settled_of_isCivil⟩

/-- A misplaced leap second and the next second have the same text. -/
theorem text_settled (t : Timestamp) : t.settled.text = t.text := by
  by_cases h : t.isCivil = true
  · rw [settled_of_isCivil h]
  · obtain ⟨-, -, -, hnano⟩ := t.bounds
    rw [isCivil_iff] at h
    have hhour : (t.second + 1) / 3600 = t.second / 3600 := by omega
    have hminute : (t.second + 1) / 60 % 60 = t.second / 60 % 60 := by omega
    have hsecond : (t.second + 1) % 60 + (t.nano - nanosPerSecond) / nanosPerSecond
        = t.second % 60 + t.nano / nanosPerSecond := by
      simp only [nanosPerSecond]
      omega
    have hrest : (t.nano - nanosPerSecond) % nanosPerSecond = t.nano % nanosPerSecond := by
      simp only [nanosPerSecond]
      omega
    rw [settled_of_not_isCivil (isCivil_iff.not.2 h)]
    simp only [text, date, hhour, hminute, hsecond, hrest]

/-- A second 60 is a leap second, which the timestamp keeps as nanoseconds beyond the second before
it. -/
theorem read_text_of_isCivil {t : Timestamp} (hcivil : t.isCivil = true) :
    read t.text = .ok t := by
  obtain ⟨hfirst, hlast⟩ := t.year_bounds
  obtain ⟨-, -, hsecond, hnano⟩ := t.bounds
  rw [isCivil_iff] at hcivil
  have hvalid : t.date.isValid = true := isValid_dateOfDay t.day
  have hday : t.date.day ≤ 31 := day_dateOfDay_le t.day
  simp only [Date.isValid, Bool.and_eq_true, decide_eq_true_eq] at hvalid
  have hmark : ∀ {c : Char} {r : List Char}, isDigit c = false → NoDigit (c :: r) := fun h =>
    noDigit_cons h _
  have hminus : ∀ r, mark '-' ('-' :: r) = .ok ((), r) := mark_cons (by decide)
  have hcolon : ∀ r, mark ':' (':' :: r) = .ok ((), r) := mark_cons (by decide)
  have hsixty : t.second % 60 + t.nano / nanosPerSecond ≤ 60 := by
    simp only [nanosPerSecond]
    omega
  -- the leap second, taken out of the seconds again
  have hleap : (if t.second % 60 + t.nano / nanosPerSecond = 60 then 1 else 0)
      = t.nano / nanosPerSecond := by
    simp only [nanosPerSecond]
    split <;> omega
  have hseconds : t.second / 3600 * 3600 + t.second / 60 % 60 * 60
      + (t.second % 60 + t.nano / nanosPerSecond - t.nano / nanosPerSecond) = t.second := by
    omega
  have hnanos : t.nano % nanosPerSecond + t.nano / nanosPerSecond * nanosPerSecond = t.nano := by
    simp only [nanosPerSecond]
    omega
  rw [read, text_eq, year_append hfirst hlast (hmark (by decide))]
  simp only [bind, Except.bind, pure, Except.pure, hminus]
  rw [field_append hvalid.1.1.1 hvalid.1.1.2 (by omega) (hmark (by decide))]
  simp only [hminus]
  rw [field_append hvalid.1.2 hday (by omega) (hmark (by decide))]
  simp only []
  rw [field_append (Nat.zero_le _) (by omega) (by omega) (hmark (by decide))]
  simp only [hcolon]
  rw [field_append (Nat.zero_le _) (by omega) (by omega) (hmark (by decide))]
  simp only [hcolon]
  rw [field_append (Nat.zero_le _) hsixty (by omega) (noDigit_nanoText _)]
  simp only []
  rw [fraction_append (Nat.mod_lt _ (by decide)) (hmark (by decide)) (by simp)]
  simp only [trimLeft_cons (show isBlank 'Z' = false by decide), zone_utc, hleap, hseconds, hnanos]
  rw [if_pos (.inr (.inl trivial)), if_neg (by decide)]
  exact t.atOffset_date

/-- **Every timestamp is read from its text**, but for leap seconds that follow another second than
59: these are read as the next second. -/
theorem read_text (t : Timestamp) : read t.text = .ok t.settled := by
  rw [← text_settled, read_text_of_isCivil t.isCivil_settled]

/-! ## What texts stand for -/

/-- A number of a greatest width is the value of the digits that were read. -/
theorem number_some_eq_ok {w : Nat} {s r : List Char} {n : Nat}
    (h : number (some w) s = .ok (n, r)) :
    ∃ ds, (∀ c ∈ ds, isDigit c = true) ∧ ds.length ≤ w ∧ s = ds ++ r ∧ value ds = n := by
  have hprefix : (s.takeWhile isDigit).take w <+: s :=
    (List.take_prefix _ _).trans (List.takeWhile_prefix _)
  simp only [number] at h
  split at h
  · cases h
  split at h
  · cases h
  split at h
  · cases h
    refine ⟨(s.takeWhile isDigit).take w, fun c hc => ?_, List.length_take_le _ _,
      (List.prefix_iff_eq_append.1 hprefix).symm, rfl⟩
    exact List.all_eq_true.1 List.all_takeWhile c (List.mem_of_mem_take hc)
  · cases h

/-- A fraction of a second is less than a second. -/
theorem fraction_lt {s r : List Char} {n : Nat} (h : fraction s = .ok (n, r)) :
    n < nanosPerSecond := by
  unfold fraction at h
  split at h
  · next r' =>
    obtain ⟨⟨m, rest⟩, hread, h⟩ := bind_eq_ok_iff.1 h
    obtain ⟨ds, hds, hnine, rfl, rfl⟩ := number_some_eq_ok hread
    have hlength : (ds ++ rest).length - rest.length = ds.length := by simp
    cases h
    rw [hlength]
    calc value ds * 10 ^ (9 - ds.length)
        < 10 ^ ds.length * 10 ^ (9 - ds.length) :=
          Nat.mul_lt_mul_of_pos_right (value_lt hds) (Nat.pow_pos (by decide))
      _ = 10 ^ 9 := by rw [← Nat.pow_add, Nat.add_sub_cancel' hnine]
      _ = nanosPerSecond := rfl
  · cases h
    decide

/-- Offsets are whole minutes. -/
theorem offset_minutes {s r : List Char} {o : Int} (h : offset s = .ok (o, r)) : o % 60 = 0 := by
  unfold offset at h
  split at h
  · cases h
  · split at h
    · cases h
      rfl
    · split at h
      · obtain ⟨⟨hours, r₁⟩, -, h⟩ := bind_eq_ok_iff.1 h
        obtain ⟨⟨minutes, r₂⟩, -, h⟩ := bind_eq_ok_iff.1 h
        cases h
        split <;> omega
      · cases h

theorem zone_minutes {s r : List Char} {o : Int} (h : zone s = .ok (o, r)) : o % 60 = 0 := by
  unfold zone at h
  split at h
  · split at h
    · cases h
      rfl
    · exact offset_minutes h
  · exact offset_minutes h

theorem of?_eq_some {day : Int} {second nano : Nat} {t : Timestamp}
    (h : of? day second nano = some t) : t.second = second ∧ t.nano = nano := by
  unfold of? at h
  split at h
  · obtain rfl := Option.some.inj h
    exact ⟨rfl, rfl⟩
  · cases h

/-- A time at an offset of whole minutes has its leap second after a second 59, as it is read. -/
theorem isCivil_of_atOffset {d : Date} {hour minute second nano : Nat} {offset : Int}
    {t : Timestamp} (hnano : nano < nanosPerSecond) (hoffset : offset % 60 = 0)
    (h : atOffset d (hour * 3600 + minute * 60 + (second - if second = 60 then 1 else 0))
      (nano + (if second = 60 then 1 else 0) * nanosPerSecond) offset = .ok t) :
    t.isCivil = true := by
  unfold atOffset at h
  split at h
  · cases h
  split at h
  · cases h
  dsimp only at h
  split at h
  · next t' hof =>
    cases h
    obtain ⟨hsecond', hnano'⟩ := of?_eq_some hof
    rw [isCivil_iff, hsecond', hnano']
    simp only [secondsPerDay, nanosPerSecond] at hnano ⊢
    by_cases hleap : second = 60
    · right
      rw [if_pos hleap]
      omega
    · left
      rw [if_neg hleap]
      omega
  · cases h

/-- No text is read as a leap second that follows another second than 59. -/
theorem isCivil_of_read {s : List Char} {t : Timestamp} (h : read s = .ok t) :
    t.isCivil = true := by
  unfold read at h
  obtain ⟨⟨y, s⟩, -, h⟩ := bind_eq_ok_iff.1 h
  obtain ⟨⟨_, s⟩, -, h⟩ := bind_eq_ok_iff.1 h
  obtain ⟨⟨m, s⟩, -, h⟩ := bind_eq_ok_iff.1 h
  obtain ⟨⟨_, s⟩, -, h⟩ := bind_eq_ok_iff.1 h
  obtain ⟨⟨d, s⟩, -, h⟩ := bind_eq_ok_iff.1 h
  -- the separator between date and time
  cases s with
  | nil => cases h
  | cons c s =>
    by_cases hc : c = 't' ∨ c = 'T' ∨ c = ' '
    · simp only [if_pos hc] at h
      obtain ⟨s, -, h⟩ := bind_eq_ok_iff.1 h
      obtain ⟨⟨hour, s⟩, -, h⟩ := bind_eq_ok_iff.1 h
      obtain ⟨⟨_, s⟩, -, h⟩ := bind_eq_ok_iff.1 h
      obtain ⟨⟨minute, s⟩, -, h⟩ := bind_eq_ok_iff.1 h
      obtain ⟨⟨_, s⟩, -, h⟩ := bind_eq_ok_iff.1 h
      obtain ⟨⟨second, s⟩, -, h⟩ := bind_eq_ok_iff.1 h
      obtain ⟨⟨nano, s⟩, hnano, h⟩ := bind_eq_ok_iff.1 h
      obtain ⟨⟨offset, s⟩, hoffset, h⟩ := bind_eq_ok_iff.1 h
      dsimp only at h
      split at h
      · cases h
      · exact isCivil_of_atOffset (fraction_lt hnano) (zone_minutes hoffset) h
    · simp only [if_neg hc] at h
      cases h

end VulnScan.Time.Timestamp
