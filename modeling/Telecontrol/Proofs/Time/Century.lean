import Telecontrol.Proofs.Time.Tag
import Telecontrol.Time.Century

/-!
# Times across centuries, there and back

A wall clock that lies in a window of a hundred years goes over the wire with a year of two digits and comes
back, cut to whole milliseconds. A time tag that names a day and a time of day is the tag of that wall clock.

* `WallClock.Valid`: a day of the calendar with a time of day that is no leap second.
* `Cp56Time.fullYear_eq_iff`: the year of a time tag is the one of the window that ends in its two digits.
* `Cp56Time.Named`, `Cp56Time.reading`: a time tag whose fields are a wall clock, and the wall clock.
* `Cp56Time.canonical_ofWallClock`: the bits of a time tag are enough for a wall clock.
* `Cp56Time.toWallClock?_ofWallClock`, `Cp56Time.ofWallClock_reading`: there and back, from either end.
* `Cp56Time.wallClock_faithful`: all of it, for every window.
-/

namespace Telecontrol

/-! ## Numbers in bits -/

theorem toNat_ofNat_octet {n : Nat} (h : n < 256) : (UInt8.ofNat n).toNat = n := by
  rw [UInt8.toNat_ofNat']
  exact Nat.mod_eq_of_lt h

/-- A number that fits into `k` bits is not changed by their mask. -/
theorem ofNat_and_of_le {n k : Nat} {m : UInt8} (hm : m.toNat = Nat.pow 2 k - 1) (hn : n ≤ m.toNat) :
    UInt8.ofNat n &&& m = UInt8.ofNat n := by
  have hpos : 0 < Nat.pow 2 k := Nat.pow_pos (by decide)
  have hoctet : n < 256 := Nat.lt_of_le_of_lt hn m.toNat_lt
  have hlt : n < Nat.pow 2 k := by omega
  apply UInt8.toNat_inj.1
  rw [UInt8.toNat_and, hm, toNat_ofNat_octet hoctet]
  exact (Nat.and_two_pow_sub_one_eq_mod n k).trans (Nat.mod_eq_of_lt hlt)

/-! ## Wall clocks -/

namespace WallClock

/-- A day of the calendar with a time of day, outside leap seconds. -/
structure Valid (c : WallClock) : Prop where
  date : c.date.Valid
  hour : c.hour < 24
  minute : c.minute < 60
  second : c.second < 60
  nanosecond : c.nanosecond < 1000000000

/-- The wall clock at the last whole millisecond. -/
def truncated (c : WallClock) : WallClock :=
  { c with nanosecond := c.nanosecond / 1000000 * 1000000 }

end WallClock

theorem Date.dayOfWeek_le (d : Date) : d.dayOfWeek ≤ 7 := by
  unfold dayOfWeek
  omega

theorem Date.Valid.day_le {d : Date} (h : d.Valid) : d.day ≤ 31 := by
  obtain ⟨-, -, -, -, -, hday⟩ := h
  have hmonth : daysInMonth d.year d.month ≤ 31 := by
    unfold daysInMonth
    split <;> split <;> omega
  exact Nat.le_trans hday hmonth

namespace Cp56Time

variable {t : Cp56Time} {c : WallClock} {startYear : Int}

/-! ## Years -/

/-- Whatever the window, the year of a time tag ends in its two digits. -/
theorem fullYear_emod (hy : t.year.toNat ≤ 99) (startYear : Int) :
    t.fullYear startYear % 100 = t.year.toNat := by
  unfold fullYear
  dsimp only
  split <;> omega

theorem fullYear_eq_iff (h0 : 0 ≤ startYear) (hy : t.year.toNat ≤ 99) {year : Int} :
    t.fullYear startYear = year ↔
      startYear ≤ year ∧ year ≤ startYear + 99 ∧ year % 100 = t.year.toNat := by
  unfold fullYear
  rw [Int.tdiv_eq_ediv_of_nonneg h0, Int.tmod_eq_emod_of_nonneg h0]
  dsimp only
  -- The digits are a year of this century or of the next, and the window holds just one of the two.
  split <;> constructor <;> omega

/-! ## The parts of a time tag -/

theorem toNat_second (t : Cp56Time) : t.second.toNat = t.milliseconds.toNat / 1000 := by
  have hms := t.milliseconds.toNat_lt
  unfold second
  rw [UInt16.toNat_toUInt8, UInt16.toNat_div]
  show t.milliseconds.toNat / 1000 % 256 = _
  omega

theorem toNat_millisecond (t : Cp56Time) : t.millisecond.toNat = t.milliseconds.toNat % 1000 :=
  UInt16.toNat_mod t.milliseconds 1000

theorem second_lt_iff : t.second.toNat < 60 ↔ t.milliseconds.toNat ≤ 59999 := by
  rw [toNat_second]
  omega

/-- The fields of a time tag are a day and a time of day. -/
structure Named (t : Cp56Time) (startYear : Int) : Prop where
  date : Date.Valid ⟨t.fullYear startYear, t.month.toNat, t.day.toNat⟩
  hours : t.hours.toNat < 24
  minutes : t.minutes.toNat < 60
  milliseconds : t.milliseconds.toNat ≤ 59999

/-- The fields of a time tag, taken for a wall clock. -/
def reading (t : Cp56Time) (startYear : Int) : WallClock where
  date := ⟨t.fullYear startYear, t.month.toNat, t.day.toNat⟩
  hour := t.hours.toNat
  minute := t.minutes.toNat
  second := t.milliseconds.toNat / 1000
  nanosecond := t.milliseconds.toNat % 1000 * 1000000

theorem toWallClock?_of_named (h : t.Named startYear) : t.toWallClock? startYear = some (t.reading startYear) := by
  unfold toWallClock? reading
  dsimp only
  rw [if_pos ⟨h.date, h.hours, h.minutes, second_lt_iff.2 h.milliseconds⟩, toNat_second, toNat_millisecond]

theorem toWallClock?_of_not_named (h : ¬ t.Named startYear) : t.toWallClock? startYear = none := by
  unfold toWallClock?
  dsimp only
  rw [if_neg]
  rintro ⟨hdate, hhours, hminutes, hsecond⟩
  exact h ⟨hdate, hhours, hminutes, second_lt_iff.1 hsecond⟩

theorem toWallClock?_eq_some (h : t.toWallClock? startYear = some c) :
    t.Named startYear ∧ c = t.reading startYear := by
  by_cases hn : t.Named startYear
  · rw [toWallClock?_of_named hn, Option.some.injEq] at h
    exact ⟨hn, h.symm⟩
  · rw [toWallClock?_of_not_named hn] at h
    cases h

theorem toWallClock?_eq_none_iff : t.toWallClock? startYear = none ↔ ¬ t.Named startYear := by
  constructor
  · intro hnone hn
    rw [toWallClock?_of_named hn] at hnone
    cases hnone
  · exact toWallClock?_of_not_named

/-- The year of a time tag is one that the calendar has, as long as the window lies in it. -/
theorem not_named_iff (h0 : 0 ≤ startYear) (h99 : startYear + 99 ≤ Date.lastYear) (hy : t.year.toNat ≤ 99) :
    ¬ t.Named startYear ↔
      ¬ (1 ≤ t.month.toNat ∧ t.month.toNat ≤ 12 ∧ 1 ≤ t.day.toNat ∧
        t.day.toNat ≤ daysInMonth (t.fullYear startYear) t.month.toNat) ∨
      23 < t.hours.toNat ∨ 59 < t.minutes.toNat ∨ 59999 < t.milliseconds.toNat := by
  obtain ⟨hfirst, hlast, -⟩ := (fullYear_eq_iff h0 hy).1 rfl
  have hrange : Date.firstYear ≤ t.fullYear startYear ∧ t.fullYear startYear ≤ Date.lastYear := by
    unfold Date.firstYear
    omega
  constructor
  · intro hn
    by_cases hday : 1 ≤ t.month.toNat ∧ t.month.toNat ≤ 12 ∧ 1 ≤ t.day.toNat ∧
        t.day.toNat ≤ daysInMonth (t.fullYear startYear) t.month.toNat
    · right
      have htime : ¬ (t.hours.toNat < 24 ∧ t.minutes.toNat < 60 ∧ t.milliseconds.toNat ≤ 59999) := by
        rintro ⟨hhours, hminutes, hms⟩
        exact hn ⟨⟨hrange.1, hrange.2, hday⟩, hhours, hminutes, hms⟩
      omega
    · exact Or.inl hday
  · rintro hparts ⟨⟨-, -, hday⟩, hhours, hminutes, hms⟩
    rcases hparts with h | h | h | h
    · exact h hday
    all_goals omega

/-! ## The time tag of a wall clock -/

/-- The bits of a time tag are enough for every wall clock. -/
theorem canonical_ofWallClock (h : c.Valid) : (ofWallClock c).canonical = ofWallClock c := by
  obtain ⟨hdate, hhour, hminute, -, -⟩ := h
  have hday := hdate.day_le
  have hweek := c.date.dayOfWeek_le
  obtain ⟨-, -, -, hmonth, -⟩ := hdate
  have hminutes : UInt8.ofNat c.minute &&& 0x3F = UInt8.ofNat c.minute :=
    ofNat_and_of_le (k := 6) rfl (show c.minute ≤ 63 by omega)
  have hhours : UInt8.ofNat c.hour &&& 0x1F = UInt8.ofNat c.hour :=
    ofNat_and_of_le (k := 5) rfl (show c.hour ≤ 31 by omega)
  have hdays : UInt8.ofNat c.date.day &&& 0x1F = UInt8.ofNat c.date.day :=
    ofNat_and_of_le (k := 5) rfl (show c.date.day ≤ 31 by omega)
  have hweeks : UInt8.ofNat c.date.dayOfWeek &&& 0x07 = UInt8.ofNat c.date.dayOfWeek :=
    ofNat_and_of_le (k := 3) rfl (show c.date.dayOfWeek ≤ 7 by omega)
  have hmonths : UInt8.ofNat c.date.month &&& 0x0F = UInt8.ofNat c.date.month :=
    ofNat_and_of_le (k := 4) rfl (show c.date.month ≤ 15 by omega)
  have hyears : UInt8.ofNat (c.date.year % 100).toNat &&& 0x7F = UInt8.ofNat (c.date.year % 100).toNat :=
    ofNat_and_of_le (k := 7) rfl (show (c.date.year % 100).toNat ≤ 127 by omega)
  unfold canonical ofWallClock
  dsimp only
  rw [hminutes, hhours, hdays, hweeks, hmonths, hyears]

theorem milliseconds_ofWallClock (h : c.Valid) :
    (ofWallClock c).milliseconds.toNat = c.second * 1000 + c.nanosecond / 1000000 := by
  have hsecond := h.second
  have hnanosecond := h.nanosecond
  show (UInt16.ofNat (c.second * 1000 + min (c.nanosecond / 1000000) 999)).toNat = _
  rw [UInt16.toNat_ofNat']
  show (c.second * 1000 + min (c.nanosecond / 1000000) 999) % 65536 = _
  omega

/-- The time tag of a wall clock of the window is read as this wall clock, to the millisecond. -/
theorem toWallClock?_ofWallClock (h0 : 0 ≤ startYear) (h : c.Valid) (hfirst : startYear ≤ c.date.year)
    (hlast : c.date.year ≤ startYear + 99) :
    (ofWallClock c).toWallClock? startYear = some c.truncated := by
  have hms := milliseconds_ofWallClock h
  obtain ⟨hdate, hhour, hminute, hsecond, hnanosecond⟩ := h
  have hday := hdate.day_le
  have hmonth : c.date.month ≤ 12 := by
    obtain ⟨-, -, -, hmonth, -⟩ := hdate
    exact hmonth
  have hyear : (ofWallClock c).year.toNat = (c.date.year % 100).toNat := toNat_ofNat_octet (by omega)
  have hmonths : (ofWallClock c).month.toNat = c.date.month := toNat_ofNat_octet (by omega)
  have hdays : (ofWallClock c).day.toNat = c.date.day := toNat_ofNat_octet (by omega)
  have hhours : (ofWallClock c).hours.toNat = c.hour := toNat_ofNat_octet (by omega)
  have hminutes : (ofWallClock c).minutes.toNat = c.minute := toNat_ofNat_octet (by omega)
  have hfull : (ofWallClock c).fullYear startYear = c.date.year := by
    apply (fullYear_eq_iff h0 (by omega)).2
    omega
  have hnamed : (ofWallClock c).Named startYear := by
    constructor
    · rw [hfull, hmonths, hdays]
      exact hdate
    · omega
    · omega
    · omega
  rw [toWallClock?_of_named hnamed]
  have hseconds : (c.second * 1000 + c.nanosecond / 1000000) / 1000 = c.second := by omega
  have hrest : (c.second * 1000 + c.nanosecond / 1000000) % 1000 = c.nanosecond / 1000000 := by omega
  unfold reading WallClock.truncated
  rw [hfull, hmonths, hdays, hhours, hminutes, hms, hseconds, hrest]

/-- A time tag that is read as a wall clock is the tag of this wall clock, but for what is not in it. -/
theorem ofWallClock_reading (hy : t.year.toNat ≤ 99) (h : t.Named startYear) :
    ofWallClock (t.reading startYear) =
      { t with
        dayOfWeek := UInt8.ofNat (t.reading startYear).date.dayOfWeek
        invalid := false
        substituted := false
        summerTime := false } := by
  have hms := h.milliseconds
  have hmillisecond : t.milliseconds.toNat / 1000 * 1000 +
      min (t.milliseconds.toNat % 1000 * 1000000 / 1000000) 999 = t.milliseconds.toNat := by
    omega
  have hyear : (t.fullYear startYear % 100).toNat = t.year.toNat := by
    rw [fullYear_emod hy]
    rfl
  unfold ofWallClock reading
  dsimp only
  rw [hmillisecond, hyear, UInt16.ofNat_toNat]
  simp only [UInt8.ofNat_toNat]

/-! ## Both directions -/

/-- **Times survive the change of the century.** In a window of a hundred years from `startYear` on, a wall
clock is written in seven octets and read back to the millisecond, and two digits mean the one year of the
window that ends in them. A time tag that is read as a wall clock is restored from it, and a time tag is not
read just if its fields are no day of its year or no time of day. -/
theorem wallClock_faithful (startYear : Int) (h0 : 0 ≤ startYear) (h99 : startYear + 99 ≤ Date.lastYear) :
    (∀ c : WallClock, c.Valid → startYear ≤ c.date.year → c.date.year ≤ startYear + 99 →
      (layout.write (ofWallClock c)).length = 7 ∧
      ∀ rest, ∃ t, layout.read (layout.write (ofWallClock c) ++ rest) = some (t, rest) ∧
        t.toWallClock? startYear = some { c with nanosecond := c.nanosecond / 1000000 * 1000000 }) ∧
    (∀ t : Cp56Time, t.year.toNat ≤ 99 → ∀ year, t.fullYear startYear = year ↔
      startYear ≤ year ∧ year ≤ startYear + 99 ∧ year % 100 = t.year.toNat) ∧
    (∀ (t : Cp56Time) (c : WallClock), t.year.toNat ≤ 99 → t.toWallClock? startYear = some c →
      (ofWallClock c).milliseconds = t.milliseconds ∧ (ofWallClock c).minutes = t.minutes ∧
      (ofWallClock c).hours = t.hours ∧ (ofWallClock c).day = t.day ∧ (ofWallClock c).month = t.month ∧
      (ofWallClock c).year = t.year) ∧
    ∀ t : Cp56Time, t.year.toNat ≤ 99 → (t.toWallClock? startYear = none ↔
      ¬ (1 ≤ t.month.toNat ∧ t.month.toNat ≤ 12 ∧ 1 ≤ t.day.toNat ∧
        t.day.toNat ≤ daysInMonth (t.fullYear startYear) t.month.toNat) ∨
      23 < t.hours.toNat ∨ 59 < t.minutes.toNat ∨ 59999 < t.milliseconds.toNat) := by
  refine ⟨?_, ?_, ?_, ?_⟩
  · intro c hc hfirst hlast
    refine ⟨lawful.length_write (ofWallClock c), fun rest => ⟨ofWallClock c, ?_, ?_⟩⟩
    · rw [lawful.read_write, canonical_ofWallClock hc]
    · exact toWallClock?_ofWallClock h0 hc hfirst hlast
  · intro t hy year
    exact fullYear_eq_iff h0 hy
  · intro t c hy hsome
    obtain ⟨hnamed, rfl⟩ := toWallClock?_eq_some hsome
    rw [ofWallClock_reading hy hnamed]
    exact ⟨rfl, rfl, rfl, rfl, rfl, rfl⟩
  · intro t hy
    rw [toWallClock?_eq_none_iff]
    exact not_named_iff h0 h99 hy

/-- The last instant of the leap day of a century's last year, in a window that started half a century
before. In a window that starts a year later the same two digits mean a year without a leap day. -/
theorem wallClock_faithful_leap :
    let c : WallClock := ⟨⟨2000, 2, 29⟩, 23, 59, 59, 999999999⟩
    let t := ofWallClock c
    (c.Valid ∧ ∃ t', layout.read (layout.write t ++ [1]) = some (t', [1]) ∧
      t'.toWallClock? 1950 = some { c with nanosecond := 999000000 }) ∧
    t.fullYear 2001 = 2100 ∧ t.toWallClock? 2001 = none ∧
    ∃ c', t.toWallClock? 1901 = some c' ∧ (ofWallClock c').milliseconds = 59999 := by
  intro c t
  have hc : c.Valid := ⟨by decide, by decide, by decide, by decide, by decide⟩
  obtain ⟨hwrite, -, -, -⟩ := wallClock_faithful 1950 (by decide) (by decide)
  obtain ⟨-, hyear, -, hnone⟩ := wallClock_faithful 2001 (by decide) (by decide)
  obtain ⟨-, -, hrestored, -⟩ := wallClock_faithful 1901 (by decide) (by decide)
  have hms : c.nanosecond / 1000000 * 1000000 = 999000000 := by decide
  refine ⟨⟨hc, ?_⟩, ?_, ?_, ?_⟩
  · rw [← hms]
    exact (hwrite c hc (by decide) (by decide)).2 [1]
  · exact (hyear t (by decide) 2100).2 (by decide)
  · exact (hnone t (by decide)).2 (by decide)
  · obtain ⟨c', hc'⟩ : ∃ c', t.toWallClock? 1901 = some c' := Option.isSome_iff_exists.1 (by decide)
    exact ⟨c', hc', (hrestored t c' (by decide) hc').1.trans (by decide)⟩

end Cp56Time

end Telecontrol
