import TicketSystem.Lib.Calendar
import TicketSystem.ReportsService

namespace TicketSystem

/-- `civilDate` counts in the calendar: its date exists, and has the days before it that it is
computed from. -/
theorem civilDate_makeDay (days : Int) {year : Int} {month day : Nat}
    (h : civilDate days = (year, month, day)) :
    Calendar.IsDate year month day ∧ Calendar.makeDay year month day = days := by
  obtain ⟨era, hera⟩ : ∃ era, (days + 719468) / 146097 = era := ⟨_, rfl⟩
  obtain ⟨dayOfEra, hdoe⟩ : ∃ n, (days + 719468 - era * 146097).toNat = n := ⟨_, rfl⟩
  obtain ⟨yearOfEra, hyoe⟩ :
      ∃ n, (dayOfEra - dayOfEra / 1460 + dayOfEra / 36524 - dayOfEra / 146096) / 365 = n :=
    ⟨_, rfl⟩
  obtain ⟨dayOfYear, hdoy⟩ :
      ∃ n, dayOfEra - (365 * yearOfEra + yearOfEra / 4 - yearOfEra / 100) = n := ⟨_, rfl⟩
  obtain ⟨m, hm⟩ : ∃ m, (5 * dayOfYear + 2) / 153 = m := ⟨_, rfl⟩
  have hfloor : (days + 719468).fdiv 146097 = era :=
    (Int.fdiv_eq_ediv_of_nonneg _ (by decide)).trans hera
  simp only [civilDate, hfloor, hdoe, hyoe, hdoy, hm] at h
  have hday : dayOfEra < 146097 := by omega
  have hdays : days = era * 146097 + dayOfEra - 719468 := by omega
  obtain ⟨hyear, hstart, hend⟩ := Calendar.year_of_day hday hyoe
  have hbound : dayOfYear ≤ 365 := by omega
  have hleap : dayOfYear = 365 → Calendar.isLeap (era * 400 + yearOfEra + 1) = true := by
    intro hlast
    have hyears := Calendar.leap_of_last_day hday hyoe (by omega)
    exact Calendar.isLeap_iff.mpr (by omega)
  have hsum : era * 146097 + (365 * yearOfEra + yearOfEra / 4 - yearOfEra / 100 : Nat) +
      dayOfYear - 719468 = days := by omega
  have hyears : (yearOfEra : Int) + era * 400 = era * 400 + yearOfEra := Int.add_comm _ _
  rw [hyears] at h
  by_cases hmonth : m < 10
  · rw [if_pos hmonth] at h
    cases h
    obtain ⟨hdate, hmake⟩ := Calendar.makeDay_march era hyear hm rfl hmonth
    exact ⟨hdate, hmake.trans hsum⟩
  · rw [if_neg hmonth] at h
    cases h
    obtain ⟨hdate, hmake⟩ := Calendar.makeDay_january era hyear hbound hleap hm rfl hmonth
    exact ⟨hdate, hmake.trans hsum⟩

/-- The dates of the instants that a `Date` can hold have years of at most six digits. -/
theorem civilDate_year (days : Int) {year : Int} {month day : Nat}
    (h : civilDate days = (year, month, day)) (hdays : days.natAbs ≤ 100000000) :
    year.natAbs ≤ 999999 := by
  obtain ⟨hdate, hmake⟩ := civilDate_makeDay days h
  have hbound := hdate.year_bound
  rw [hmake] at hbound
  omega

/-- The number that the first `n` characters write, digits all of them, and what follows. -/
def digits? (n : Nat) (cs : List Char) : Option (Nat × List Char) :=
  if (cs.take n).length = n ∧ (cs.take n).all Char.isDigit then
    some (Nat.ofDigitChars 10 (cs.take n) 0, cs.drop n)
  else none

theorem padded_text (width n : Nat) : (padded width n).toList =
    List.replicate (width - (Nat.toDigits 10 n).length) '0' ++ Nat.toDigits 10 n := by
  have hdigits : (toString n).toList = Nat.toDigits 10 n := Nat.toList_repr
  have hcount : (toString n).length = (Nat.toDigits 10 n).length := by
    rw [← String.length_toList, hdigits]
  rw [padded, String.toList_append, String.toList_ofList, hdigits, hcount]

theorem padded_digits (width n : Nat) : (padded width n).toList.all Char.isDigit = true := by
  rw [padded_text, List.all_append, List.all_replicate, Bool.and_eq_true]
  refine ⟨by simp, List.all_eq_true.mpr fun c hc => ?_⟩
  exact Nat.isDigit_of_mem_toDigits (by decide) (by decide) hc

theorem digits?_padded {width n : Nat} (hwidth : 0 < width) (h : n < 10 ^ width)
    (rest : List Char) : digits? width ((padded width n).toList ++ rest) = some (n, rest) := by
  have hlength := (Nat.length_toDigits_le_iff (by decide) hwidth).mpr h
  have hwhole : (padded width n).toList.length = width := by
    rw [padded_text, List.length_append, List.length_replicate]
    omega
  have hvalue : Nat.ofDigitChars 10 (padded width n).toList 0 = n := by
    rw [padded_text, Nat.ofDigitChars_append, Nat.ofDigitChars_replicate_zero, Nat.mul_zero,
      Nat.ofDigitChars_ten_toDigits]
  rw [digits?, List.take_left' hwhole, List.drop_left' hwhole,
    if_pos ⟨hwhole, padded_digits width n⟩, hvalue]

theorem not_digits_of_head {c : Char} (h : c.isDigit = false) {n : Nat} (hn : 0 < n)
    (cs : List Char) : digits? n (c :: cs) = none := by
  obtain ⟨k, rfl⟩ : ∃ k, n = k + 1 := ⟨n - 1, by omega⟩
  have hall : ((c :: cs).take (k + 1)).all Char.isDigit = false := by
    rw [List.take_succ_cons, List.all_cons, h, Bool.false_and]
  rw [digits?, if_neg]
  rintro ⟨_, hdigits⟩
  rw [hall] at hdigits
  cases hdigits

/-! ### Reading the format of `toISOString` -/

/-- A year of six digits has a sign. -/
def isoYear? : List Char → Option (Int × List Char)
  | '+' :: cs => (digits? 6 cs).map fun r => (r.1, r.2)
  | '-' :: cs => (digits? 6 cs).bind fun r => if r.1 = 0 then none else some (-r.1, r.2)
  | cs => (digits? 4 cs).map fun r => (r.1, r.2)

def after? (c : Char) : List Char → Option (List Char)
  | [] => none
  | d :: cs => if d = c then some cs else none

/-- The instant that a text of the form `YYYY-MM-DDTHH:mm:ss.sssZ` names. -/
def isoTime? (cs : List Char) : Option Time := do
  let (year, cs) ← isoYear? cs
  let (month, cs) ← (after? '-' cs).bind (digits? 2)
  let (day, cs) ← (after? '-' cs).bind (digits? 2)
  let (hour, cs) ← (after? 'T' cs).bind (digits? 2)
  let (minute, cs) ← (after? ':' cs).bind (digits? 2)
  let (second, cs) ← (after? ':' cs).bind (digits? 2)
  let (ms, cs) ← (after? '.' cs).bind (digits? 3)
  if cs = ['Z'] ∧ Calendar.IsDate year month day ∧ hour < 24 ∧ minute < 60 ∧ second < 60 then
    some (Calendar.makeDay year month day * 86400000 +
      (hour * 3600000 + minute * 60000 + second * 1000 + ms : Nat))
  else none

theorem isoYear?_of_digits {cs : List Char} {n : Nat} {rest : List Char}
    (h : digits? 4 cs = some (n, rest)) : isoYear? cs = some ((n : Int), rest) := by
  have hplus : ∀ ds, cs ≠ '+' :: ds := by
    rintro ds rfl
    rw [not_digits_of_head (by decide) (by decide)] at h
    cases h
  have hminus : ∀ ds, cs ≠ '-' :: ds := by
    rintro ds rfl
    rw [not_digits_of_head (by decide) (by decide)] at h
    cases h
  rw [isoYear?, h, Option.map_some]
  · exact hplus
  · exact hminus

theorem isoYear?_minus (cs : List Char) : isoYear? ('-' :: cs) =
    (digits? 6 cs).bind fun r => if r.1 = 0 then none else some (-(r.1 : Int), r.2) := rfl

theorem isoYear?_plus (cs : List Char) :
    isoYear? ('+' :: cs) = (digits? 6 cs).map fun r => ((r.1 : Int), r.2) := rfl

theorem isoYear?_text {year : Int} (h : year.natAbs ≤ 999999) (rest : List Char) :
    isoYear? ((isoYear year).toList ++ rest) = some (year, rest) := by
  unfold isoYear
  by_cases hshort : 0 ≤ year ∧ year ≤ 9999
  · have hsome := digits?_padded (n := year.toNat) (by decide : 0 < 4) (by omega) rest
    have hyear : (year.toNat : Int) = year := Int.toNat_of_nonneg hshort.1
    rw [if_pos hshort, isoYear?_of_digits hsome, hyear]
  · have hsome := digits?_padded (n := year.natAbs) (by decide : 0 < 6) (by omega) rest
    rw [if_neg hshort, String.toList_append, List.append_assoc]
    by_cases hneg : year < 0
    · have hne : year.natAbs ≠ 0 := by omega
      have hyear : -(year.natAbs : Int) = year := by omega
      have hsign : "-".toList = ['-'] := by decide
      rw [if_pos hneg, hsign, List.singleton_append, isoYear?_minus, hsome, Option.bind_some,
        if_neg hne, hyear]
    · have hyear : (year.natAbs : Int) = year := by omega
      have hsign : "+".toList = ['+'] := by decide
      rw [if_neg hneg, hsign, List.singleton_append, isoYear?_plus, hsome, Option.map_some, hyear]

/-- Two digits or three after a sign. -/
theorem digits?_after {width n : Nat} (hwidth : 0 < width) (h : n < 10 ^ width) (c : Char)
    (rest : List Char) :
    (after? c (c :: ((padded width n).toList ++ rest))).bind (digits? width) = some (n, rest) := by
  rw [after?, if_pos rfl, Option.bind_some, digits?_padded hwidth h]

/-- The fields of the text, with their separators. -/
theorem toISOString_text {t : Time} {days year : Int} {ms month day : Nat}
    (hdays : t.fdiv 86400000 = days) (hms : (t.fmod 86400000).toNat = ms)
    (hcivil : civilDate days = (year, month, day)) :
    (toISOString t).toList = (isoYear year).toList ++
      '-' :: ((padded 2 month).toList ++ '-' :: ((padded 2 day).toList ++
        'T' :: ((padded 2 (ms / 3600000)).toList ++ ':' :: ((padded 2 (ms / 60000 % 60)).toList ++
          ':' :: ((padded 2 (ms / 1000 % 60)).toList ++
            '.' :: ((padded 3 (ms % 1000)).toList ++ ['Z'])))))) := by
  have hdash : "-".toList = ['-'] := by decide
  have hT : "T".toList = ['T'] := by decide
  have hcolon : ":".toList = [':'] := by decide
  have hdot : ".".toList = ['.'] := by decide
  have hZ : "Z".toList = ['Z'] := by decide
  simp only [toISOString, hdays, hms, hcivil, String.toList_append, List.append_assoc, hdash, hT,
    hcolon, hdot, hZ, List.cons_append, List.nil_append]

/-- The text of an instant that a `Date` can hold names it. -/
theorem isoTime?_toISOString {t : Time} (h : t.natAbs ≤ 8640000000000000) :
    isoTime? (toISOString t).toList = some t := by
  obtain ⟨days, hdays⟩ : ∃ days, t.fdiv 86400000 = days := ⟨_, rfl⟩
  obtain ⟨ms, hms⟩ : ∃ ms, (t.fmod 86400000).toNat = ms := ⟨_, rfl⟩
  obtain ⟨year, month, day, hcivil⟩ : ∃ year month day, civilDate days = (year, month, day) :=
    ⟨_, _, _, rfl⟩
  have htext := toISOString_text hdays hms hcivil
  rw [Int.fdiv_eq_ediv_of_nonneg _ (by decide)] at hdays
  rw [Int.fmod_eq_emod_of_nonneg _ (by decide)] at hms
  obtain ⟨hdate, hmake⟩ := civilDate_makeDay days hcivil
  have hyear := civilDate_year days hcivil (by omega)
  have hmonth : month < 10 ^ 2 := Nat.lt_of_le_of_lt hdate.2.1 (by decide)
  have hlast := Nat.le_trans hdate.2.2.2 (Calendar.daysInMonth_le year month)
  have hday : day < 10 ^ 2 := Nat.lt_of_le_of_lt hlast (by decide)
  have hhour : ms / 3600000 < 24 := by omega
  have hminute : ms / 60000 % 60 < 60 := Nat.mod_lt _ (by decide)
  have hsecond : ms / 1000 % 60 < 60 := Nat.mod_lt _ (by decide)
  have hwhole : Calendar.makeDay year month day * 86400000 +
      (ms / 3600000 * 3600000 + ms / 60000 % 60 * 60000 + ms / 1000 % 60 * 1000 + ms % 1000 : Nat)
        = t := by
    rw [hmake]
    omega
  have htwo : ∀ n < 60, n < 10 ^ 2 := fun n hn => Nat.lt_trans hn (by decide)
  have hthree : ms % 1000 < 10 ^ 3 := Nat.mod_lt _ (by decide)
  rw [htext]
  simp only [isoTime?, isoYear?_text hyear, Option.bind_eq_bind, Option.bind_some,
    digits?_after (by decide) hmonth, digits?_after (by decide) hday,
    digits?_after (by decide) (htwo _ (Nat.lt_trans hhour (by decide))),
    digits?_after (by decide) (htwo _ hminute), digits?_after (by decide) (htwo _ hsecond),
    digits?_after (by decide) hthree]
  rw [if_pos ⟨trivial, hdate, hhour, hminute, hsecond⟩, hwhole]

def Time.year (t : Time) : Int := (civilDate (t.fdiv 86400000)).1

/-- Such an instant is one that a `Date` can hold. -/
theorem natAbs_of_year {t : Time} (h : 0 ≤ Time.year t ∧ Time.year t ≤ 9999) :
    t.natAbs ≤ 8640000000000000 := by
  obtain ⟨days, hdays⟩ : ∃ days, t.fdiv 86400000 = days := ⟨_, rfl⟩
  obtain ⟨year, month, day, hcivil⟩ : ∃ year month day, civilDate days = (year, month, day) :=
    ⟨_, _, _, rfl⟩
  obtain ⟨hdate, hmake⟩ := civilDate_makeDay days hcivil
  have hbound := hdate.year_bound
  rw [Time.year, hdays, hcivil] at h
  rw [hmake] at hbound
  rw [Int.fdiv_eq_ediv_of_nonneg _ (by decide)] at hdays
  omega

theorem head_toISOString {t : Time} (h : 0 ≤ Time.year t ∧ Time.year t ≤ 9999) :
    (toISOString t).toList.head?.any Char.isDigit = true := by
  obtain ⟨year, month, day, hcivil⟩ :
      ∃ year month day, civilDate (t.fdiv 86400000) = (year, month, day) := ⟨_, _, _, rfl⟩
  have htext := toISOString_text rfl rfl hcivil
  have hdigits := padded_digits 4 year.toNat
  rw [Time.year, hcivil] at h
  rw [htext, isoYear, if_pos h]
  cases hcs : (padded 4 year.toNat).toList with
  | nil =>
    have hempty := congrArg List.length hcs
    rw [padded_text, List.length_append, List.length_replicate, List.length_nil] at hempty
    omega
  | cons c cs =>
    rw [hcs, List.all_cons, Bool.and_eq_true] at hdigits
    rw [List.cons_append, List.head?_cons, Option.any_some, hdigits.1]

end TicketSystem
