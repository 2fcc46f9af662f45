import FilterQuery.Proofs.Digits
import FilterQuery.Proofs.DurationSum

/-!
# Reading durations back

A duration is shown in the clock form with all its parts. The reader of durations takes the interval
form first, and both forms allow more than is ever shown; this module follows the reader over a text of
the clock form and then computes the milliseconds of its parts, where the seconds go through floating
point numbers. What is shown is of the *normal form*, in which every part has its place.

## Main results

* `Duration.readComponents_clockForm` — the parts of a text of the clock form are read back.
* `Duration.exactMillis_of_isNormal` — the parts of the normal form add up to their milliseconds.
* `Duration.clockComponents_isNormal` — the canonical text is of the normal form.
* `Duration.parse_canonical` — the canonical text of a duration is read as the duration without what is
  below a millisecond.
-/

namespace FilterQuery

namespace Duration

/-! ## The clock form -/

/-- The hours, minutes and seconds of the clock form. -/
def Components.timeForm (c : Components) : List Char :=
  c.hours ++ ':' :: (c.minutes ++ ':' :: (c.seconds ++
    if c.fraction = [] then [] else '.' :: c.fraction))

/-- The text of the clock form without its sign. -/
def Components.unsignedForm (c : Components) : List Char :=
  if c.days = [] then c.timeForm else c.days ++ '.' :: c.timeForm

/-- The text of the clock form with the given parts. -/
def Components.clockForm (c : Components) : List Char :=
  (if c.negative then ['-'] else []) ++ c.unsignedForm

/-- The parts that the clock form can have, all of them in ASCII digits. -/
structure Components.IsClock (c : Components) : Prop where
  weeks_nil : c.weeks = []
  days_digits : ∀ d ∈ c.days, d.isDigit = true
  hours_digits : ∀ d ∈ c.hours, d.isDigit = true
  minutes_digits : ∀ d ∈ c.minutes, d.isDigit = true
  seconds_digits : ∀ d ∈ c.seconds, d.isDigit = true
  fraction_digits : ∀ d ∈ c.fraction, d.isDigit = true
  hours_length : c.hours.length = 1 ∨ c.hours.length = 2
  minutes_length : c.minutes.length = 2
  seconds_length : c.seconds.length = 2

section Reading

variable {digits rest : List Char}

theorem digitRun_append (hdigits : ∀ c ∈ digits, c.isDigit = true)
    (hrest : ∀ c ∈ rest.head?, Text.isDecimalDigit c = false) :
    digitRun (digits ++ rest) = digits :=
  takeWhile_run (fun c hc => Text.isDecimalDigit_of_isDigit (hdigits c hc)) hrest

theorem afterDigits_append (hdigits : ∀ c ∈ digits, c.isDigit = true)
    (hrest : ∀ c ∈ rest.head?, Text.isDecimalDigit c = false) :
    afterDigits (digits ++ rest) = rest :=
  dropWhile_run (fun c hc => Text.isDecimalDigit_of_isDigit (hdigits c hc)) hrest

/-- Another character ends a run of digits. -/
theorem nondigit_ends {c : Char} (hc : Text.isDecimalDigit c = false) (text : List Char) :
    ∀ d ∈ (c :: text).head?, Text.isDecimalDigit d = false := by
  intro d hd
  cases hd
  exact hc

theorem colon_ends (text : List Char) :
    ∀ c ∈ (':' :: text).head?, Text.isDecimalDigit c = false :=
  nondigit_ends (by decide) text

theorem point_ends (text : List Char) :
    ∀ c ∈ ('.' :: text).head?, Text.isDecimalDigit c = false :=
  nondigit_ends (by decide) text

/-- A fraction, which may be absent, ends a run of digits. -/
theorem fraction_ends (fraction : List Char) :
    ∀ c ∈ (if fraction = [] then [] else '.' :: fraction).head?, Text.isDecimalDigit c = false := by
  split
  · nofun
  · exact point_ends fraction

/-- A fraction, which may be absent, in front of a rest that continues no fraction. -/
theorem readFraction_append (hdigits : ∀ c ∈ digits, c.isDigit = true)
    (hpoint : rest.head? ≠ some '.') (hrest : ∀ c ∈ rest.head?, Text.isDecimalDigit c = false) :
    readFraction ((if digits = [] then [] else '.' :: digits) ++ rest) = (digits, rest) := by
  cases digits with
  | nil =>
      show readFraction rest = ([], rest)
      unfold readFraction
      split
      · exact absurd rfl hpoint
      · rfl
  | cons digit digits =>
      rw [if_neg (List.cons_ne_nil _ _), List.cons_append, readFraction,
        digitRun_append hdigits hrest, afterDigits_append hdigits hrest]

/-- A fraction at the end of a text. -/
theorem readFraction_eq (hdigits : ∀ c ∈ digits, c.isDigit = true) :
    readFraction (if digits = [] then [] else '.' :: digits) = (digits, []) := by
  have h : readFraction (_ ++ []) = _ := readFraction_append hdigits nofun nofun
  rwa [List.append_nil] at h

/-- A sign in front of a digit. -/
theorem readSign_append (negative : Bool) {c : Char} (hc : c.isDigit = true) (text : List Char) :
    readSign ((if negative then ['-'] else []) ++ c :: text) = (negative, c :: text) := by
  cases negative with
  | true => rfl
  | false =>
      show readSign (c :: text) = (false, c :: text)
      unfold readSign
      split
      · next heq =>
        cases heq
        cases hc
      · rfl

/-- A text whose first character after the sign is a digit is not of the interval form. -/
theorem readInterval_append (negative : Bool) {c : Char} (hc : c.isDigit = true)
    (text : List Char) :
    readInterval ((if negative then ['-'] else []) ++ c :: text) = none := by
  unfold readInterval
  rw [readSign_append negative hc]
  dsimp only
  split
  · next heq =>
    cases heq
    cases hc
  · rfl

variable {c : Components}

/-- The time of the clock form is read part by part. -/
theorem readClockTime_timeForm (hc : c.IsClock) :
    readClockTime c.negative c.days c.timeForm = some c := by
  simp only [readClockTime, Components.timeForm,
    afterDigits_append hc.hours_digits (colon_ends _),
    digitRun_append hc.hours_digits (colon_ends _),
    afterDigits_append hc.minutes_digits (colon_ends _),
    digitRun_append hc.minutes_digits (colon_ends _),
    afterDigits_append hc.seconds_digits (fraction_ends _),
    digitRun_append hc.seconds_digits (fraction_ends _), readFraction_eq hc.fraction_digits]
  rw [if_pos ⟨hc.hours_length, hc.minutes_length, hc.seconds_length, trivial⟩, ← hc.weeks_nil]

theorem unsignedForm_of_nil (h : c.days = []) : c.unsignedForm = c.timeForm :=
  if_pos h

theorem unsignedForm_of_cons {d : Char} {days : List Char} (h : c.days = d :: days) :
    c.unsignedForm = d :: days ++ '.' :: c.timeForm := by
  rw [Components.unsignedForm, if_neg (by simp [h]), h]

/-- The text without its sign starts with a digit, of the days or of the hours. -/
theorem exists_unsignedForm_eq_cons (hc : c.IsClock) :
    ∃ d text, c.unsignedForm = d :: text ∧ d.isDigit = true := by
  cases hdays : c.days with
  | cons d days =>
      exact ⟨d, _, unsignedForm_of_cons hdays, hc.days_digits d (by simp [hdays])⟩
  | nil =>
      rw [unsignedForm_of_nil hdays, Components.timeForm]
      cases hhours : c.hours with
      | cons d hours => exact ⟨d, _, rfl, hc.hours_digits d (by simp [hhours])⟩
      | nil =>
          have := hc.hours_length
          simp [hhours] at this

/-- Digits that a point follows are the days; without them the time stands alone. -/
theorem readClock_clockForm (hc : c.IsClock) : readClock c.clockForm = some c := by
  have htime := readClockTime_timeForm hc
  obtain ⟨first, text, hfirst, hdigit⟩ := exists_unsignedForm_eq_cons hc
  unfold readClock
  rw [Components.clockForm, hfirst, readSign_append c.negative hdigit, ← hfirst]
  dsimp only
  cases hdays : c.days with
  | nil =>
      have hafter : afterDigits c.timeForm = ':' :: _ :=
        afterDigits_append hc.hours_digits (colon_ends _)
      rw [unsignedForm_of_nil hdays, hafter]
      split
      · next hpoint => cases hpoint
      · rw [hdays] at htime
        exact htime
  | cons d days =>
      have hdigits := hc.days_digits
      rw [hdays] at hdigits htime
      rw [unsignedForm_of_cons hdays, digitRun_append hdigits (point_ends _),
        afterDigits_append hdigits (point_ends _)]
      exact htime

/-- The parts of a text of the clock form are read back. -/
theorem readComponents_clockForm (hc : c.IsClock) : readComponents c.clockForm = some c := by
  obtain ⟨d, text, hcons, hd⟩ := exists_unsignedForm_eq_cons hc
  have hinterval : readInterval c.clockForm = none := by
    rw [Components.clockForm, hcons]
    exact readInterval_append c.negative hd text
  rw [readComponents, hinterval, readClock_clockForm hc]
  rfl

theorem isBlank_of_mem_timeForm (hc : c.IsClock) {x : Char} (hx : x ∈ c.timeForm) :
    Text.isBlank x = false := by
  have hdigit := @Text.isBlank_of_isDigit x
  have hfraction : x ∈ (if c.fraction = [] then [] else '.' :: c.fraction) →
      Text.isBlank x = false := by
    split
    · nofun
    · intro hx
      rcases List.mem_cons.1 hx with rfl | hx
      · decide
      · exact hdigit (hc.fraction_digits x hx)
  simp only [Components.timeForm, List.mem_append, List.mem_cons] at hx
  rcases hx with hx | rfl | hx | rfl | hx | hx
  · exact hdigit (hc.hours_digits x hx)
  · decide
  · exact hdigit (hc.minutes_digits x hx)
  · decide
  · exact hdigit (hc.seconds_digits x hx)
  · exact hfraction hx

/-- A text of the clock form has no blanks. -/
theorem isBlank_of_mem_clockForm (hc : c.IsClock) {x : Char} (hx : x ∈ c.clockForm) :
    Text.isBlank x = false := by
  have hunsigned : x ∈ c.unsignedForm → Text.isBlank x = false := by
    cases hdays : c.days with
    | nil =>
        rw [unsignedForm_of_nil hdays]
        exact isBlank_of_mem_timeForm hc
    | cons d days =>
        rw [unsignedForm_of_cons hdays, ← hdays, List.mem_append, List.mem_cons]
        rintro (hx | rfl | hx)
        · exact Text.isBlank_of_isDigit (hc.days_digits x hx)
        · decide
        · exact isBlank_of_mem_timeForm hc hx
  rcases List.mem_append.1 hx with hx | hx
  · have hsign : x = '-' := by
      cases hneg : c.negative <;> simp [hneg] at hx
      exact hx
    rw [hsign]
    decide
  · exact hunsigned hx

end Reading

/-- The whole components of the clock form are in ASCII digits. -/
theorem Components.IsClock.isPlain {c : Components} (hc : c.IsClock) : c.IsPlain := by
  intro part hpart
  simp only [Components.wholeParts, List.mem_cons, List.not_mem_nil, or_false] at hpart
  rcases hpart with rfl | rfl | rfl | rfl
  · show ∀ d ∈ c.weeks, _
    rw [hc.weeks_nil]
    exact List.forall_mem_nil _
  · exact hc.days_digits
  · exact hc.hours_digits
  · exact hc.minutes_digits

/-- A text of the clock form is read as the duration of its milliseconds. -/
theorem parse_clockForm {c : Components} {d : Duration} (hc : c.IsClock)
    (hd : ofMillis? c.exactMillis = some d) : parse (String.ofList c.clockForm) = .ok d := by
  have htrim := Text.trim_eq_self fun x => isBlank_of_mem_clockForm hc
  have hread : readComponents (Text.trim (String.ofList c.clockForm).toList) = some c := by
    rw [String.toList_ofList, htrim, readComponents_clockForm hc]
  exact parse_eq_ok hc.isPlain hread hd

/-! ## The normal form

Of the clock form only some texts are ever shown. -/

/-- The parts of the normal form: all places are there, the days have no zero in front, and no part is as
much as one of the next larger. -/
structure Components.IsNormal (c : Components) : Prop extends c.IsClock where
  days_head : c.days.head? ≠ some '0'
  hours_two : c.hours.length = 2
  hours_le : Decimal.valueOf c.hours ≤ 23
  minutes_le : Decimal.valueOf c.minutes ≤ 59
  seconds_le : Decimal.valueOf c.seconds ≤ 59
  fraction_length : c.fraction.length = 3

/-- The milliseconds of the parts of the normal form, without the sign. -/
def Components.total (c : Components) : Nat :=
  Decimal.valueOf c.days * millisPerDay + Decimal.valueOf c.hours * millisPerHour +
    Decimal.valueOf c.minutes * millisPerMinute + Decimal.valueOf c.seconds * millisPerSecond +
    Decimal.valueOf c.fraction

/-- The milliseconds of the parts of the normal form. -/
def Components.signedTotal (c : Components) : Int :=
  if c.negative then -(c.total : Int) else c.total

theorem millisPerDay_eq : millisPerDay = 86400000 := rfl

theorem millisPerHour_eq : millisPerHour = 3600000 := rfl

theorem millisPerMinute_eq : millisPerMinute = 60000 := rfl

theorem millisPerSecond_eq : millisPerSecond = 1000 := rfl

section Normal

variable {c : Components}

theorem fraction_lt (hc : c.IsNormal) : Decimal.valueOf c.fraction < 1000 := by
  have hlt := Decimal.valueOf_lt hc.fraction_digits
  rw [hc.fraction_length] at hlt
  exact hlt

/-- The seconds and their fraction, read as one number, are milliseconds. -/
theorem secondsToMillis_secondsValue (hc : c.IsNormal) :
    secondsToMillis c.secondsValue =
      (Decimal.valueOf c.seconds * millisPerSecond + Decimal.valueOf c.fraction : Nat) := by
  have hdigits : (c.seconds ++ c.fraction).all Char.isDigit = true := by
    rw [List.all_append, List.all_eq_true.2 hc.seconds_digits,
      List.all_eq_true.2 hc.fraction_digits]
    rfl
  have hvalue : Decimal.valueOf (c.seconds ++ c.fraction) =
      Decimal.valueOf c.seconds * millisPerSecond + Decimal.valueOf c.fraction := by
    rw [Decimal.valueOf_append, hc.fraction_length, Nat.mul_comm]
    rfl
  have hseconds := hc.seconds_le
  have hfraction := fraction_lt hc
  rw [Components.secondsValue, if_pos hdigits, hvalue, hc.fraction_length]
  apply secondsToMillis_ofDecimal
  rw [millisPerSecond_eq]
  omega

/-- The parts of the normal form add up to their milliseconds. -/
theorem exactMillis_of_isNormal (hc : c.IsNormal) : c.exactMillis = c.signedTotal := by
  have htotal : c.exactTotal = c.total := by
    have hzero : Decimal.valueOf [] = 0 := rfl
    rw [Components.exactTotal, secondsToMillis_secondsValue hc, Components.partsMillis_wholeParts,
      hc.weeks_nil, hzero, Components.total, millisPerDay_eq, millisPerHour_eq, millisPerMinute_eq]
    omega
  rw [Components.exactMillis, Components.signedTotal, htotal]

end Normal

/-! ## The canonical text -/

/-- The parts of the canonical text of a number of milliseconds. -/
def clockComponents (millis : Int) : Components :=
  let total := millis.natAbs
  { negative := decide (millis < 0)
    weeks := []
    days := if 0 < total / millisPerDay then Decimal.digitsOf (total / millisPerDay) else []
    hours := Decimal.paddedDigits 2 (total % millisPerDay / millisPerHour)
    minutes := Decimal.paddedDigits 2 (total % millisPerHour / millisPerMinute)
    seconds := Decimal.paddedDigits 2 (total % millisPerMinute / millisPerSecond)
    fraction := Decimal.paddedDigits 3 (total % millisPerSecond) }

section Canonical

variable (millis : Int)

theorem valueOf_days : Decimal.valueOf (clockComponents millis).days = millis.natAbs / millisPerDay := by
  show Decimal.valueOf (if 0 < _ then _ else _) = _
  split
  · exact Decimal.valueOf_digitsOf _
  · next hdays => exact (Nat.eq_zero_of_not_pos hdays).symm

theorem valueOf_hours :
    Decimal.valueOf (clockComponents millis).hours = millis.natAbs % millisPerDay / millisPerHour :=
  Decimal.valueOf_paddedDigits 2 _

theorem valueOf_minutes :
    Decimal.valueOf (clockComponents millis).minutes =
      millis.natAbs % millisPerHour / millisPerMinute :=
  Decimal.valueOf_paddedDigits 2 _

theorem valueOf_seconds :
    Decimal.valueOf (clockComponents millis).seconds =
      millis.natAbs % millisPerMinute / millisPerSecond :=
  Decimal.valueOf_paddedDigits 2 _

theorem valueOf_fraction :
    Decimal.valueOf (clockComponents millis).fraction = millis.natAbs % millisPerSecond :=
  Decimal.valueOf_paddedDigits 3 _

theorem length_hours : (clockComponents millis).hours.length = 2 := by
  apply Decimal.length_paddedDigits (by decide)
  rw [millisPerDay_eq, millisPerHour_eq]
  show _ < 100
  omega

/-- The canonical text is of the normal form. -/
theorem clockComponents_isNormal : (clockComponents millis).IsNormal where
  weeks_nil := rfl
  days_digits := by
    show ∀ d ∈ (if 0 < _ then _ else _), _
    split
    · exact fun d => Decimal.isDigit_of_mem_digitsOf
    · nofun
  days_head := by
    show (if 0 < _ then _ else _ : List Char).head? ≠ _
    split
    · next hdays =>
      intro hhead
      obtain ⟨digits, hcons⟩ := List.head?_eq_some_iff.1 hhead
      have hzero := Decimal.eq_zero_of_digitsOf_eq_cons hcons
      omega
    · nofun
  hours_digits := fun d => Decimal.isDigit_of_mem_paddedDigits
  hours_length := .inr (length_hours millis)
  hours_two := length_hours millis
  hours_le := by
    rw [valueOf_hours, millisPerDay_eq, millisPerHour_eq]
    omega
  minutes_digits := fun d => Decimal.isDigit_of_mem_paddedDigits
  minutes_length := by
    apply Decimal.length_paddedDigits (by decide)
    rw [millisPerHour_eq, millisPerMinute_eq]
    show _ < 100
    omega
  minutes_le := by
    rw [valueOf_minutes, millisPerHour_eq, millisPerMinute_eq]
    omega
  seconds_digits := fun d => Decimal.isDigit_of_mem_paddedDigits
  seconds_length := by
    apply Decimal.length_paddedDigits (by decide)
    rw [millisPerMinute_eq, millisPerSecond_eq]
    show _ < 100
    omega
  seconds_le := by
    rw [valueOf_seconds, millisPerMinute_eq, millisPerSecond_eq]
    omega
  fraction_digits := fun d => Decimal.isDigit_of_mem_paddedDigits
  fraction_length := by
    apply Decimal.length_paddedDigits (by decide)
    rw [millisPerSecond_eq]
    show _ < 1000
    omega

theorem total_clockComponents : (clockComponents millis).total = millis.natAbs := by
  rw [Components.total, valueOf_days, valueOf_hours, valueOf_minutes, valueOf_seconds,
    valueOf_fraction, millisPerDay_eq, millisPerHour_eq, millisPerMinute_eq, millisPerSecond_eq]
  omega

/-- The parts of the canonical text add up to the milliseconds. -/
theorem signedTotal_clockComponents : (clockComponents millis).signedTotal = millis := by
  rw [Components.signedTotal, total_clockComponents]
  show (if decide (millis < 0) = true then _ else _) = millis
  split
  · next hsign =>
    have hneg : millis < 0 := of_decide_eq_true hsign
    omega
  · next hsign =>
    have hpos : ¬ millis < 0 := fun h => hsign (decide_eq_true h)
    omega

/-- The canonical text is the clock form of its parts. -/
theorem clockText_eq : clockText millis = (clockComponents millis).clockForm := by
  have hfraction : (clockComponents millis).fraction ≠ [] := by
    intro hnil
    have hlength := (clockComponents_isNormal millis).fraction_length
    rw [hnil] at hlength
    cases hlength
  unfold Components.clockForm Components.unsignedForm Components.timeForm
  rw [if_neg hfraction]
  by_cases hdays : 0 < millis.natAbs / millisPerDay
  · simp [clockText, clockComponents, hdays, Decimal.digitsOf_ne_nil]
  · simp [clockText, clockComponents, hdays]

end Canonical

/-- The duration without what is below a millisecond. -/
def truncate (d : Duration) : Duration where
  nanos := d.millis * 1000000
  bounded := by
    have hle : (d.millis * 1000000).natAbs ≤ d.nanos.natAbs := by
      rw [millis, Int.natAbs_mul, Int.natAbs_tdiv]
      exact Nat.div_mul_le_self _ _
    exact Nat.le_trans hle d.bounded

/-- A duration of whole milliseconds is left as it is. -/
theorem truncate_eq_self {d : Duration} (h : d.nanos % 1000000 = 0) : d.truncate = d := by
  have hnanos : d.millis * 1000000 = d.nanos :=
    Int.tdiv_mul_cancel (Int.dvd_of_emod_eq_zero h)
  simp only [truncate, hnanos]

/-- The canonical text of a duration is read as the duration without what is below a millisecond. -/
theorem parse_canonical (d : Duration) : parse d.canonical = .ok d.truncate := by
  have hnormal := clockComponents_isNormal d.millis
  have hmillis : (clockComponents d.millis).exactMillis = d.millis := by
    rw [exactMillis_of_isNormal hnormal, signedTotal_clockComponents]
  have hduration : ofMillis? d.millis = some d.truncate := dif_pos d.truncate.bounded
  rw [canonical, clockText_eq]
  exact parse_clockForm hnormal.toIsClock (by rw [hmillis, hduration])

end Duration

end FilterQuery
