import FilterQuery.Moment.Reader
import FilterQuery.Proofs.Calendar
import FilterQuery.Proofs.Digits

/-!
# Reading moments back

A moment of the years 0 to 9999 is written with a fixed number of digits for each part of its date and
time, followed by a fraction of the second, which may be absent, and the letter of universal time. This
module follows the reader of moments over such a text, part by part, and then computes the seconds of the
parts, where the calendar is inverted and the second 60 is a leap second.

## Main results

* `Moment.parse_clockText` — what is read from a text with any fraction.
* `Moment.parse_exactText` — the exact text of a moment is read as the moment.
-/

namespace FilterQuery

namespace Moment

/-! ## Steps of the reader -/

section Steps

variable {α β : Type} {text rest : List Char}

/-- A reader goes on with what the first step leaves. -/
theorem bind_of_eq_ok {x : Reader α} {a : α} (f : α → Reader β) (h : x text = .ok (a, rest)) :
    (x >>= f) text = f a rest := by
  show (do let r ← x text; f r.1 r.2 : Except MomentError (β × List Char)) = _
  rw [h]
  rfl

/-- A number of the given width, unless more digits follow that are also read. -/
theorem readDigits_paddedDigits {limit width n : Nat} (hwidth : 0 < width) (hlimit : width ≤ limit)
    (hn : n < Nat.pow 10 width) (hvalue : n < Nat.pow 2 63)
    (hrest : width < limit → ∀ c ∈ rest.head?, c.isDigit = false) :
    readDigits (some limit) (Decimal.paddedDigits width n ++ rest) = .ok (n, rest) := by
  have hlength := Decimal.length_paddedDigits hwidth hn
  have hdigits := @Decimal.isDigit_of_mem_paddedDigits width n
  have hof := Decimal.valueOf_paddedDigits width n
  -- From here on the digits count only by their length, their class and their value.
  generalize Decimal.paddedDigits width n = digits at hlength hdigits hof
  have htake : ((digits ++ rest).take limit).takeWhile Char.isDigit = digits := by
    rw [List.take_append, List.take_of_length_le (by omega)]
    apply takeWhile_run fun c => hdigits
    intro c hc
    rw [List.head?_take] at hc
    split at hc
    · cases hc
    · exact hrest (by omega) c hc
  cases digits with
  | nil =>
      rw [List.length_nil] at hlength
      omega
  | cons digit digits =>
      have hdigit := hdigits List.mem_cons_self
      rw [List.cons_append] at htake ⊢
      simp only [readDigits, Option.elim_some, htake, hdigit, hof]
      rw [if_neg (by decide), if_neg (Nat.not_le.2 hvalue), ← List.cons_append, List.drop_left]

/-- There are no blanks to leave out in front of another character. -/
theorem skipBlanks_cons {c : Char} (hc : Text.isBlank c = false) :
    skipBlanks (c :: rest) = .ok ((), c :: rest) := by
  rw [skipBlanks, Text.trimStart, List.dropWhile_cons, if_neg (by simp [hc])]

/-- Digits are not blank. -/
theorem skipBlanks_paddedDigits (width n : Nat) :
    skipBlanks (Decimal.paddedDigits width n ++ rest) =
      .ok ((), Decimal.paddedDigits width n ++ rest) := by
  obtain ⟨d, digits, hcons, hd⟩ := Decimal.exists_paddedDigits_eq_cons width n
  rw [hcons]
  exact skipBlanks_cons (Text.isBlank_of_isDigit hd)

theorem readSeparator_cons {separator : Char} (hseparator : Text.isBlank separator = false) :
    readSeparator separator (separator :: rest) = .ok ((), rest) := by
  rw [readSeparator, bind_of_eq_ok _ (skipBlanks_cons hseparator)]
  exact if_pos rfl

theorem readField_paddedDigits {low high n : Nat} (hlow : low ≤ n) (hhigh : n ≤ high)
    (hn : n < 100) : readField low high (Decimal.paddedDigits 2 n ++ rest) = .ok (n, rest) := by
  have hvalue : n < Nat.pow 2 63 := Nat.lt_of_lt_of_le hn (by decide)
  have hread : readDigits (some 2) (Decimal.paddedDigits 2 n ++ rest) = .ok (n, rest) :=
    readDigits_paddedDigits (by decide) (Nat.le_refl 2) hn hvalue (by omega)
  rw [readField, bind_of_eq_ok _ (skipBlanks_paddedDigits 2 n), bind_of_eq_ok _ hread,
    if_pos ⟨hlow, hhigh⟩]
  rfl

/-- A year of four digits starts with a digit, so it has no sign. -/
theorem readYear_paddedDigits {n : Nat} (hn : n ≤ 9999) :
    readYear (Decimal.paddedDigits 4 n ++ rest) = .ok ((n : Int), rest) := by
  have hvalue : n < Nat.pow 2 63 := Nat.lt_of_le_of_lt hn (by decide)
  have hpow : n < Nat.pow 10 4 := Nat.lt_succ_of_le hn
  have hread : readDigits (some 4) (Decimal.paddedDigits 4 n ++ rest) = .ok (n, rest) :=
    readDigits_paddedDigits (by decide) (Nat.le_refl 4) hpow hvalue (by omega)
  obtain ⟨d, digits, hcons, hd⟩ := Decimal.exists_paddedDigits_eq_cons 4 n
  rw [readYear, bind_of_eq_ok _ (skipBlanks_paddedDigits 4 n)]
  refine (bind_of_eq_ok _ (?_ : _ = Except.ok ((n : Int), rest))).trans ?_
  · rw [hcons] at hread ⊢
    split
    · next heq =>
      cases heq
      cases hd
    · next heq =>
      cases heq
      cases hd
    · show (do let r ← readDigits (some 4) _; _) = _
      rw [hread]
      rfl
  · rw [if_pos]
    · rfl
    · show -2147483648 ≤ (n : Int) ∧ (n : Int) < 2147483648
      omega

theorem readTimeMark_cons : readTimeMark ('T' :: rest) = .ok ((), rest) :=
  rfl

/-- A fraction of at most nine digits. -/
theorem readFraction_paddedDigits {places n : Nat} (hpos : 0 < places) (hplaces : places ≤ 9)
    (hn : n < Nat.pow 10 places) (hrest : ∀ c ∈ rest.head?, c.isDigit = false) :
    readFraction ('.' :: (Decimal.paddedDigits places n ++ rest)) =
      .ok (n * Nat.pow 10 (9 - places), rest) := by
  have hvalue : n < Nat.pow 2 63 := calc
    n < Nat.pow 10 places := hn
    _ ≤ Nat.pow 10 9 := Nat.pow_le_pow_right (by decide) hplaces
    _ ≤ Nat.pow 2 63 := by decide
  have hlength := Decimal.length_paddedDigits hpos hn
  simp only [readFraction]
  rw [readDigits_paddedDigits hpos hplaces hn hvalue fun _ => hrest]
  simp only [List.length_append, hlength, Nat.add_sub_cancel, dropWhile_eq_self hrest]

end Steps

/-! ## Written moments -/

/-- The date of a moment. -/
def date (moment : Moment) : Date :=
  Date.ofDayNumber (moment.seconds / secondsPerDay)

/-- The parts that a moment is written with, given the nanoseconds of the fraction. -/
def written (moment : Moment) (nanos : Nat) : Written :=
  let second := (moment.seconds % secondsPerDay).toNat
  ⟨moment.date, second / 3600, second / 60 % 60, second % 60 + moment.nanos / 1000000000, nanos, 0⟩

/-- The moment with another fraction of its second. -/
def withFraction (moment : Moment) (nanos : Nat) (h : nanos < 1000000000) : Moment where
  seconds := moment.seconds
  nanos := moment.nanos / 1000000000 * 1000000000 + nanos
  seconds_ge := moment.seconds_ge
  seconds_le := moment.seconds_le
  nanos_lt := by
    have := moment.nanos_lt
    omega
  leap_minute := by
    have := moment.leap_minute
    omega

theorem isValid_date (moment : Moment) : moment.date.isValid = true :=
  Date.isValid_ofDayNumber _

variable {moment : Moment}

/-- The parts of a written moment, with any fraction that the reader takes before the zone. -/
theorem readWritten_clockText (hyear : 0 ≤ moment.date.year ∧ moment.date.year ≤ 9999)
    {fraction : List Char} {nanos : Nat}
    (hfraction : readFraction (fraction ++ ['Z']) = .ok (nanos, ['Z'])) :
    readWritten (moment.clockText ++ fraction ++ ['Z']) = .ok (moment.written nanos, []) := by
  obtain ⟨⟨hmonth, hmonth'⟩, hday, hday'⟩ :=
    Date.bounds_of_isValid moment.isValid_date
  have hhour : (moment.written nanos).hour ≤ 23 := by
    show (moment.seconds % 86400).toNat / 3600 ≤ 23
    omega
  have hminute : (moment.written nanos).minute ≤ 59 := by
    show (moment.seconds % 86400).toNat / 60 % 60 ≤ 59
    omega
  have hsecond : (moment.written nanos).second ≤ 60 := by
    have := moment.nanos_lt
    show (moment.seconds % 86400).toNat % 60 + moment.nanos / 1000000000 ≤ 60
    omega
  have hyearText : yearText moment.date.year = Decimal.paddedDigits 4 moment.date.year.toNat :=
    if_pos hyear
  have hcast : ((moment.date.year.toNat : Nat) : Int) = moment.date.year :=
    Int.toNat_of_nonneg hyear.1
  have htext : moment.clockText ++ fraction ++ ['Z'] =
      Decimal.paddedDigits 4 moment.date.year.toNat ++
        '-' :: (Decimal.paddedDigits 2 moment.date.month ++
        '-' :: (Decimal.paddedDigits 2 moment.date.day ++
        'T' :: (Decimal.paddedDigits 2 (moment.written nanos).hour ++
        ':' :: (Decimal.paddedDigits 2 (moment.written nanos).minute ++
        ':' :: (Decimal.paddedDigits 2 (moment.written nanos).second ++
        (fraction ++ ['Z'])))))) := by
    rw [← hyearText]
    simp only [clockText, List.append_assoc, List.cons_append]
    rfl
  rw [htext, readWritten,
    bind_of_eq_ok _ (readYear_paddedDigits (by omega)),
    bind_of_eq_ok _ (readSeparator_cons (by decide)),
    bind_of_eq_ok _ (readField_paddedDigits hmonth hmonth' (by omega)),
    bind_of_eq_ok _ (readSeparator_cons (by decide)),
    bind_of_eq_ok _ (readField_paddedDigits hday hday' (by omega)),
    bind_of_eq_ok _ readTimeMark_cons,
    bind_of_eq_ok _ (readField_paddedDigits (Nat.zero_le _) hhour (by omega)),
    bind_of_eq_ok _ (readSeparator_cons (by decide)),
    bind_of_eq_ok _ (readField_paddedDigits (Nat.zero_le _) hminute (by omega)),
    bind_of_eq_ok _ (readSeparator_cons (by decide)),
    bind_of_eq_ok _ (readField_paddedDigits (Nat.zero_le _) hsecond (by omega)),
    bind_of_eq_ok _ hfraction, hcast]
  rfl

/-- The written parts add up to the seconds of the moment; a leap second is not counted. -/
theorem seconds_written (moment : Moment) (nanos : Nat) :
    moment.date.dayNumber * secondsPerDay + (moment.written nanos).hour * 3600 +
      (moment.written nanos).minute * 60 + (min (moment.written nanos).second 59 : Nat) =
      moment.seconds := by
  have hnumber : moment.date.dayNumber = moment.seconds / 86400 := Date.dayNumber_ofDayNumber _
  have hlt := moment.nanos_lt
  have hleap := moment.leap_minute
  rw [hnumber]
  simp only [written, secondsPerDay]
  omega

/-- The written nanoseconds, with a second more for the second 60. -/
theorem nanos_written (moment : Moment) {nanos : Nat} (h : nanos < 1000000000) :
    (if (moment.written nanos).second = 60 then nanos + 1000000000 else nanos) =
      (moment.withFraction nanos h).nanos := by
  have hlt := moment.nanos_lt
  have hleap := moment.leap_minute
  -- The second 60 is only written for a leap second, since the others end at 59.
  by_cases hsixty : (moment.written nanos).second = 60
  · rw [if_pos hsixty]
    simp only [written, withFraction, secondsPerDay] at hsixty ⊢
    omega
  · rw [if_neg hsixty]
    simp only [written, withFraction, secondsPerDay] at hsixty ⊢
    omega

/-- The parts of a moment in universal time. -/
theorem Written.moment_eq {w : Written} (hvalid : w.date.isValid = true)
    (hyear : -262143 ≤ w.date.year ∧ w.date.year ≤ 262142) (hoffset : w.offset = 0)
    (hseconds : w.date.dayNumber * secondsPerDay + w.hour * 3600 + w.minute * 60 +
      (min w.second 59 : Nat) = moment.seconds)
    (hnanos : (if w.second = 60 then w.nanos + 1000000000 else w.nanos) = moment.nanos) :
    w.moment = .ok moment := by
  have hunix : ofUnix? moment.seconds moment.nanos = some moment :=
    dif_pos ⟨moment.seconds_ge, moment.seconds_le, moment.nanos_lt, moment.leap_minute⟩
  have hlow : ¬ w.date.year < -262143 := by omega
  have hhigh : ¬ 262142 < w.date.year := by omega
  simp only [Written.moment, hvalid, hlow, hhigh, hoffset, Int.sub_zero, hseconds, hnanos, hunix]
  rfl

/-- The written parts are those of the moment with the written fraction. -/
theorem moment_written (hyear : 0 ≤ moment.date.year ∧ moment.date.year ≤ 9999) {nanos : Nat}
    (h : nanos < 1000000000) :
    (moment.written nanos).moment = .ok (moment.withFraction nanos h) := by
  apply Written.moment_eq
  · exact moment.isValid_date
  · show -262143 ≤ moment.date.year ∧ moment.date.year ≤ 262142
    omega
  · rfl
  · exact moment.seconds_written nanos
  · exact moment.nanos_written h

/-- What is read from a written moment, with any fraction that the reader takes before the zone. -/
theorem parse_clockText (hyear : 0 ≤ moment.date.year ∧ moment.date.year ≤ 9999)
    {fraction : List Char} {nanos : Nat} (h : nanos < 1000000000)
    (hfraction : readFraction (fraction ++ ['Z']) = .ok (nanos, ['Z'])) :
    parse (String.ofList (moment.clockText ++ fraction ++ ['Z'])) =
      .ok (moment.withFraction nanos h) := by
  rw [parse, String.toList_ofList, readWritten_clockText hyear hfraction]
  exact moment_written hyear h

/-- The letter of the zone ends the digits of a fraction. -/
theorem isDigit_zone : ∀ c ∈ ['Z'].head?, c.isDigit = false := by
  intro c hc
  cases hc
  rfl

/-- A whole number of the units that the places of a fraction count. -/
theorem readFraction_whole {places unit nanos : Nat} (hpos : 0 < places) (hplaces : places ≤ 9)
    (hunit : Nat.pow 10 (9 - places) = unit) (hwhole : nanos % unit = 0)
    (hlt : nanos / unit < Nat.pow 10 places) :
    readFraction ('.' :: Decimal.paddedDigits places (nanos / unit) ++ ['Z']) =
      .ok (nanos, ['Z']) := by
  rw [List.cons_append, readFraction_paddedDigits hpos hplaces hlt isDigit_zone, hunit,
    Nat.div_mul_cancel (Nat.dvd_of_mod_eq_zero hwhole)]

/-- The exact fraction is read back, whether it has three, six or nine digits or is absent. -/
theorem readFraction_fractionText (moment : Moment) :
    readFraction (moment.fractionText ++ ['Z']) = .ok (moment.nanos % 1000000000, ['Z']) := by
  have hlt : moment.nanos % 1000000000 < 1000000000 := Nat.mod_lt _ (by decide)
  unfold fractionText
  generalize moment.nanos % 1000000000 = nanos at hlt ⊢
  dsimp only
  split
  · next hzero =>
    rw [hzero]
    rfl
  split
  · next hmillis =>
    have hplaces : nanos / 1000000 < 1000 := by omega
    exact readFraction_whole (by decide) (by decide) rfl hmillis hplaces
  split
  · next hmicros =>
    have hplaces : nanos / 1000 < 1000000 := by omega
    exact readFraction_whole (by decide) (by decide) rfl hmicros hplaces
  · have hnanos := readFraction_whole (by decide) (Nat.le_refl 9) (rfl : _ = 1) (Nat.mod_one nanos)
    rw [Nat.div_one] at hnanos
    exact hnanos hlt

/-- The exact text of a moment is read as the moment. -/
theorem parse_exactText (hyear : 0 ≤ moment.date.year ∧ moment.date.year ≤ 9999) :
    parse moment.exactText = .ok moment := by
  have hlt : moment.nanos % 1000000000 < 1000000000 := Nat.mod_lt _ (by decide)
  have hsame : moment.withFraction (moment.nanos % 1000000000) hlt = moment := by
    have hnanos := Nat.div_add_mod' moment.nanos 1000000000
    cases moment
    simp only [withFraction, mk.injEq, true_and]
    exact hnanos
  rw [exactText, parse_clockText hyear hlt moment.readFraction_fractionText, hsame]

end Moment

end FilterQuery
