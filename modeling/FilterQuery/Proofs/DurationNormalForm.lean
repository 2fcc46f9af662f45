import FilterQuery.Proofs.DurationText

/-!
# The normal form of durations

A duration has one text of the normal form `[-][D.]HH:MM:SS.mmm`, and each text of that form is the
text of a duration: reading and showing are inverse to each other, up to what a text leaves out below a
millisecond. The one text that has to be excluded is the negative zero, which is read as zero and shown
without its sign.

The direction from durations to texts and back is `parse_canonical`. For the other one the parts of a
text have to be recovered from its milliseconds, digit by digit (`clockComponents_signedTotal`).
-/

namespace FilterQuery

namespace Duration

/-- The texts of the normal form that a duration can have. -/
def IsNormalText (s : String) : Prop :=
  ∃ c : Components, c.IsNormal ∧ c.total ≤ maxMillis ∧ s = String.ofList c.clockForm ∧
    s ≠ "-00:00:00.000"

/-- The parts of the negative zero. -/
def negativeZero : Components :=
  { clockComponents 0 with negative := true }

theorem clockForm_negativeZero : String.ofList negativeZero.clockForm = "-00:00:00.000" := by
  decide

theorem natAbs_signedTotal (c : Components) : c.signedTotal.natAbs = c.total := by
  rw [Components.signedTotal]
  split <;> omega

section Parts

variable {c : Components} (hc : c.IsNormal)

include hc

/-- Each part is a quotient of the milliseconds, and what is left is less than one of the next larger
part. -/
theorem parts_of_total :
    c.total / millisPerDay = Decimal.valueOf c.days ∧
      c.total % millisPerDay / millisPerHour = Decimal.valueOf c.hours ∧
      c.total % millisPerHour / millisPerMinute = Decimal.valueOf c.minutes ∧
      c.total % millisPerMinute / millisPerSecond = Decimal.valueOf c.seconds ∧
      c.total % millisPerSecond = Decimal.valueOf c.fraction := by
  have hhours := hc.hours_le
  have hminutes := hc.minutes_le
  have hseconds := hc.seconds_le
  have hfraction := fraction_lt hc
  rw [Components.total, millisPerDay_eq, millisPerHour_eq, millisPerMinute_eq, millisPerSecond_eq]
  omega

/-- The days are shown as they are written, and not at all if there are none. -/
theorem days_eq :
    (if 0 < Decimal.valueOf c.days then Decimal.digitsOf (Decimal.valueOf c.days) else []) =
      c.days := by
  have hhead := hc.days_head
  have hdigits := hc.days_digits
  cases hdays : c.days with
  | nil => rfl
  | cons d days =>
      rw [hdays] at hhead hdigits
      have hd : d ≠ '0' := fun h => hhead (by rw [h]; rfl)
      have hshown := Decimal.digitsOf_valueOf hd hdigits
      rw [hshown]
      apply if_pos
      -- Zero is shown by its one digit, which no days start with.
      refine Nat.pos_of_ne_zero fun hzero => hd ?_
      rw [hzero] at hshown
      exact (List.cons.inj hshown).1.symm

/-- Milliseconds with the total and the sign of some parts have these parts. -/
theorem clockComponents_eq {millis : Int} (hmillis : millis.natAbs = c.total)
    (hsign : decide (millis < 0) = c.negative) : clockComponents millis = c := by
  obtain ⟨hdays, hhours, hminutes, hseconds, hfraction⟩ := parts_of_total hc
  have hhours' := Decimal.paddedDigits_valueOf (by decide) hc.hours_digits hc.hours_two
  have hminutes' := Decimal.paddedDigits_valueOf (by decide) hc.minutes_digits hc.minutes_length
  have hseconds' := Decimal.paddedDigits_valueOf (by decide) hc.seconds_digits hc.seconds_length
  have hfraction' := Decimal.paddedDigits_valueOf (by decide) hc.fraction_digits hc.fraction_length
  simp only [clockComponents, hmillis, hsign, hdays, hhours, hminutes, hseconds, hfraction,
    days_eq hc, hhours', hminutes', hseconds', hfraction']
  rw [← hc.weeks_nil]

/-- So the parts of a text are recovered from its milliseconds, save the sign of a zero. -/
theorem clockComponents_signedTotal (hzero : c.negative = true → c.total ≠ 0) :
    clockComponents c.signedTotal = c := by
  apply clockComponents_eq hc (natAbs_signedTotal c)
  rw [Components.signedTotal]
  cases hneg : c.negative with
  | true =>
      have hpos := hzero hneg
      simp only [if_true, decide_eq_true_eq]
      omega
  | false =>
      simp only [Bool.false_eq_true, if_false, decide_eq_false_iff_not]
      omega

/-- The negative zero has no parts but its own: without the sign they are those of zero. -/
theorem eq_negativeZero (hneg : c.negative = true) (hzero : c.total = 0) : c = negativeZero := by
  have hunsigned : ({ c with negative := false } : Components).IsNormal := { hc with }
  have hparts : clockComponents 0 = { c with negative := false } :=
    clockComponents_eq hunsigned hzero.symm rfl
  rw [negativeZero, hparts, ← hneg]

end Parts

/-- Milliseconds within the bound are those of a duration. -/
theorem exists_ofMillis?_eq {millis : Int} (hle : millis.natAbs ≤ maxMillis) :
    ∃ d, ofMillis? millis = some d ∧ d.millis = millis := by
  have hbounded : (millis * 1000000).natAbs ≤ (Nat.pow 2 63 - 1) * 1000000 := by
    rw [Int.natAbs_mul]
    exact Nat.mul_le_mul_right _ hle
  exact ⟨⟨_, hbounded⟩, dif_pos hbounded, Int.mul_tdiv_cancel _ (by decide)⟩

/-- A text of the normal form is the text of the duration that it is read as. -/
theorem exists_parse_of_isNormalText {s : String} (hs : IsNormalText s) :
    ∃ d, parse s = .ok d ∧ d.canonical = s := by
  obtain ⟨c, hc, hle, rfl, hne⟩ := hs
  have hzero : c.negative = true → c.total ≠ 0 :=
    fun hneg htotal => hne (eq_negativeZero hc hneg htotal ▸ clockForm_negativeZero)
  obtain ⟨d, hd, hmillis⟩ := exists_ofMillis?_eq (natAbs_signedTotal c ▸ hle)
  refine ⟨d, parse_clockForm hc.toIsClock (exactMillis_of_isNormal hc ▸ hd), ?_⟩
  rw [canonical, hmillis, clockText_eq, clockComponents_signedTotal hc hzero]

/-- No duration is shown as the negative zero: the text would give its parts away. -/
theorem canonical_ne_negativeZero (d : Duration) : d.canonical ≠ "-00:00:00.000" := by
  intro htext
  have hclock : negativeZero.IsClock := { clockComponents_isNormal 0 with }
  have hparts : clockComponents d.millis = negativeZero := by
    rw [← clockForm_negativeZero, canonical, clockText_eq, String.ofList_inj] at htext
    have hread := readComponents_clockForm (clockComponents_isNormal d.millis).toIsClock
    rw [htext, readComponents_clockForm hclock] at hread
    exact (Option.some.inj hread).symm
  have hsign : decide (d.millis < 0) = true := congrArg Components.negative hparts
  have htotal : d.millis.natAbs = 0 := by
    rw [← total_clockComponents, hparts]
    decide
  have hneg := of_decide_eq_true hsign
  omega

/-- The text of a duration is of the normal form. -/
theorem isNormalText_canonical (d : Duration) : IsNormalText d.canonical := by
  refine ⟨clockComponents d.millis, clockComponents_isNormal d.millis, ?_, ?_, ?_⟩
  · rw [total_clockComponents, millis, Int.natAbs_tdiv]
    exact Nat.div_le_of_le_mul (Nat.mul_comm .. ▸ d.bounded)
  · rw [canonical, clockText_eq]
  · exact canonical_ne_negativeZero d

/-- **Durations and their texts determine each other.** The text of a duration is of the normal form and
is read as the duration without what is below a millisecond, and a text of the normal form is read as a
duration with that text. -/
theorem parse_canonical_inverse :
    (∀ d : Duration, IsNormalText d.canonical ∧
      ∃ d' : Duration, parse d.canonical = .ok d' ∧ d'.nanos = d.millis * 1000000 ∧
        (d.nanos % 1000000 = 0 → d' = d)) ∧
      ∀ s : String, IsNormalText s → ∃ d : Duration, parse s = .ok d ∧ d.canonical = s := by
  refine ⟨?_, fun s => exists_parse_of_isNormalText⟩
  intro d
  exact ⟨isNormalText_canonical d, d.truncate, parse_canonical d, rfl, truncate_eq_self⟩

/-- The least duration, with more days than any other and all its places in use. -/
theorem parse_canonical_inverse_least :
    IsNormalText "-106751991167.07:12:55.807" ∧
      ∃ d : Duration, parse "-106751991167.07:12:55.807" = .ok d ∧
        d.canonical = "-106751991167.07:12:55.807" := by
  let c : Components :=
    { negative := true
      weeks := []
      days := "106751991167".toList
      hours := "07".toList
      minutes := "12".toList
      seconds := "55".toList
      fraction := "807".toList }
  have hnormal : c.IsNormal :=
    { weeks_nil := rfl
      days_digits := List.all_eq_true.1 (by decide)
      days_head := by decide
      hours_digits := List.all_eq_true.1 (by decide)
      hours_length := .inr rfl
      hours_two := rfl
      hours_le := by decide
      minutes_digits := List.all_eq_true.1 (by decide)
      minutes_length := rfl
      minutes_le := by decide
      seconds_digits := List.all_eq_true.1 (by decide)
      seconds_length := rfl
      seconds_le := by decide
      fraction_digits := List.all_eq_true.1 (by decide)
      fraction_length := rfl }
  have htext : IsNormalText "-106751991167.07:12:55.807" :=
    ⟨c, hnormal, by decide, by decide, by decide⟩
  exact ⟨htext, parse_canonical_inverse.2 _ htext⟩

end Duration

end FilterQuery
