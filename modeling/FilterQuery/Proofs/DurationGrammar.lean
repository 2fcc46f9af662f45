import FilterQuery.Proofs.DurationText

/-!
# The grammar of durations

A written duration is a text of the interval form or of the clock form. Both forms are given by what is
written for some components, so that a text is a duration if it is the text of components that the form
allows. The readers take a text apart from its start, one component after the other, where an optional
component is there if the unit after its digits is its own.

On ASCII texts the readers accept the two forms and nothing else, and recover the components. The value
of the components is then the exact sum of their milliseconds, as long as the seconds are whole and small
enough for a floating point number.

## Main results

* `Duration.readComponents_eq_some_iff` — the components that are read are those that were written.
* `Duration.parse_eq_invalid_iff` — an ASCII text is invalid exactly if it has neither form.
* `Duration.parse_exact` — the duration of a text is the exact total of its components, and the text is
  out of range exactly if the total is.
-/

namespace FilterQuery

namespace Text

/-- A text of ASCII characters. -/
def IsAscii (text : List Char) : Prop :=
  ∀ c ∈ text, c.toNat < 0x80

theorem IsAscii.left {text rest : List Char} (h : IsAscii (text ++ rest)) : IsAscii text :=
  fun c hc => h c (List.mem_append_left _ hc)

theorem IsAscii.right {text rest : List Char} (h : IsAscii (text ++ rest)) : IsAscii rest :=
  fun c hc => h c (List.mem_append_right _ hc)

theorem IsAscii.tail {c : Char} {text : List Char} (h : IsAscii (c :: text)) : IsAscii text :=
  fun d hd => h d (List.mem_cons_of_mem _ hd)

/-- The only decimal digits of ASCII are the usual ones. -/
theorem isDigit_of_isDecimalDigit {c : Char} (hc : c.toNat < 0x80) (h : isDecimalDigit c = true) :
    c.isDigit = true := by
  have hwide : wideDecimalDigits.contains c = false := CodeTable.contains_eq_false (by decide) hc
  rwa [isDecimalDigit, hwide, Bool.or_false] at h

theorem mem_of_mem_trim {c : Char} {text : List Char} (h : c ∈ trim text) : c ∈ text := by
  have hend : c ∈ (trimStart text).reverse.dropWhile isBlank := List.mem_reverse.1 h
  have hstart : c ∈ trimStart text :=
    List.mem_reverse.1 ((List.dropWhile_sublist _).subset hend)
  exact (List.dropWhile_sublist _).subset hstart

end Text

namespace Duration

open Text (IsAscii)

/-! ## The interval form -/

/-- A whole component with its unit; an absent component is not written. -/
def unitForm (unit : Char) (digits : List Char) : List Char :=
  if digits = [] then [] else digits ++ [unit]

/-- A fraction with its point; an absent fraction is not written. -/
def fractionForm (fraction : List Char) : List Char :=
  if fraction = [] then [] else '.' :: fraction

/-- The seconds with their fraction and their unit; absent seconds are not written. -/
def secondsForm (seconds fraction : List Char) : List Char :=
  if seconds = [] then [] else seconds ++ (fractionForm fraction ++ ['S'])

/-- The hours, minutes and seconds of the interval form, after their mark, which stands only in front of
one of them. -/
def Components.intervalTime (c : Components) : List Char :=
  if c.hours = [] ∧ c.minutes = [] ∧ c.seconds = [] then []
  else 'T' :: (unitForm 'H' c.hours ++ (unitForm 'M' c.minutes ++ secondsForm c.seconds c.fraction))

/-- The text of the interval form with the given components. -/
def Components.intervalForm (c : Components) : List Char :=
  (if c.negative then ['-'] else []) ++
    'P' :: (unitForm 'W' c.weeks ++ (unitForm 'D' c.days ++ c.intervalTime))

/-- The components that the interval form can have: at least one, all of them in ASCII digits, and a
fraction only of seconds. -/
structure Components.IsInterval (c : Components) : Prop where
  weeks_digits : ∀ d ∈ c.weeks, d.isDigit = true
  days_digits : ∀ d ∈ c.days, d.isDigit = true
  hours_digits : ∀ d ∈ c.hours, d.isDigit = true
  minutes_digits : ∀ d ∈ c.minutes, d.isDigit = true
  seconds_digits : ∀ d ∈ c.seconds, d.isDigit = true
  fraction_digits : ∀ d ∈ c.fraction, d.isDigit = true
  fraction_nil : c.seconds = [] → c.fraction = []
  present : ¬ (c.weeks = [] ∧ c.days = [] ∧ c.hours = [] ∧ c.minutes = [] ∧ c.seconds = [])

/-- A text of the interval form `[-]P[nW][nD][T[nH][nM][n[.f]S]]`. -/
def IsIntervalText (text : List Char) : Prop :=
  ∃ c : Components, c.IsInterval ∧ text = c.intervalForm

/-- A text of the clock form `[-][D.]H[H]:MM:SS[.f]`. -/
def IsClockText (text : List Char) : Prop :=
  ∃ c : Components, c.IsClock ∧ text = c.clockForm

/-- The text is what is written for the components in one of the two forms. -/
def Components.Writes (c : Components) (text : List Char) : Prop :=
  (c.IsInterval ∧ text = c.intervalForm) ∨ (c.IsClock ∧ text = c.clockForm)

/-! ## What is read was written

Each reader splits a text into what is written for the component that it reads, and the rest. -/

section Sound

variable {text rest digits : List Char}

theorem isDigit_of_mem_digitRun (htext : IsAscii text) {d : Char} (hd : d ∈ digitRun text) :
    d.isDigit = true :=
  Text.isDigit_of_isDecimalDigit (htext d ((List.takeWhile_sublist _).subset hd))
    (List.all_eq_true.1 List.all_takeWhile d hd)

theorem digitRun_append_afterDigits (text : List Char) : digitRun text ++ afterDigits text = text :=
  List.takeWhile_append_dropWhile

theorem isAscii_afterDigits (htext : IsAscii text) : IsAscii (afterDigits text) :=
  fun d hd => htext d ((List.dropWhile_sublist _).subset hd)

theorem eq_of_readSign {negative : Bool} (h : readSign text = (negative, rest)) :
    text = (if negative then ['-'] else []) ++ rest := by
  unfold readSign at h
  split at h <;> cases h <;> rfl

theorem eq_of_readComponent {unit : Char} (htext : IsAscii text)
    (h : readComponent unit text = (digits, rest)) :
    text = unitForm unit digits ++ rest ∧ ∀ d ∈ digits, d.isDigit = true := by
  have hsplit := digitRun_append_afterDigits text
  have hdigits := fun d => @isDigit_of_mem_digitRun text htext d
  unfold readComponent at h
  split at h
  · next digit more c tail hrun hafter =>
    rw [hrun, hafter] at hsplit
    rw [hrun] at hdigits
    split at h
    · next hunit =>
      cases h
      rw [unitForm, if_neg (List.cons_ne_nil _ _), ← hunit, ← hsplit]
      exact ⟨by simp, hdigits⟩
    · cases h
      exact ⟨rfl, nofun⟩
  · cases h
    exact ⟨rfl, nofun⟩

theorem eq_of_readFraction (htext : IsAscii text) (h : readFraction text = (digits, rest)) :
    text = fractionForm digits ++ rest ∧ ∀ d ∈ digits, d.isDigit = true := by
  unfold readFraction at h
  split at h
  · next tail =>
    have hsplit := digitRun_append_afterDigits tail
    have hdigits := fun d => @isDigit_of_mem_digitRun tail htext.tail d
    split at h
    · cases h
      exact ⟨rfl, nofun⟩
    · next hne =>
      cases h
      refine ⟨?_, hdigits⟩
      rw [fractionForm, if_neg hne, List.cons_append, hsplit]
  · cases h
    exact ⟨rfl, nofun⟩

theorem eq_of_readSeconds {fraction : List Char} (htext : IsAscii text)
    (h : readSeconds text = ((digits, fraction), rest)) :
    text = secondsForm digits fraction ++ rest ∧ (∀ d ∈ digits, d.isDigit = true) ∧
      (∀ d ∈ fraction, d.isDigit = true) ∧ (digits = [] → fraction = []) := by
  have hsplit := digitRun_append_afterDigits text
  have hdigits := fun d => @isDigit_of_mem_digitRun text htext d
  unfold readSeconds at h
  split at h
  · next digit more fraction' tail hrun hfraction =>
    obtain ⟨hafter, hfraction'⟩ := eq_of_readFraction (isAscii_afterDigits htext) hfraction
    rw [hrun] at hdigits hsplit
    rw [hafter] at hsplit
    cases h
    refine ⟨?_, hdigits, hfraction', fun hnil => absurd hnil (List.cons_ne_nil _ _)⟩
    rw [secondsForm, if_neg (List.cons_ne_nil _ _), ← hsplit]
    simp
  · cases h
    exact ⟨rfl, nofun, nofun, fun _ => rfl⟩

variable {c : Components}

/-- Components that are read from the interval form were written in it. -/
theorem eq_of_readInterval (htext : IsAscii text) (h : readInterval text = some c) :
    c.IsInterval ∧ text = c.intervalForm := by
  unfold readInterval at h
  rcases hsign : readSign text with ⟨negative, unsigned⟩
  have hunsigned := eq_of_readSign hsign
  simp only [hsign] at h
  split at h
  · next date =>
    have hdate : IsAscii date := (hunsigned ▸ htext).right.tail
    rcases hweeks : readComponent 'W' date with ⟨weeks, afterWeeks⟩
    obtain ⟨hdateEq, hweeksDigits⟩ := eq_of_readComponent hdate hweeks
    have hafterWeeks : IsAscii afterWeeks := (hdateEq ▸ hdate).right
    rcases hdays : readComponent 'D' afterWeeks with ⟨days, afterDays⟩
    obtain ⟨hafterWeeksEq, hdaysDigits⟩ := eq_of_readComponent hafterWeeks hdays
    have hafterDays : IsAscii afterDays := (hafterWeeksEq ▸ hafterWeeks).right
    simp only [hweeks, hdays] at h
    split at h
    · split at h
      · cases h
      · next hpresent =>
        cases h
        refine ⟨⟨hweeksDigits, hdaysDigits, nofun, nofun, nofun, nofun, fun _ => rfl, ?_⟩, ?_⟩
        · exact fun hnone => hpresent ⟨hnone.1, hnone.2.1⟩
        · rw [hunsigned, hdateEq, hafterWeeksEq]
          rfl
    · next time =>
      rcases hhours : readComponent 'H' time with ⟨hours, afterHours⟩
      obtain ⟨htimeEq, hhoursDigits⟩ := eq_of_readComponent hafterDays.tail hhours
      have hafterHours : IsAscii afterHours := (htimeEq ▸ hafterDays.tail).right
      rcases hminutes : readComponent 'M' afterHours with ⟨minutes, afterMinutes⟩
      obtain ⟨hafterHoursEq, hminutesDigits⟩ := eq_of_readComponent hafterHours hminutes
      have hafterMinutes : IsAscii afterMinutes := (hafterHoursEq ▸ hafterHours).right
      rcases hseconds : readSeconds afterMinutes with ⟨⟨seconds, fraction⟩, rest⟩
      obtain ⟨hafterMinutesEq, hsecondsDigits, hfractionDigits, hfraction⟩ :=
        eq_of_readSeconds hafterMinutes hseconds
      simp only [hhours, hminutes, hseconds] at h
      split at h
      · cases h
      · next hpresent =>
        split at h
        · next hrest =>
          cases h
          refine ⟨⟨hweeksDigits, hdaysDigits, hhoursDigits, hminutesDigits, hsecondsDigits,
            hfractionDigits, hfraction, ?_⟩, ?_⟩
          · exact fun hnone => hpresent hnone.2.2
          · rw [hunsigned, hdateEq, hafterWeeksEq, htimeEq, hafterHoursEq, hafterMinutesEq, hrest,
              Components.intervalForm, Components.intervalTime, if_neg hpresent, List.append_nil]
        · cases h
    · cases h
  · cases h

/-- The time of the clock form that is read is the text. -/
theorem eq_of_readClockTime {negative : Bool} {days : List Char} (htext : IsAscii text)
    (hdays : ∀ d ∈ days, d.isDigit = true) (h : readClockTime negative days text = some c) :
    c.IsClock ∧ c.negative = negative ∧ c.days = days ∧ text = c.timeForm := by
  have hsplit := digitRun_append_afterDigits text
  unfold readClockTime at h
  split at h
  · next afterHours hafterHours =>
    have hascii := hafterHours ▸ isAscii_afterDigits htext
    have hsplit' := digitRun_append_afterDigits afterHours
    dsimp only at h
    split at h
    · next afterMinutes hafterMinutes =>
      have hascii' := hafterMinutes ▸ isAscii_afterDigits hascii.tail
      have hsplit'' := digitRun_append_afterDigits afterMinutes
      rcases hfraction : readFraction (afterDigits afterMinutes) with ⟨fraction, rest⟩
      obtain ⟨hfractionEq, hfractionDigits⟩ :=
        eq_of_readFraction (isAscii_afterDigits hascii'.tail) hfraction
      simp only [hfraction] at h
      split at h
      · next hlengths =>
        obtain ⟨hhours, hminutes, hseconds, hrest⟩ := hlengths
        cases h
        refine ⟨?_, rfl, rfl, ?_⟩
        · exact
            { weeks_nil := rfl
              days_digits := hdays
              hours_digits := fun d => isDigit_of_mem_digitRun htext
              minutes_digits := fun d => isDigit_of_mem_digitRun hascii.tail
              seconds_digits := fun d => isDigit_of_mem_digitRun hascii'.tail
              fraction_digits := hfractionDigits
              hours_length := hhours
              minutes_length := hminutes
              seconds_length := hseconds }
        · rw [hrest, List.append_nil] at hfractionEq
          rw [hafterHours] at hsplit
          rw [hafterMinutes] at hsplit'
          rw [hfractionEq] at hsplit''
          show text = digitRun text ++ ':' :: (digitRun afterHours ++ ':' ::
            (digitRun afterMinutes ++ fractionForm fraction))
          rw [hsplit'', hsplit', hsplit]
      · cases h
    · cases h
  · cases h

/-- Components that are read from the clock form were written in it. -/
theorem eq_of_readClock (htext : IsAscii text) (h : readClock text = some c) :
    c.IsClock ∧ text = c.clockForm := by
  unfold readClock at h
  rcases hsign : readSign text with ⟨negative, unsigned⟩
  have hunsigned := eq_of_readSign hsign
  have hascii : IsAscii unsigned := (hunsigned ▸ htext).right
  have hsplit := digitRun_append_afterDigits unsigned
  simp only [hsign] at h
  split at h
  · next digit digits time hrun hafter =>
    have hdays := fun d => @isDigit_of_mem_digitRun unsigned hascii d
    rw [hrun] at hdays
    have htime := (hafter ▸ isAscii_afterDigits hascii).tail
    obtain ⟨hclock, hnegative, hdaysEq, htimeEq⟩ := eq_of_readClockTime htime hdays h
    refine ⟨hclock, ?_⟩
    rw [Components.clockForm, unsignedForm_of_cons hdaysEq, hnegative, ← htimeEq, hunsigned, ← hsplit,
      hrun, hafter]
  · obtain ⟨hclock, hnegative, hdaysEq, htimeEq⟩ := eq_of_readClockTime hascii (List.forall_mem_nil _) h
    refine ⟨hclock, ?_⟩
    rw [Components.clockForm, unsignedForm_of_nil hdaysEq, hnegative, ← htimeEq, hunsigned]

end Sound

/-! ## What was written is read

An optional component is taken as absent if the digits at the start of the rest are not followed by its
unit. The rest starts with a later component, whose unit is another one, or with no digits at all. -/

section Complete

variable {rest digits : List Char} {c : Components}

theorem readComponent_of_ne {unit : Char} (h : (afterDigits rest).head? ≠ some unit) :
    readComponent unit rest = ([], rest) := by
  unfold readComponent
  split
  · next hafter =>
    rw [hafter] at h
    rw [if_neg fun hunit => h (congrArg some hunit)]
  · rfl

theorem readComponent_unitForm {unit : Char} (hunit : Text.isDecimalDigit unit = false)
    (hdigits : ∀ d ∈ digits, d.isDigit = true) (hrest : (afterDigits rest).head? ≠ some unit) :
    readComponent unit (unitForm unit digits ++ rest) = (digits, rest) := by
  cases digits with
  | nil => exact readComponent_of_ne hrest
  | cons digit digits =>
      have htext : unitForm unit (digit :: digits) ++ rest = digit :: digits ++ unit :: rest := by
        simp [unitForm]
      rw [htext, readComponent, digitRun_append hdigits (nondigit_ends hunit rest),
        afterDigits_append hdigits (nondigit_ends hunit rest)]
      exact if_pos rfl

/-- What follows the digits in front of a component is its unit, or what follows them in front of the
rest. -/
theorem head?_afterDigits_unitForm {unit other : Char} (hunit : Text.isDecimalDigit unit = false)
    (hne : unit ≠ other) (hdigits : ∀ d ∈ digits, d.isDigit = true)
    (hrest : (afterDigits rest).head? ≠ some other) :
    (afterDigits (unitForm unit digits ++ rest)).head? ≠ some other := by
  by_cases hnil : digits = []
  · rw [unitForm, if_pos hnil]
    exact hrest
  · have hafter : afterDigits (digits ++ unit :: rest) = unit :: rest :=
      afterDigits_append hdigits (nondigit_ends hunit rest)
    rw [unitForm, if_neg hnil, List.append_assoc, List.singleton_append, hafter]
    exact fun h => hne (Option.some.inj h)

/-- The seconds go on with a fraction or with their unit. -/
theorem fraction_unit_ends (fraction : List Char) :
    ∀ c ∈ (fractionForm fraction ++ ['S']).head?, Text.isDecimalDigit c = false := by
  by_cases hnil : fraction = []
  · rw [fractionForm, if_pos hnil]
    exact nondigit_ends (by decide) []
  · rw [fractionForm, if_neg hnil, List.cons_append]
    exact point_ends _

theorem readSeconds_secondsForm {seconds fraction : List Char}
    (hseconds : ∀ d ∈ seconds, d.isDigit = true) (hfraction : ∀ d ∈ fraction, d.isDigit = true)
    (hnil : seconds = [] → fraction = []) :
    readSeconds (secondsForm seconds fraction) = ((seconds, fraction), []) := by
  cases seconds with
  | nil =>
      rw [hnil rfl]
      rfl
  | cons digit digits =>
      have hends := fraction_unit_ends fraction
      have hread : readFraction (fractionForm fraction ++ ['S']) = (fraction, ['S']) :=
        readFraction_append hfraction (by decide) (nondigit_ends (by decide) [])
      rw [secondsForm, if_neg (List.cons_ne_nil _ _), readSeconds, digitRun_append hseconds hends,
        afterDigits_append hseconds hends, hread]
      rfl

/-- The unit of the seconds, or their fraction, follows the digits in front of them. -/
theorem head?_afterDigits_secondsForm {seconds fraction : List Char} {other : Char}
    (hunit : other ≠ 'S') (hpoint : other ≠ '.') (hseconds : ∀ d ∈ seconds, d.isDigit = true) :
    (afterDigits (secondsForm seconds fraction)).head? ≠ some other := by
  by_cases hnil : seconds = []
  · rw [secondsForm, if_pos hnil]
    nofun
  · rw [secondsForm, if_neg hnil, afterDigits_append hseconds (fraction_unit_ends fraction)]
    by_cases hfraction : fraction = []
    · rw [fractionForm, if_pos hfraction]
      exact fun h => hunit (Option.some.inj h).symm
    · rw [fractionForm, if_neg hfraction]
      exact fun h => hpoint (Option.some.inj h).symm

/-- The time starts with its mark, if it is there. -/
theorem head?_afterDigits_intervalTime {other : Char} (hmark : other ≠ 'T') :
    (afterDigits c.intervalTime).head? ≠ some other := by
  unfold Components.intervalTime
  split
  · nofun
  · exact fun h => hmark (Option.some.inj h).symm

theorem readInterval_intervalForm (hc : c.IsInterval) : readInterval c.intervalForm = some c := by
  have hsign : readSign c.intervalForm =
      (c.negative, 'P' :: (unitForm 'W' c.weeks ++ (unitForm 'D' c.days ++ c.intervalTime))) := by
    rw [Components.intervalForm]
    cases c.negative <;> rfl
  have hweeks : readComponent 'W' (unitForm 'W' c.weeks ++ (unitForm 'D' c.days ++ c.intervalTime)) =
      (c.weeks, unitForm 'D' c.days ++ c.intervalTime) :=
    readComponent_unitForm (by decide) hc.weeks_digits
      (head?_afterDigits_unitForm (by decide) (by decide) hc.days_digits
        (head?_afterDigits_intervalTime (by decide)))
  have hdays : readComponent 'D' (unitForm 'D' c.days ++ c.intervalTime) =
      (c.days, c.intervalTime) :=
    readComponent_unitForm (by decide) hc.days_digits (head?_afterDigits_intervalTime (by decide))
  have hseconds := readSeconds_secondsForm hc.seconds_digits hc.fraction_digits hc.fraction_nil
  have hminutes : readComponent 'M' (unitForm 'M' c.minutes ++ secondsForm c.seconds c.fraction) =
      (c.minutes, secondsForm c.seconds c.fraction) :=
    readComponent_unitForm (by decide) hc.minutes_digits
      (head?_afterDigits_secondsForm (by decide) (by decide) hc.seconds_digits)
  have hhours : readComponent 'H' (unitForm 'H' c.hours ++
      (unitForm 'M' c.minutes ++ secondsForm c.seconds c.fraction)) =
      (c.hours, unitForm 'M' c.minutes ++ secondsForm c.seconds c.fraction) :=
    readComponent_unitForm (by decide) hc.hours_digits
      (head?_afterDigits_unitForm (by decide) (by decide) hc.minutes_digits
        (head?_afterDigits_secondsForm (by decide) (by decide) hc.seconds_digits))
  have hpresent := hc.present
  unfold readInterval
  simp only [hsign, hweeks, hdays]
  by_cases htime : c.hours = [] ∧ c.minutes = [] ∧ c.seconds = []
  · obtain ⟨hh, hm, hs⟩ := htime
    have hdate : ¬ (c.weeks = [] ∧ c.days = []) := fun h => hpresent ⟨h.1, h.2, hh, hm, hs⟩
    have hf := hc.fraction_nil hs
    rw [Components.intervalTime, if_pos ⟨hh, hm, hs⟩]
    simp only [if_neg hdate]
    obtain ⟨negative, weeks, days, hours, minutes, seconds, fraction⟩ := c
    cases hh
    cases hm
    cases hs
    cases hf
    rfl
  · rw [Components.intervalTime, if_neg htime]
    simp only [hhours, hminutes, hseconds, if_neg htime, if_true]

/-- The components that are read are those that were written. -/
theorem readComponents_of_writes {text : List Char} (h : c.Writes text) :
    readComponents text = some c := by
  rcases h with ⟨hc, rfl⟩ | ⟨hc, rfl⟩
  · rw [readComponents, readInterval_intervalForm hc]
    rfl
  · exact readComponents_clockForm hc

/-- From an ASCII text no others are read. -/
theorem readComponents_eq_some_iff {text : List Char} (htext : IsAscii text) :
    readComponents text = some c ↔ c.Writes text := by
  refine ⟨fun h => ?_, readComponents_of_writes⟩
  rcases Option.or_eq_some_iff.1 h with hinterval | ⟨_, hclock⟩
  · exact .inl (eq_of_readInterval htext hinterval)
  · exact .inr (eq_of_readClock htext hclock)

end Complete

/-! ## Texts that are no durations -/

/-- A text is invalid if no components can be read from it; what they add up to does not matter. -/
theorem parse_eq_invalid_iff_readComponents (s : String) :
    parse s = .error (.invalid s) ↔ readComponents (Text.trim s.toList) = none := by
  unfold parse
  cases readComponents (Text.trim s.toList) with
  | none => exact iff_of_true rfl rfl
  | some c =>
      dsimp only
      refine iff_of_false ?_ (Option.some_ne_none c)
      split
      · nofun
      · nofun

/-- **Exactly the two forms are accepted.** A text of ASCII characters is refused as no duration if and
only if, without the blanks around it, it is neither of the interval form nor of the clock form. -/
theorem parse_eq_invalid_iff (s : String) (hs : IsAscii s.toList) :
    parse s = .error (.invalid s) ↔
      ¬ IsIntervalText (Text.trim s.toList) ∧ ¬ IsClockText (Text.trim s.toList) := by
  have htrim : IsAscii (Text.trim s.toList) := fun c hc => hs c (Text.mem_of_mem_trim hc)
  rw [parse_eq_invalid_iff_readComponents, Option.eq_none_iff_forall_ne_some]
  constructor
  · intro hnone
    refine ⟨?_, ?_⟩
    · rintro ⟨c, hc⟩
      exact hnone c (readComponents_of_writes (.inl hc))
    · rintro ⟨c, hc⟩
      exact hnone c (readComponents_of_writes (.inr hc))
  · rintro ⟨hinterval, hclock⟩ c hread
    rcases (readComponents_eq_some_iff htrim).1 hread with hc | hc
    · exact hinterval ⟨c, hc⟩
    · exact hclock ⟨c, hc⟩

/-- A mark of the time with nothing after it. -/
theorem parse_eq_invalid_iff_mark :
    IsAscii " -P2DT\n".toList ∧ parse " -P2DT\n" = .error (.invalid " -P2DT\n") ∧
      ¬ IsIntervalText (Text.trim " -P2DT\n".toList) ∧ ¬ IsClockText (Text.trim " -P2DT\n".toList) := by
  have hall : " -P2DT\n".toList.all (fun c => decide (c.toNat < 0x80)) = true := by decide
  have hs : IsAscii " -P2DT\n".toList :=
    fun c hc => of_decide_eq_true (List.all_eq_true.1 hall c hc)
  have hparse : parse " -P2DT\n" = .error (.invalid " -P2DT\n") := by decide
  exact ⟨hs, hparse, (parse_eq_invalid_iff _ hs).1 hparse⟩

/-! ## Exact values -/

section Exact

variable {c : Components}

theorem Components.IsInterval.isPlain (hc : c.IsInterval) : c.IsPlain := by
  intro part hpart
  simp only [Components.wholeParts, List.mem_cons, List.not_mem_nil, or_false] at hpart
  rcases hpart with rfl | rfl | rfl | rfl
  · exact hc.weeks_digits
  · exact hc.days_digits
  · exact hc.hours_digits
  · exact hc.minutes_digits

theorem Components.Writes.isPlain {text : List Char} (h : c.Writes text) : c.IsPlain := by
  rcases h with ⟨hc, _⟩ | ⟨hc, _⟩
  · exact hc.isPlain
  · exact hc.isPlain

theorem Components.Writes.seconds_digits {text : List Char} (h : c.Writes text) :
    ∀ d ∈ c.seconds, d.isDigit = true := by
  rcases h with ⟨hc, _⟩ | ⟨hc, _⟩
  · exact hc.seconds_digits
  · exact hc.seconds_digits

/-- Whole seconds go through a floating point number without a loss. -/
theorem secondsToMillis_secondsValue_whole (hdigits : ∀ d ∈ c.seconds, d.isDigit = true)
    (hwhole : c.fraction = []) (hle : Decimal.valueOf c.seconds ≤ 9007199254740) :
    secondsToMillis c.secondsValue = (1000 * Decimal.valueOf c.seconds : Nat) := by
  rw [Components.secondsValue, hwhole, List.append_nil, if_pos (List.all_eq_true.2 hdigits)]
  exact secondsToMillis_whole hle

/-- The milliseconds of the whole components and of whole seconds. -/
def Components.wholeTotal (c : Components) : Nat :=
  604800000 * Decimal.valueOf c.weeks + 86400000 * Decimal.valueOf c.days +
    3600000 * Decimal.valueOf c.hours + 60000 * Decimal.valueOf c.minutes +
    1000 * Decimal.valueOf c.seconds

/-- **Durations are exact and never wrap around.** If the seconds of a written duration are whole and at
most 9007199254740, the text is read as the duration of its exact total with its sign if the total is at
most `2 ^ 63 - 1` milliseconds, and is out of range if it is more. Each sum on the way, over the first of
the whole components, is the exact one and fails only if that does not fit a word, and so is the negation
of the last. -/
theorem parse_exact {s : String} {c : Components} (hs : c.Writes (Text.trim s.toList))
    (hwhole : c.fraction = []) (hseconds : Decimal.valueOf c.seconds ≤ 9007199254740) :
    (c.wholeTotal ≤ 2 ^ 63 - 1 → ∃ d : Duration, parse s = .ok d ∧
      d.nanos = (if c.negative then -(c.wholeTotal : Int) else c.wholeTotal) * 1000000) ∧
    (2 ^ 63 - 1 < c.wholeTotal → parse s = .error (.outOfRange s)) ∧
    (∀ parts, parts <+: c.wholeParts → ∀ word, c.sumWord? parts = some word ↔
      word.toInt = (1000 * Decimal.valueOf c.seconds : Nat) + Components.partsMillis parts) ∧
    ∀ word, c.sumWord? c.wholeParts = some word →
      word.toInt = c.wholeTotal ∧ (-word).toInt = -word.toInt := by
  have hplain := hs.isPlain
  have hread := readComponents_of_writes hs
  have hmillis := secondsToMillis_secondsValue_whole hs.seconds_digits hwhole hseconds
  have htotal : c.exactTotal = c.wholeTotal := by
    rw [Components.exactTotal, hmillis, Components.partsMillis_wholeParts, Components.wholeTotal]
    omega
  have hsigned : c.exactMillis = if c.negative then -(c.wholeTotal : Int) else c.wholeTotal := by
    rw [Components.exactMillis, htotal]
  have habs : c.exactMillis.natAbs = c.wholeTotal := by
    rw [hsigned]
    split <;> omega
  have hmax : maxMillis = 2 ^ 63 - 1 := rfl
  refine ⟨fun hle => ?_, fun hlt => ?_, fun parts hparts word => ?_, fun word hword => ?_⟩
  · cases hd : ofMillis? c.exactMillis with
    | none =>
        rw [ofMillis?_eq_none_iff, habs, hmax] at hd
        omega
    | some d =>
        rw [← hsigned]
        exact ⟨d, parse_eq_ok hplain hread hd, nanos_of_ofMillis? hd⟩
  · apply parse_eq_outOfRange hplain hread
    rw [ofMillis?_eq_none_iff, habs, hmax]
    exact hlt
  · rw [Components.sumWord?_eq_some_iff c fun part hpart => hplain.isPart part (hparts.subset hpart),
      hmillis]
  · have hexact : word.toInt = c.wholeTotal := by
      rw [← htotal]
      exact (Components.sumWord?_eq_some_iff c hplain.isPart).1 hword
    exact ⟨hexact, Word.toInt_neg_of_nonneg (by omega)⟩

/-- The last whole second before the limit, with a sign, and the first one after it: there every component
fits and only the sum does not. -/
theorem parse_exact_limit :
    let before : Components :=
      ⟨true, [], "106751991167".toList, "7".toList, "12".toList, "55".toList, []⟩
    let after : Components :=
      ⟨false, [], "106751991167".toList, "7".toList, "12".toList, "56".toList, []⟩
    before.Writes (Text.trim " -P106751991167DT7H12M55S".toList) ∧
      (∃ d : Duration, parse " -P106751991167DT7H12M55S" = .ok d ∧
        d.nanos = -9223372036854775000 * 1000000) ∧
      after.Writes (Text.trim "106751991167.7:12:56".toList) ∧
      parse "106751991167.7:12:56" = .error (.outOfRange "106751991167.7:12:56") := by
  intro before after
  have hbefore : before.IsInterval :=
    { weeks_digits := nofun
      days_digits := List.all_eq_true.1 (by decide)
      hours_digits := List.all_eq_true.1 (by decide)
      minutes_digits := List.all_eq_true.1 (by decide)
      seconds_digits := List.all_eq_true.1 (by decide)
      fraction_digits := nofun
      fraction_nil := fun _ => rfl
      present := by decide }
  have hafter : after.IsClock :=
    { weeks_nil := rfl
      days_digits := List.all_eq_true.1 (by decide)
      hours_digits := List.all_eq_true.1 (by decide)
      minutes_digits := List.all_eq_true.1 (by decide)
      seconds_digits := List.all_eq_true.1 (by decide)
      fraction_digits := nofun
      hours_length := .inl rfl
      minutes_length := rfl
      seconds_length := rfl }
  have hinterval : before.Writes (Text.trim " -P106751991167DT7H12M55S".toList) :=
    .inl ⟨hbefore, by decide⟩
  have hclock : after.Writes (Text.trim "106751991167.7:12:56".toList) := .inr ⟨hafter, by decide⟩
  exact ⟨hinterval, (parse_exact hinterval rfl (by decide)).1 (by decide), hclock,
    (parse_exact hclock rfl (by decide)).2.1 (by decide)⟩

end Exact

end Duration

end FilterQuery
