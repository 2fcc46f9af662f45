import FilterQuery.Proofs.DurationNotation
import FilterQuery.Proofs.WalkRules

/-!
# Compiled moments

A moment is written in two ways. In the document of an expression it has as many digits of a second as it
needs, and in a compiled filter it always has three. The second text is not meant to be read as an
expression again, but it can be, and then nothing is lost but what is below the millisecond: the reader
takes a fraction of any length, and the second 60 of a leap second stands in front of the point in either
text. Nanoseconds count forward from their second before 1970 too, so that leaving out the last digits
never moves a moment into another millisecond.

## Main results

* `Moment.parse_millisText` — the text of three digits is read as the moment without its smaller digits.
* `Moment.millisText_eq_iff` — moments have one text exactly if they share their millisecond.
* `compiled_moment` — the same of compiled values and of documents.
-/

namespace FilterQuery

namespace Moment

/-- The moment without what is below its millisecond. -/
def wholeMillis (moment : Moment) : Moment where
  seconds := moment.seconds
  nanos := moment.nanos / 1000000 * 1000000
  seconds_ge := moment.seconds_ge
  seconds_le := moment.seconds_le
  nanos_lt := Nat.lt_of_le_of_lt (Nat.div_mul_le_self _ _) moment.nanos_lt
  leap_minute h := moment.leap_minute (Nat.le_trans h (Nat.div_mul_le_self _ _))

/-- Two moments are in the same millisecond. A leap second has milliseconds of its own. -/
def SameMillisecond (moment other : Moment) : Prop :=
  moment.seconds = other.seconds ∧ moment.nanos / 1000000 = other.nanos / 1000000

variable {moment other : Moment}

theorem wholeMillis_eq_iff : moment.wholeMillis = other.wholeMillis ↔ moment.SameMillisecond other := by
  simp only [wholeMillis, mk.injEq, SameMillisecond]
  omega

/-- The whole seconds of the nanoseconds, which mark a leap second, are kept beside the milliseconds. -/
theorem withFraction_millis (moment : Moment)
    (h : moment.nanos % 1000000000 / 1000000 * 1000000 < 1000000000) :
    moment.withFraction (moment.nanos % 1000000000 / 1000000 * 1000000) h = moment.wholeMillis := by
  simp only [withFraction, wholeMillis, mk.injEq, true_and]
  omega

/-- A fraction of three digits is a number of milliseconds. -/
theorem readFraction_millis {millis : Nat} (h : millis < 1000) :
    readFraction ('.' :: Decimal.paddedDigits 3 millis ++ ['Z']) = .ok (millis * 1000000, ['Z']) :=
  readFraction_paddedDigits (by decide) (by decide) h isDigit_zone

/-- The text of three digits is read as the moment without its smaller digits. -/
theorem parse_millisText (hyear : 0 ≤ moment.date.year ∧ moment.date.year ≤ 9999) :
    parse moment.millisText = .ok moment.wholeMillis := by
  have hmillis : moment.nanos % 1000000000 / 1000000 < 1000 := by omega
  have hlt : moment.nanos % 1000000000 / 1000000 * 1000000 < 1000000000 := by omega
  rw [millisText, parse_clockText hyear hlt (readFraction_millis hmillis), moment.withFraction_millis hlt]

/-- The text is made of the milliseconds alone. -/
theorem millisText_wholeMillis (moment : Moment) :
    moment.wholeMillis.millisText = moment.millisText := by
  have hleap : moment.nanos / 1000000 * 1000000 / 1000000000 = moment.nanos / 1000000000 := by omega
  have hmillis : moment.nanos / 1000000 * 1000000 % 1000000000 / 1000000 =
      moment.nanos % 1000000000 / 1000000 := by omega
  simp only [millisText, clockText, wholeMillis, hleap, hmillis]

/-- Moments of years of four digits have one text exactly if they share their millisecond. -/
theorem millisText_eq_iff (hyear : 0 ≤ moment.date.year ∧ moment.date.year ≤ 9999)
    (hother : 0 ≤ other.date.year ∧ other.date.year ≤ 9999) :
    moment.millisText = other.millisText ↔ moment.SameMillisecond other := by
  rw [← wholeMillis_eq_iff]
  constructor
  · intro h
    have hparse := parse_millisText hyear
    rw [h, parse_millisText hother] at hparse
    exact (Except.ok.inj hparse).symm
  · intro h
    rw [← moment.millisText_wholeMillis, h, other.millisText_wholeMillis]

end Moment

namespace Expr

/-- The document of a moment with a given text. -/
def momentDocument (s : String) : Json :=
  tagged .moment [("value", .string s)]

/-- A moment in a document is decoded as its text is. -/
theorem decodes_moment {s : String} {m : Moment} (h : Moment.parse s = .ok m) :
    Decodes (momentDocument s) (.ok (.moment m)) := by
  have hread : readMoment (.string s) = .ok m := by
    rw [readMoment, h]
    rfl
  have hdocument : Json.read (momentDocument s).compact = some (momentDocument s).sorted :=
    read_compact_single .moment "value" (List.forall_mem_nil _) rfl
  have hsorted : ofJson false (momentDocument s).sorted = .ok (.moment m) :=
    ofJson_single false rfl (by decide) (fun _ h => h) hread
  refine ⟨fun nested => ofJson_object nested rfl ⟨.string s, rfl, hread⟩, ?_⟩
  rw [read, hdocument]
  show (ofJson false (momentDocument s).sorted).mapError _ = _
  rw [hsorted]

end Expr

/-- **Compiled moments keep their millisecond.** A moment of the years 0 to 9999 compiles to a text that
decodes, as the value of a moment literal, to the moment without what is below its millisecond. Of these
moments, exactly those in the same millisecond compile to the same text. -/
theorem compiled_moment (m : Moment) (hyear : 0 ≤ m.date.year ∧ m.date.year ≤ 9999)
    (skip? : Option String) (t : Trace) :
    ∃ s : String, Walk.visit skip? (.moment m) t = .ok (.value (.string s), t) ∧
      Expr.Decodes (Expr.momentDocument s) (.ok (.moment m.wholeMillis)) ∧
      ∀ other : Moment, 0 ≤ other.date.year ∧ other.date.year ≤ 9999 →
        (Walk.visit skip? (.moment other) t = .ok (.value (.string s), t) ↔ m.SameMillisecond other) := by
  refine ⟨m.millisText, rfl, Expr.decodes_moment (Moment.parse_millisText hyear), ?_⟩
  intro other hother
  rw [← Moment.millisText_eq_iff hyear hother]
  show Except.ok (Outcome.value (.string other.millisText), t) =
    .ok (.value (.string m.millisText), t) ↔ _
  simp only [Except.ok.injEq, Prod.mk.injEq, Outcome.value.injEq, Value.string.injEq, and_true]
  exact eq_comm

/-- The last nanosecond of a leap second before 1970, and the start of its millisecond. -/
theorem compiled_moment_leap :
    let m : Moment := ⟨-1, 1999999999, by decide, by decide, by decide, by decide⟩
    let start : Moment := ⟨-1, 1999000000, by decide, by decide, by decide, by decide⟩
    let s := "1969-12-31T23:59:60.999Z"
    (0 ≤ m.date.year ∧ m.date.year ≤ 9999) ∧ (0 ≤ start.date.year ∧ start.date.year ≤ 9999) ∧
      m.SameMillisecond start ∧
      Walk.visit none (.moment m) ⟨[], []⟩ = .ok (.value (.string s), ⟨[], []⟩) ∧
      Expr.Decodes (Expr.momentDocument s) (.ok (.moment start)) ∧
      Walk.visit none (.moment start) ⟨[], []⟩ = .ok (.value (.string s), ⟨[], []⟩) := by
  intro m start s
  have hyear : 0 ≤ m.date.year ∧ m.date.year ≤ 9999 := by decide
  have hstart : 0 ≤ start.date.year ∧ start.date.year ≤ 9999 := by decide
  have hsame : m.SameMillisecond start := ⟨rfl, by decide⟩
  have hwhole : m.wholeMillis = start := by decide
  have htext : m.millisText = s := by decide +kernel
  have hvisit : Walk.visit none (.moment m) ⟨[], []⟩ = .ok (.value (.string s), ⟨[], []⟩) := by
    rw [← htext]
    rfl
  obtain ⟨s', hs', hdecodes, hother⟩ := compiled_moment m hyear none ⟨[], []⟩
  cases hvisit.symm.trans hs'
  rw [hwhole] at hdecodes
  exact ⟨hyear, hstart, hsame, hvisit, hdecodes, (hother start hstart).2 hsame⟩

end FilterQuery
