import FilterQuery.Proofs.DurationGrammar
import FilterQuery.Proofs.ExprText

/-!
# Notations of one duration

A duration can be written in two forms, and in a document also as a number of seconds. All three end in
one sum of milliseconds, so that what is written with the same components is the same duration, or is
out of range in each notation.

A number of seconds carries its sign into the floating point number, while a text puts it on last.
Rounding does not see the sign, so that both give the same milliseconds.

The digits of a written duration may be of any script, but only the ASCII ones have a value. A whole
component with another digit has no value, and the text is refused; seconds with another digit count as
none, and the text is read as if they were not there.

## Main results

* `Duration.parse_forms_agree` — the clock form and the interval form of the same components.
* `Expr.decode_seconds_agree` — a number of seconds and the text with as many seconds.
* `Duration.parse_ok_digits` — the digits of a text that is read, and what other digits in its seconds do.
-/

namespace FilterQuery

namespace Duration

/-! ## The two forms -/

/-- Two readings of one duration: both give it, or both are out of range. -/
inductive Agree : Except DurationError Duration → Except DurationError Duration → Prop
  | ok (d : Duration) : Agree (.ok d) (.ok d)
  | outOfRange (s t : String) : Agree (.error (.outOfRange s)) (.error (.outOfRange t))

/-- What is read from a text of so many milliseconds: their duration, or that it is out of range. -/
def outcome (text : String) (millis : Int) : Except DurationError Duration :=
  match ofMillis? millis with
  | some d => .ok d
  | none => .error (.outOfRange text)

theorem agree_outcome (s t : String) (millis : Int) : Agree (outcome s millis) (outcome t millis) := by
  unfold outcome
  cases ofMillis? millis with
  | some d => exact .ok d
  | none => exact .outOfRange s t

section Forms

variable {c : Components} {digits fraction : List Char}

theorem unitForm_noBlank {unit : Char} (hunit : Text.isBlank unit = false)
    (hdigits : ∀ d ∈ digits, d.isDigit = true) : ∀ x ∈ unitForm unit digits, Text.isBlank x = false := by
  unfold unitForm
  split
  · exact List.forall_mem_nil _
  · exact List.forall_mem_append.2
      ⟨fun x hx => Text.isBlank_of_isDigit (hdigits x hx), List.forall_mem_singleton.2 hunit⟩

theorem fractionForm_noBlank (hfraction : ∀ d ∈ fraction, d.isDigit = true) :
    ∀ x ∈ fractionForm fraction, Text.isBlank x = false := by
  unfold fractionForm
  split
  · exact List.forall_mem_nil _
  · exact List.forall_mem_cons.2
      ⟨by decide, fun x hx => Text.isBlank_of_isDigit (hfraction x hx)⟩

theorem secondsForm_noBlank (hdigits : ∀ d ∈ digits, d.isDigit = true)
    (hfraction : ∀ d ∈ fraction, d.isDigit = true) :
    ∀ x ∈ secondsForm digits fraction, Text.isBlank x = false := by
  unfold secondsForm
  split
  · exact List.forall_mem_nil _
  · refine List.forall_mem_append.2 ⟨fun x hx => Text.isBlank_of_isDigit (hdigits x hx), ?_⟩
    exact List.forall_mem_append.2
      ⟨fractionForm_noBlank hfraction, List.forall_mem_singleton.2 (by decide)⟩

theorem intervalTime_noBlank (hc : c.IsInterval) : ∀ x ∈ c.intervalTime, Text.isBlank x = false := by
  unfold Components.intervalTime
  split
  · exact List.forall_mem_nil _
  · refine List.forall_mem_cons.2 ⟨by decide, ?_⟩
    refine List.forall_mem_append.2 ⟨unitForm_noBlank (by decide) hc.hours_digits, ?_⟩
    exact List.forall_mem_append.2 ⟨unitForm_noBlank (by decide) hc.minutes_digits,
      secondsForm_noBlank hc.seconds_digits hc.fraction_digits⟩

/-- A text of the interval form has no blanks. -/
theorem intervalForm_noBlank (hc : c.IsInterval) : ∀ x ∈ c.intervalForm, Text.isBlank x = false := by
  have hsign : ∀ x ∈ (if c.negative then ['-'] else []), Text.isBlank x = false := by
    split
    · exact List.forall_mem_singleton.2 (by decide)
    · exact List.forall_mem_nil _
  refine List.forall_mem_append.2 ⟨hsign, List.forall_mem_cons.2 ⟨by decide, ?_⟩⟩
  refine List.forall_mem_append.2 ⟨unitForm_noBlank (by decide) hc.weeks_digits, ?_⟩
  exact List.forall_mem_append.2
    ⟨unitForm_noBlank (by decide) hc.days_digits, intervalTime_noBlank hc⟩

/-- What is written in either form has no blanks around it. -/
theorem Components.Writes.trim_eq {text : List Char} (h : c.Writes text) : Text.trim text = text := by
  rcases h with ⟨hc, rfl⟩ | ⟨hc, rfl⟩
  · exact Text.trim_eq_self (intervalForm_noBlank hc)
  · exact Text.trim_eq_self fun x => isBlank_of_mem_clockForm hc

/-- A written duration is read as the duration of its milliseconds, if there is one. -/
theorem parse_of_writes {text : List Char} (h : c.Writes text) :
    parse (String.ofList text) = outcome (String.ofList text) c.exactMillis := by
  have hread : readComponents (Text.trim (String.ofList text).toList) = some c := by
    rw [String.toList_ofList, h.trim_eq, readComponents_of_writes h]
  unfold outcome
  cases hd : ofMillis? c.exactMillis with
  | some d => exact parse_eq_ok h.isPlain hread hd
  | none => exact parse_eq_outOfRange h.isPlain hread hd

/-- The components of the clock form are allowed in the interval form. -/
theorem Components.IsClock.isInterval (hc : c.IsClock) : c.IsInterval where
  weeks_digits := by
    rw [hc.weeks_nil]
    exact List.forall_mem_nil _
  days_digits := hc.days_digits
  hours_digits := hc.hours_digits
  minutes_digits := hc.minutes_digits
  seconds_digits := hc.seconds_digits
  fraction_digits := hc.fraction_digits
  fraction_nil := by
    intro hnil
    have hlength := hc.seconds_length
    rw [hnil] at hlength
    cases hlength
  present := by
    rintro ⟨_, _, _, hnil, _⟩
    have hlength := hc.minutes_length
    rw [hnil] at hlength
    cases hlength

/-- **The two forms agree.** With the same sign, days, hours, minutes, seconds and fraction, where the
days and the fraction may be absent, the texts `[-][d.]h:m:s[.f]` and `[-]P[dD]ThHmMs[.f]S` are read as
the same duration, or are both out of range. -/
theorem parse_forms_agree (c : Components) (hc : c.IsClock) :
    Agree (parse (String.ofList c.clockForm)) (parse (String.ofList c.intervalForm)) := by
  rw [parse_of_writes (.inr ⟨hc, rfl⟩), parse_of_writes (.inl ⟨hc.isInterval, rfl⟩)]
  exact agree_outcome _ _ _

/-- Hours and minutes beyond a day and an hour with a long fraction, and days beyond the range. -/
theorem parse_forms_agree_far :
    let far : Components :=
      ⟨true, [], "3".toList, "99".toList, "99".toList, "07".toList, "12345678901234567890".toList⟩
    let beyond : Components :=
      ⟨false, [], "00106751991168".toList, "0".toList, "00".toList, "00".toList, []⟩
    far.IsClock ∧ beyond.IsClock ∧
      Agree (parse "-3.99:99:07.12345678901234567890") (parse "-P3DT99H99M07.12345678901234567890S") ∧
      Agree (parse "00106751991168.0:00:00") (parse "P00106751991168DT0H00M00S") := by
  intro far beyond
  have hfar : far.IsClock :=
    { weeks_nil := rfl
      days_digits := List.all_eq_true.1 (by decide)
      hours_digits := List.all_eq_true.1 (by decide)
      minutes_digits := List.all_eq_true.1 (by decide)
      seconds_digits := List.all_eq_true.1 (by decide)
      fraction_digits := List.all_eq_true.1 (by decide)
      hours_length := .inr rfl
      minutes_length := rfl
      seconds_length := rfl }
  have hbeyond : beyond.IsClock :=
    { weeks_nil := rfl
      days_digits := List.all_eq_true.1 (by decide)
      hours_digits := List.all_eq_true.1 (by decide)
      minutes_digits := List.all_eq_true.1 (by decide)
      seconds_digits := List.all_eq_true.1 (by decide)
      fraction_digits := List.forall_mem_nil _
      hours_length := .inl rfl
      minutes_length := rfl
      seconds_length := rfl }
  exact ⟨hfar, hbeyond, parse_forms_agree far hfar, parse_forms_agree beyond hbeyond⟩

end Forms

/-! ## Numbers of seconds -/

/-- The text of a whole number of seconds in the interval form. -/
def secondsText (n : Int) : String :=
  (if n < 0 then "-" else "") ++ "PT" ++ String.ofList (Decimal.digitsOf n.natAbs) ++ "S"

/-- The components of the text of a whole number of seconds. -/
def secondsComponents (n : Int) : Components :=
  ⟨decide (n < 0), [], [], [], [], Decimal.digitsOf n.natAbs, []⟩

theorem secondsComponents_isInterval (n : Int) : (secondsComponents n).IsInterval where
  weeks_digits := List.forall_mem_nil _
  days_digits := List.forall_mem_nil _
  hours_digits := List.forall_mem_nil _
  minutes_digits := List.forall_mem_nil _
  seconds_digits := fun _ => Decimal.isDigit_of_mem_digitsOf
  fraction_digits := List.forall_mem_nil _
  fraction_nil := fun _ => rfl
  present := fun hnone => Decimal.digitsOf_ne_nil _ hnone.2.2.2.2

theorem secondsText_eq (n : Int) : secondsText n = String.ofList (secondsComponents n).intervalForm := by
  have hne := Decimal.digitsOf_ne_nil n.natAbs
  apply String.toList_inj.1
  simp only [secondsText, secondsComponents, Components.intervalForm, Components.intervalTime, unitForm,
    secondsForm, fractionForm]
  by_cases hneg : n < 0
  · simp [hneg, hne]
  · simp [hneg, hne]

/-- The milliseconds of a whole number of seconds in a text are those of the number. -/
theorem exactMillis_secondsComponents (n : Int) :
    (secondsComponents n).exactMillis = secondsToMillis (Binary64.ofInt n) := by
  have hdigits : (Decimal.digitsOf n.natAbs).all Char.isDigit = true :=
    List.all_eq_true.2 fun _ => Decimal.isDigit_of_mem_digitsOf
  have hvalue : (secondsComponents n).secondsValue = Binary64.ofRatio false n.natAbs 1 := by
    have hseconds : (secondsComponents n).seconds ++ (secondsComponents n).fraction =
        Decimal.digitsOf n.natAbs := List.append_nil _
    rw [Components.secondsValue, hseconds, if_pos hdigits, Decimal.valueOf_digitsOf]
    exact Binary64.ofDecimal_whole false n.natAbs
  have hwhole : Components.partsMillis (secondsComponents n).wholeParts = 0 := by
    rw [Components.partsMillis_wholeParts]
    rfl
  have htotal : (secondsComponents n).exactTotal =
      secondsToMillis (Binary64.ofRatio false n.natAbs 1) := by
    rw [Components.exactTotal, hvalue, hwhole, Int.add_zero]
  rw [Components.exactMillis, htotal, Binary64.ofInt]
  by_cases hneg : n < 0
  · have hsign : (secondsComponents n).negative = true := decide_eq_true hneg
    rw [if_pos hsign, decide_eq_true hneg, secondsToMillis_negative]
  · have hsign : (secondsComponents n).negative = false := decide_eq_false hneg
    rw [hsign, decide_eq_false hneg]
    rfl

/-- The test for finite seconds does not matter: an infinite number of seconds is no duration anyway. -/
theorem ofSeconds_ofInt (n : Int) :
    ofSeconds (Binary64.ofInt n) =
      outcome (String.ofList (Binary64.ofInt n).positional) (secondsToMillis (Binary64.ofInt n)) := by
  have htest : (if (Binary64.ofInt n).isFinite = true then ofMillis? (secondsToMillis (Binary64.ofInt n))
      else none) = ofMillis? (secondsToMillis (Binary64.ofInt n)) := by
    rcases Binary64.isFinite_or_eq_infinity (decide (n < 0)) n.natAbs 1 with hfinite | hinfinite
    · exact if_pos hfinite
    · rw [Binary64.ofInt, hinfinite, ofMillis?_infinity, ite_self]
  rw [ofSeconds, htest]
  rfl

/-- A whole number of seconds is the same duration as a number and as a text. -/
theorem agree_ofSeconds_parse (n : Int) :
    Agree (ofSeconds (Binary64.ofInt n)) (parse (secondsText n)) := by
  rw [ofSeconds_ofInt, secondsText_eq, parse_of_writes (.inl ⟨secondsComponents_isInterval n, rfl⟩),
    exactMillis_secondsComponents]
  exact agree_outcome _ _ _

/-! ## Digits of other scripts -/

namespace Components

/-- The digits of the weeks, days, hours and minutes. -/
def wholeDigits (c : Components) : List Char :=
  c.weeks ++ (c.days ++ (c.hours ++ c.minutes))

/-- The digits of the seconds, with their fraction. -/
def secondsDigits (c : Components) : List Char :=
  c.seconds ++ c.fraction

/-- The components with the seconds left out. -/
def withoutSeconds (c : Components) : Components :=
  { c with seconds := [], fraction := [] }

/-- A component that is added is written in ASCII digits. -/
theorem isDigit_of_addPart {sum word : Int64} {part : List Char × Int64}
    (h : addPart sum part = some word) : ∀ x ∈ part.1, x.isDigit = true := by
  rw [addPart, Option.bind_eq_bind, Option.bind_eq_some_iff] at h
  obtain ⟨count, hcount, _⟩ := h
  obtain ⟨n, hn, _⟩ := Option.bind_eq_some_iff.1 hcount
  unfold wholeValue? at hn
  split at hn
  · next hall => exact List.all_eq_true.1 hall
  · cases hn

/-- Components that have a sum are written in ASCII digits. -/
theorem isDigit_of_foldlM_addPart {parts : List (List Char × Int64)} {sum word : Int64}
    (h : parts.foldlM addPart sum = some word) : ∀ part ∈ parts, ∀ x ∈ part.1, x.isDigit = true := by
  induction parts generalizing sum with
  | nil => exact List.forall_mem_nil _
  | cons part parts ih =>
      rw [List.foldlM_cons, Option.bind_eq_bind, Option.bind_eq_some_iff] at h
      obtain ⟨next, hnext, hrest⟩ := h
      exact List.forall_mem_cons.2 ⟨isDigit_of_addPart hnext, ih hrest⟩

variable {c : Components}

theorem isPlain_of_millisWord? {word : Int64} (h : c.millisWord? = some word) : c.IsPlain := by
  obtain ⟨total, htotal, _⟩ := Option.map_eq_some_iff.1 h
  rw [sumWord?, Option.bind_eq_bind, Option.bind_eq_some_iff] at htotal
  obtain ⟨seconds, _, hsum⟩ := htotal
  exact isDigit_of_foldlM_addPart hsum

theorem isPlain_iff_wholeDigits : c.IsPlain ↔ ∀ x ∈ c.wholeDigits, x.isDigit = true := by
  simp only [IsPlain, wholeParts, wholeDigits, List.forall_mem_cons, List.forall_mem_append,
    List.not_mem_nil, false_implies, implies_true, and_true]

/-- Seconds with another digit count as none. -/
theorem exactMillis_withoutSeconds (h : ¬ ∀ x ∈ c.secondsDigits, x.isDigit = true) :
    c.exactMillis = c.withoutSeconds.exactMillis := by
  have hnot : ¬ (c.seconds ++ c.fraction).all Char.isDigit = true :=
    fun hall => h (List.all_eq_true.1 hall)
  have hvalue : c.secondsValue = c.withoutSeconds.secondsValue := by
    rw [secondsValue, if_neg hnot]
    rfl
  rw [exactMillis, exactMillis, exactTotal, exactTotal, hvalue]
  rfl

end Components

/-- A text with given components is a duration exactly if the whole ones are in ASCII digits and the
milliseconds of all are in range. -/
theorem parse_eq_ok_iff {s : String} {d : Duration} {c : Components}
    (hread : readComponents (Text.trim s.toList) = some c) :
    parse s = .ok d ↔ c.IsPlain ∧ ofMillis? c.exactMillis = some d := by
  constructor
  · intro hparse
    rw [parse, hread] at hparse
    dsimp only at hparse
    split at hparse
    · cases hparse
    · next hd =>
      cases hparse
      obtain ⟨word, hword, _⟩ := Option.bind_eq_some_iff.1 hd
      have hplain := Components.isPlain_of_millisWord? hword
      exact ⟨hplain, by rw [← millisWord?_bind_ofMillis? hplain, hd]⟩
  · rintro ⟨hplain, hd⟩
    exact parse_eq_ok hplain hread hd

/-- **Digits of a duration.** If a text is read as a duration, its weeks, days, hours and minutes are
written in ASCII digits. It has a digit that is not ASCII exactly if such a digit stands in the seconds,
and then the seconds are dropped: the duration is that of the other components. -/
theorem parse_ok_digits {s : String} {c : Components}
    (hread : readComponents (Text.trim s.toList) = some c) (d : Duration) :
    (parse s = .ok d → ∀ x ∈ c.wholeDigits, x.isDigit = true) ∧
      ((parse s = .ok d ∧ ¬ ∀ x ∈ c.wholeDigits ++ c.secondsDigits, x.isDigit = true) ↔
        (∀ x ∈ c.wholeDigits, x.isDigit = true) ∧ (¬ ∀ x ∈ c.secondsDigits, x.isDigit = true) ∧
          ofMillis? c.withoutSeconds.exactMillis = some d) := by
  rw [parse_eq_ok_iff hread, Components.isPlain_iff_wholeDigits, List.forall_mem_append]
  refine ⟨fun h => h.1, ?_, ?_⟩
  · rintro ⟨⟨hwhole, hd⟩, hdigits⟩
    have hseconds : ¬ ∀ x ∈ c.secondsDigits, x.isDigit = true := fun h => hdigits ⟨hwhole, h⟩
    exact ⟨hwhole, hseconds, by rw [← Components.exactMillis_withoutSeconds hseconds, hd]⟩
  · rintro ⟨hwhole, hseconds, hd⟩
    exact ⟨⟨hwhole, by rw [Components.exactMillis_withoutSeconds hseconds, hd]⟩,
      fun h => hseconds h.2⟩

/-- A day, two hours, three minutes, and seconds of which one digit is an Arabic-Indic five. -/
theorem parse_ok_digits_mixed :
    let d : Duration := ⟨93780000 * 1000000, by decide⟩
    let c : Components := ⟨false, [], ['1'], ['0', '2'], ['0', '3'], ['0', '٥'], []⟩
    readComponents (Text.trim "1.02:03:0٥".toList) = some c ∧ parse "1.02:03:0٥" = .ok d ∧
      (∀ x ∈ c.wholeDigits, x.isDigit = true) ∧ (¬ ∀ x ∈ c.secondsDigits, x.isDigit = true) ∧
      ofMillis? c.withoutSeconds.exactMillis = some d := by
  intro d c
  have hread : readComponents (Text.trim "1.02:03:0٥".toList) = some c := by decide +kernel
  have hparse : parse "1.02:03:0٥" = .ok d := by decide +kernel
  have hwide : ¬ ∀ x ∈ c.wholeDigits ++ c.secondsDigits, x.isDigit = true :=
    fun h => Bool.false_ne_true (h '٥' (List.mem_append_right _ (.tail _ (.head _))))
  exact ⟨hread, hparse, (parse_ok_digits hread d).2.1 ⟨hparse, hwide⟩⟩

/-- Five seconds in an Arabic-Indic digit are read as a duration, but as an empty one. -/
theorem parse_drops_seconds :
    ∃ c : Components, readComponents (Text.trim "PT٥S".toList) = some c ∧
      c.secondsDigits = ['٥'] ∧ '٥'.isDigit = false ∧
      parse "PT٥S" = .ok ⟨0, by decide⟩ := by
  refine ⟨⟨false, [], [], [], [], ['٥'], []⟩, ?_, rfl, by decide, ?_⟩
  · decide +kernel
  · decide +kernel

end Duration

namespace Expr

/-- A document decodes to a result, both as a node anywhere in a tree and as a text. -/
def Decodes (document : Json) (result : Reading Expr) : Prop :=
  (∀ nested, ofJson nested document = result) ∧
    read document.compact = result.mapError .unsupported

/-- The document of a duration with a given value. -/
def durationDocument (value : Json) : Json :=
  tagged .duration [("value", value)]

/-- An object with the tag of a duration is read as its value is. -/
theorem ofJson_duration (nested : Bool) {members : List (String × Json)} {json : Json}
    (htag : members.lookup "type" = some (.string Kind.duration.tag))
    (hvalue : members.lookup "value" = some json) :
    ofJson nested (.object members) = (readDuration json).map .duration := by
  have hkind : (present "type" (members.lookup "type") >>= readKind nested) = .ok .duration := by
    rw [htag]
    exact readKind_tag nested .duration
  have hread : onlyMember readDuration "value" members = readDuration json := by
    rw [onlyMember, member?, hvalue]
    dsimp only
    cases readDuration json <;> rfl
  rw [ofJson, ← bind_assoc, hkind]
  show (onlyMember readDuration "value" members >>= _) = _
  rw [hread]
  cases readDuration json <;> rfl

theorem ofJson_durationDocument (nested : Bool) (json : Json) :
    ofJson nested (durationDocument json) = (readDuration json).map .duration :=
  ofJson_duration nested rfl rfl

theorem readDuration_int (n : Int) :
    readDuration (.number (.int n)) = (Duration.ofSeconds (Binary64.ofInt n)).mapError .duration := rfl

theorem readDuration_string (s : String) :
    readDuration (.string s) = (Duration.parse s).mapError .duration := rfl

/-- A duration in a document is decoded as its value is, if that is a word or a text. -/
theorem decodes_duration {json : Json} (hnumbers : ∀ n ∈ json.numbers, n.isWord = true)
    (hdepth : json.depth = 0) (hsorted : json.sorted = json) :
    Decodes (durationDocument json) ((readDuration json).map .duration) := by
  have hnames : ([("type", Json.string Kind.duration.tag), ("value", json)].map Prod.fst).Nodup :=
    show ["type", "value"].Nodup by decide
  have hdocument : Json.read (durationDocument json).compact = some (durationDocument json).sorted :=
    read_compact_single .duration "value" hnumbers hdepth
  have htag := Json.lookup_insertMembers_of_mem hnames List.mem_cons_self []
  have hvalue := Json.lookup_insertMembers_of_mem hnames (.tail _ (.head _)) []
  rw [hsorted] at hvalue
  refine ⟨fun nested => ofJson_durationDocument nested json, ?_⟩
  rw [read, hdocument]
  show (ofJson false (.object (Json.insertMembers [] _))).mapError _ = _
  rw [ofJson_duration false htag hvalue]

/-- **Numbers and texts of seconds agree.** For an integer of 64 bits, signed or not, a duration literal
with that number as its value decodes to the same duration as one with the text `PTnS`, or `-PTnS` for a
negative number, or both are out of range. -/
theorem decode_seconds_agree (n : Int) (hlow : -2 ^ 63 ≤ n) (hhigh : n ≤ 2 ^ 64 - 1) :
    (∃ d, Decodes (durationDocument (.number (.int n))) (.ok (.duration d)) ∧
      Decodes (durationDocument (.string (Duration.secondsText n))) (.ok (.duration d))) ∨
    ∃ s t, Decodes (durationDocument (.number (.int n))) (.error (.duration (.outOfRange s))) ∧
      Decodes (durationDocument (.string (Duration.secondsText n)))
        (.error (.duration (.outOfRange t))) := by
  have hword : (Number.int n).isWord = true := by
    simp only [Number.isWord, Bool.and_eq_true, decide_eq_true_eq]
    exact ⟨hlow, Int.lt_of_le_sub_one hhigh⟩
  have hnumber : Decodes (durationDocument (.number (.int n))) _ :=
    decodes_duration (List.forall_mem_singleton.2 hword) rfl rfl
  have htext : Decodes (durationDocument (.string (Duration.secondsText n))) _ :=
    decodes_duration (List.forall_mem_nil _) rfl rfl
  rw [readDuration_int] at hnumber
  rw [readDuration_string] at htext
  have hagree := Duration.agree_ofSeconds_parse n
  generalize Duration.ofSeconds (Binary64.ofInt n) = seconds at hagree hnumber
  generalize Duration.parse (Duration.secondsText n) = parsed at hagree htext
  cases hagree with
  | ok d => exact .inl ⟨d, hnumber, htext⟩
  | outOfRange s t => exact .inr ⟨s, t, hnumber, htext⟩

/-- A number of seconds between two floating point numbers: in either notation it is rounded to the same
one of them. -/
theorem decode_seconds_agree_rounded :
    let number := durationDocument (.number (.int (-9007199254740993)))
    let text := durationDocument (.string "-PT9007199254740993S")
    (-2 ^ 63 ≤ (-9007199254740993 : Int) ∧ (-9007199254740993 : Int) ≤ 2 ^ 64 - 1) ∧
      ∃ d : Duration, d.nanos = -9007199254740992000 * 1000000 ∧
        Decodes number (.ok (.duration d)) ∧ Decodes text (.ok (.duration d)) := by
  intro number text
  have hseconds : Duration.ofSeconds (Binary64.ofInt (-9007199254740993)) =
      .ok ⟨-9007199254740992000 * 1000000, by decide⟩ := by decide +kernel
  have hread : ofJson false number = .ok (.duration ⟨-9007199254740992000 * 1000000, by decide⟩) := by
    rw [ofJson_durationDocument, readDuration_int, hseconds]
    rfl
  refine ⟨by decide, ?_⟩
  rcases decode_seconds_agree (-9007199254740993) (by decide) (by decide) with
    ⟨d, hnumber, htext⟩ | ⟨s, t, hnumber, _⟩
  · cases hread.symm.trans (hnumber.1 false)
    exact ⟨_, rfl, hnumber, htext⟩
  · cases hread.symm.trans (hnumber.1 false)

end Expr

end FilterQuery
