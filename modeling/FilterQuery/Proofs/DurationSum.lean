import FilterQuery.Duration.Reader
import FilterQuery.Proofs.Rounding

/-!
# Summing up durations in words

The milliseconds of a duration are summed up in signed 64-bit words, where every count, every product and
every sum may fail to fit. All of them are nonnegative, so that each is at most the total of the
components: if the total fits a word, then so does everything before it, and the sum is refused exactly if
the total is too large. The sign is put on last, by an operation that is not checked, and never wraps
around, since the total is not negative.

## Main results

* `Word.ofInt?_eq_some_iff`, `Word.checkedAdd_eq_some_iff`, `Word.checkedMul_eq_some_iff` — what a checked
  operation gives is exact.
* `Duration.Components.foldlM_addPart_eq_some_iff` — a sum in words is the exact sum, if that fits.
* `Duration.millisWord?_bind_ofMillis?` — the words on the way never decide whether there is a duration.
-/

namespace FilterQuery

/-! ## Checked operations -/

namespace Word

variable {a b word : Int64} {i : Int}

/-- What fits a word does not wrap around. -/
theorem bmod_eq_self (hlow : -2 ^ 63 ≤ i) (hhigh : i < 2 ^ 63) : i.bmod (2 ^ 64) = i := by
  apply Int.bmod_eq_of_le
  · omega
  · omega

/-- A word operation that wraps around is exact if its result fits some word. -/
theorem ifExact_eq_some_iff {result : Int64} (hresult : result.toInt = i.bmod (2 ^ 64)) :
    ifExact result i = some word ↔ word.toInt = i := by
  constructor
  · intro h
    unfold ifExact at h
    split at h
    · next hexact =>
      cases h
      exact hexact
    · cases h
  · intro hword
    have hexact : result.toInt = i := by
      rw [hresult, ← hword]
      exact bmod_eq_self word.le_toInt word.toInt_lt
    have heq : result = word := Int64.toInt_inj.1 (hexact.trans hword.symm)
    rw [ifExact, if_pos hexact, heq]

theorem ofInt?_eq_some_iff : ofInt? i = some word ↔ word.toInt = i :=
  ifExact_eq_some_iff Int64.toInt_ofInt

theorem checkedAdd_eq_some_iff : checkedAdd a b = some word ↔ word.toInt = a.toInt + b.toInt :=
  ifExact_eq_some_iff (Int64.toInt_add a b)

theorem checkedMul_eq_some_iff : checkedMul a b = some word ↔ word.toInt = a.toInt * b.toInt :=
  ifExact_eq_some_iff (Int64.toInt_mul a b)

/-- What lies between zero and a word is a word. -/
theorem exists_toInt_eq (hnonneg : 0 ≤ i) (hle : i ≤ word.toInt) : ∃ w : Int64, w.toInt = i := by
  have hlt := word.toInt_lt
  exact ⟨Int64.ofInt i, Int64.toInt_ofInt_of_le (by omega) (by omega)⟩

/-- Only the least word has no negation, and it is negative. -/
theorem toInt_neg_of_nonneg (h : 0 ≤ word.toInt) : (-word).toInt = -word.toInt := by
  have hlt := word.toInt_lt
  rw [Int64.toInt_neg]
  exact bmod_eq_self (by omega) (by omega)

end Word

namespace Duration

namespace Components

/-! ## One component -/

/-- The value of a whole component in ASCII digits. -/
theorem wholeValue?_eq {digits : List Char} (hdigits : ∀ c ∈ digits, c.isDigit = true) :
    wholeValue? digits = some (Decimal.valueOf digits) := by
  rw [wholeValue?, if_pos (List.all_eq_true.2 hdigits)]

/-- The milliseconds of a whole component. -/
def partMillis (part : List Char × Int64) : Int :=
  Decimal.valueOf part.1 * part.2.toInt

/-- A whole component is written in ASCII digits, and its unit is not empty. -/
def IsPart (part : List Char × Int64) : Prop :=
  (∀ d ∈ part.1, d.isDigit = true) ∧ 0 < part.2.toInt

variable {part : List Char × Int64} {sum word : Int64}

theorem partMillis_nonneg (hpart : IsPart part) : 0 ≤ partMillis part :=
  Int.mul_nonneg (Int.natCast_nonneg _) (Int.le_of_lt hpart.2)

theorem valueOf_le_partMillis (hpart : IsPart part) :
    (Decimal.valueOf part.1 : Int) ≤ partMillis part := by
  have hunit : 1 ≤ part.2.toInt := hpart.2
  calc (Decimal.valueOf part.1 : Int) = Decimal.valueOf part.1 * 1 := (Int.mul_one _).symm
    _ ≤ partMillis part := Int.mul_le_mul_of_nonneg_left hunit (Int.natCast_nonneg _)

/-- A component is added exactly if the new sum fits a word: the count of the component and its
milliseconds are not larger. -/
theorem addPart_eq_some_iff (hpart : IsPart part) (hsum : 0 ≤ sum.toInt) :
    addPart sum part = some word ↔ word.toInt = sum.toInt + partMillis part := by
  have hvalue := wholeValue?_eq hpart.1
  have hcount := valueOf_le_partMillis hpart
  simp only [addPart, hvalue, Option.bind_some, Option.bind_eq_bind, Option.bind_eq_some_iff,
    Word.ofInt?_eq_some_iff, Word.checkedMul_eq_some_iff, Word.checkedAdd_eq_some_iff]
  constructor
  · rintro ⟨count, hc, millis, hm, hw⟩
    rw [hw, hm, hc, partMillis]
  · intro hw
    obtain ⟨count, hc⟩ : ∃ count : Int64, count.toInt = (Decimal.valueOf part.1 : Int) :=
      Word.exists_toInt_eq (Int.natCast_nonneg _) (show _ ≤ word.toInt by omega)
    obtain ⟨millis, hm⟩ : ∃ millis : Int64, millis.toInt = partMillis part :=
      Word.exists_toInt_eq (partMillis_nonneg hpart) (show _ ≤ word.toInt by omega)
    exact ⟨count, hc, millis, by rw [hm, hc, partMillis], by rw [hw, hm]⟩

/-! ## All components -/

/-- The milliseconds of some whole components. -/
def partsMillis (parts : List (List Char × Int64)) : Int :=
  (parts.map partMillis).sum

theorem partsMillis_cons (part : List Char × Int64) (parts : List (List Char × Int64)) :
    partsMillis (part :: parts) = partMillis part + partsMillis parts :=
  List.sum_cons

theorem partsMillis_nonneg {parts : List (List Char × Int64)}
    (hparts : ∀ part ∈ parts, IsPart part) : 0 ≤ partsMillis parts := by
  induction parts with
  | nil => exact Int.le_refl 0
  | cons part parts ih =>
      have hpart := partMillis_nonneg (hparts part List.mem_cons_self)
      have hrest := ih fun p hp => hparts p (List.mem_cons_of_mem _ hp)
      rw [partsMillis_cons]
      omega

/-- A sum in words is the exact sum, and there is one exactly if the exact sum fits a word. -/
theorem foldlM_addPart_eq_some_iff {parts : List (List Char × Int64)}
    (hparts : ∀ part ∈ parts, IsPart part) {sum word : Int64} (hsum : 0 ≤ sum.toInt) :
    parts.foldlM addPart sum = some word ↔ word.toInt = sum.toInt + partsMillis parts := by
  induction parts generalizing sum with
  | nil =>
      rw [List.foldlM_nil, partsMillis, List.map_nil, List.sum_nil, Int.add_zero,
        Int64.toInt_inj]
      exact ⟨fun h => (Option.some.inj h).symm, fun h => congrArg some h.symm⟩
  | cons part parts ih =>
      have hpart := hparts part List.mem_cons_self
      have hrest := fun p hp => hparts p (List.mem_cons_of_mem _ hp)
      have hmillis := partMillis_nonneg hpart
      rw [List.foldlM_cons, Option.bind_eq_bind, Option.bind_eq_some_iff, partsMillis_cons]
      constructor
      · rintro ⟨next, hnext, hw⟩
        rw [addPart_eq_some_iff hpart hsum] at hnext
        rw [ih hrest (by omega)] at hw
        omega
      · intro hw
        -- The sums only grow, so the next one is not larger than the last, which fits.
        have hgrow := partsMillis_nonneg hrest
        obtain ⟨next, hnext⟩ : ∃ next : Int64, next.toInt = sum.toInt + partMillis part :=
          Word.exists_toInt_eq (by omega) (show _ ≤ word.toInt by omega)
        exact ⟨next, (addPart_eq_some_iff hpart hsum).2 hnext, (ih hrest (by omega)).2 (by omega)⟩

/-- The seconds of a text are not negative; its sign stands apart. -/
theorem secondsToMillis_nonneg (c : Components) : 0 ≤ secondsToMillis c.secondsValue := by
  have hsign : c.secondsValue.negative = false := by
    unfold secondsValue
    split
    · exact Binary64.negative_ofDecimal _ _ _
    · rfl
  rw [secondsToMillis, Binary64.nearestInt, Binary64.negative_mul_thousand, hsign]
  exact Int.natCast_nonneg _

/-- The milliseconds of the seconds and of some whole components are summed up exactly, if they fit. -/
theorem sumWord?_eq_some_iff (c : Components) {parts : List (List Char × Int64)}
    (hparts : ∀ part ∈ parts, IsPart part) {word : Int64} :
    c.sumWord? parts = some word ↔
      word.toInt = secondsToMillis c.secondsValue + partsMillis parts := by
  have hseconds := secondsToMillis_nonneg c
  have hgrow := partsMillis_nonneg hparts
  rw [sumWord?, Option.bind_eq_bind, Option.bind_eq_some_iff]
  constructor
  · rintro ⟨seconds, hs, hw⟩
    rw [Word.ofInt?_eq_some_iff] at hs
    rw [foldlM_addPart_eq_some_iff hparts (by omega)] at hw
    omega
  · intro hw
    obtain ⟨seconds, hs⟩ : ∃ seconds : Int64, seconds.toInt = secondsToMillis c.secondsValue :=
      Word.exists_toInt_eq hseconds (show _ ≤ word.toInt by omega)
    exact ⟨seconds, Word.ofInt?_eq_some_iff.2 hs,
      (foldlM_addPart_eq_some_iff hparts (by omega)).2 (by omega)⟩

/-- The whole components of a duration are written in ASCII digits. -/
def IsPlain (c : Components) : Prop :=
  ∀ part ∈ c.wholeParts, ∀ d ∈ part.1, d.isDigit = true

theorem IsPlain.isPart {c : Components} (hc : c.IsPlain) : ∀ part ∈ c.wholeParts, IsPart part := by
  intro part hpart
  refine ⟨hc part hpart, ?_⟩
  simp only [wholeParts, List.mem_cons, List.not_mem_nil, or_false] at hpart
  rcases hpart with rfl | rfl | rfl | rfl
  all_goals exact of_decide_eq_true rfl

/-- The milliseconds of the whole components, unit by unit. -/
theorem partsMillis_wholeParts (c : Components) :
    partsMillis c.wholeParts = (604800000 * Decimal.valueOf c.weeks +
      86400000 * Decimal.valueOf c.days + 3600000 * Decimal.valueOf c.hours +
      60000 * Decimal.valueOf c.minutes : Nat) := by
  have hweek : (Int64.ofNat (7 * millisPerDay)).toInt = 604800000 := rfl
  have hday : (Int64.ofNat millisPerDay).toInt = 86400000 := rfl
  have hhour : (Int64.ofNat millisPerHour).toInt = 3600000 := rfl
  have hminute : (Int64.ofNat millisPerMinute).toInt = 60000 := rfl
  have hnil : partsMillis [] = 0 := rfl
  simp only [wholeParts, partsMillis_cons, partMillis, hweek, hday, hhour, hminute, hnil]
  omega

/-- The milliseconds of all components together, without the sign. -/
def exactTotal (c : Components) : Int :=
  secondsToMillis c.secondsValue + partsMillis c.wholeParts

/-- The milliseconds of all components together, with the sign. -/
def exactMillis (c : Components) : Int :=
  if c.negative then -c.exactTotal else c.exactTotal

theorem exactTotal_nonneg {c : Components} (hc : c.IsPlain) : 0 ≤ c.exactTotal :=
  Int.add_nonneg (secondsToMillis_nonneg c) (partsMillis_nonneg hc.isPart)

end Components

/-! ## The duration -/

theorem ofMillis?_eq_none_iff {millis : Int} : ofMillis? millis = none ↔ maxMillis < millis.natAbs := by
  have hbound : (millis * 1000000).natAbs ≤ (Nat.pow 2 63 - 1) * 1000000 ↔
      millis.natAbs ≤ maxMillis := by
    rw [Int.natAbs_mul]
    exact Nat.mul_le_mul_right_iff (by decide)
  rw [ofMillis?, ofNanos?, ← Nat.not_le, ← hbound]
  split
  · next h => exact ⟨nofun, fun hn => absurd h hn⟩
  · next h => exact ⟨fun _ => h, fun _ => rfl⟩

theorem nanos_of_ofMillis? {millis : Int} {d : Duration} (h : ofMillis? millis = some d) :
    d.nanos = millis * 1000000 := by
  unfold ofMillis? ofNanos? at h
  split at h
  · cases h
    rfl
  · cases h

/-- The words on the way never decide whether there is a duration, nor which one: the sign is put on
without a loss, and a total that is too large for a word is too large for a duration. -/
theorem millisWord?_bind_ofMillis? {c : Components} (hc : c.IsPlain) :
    (c.millisWord?.bind fun millis => ofMillis? millis.toInt) = ofMillis? c.exactMillis := by
  have hnonneg := Components.exactTotal_nonneg hc
  have hsum : ∀ word : Int64,
      c.sumWord? c.wholeParts = some word ↔ word.toInt = c.exactTotal :=
    fun _ => Components.sumWord?_eq_some_iff c hc.isPart
  rw [Components.millisWord?]
  cases htotal : c.sumWord? c.wholeParts with
  | some total =>
      have hexact : total.toInt = c.exactTotal := (hsum total).1 htotal
      rw [Option.map_some, Option.bind_some]
      congr 1
      rw [Components.exactMillis, ← hexact]
      split
      · exact Word.toInt_neg_of_nonneg (by omega)
      · rfl
  | none =>
      rw [Option.map_none, Option.bind_none]
      symm
      rw [ofMillis?_eq_none_iff]
      have hlarge : ¬ c.exactTotal < 2 ^ 63 := by
        intro hlt
        have hword := (hsum (Int64.ofInt c.exactTotal)).2 (Int64.toInt_ofInt_of_le (by omega) hlt)
        rw [htotal] at hword
        cases hword
      have hmax : maxMillis = 2 ^ 63 - 1 := rfl
      rw [Components.exactMillis, hmax]
      split <;> omega

section Reading

variable {s : String} {c : Components}

/-- A text whose whole components are in ASCII digits is read as the duration of its milliseconds. -/
theorem parse_eq_ok {d : Duration} (hc : c.IsPlain)
    (hread : readComponents (Text.trim s.toList) = some c) (hd : ofMillis? c.exactMillis = some d) :
    parse s = .ok d := by
  rw [parse, hread]
  dsimp only
  rw [millisWord?_bind_ofMillis? hc, hd]

/-- If there is no such duration, the text is out of range. -/
theorem parse_eq_outOfRange (hc : c.IsPlain)
    (hread : readComponents (Text.trim s.toList) = some c) (hnone : ofMillis? c.exactMillis = none) :
    parse s = .error (.outOfRange s) := by
  rw [parse, hread]
  dsimp only
  rw [millisWord?_bind_ofMillis? hc, hnone]

end Reading

end Duration

end FilterQuery
