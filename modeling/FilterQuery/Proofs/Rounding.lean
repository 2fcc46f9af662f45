import FilterQuery.Duration
import Mathlib.Tactic.Ring

/-!
# How far rounding goes

There is one rounding of floating point numbers, `Binary64.ofRatio`. It is taken apart here into the
rounding of a quotient to a whole number and the layout of that number as a scale and a significand, and
what is left of it is one statement: a rounded quotient is off by at most half a unit in its last place.

Values are compared in units of `2 ^ -1074`, so that all statements are about natural numbers, and a
distance is stated as two inequalities.

## Main results

* `Binary64.units_ofRatio_near` — the error of a rounded quotient.
* `Binary64.units_mul_near` — the error of a rounded product.
* `Binary64.units_ofRatio_of_eq` — a quotient that is representable is not rounded.
* `Duration.secondsToMillis_ofDecimal` — seconds with three places are read to the millisecond: the
  two roundings on the way never reach half a millisecond.
* `Duration.secondsToMillis_whole` — whole seconds are exact as long as their milliseconds have at most
  fifty-three bits.
* `Duration.secondsToMillis_negative` — rounding does not see the sign.
-/

namespace FilterQuery

/-! ## Whole numbers

The nearest whole number is a half away from the quotient at most. -/

theorem roundHalfEven_near {n d : Nat} (hd : 0 < d) :
    2 * (d * roundHalfEven n d) ≤ 2 * n + d ∧ 2 * n ≤ 2 * (d * roundHalfEven n d) + d := by
  have hdiv := Nat.div_add_mod n d
  have hmod := Nat.mod_lt n hd
  have hsucc : d * (n / d + 1) = d * (n / d) + d := Nat.mul_succ d (n / d)
  unfold roundHalfEven
  dsimp only
  split
  · omega
  · split
    · rw [hsucc]
      omega
    · split
      · omega
      · rw [hsucc]
        omega

theorem roundHalfEven_bounds (n d : Nat) :
    n / d ≤ roundHalfEven n d ∧ roundHalfEven n d ≤ n / d + 1 := by
  unfold roundHalfEven
  dsimp only
  repeat' split
  all_goals omega

/-- A quotient without a rest is not rounded. -/
theorem roundHalfEven_mul {d : Nat} (hd : 0 < d) (q : Nat) : roundHalfEven (d * q) d = q := by
  unfold roundHalfEven
  dsimp only
  rw [Nat.mul_mod_right, Nat.mul_div_cancel_left q hd, if_pos (by omega)]

namespace Binary64

/-! ## Floating point numbers -/

theorem natPow_two_eq (k : Nat) : Nat.pow 2 k = 2 ^ k := rfl

/-- The value of a magnitude that is put together from a scale and a significand. A significand of
`2 ^ 53` does not fit its place, and carries into the scale without a change of the value. -/
theorem units_of_magnitude {x : Binary64} {scale significand : Nat}
    (hmagnitude : x.magnitude = scale * Nat.pow 2 52 + significand)
    (hle : significand ≤ 2 ^ 53) (hnormal : scale = 0 ∨ 2 ^ 52 ≤ significand) :
    x.units = significand * 2 ^ scale := by
  have h52 : Nat.pow 2 52 = 4503599627370496 := by decide
  have h52' : (2 : Nat) ^ 52 = 4503599627370496 := by decide
  have h53 : (2 : Nat) ^ 53 = 9007199254740992 := by decide
  rw [h52] at hmagnitude
  rw [h52'] at hnormal
  rw [h53] at hle
  unfold units Binary64.significand Binary64.scale
  rw [h52, hmagnitude]
  by_cases hcarry : significand = 9007199254740992
  · have hscale : (scale * 4503599627370496 + significand) / 4503599627370496 - 1 = scale + 1 := by
      omega
    rw [if_neg (by omega), hscale, hcarry,
      show 4503599627370496 + (scale * 4503599627370496 + 9007199254740992) % 4503599627370496
        = 4503599627370496 by omega, Nat.pow_eq, pow_succ]
    ring
  · by_cases hsub : significand < 4503599627370496
    · have hzero : scale = 0 := by omega
      subst hzero
      rw [if_pos (by omega),
        show (0 * 4503599627370496 + significand) / 4503599627370496 - 1 = 0 by omega]
      simp
    · have hscale : (scale * 4503599627370496 + significand) / 4503599627370496 - 1 = scale := by
        omega
      rw [if_neg (by omega), hscale,
        show 4503599627370496 + (scale * 4503599627370496 + significand) % 4503599627370496
          = significand by omega, Nat.pow_eq]

/-- The rounded value of a quotient below `2 ^ (k + 53)` units is a multiple of a unit in its last place,
`2 ^ scale`, and that is at most `2 ^ k` units. -/
theorem exists_units_ofRatio (negative : Bool) {num den k : Nat} (hk : k ≤ 2044)
    (hbound : num * 2 ^ unitPlaces < den * 2 ^ (k + 53)) :
    ∃ scale ≤ k, (ofRatio negative num den).units =
      roundHalfEven (num * 2 ^ unitPlaces) (den * 2 ^ scale) * 2 ^ scale := by
  obtain ⟨units, hunits⟩ : ∃ units, num * 2 ^ unitPlaces = units := ⟨_, rfl⟩
  obtain ⟨q, hq⟩ : ∃ q, units / den = q := ⟨_, rfl⟩
  obtain ⟨scale, hscale⟩ : ∃ scale, q.log2 - 52 = scale := ⟨_, rfl⟩
  rw [hunits] at hbound ⊢
  have hqlt : q < 2 ^ (k + 53) := by
    rw [← hq]
    exact Nat.div_lt_of_lt_mul hbound
  have hscale_le : scale ≤ k := by
    by_cases hzero : q = 0
    · subst hzero
      simp at hscale
      omega
    · have := (Nat.log2_lt hzero).2 hqlt
      omega
  have hround : units / (den * 2 ^ scale) = q / 2 ^ scale := by
    rw [← hq, Nat.div_div_eq_div_mul]
  obtain ⟨hge, hle⟩ := roundHalfEven_bounds units (den * 2 ^ scale)
  rw [hround] at hge hle
  -- Fifty-three bits are left of the quotient, and all of them unless the scale is the least one.
  have hbits : q / 2 ^ scale < 2 ^ 53 := by
    apply Nat.div_lt_of_lt_mul
    rw [← pow_add]
    exact Nat.lt_of_lt_of_le Nat.lt_log2_self (Nat.pow_le_pow_right (by decide) (by omega))
  have hnormal : scale = 0 ∨ 2 ^ 52 ≤ q / 2 ^ scale := by
    rcases Nat.eq_zero_or_pos scale with hzero | hpos
    · exact .inl hzero
    · right
      have hqne : q ≠ 0 := by
        rintro rfl
        simp at hscale
        omega
      rw [Nat.le_div_iff_mul_le (Nat.two_pow_pos scale), ← pow_add,
        show 52 + scale = q.log2 by omega]
      exact Nat.log2_self_le hqne
  refine ⟨scale, hscale_le, ?_⟩
  apply units_of_magnitude
  · show min (((num * Nat.pow 2 unitPlaces / den).log2 - 52) * Nat.pow 2 52 +
      roundHalfEven (num * Nat.pow 2 unitPlaces)
        (den * Nat.pow 2 ((num * Nat.pow 2 unitPlaces / den).log2 - 52))) infinite = _
    rw [natPow_two_eq unitPlaces, hunits, hq, hscale]
    apply Nat.min_eq_left
    have hinfinite : infinite = 2047 * Nat.pow 2 52 := rfl
    have h52 : Nat.pow 2 52 = 4503599627370496 := by decide
    have h53 : (2 : Nat) ^ 53 = 9007199254740992 := by decide
    rw [hinfinite, h52]
    rw [h53] at hbits
    show scale * 4503599627370496 + roundHalfEven units (den * 2 ^ scale) ≤ _
    omega
  · omega
  · omega

/-- A rounded quotient is off by at most half a unit in its last place. -/
theorem units_ofRatio_near (negative : Bool) {num den k : Nat} (hden : 0 < den) (hk : k ≤ 2044)
    (hbound : num * 2 ^ unitPlaces < den * 2 ^ (k + 53)) :
    2 * (den * (ofRatio negative num den).units) ≤ 2 * (num * 2 ^ unitPlaces) + den * 2 ^ k ∧
      2 * (num * 2 ^ unitPlaces) ≤ 2 * (den * (ofRatio negative num den).units) + den * 2 ^ k := by
  obtain ⟨scale, hscale, hunits⟩ := exists_units_ofRatio negative hk hbound
  have hpos : 0 < den * 2 ^ scale := Nat.mul_pos hden (Nat.two_pow_pos scale)
  have hnear := roundHalfEven_near (n := num * 2 ^ unitPlaces) hpos
  have hstep : den * 2 ^ scale ≤ den * 2 ^ k :=
    Nat.mul_le_mul_left den (Nat.pow_le_pow_right (by decide) hscale)
  have hproduct : den * (ofRatio negative num den).units =
      den * 2 ^ scale * roundHalfEven (num * 2 ^ unitPlaces) (den * 2 ^ scale) := by
    rw [hunits]
    ring
  rw [hproduct]
  omega

/-- A rounded product is off by at most half a unit in its last place, if the exact product is a whole
number of units. -/
theorem units_mul_near {x y : Binary64} {product k : Nat} (hk : k ≤ 2044)
    (hproduct : x.units * y.units = product * 2 ^ unitPlaces) (hbound : product < 2 ^ (k + 53)) :
    2 * (x.mul y).units ≤ 2 * product + 2 ^ k ∧ 2 * product ≤ 2 * (x.mul y).units + 2 ^ k := by
  have hpos : 0 < 2 ^ unitPlaces * 2 ^ unitPlaces :=
    Nat.mul_pos (Nat.two_pow_pos _) (Nat.two_pow_pos _)
  have hnum : x.units * y.units * 2 ^ unitPlaces = 2 ^ unitPlaces * 2 ^ unitPlaces * product := by
    rw [hproduct]
    ring
  have hlt : x.units * y.units * 2 ^ unitPlaces <
      2 ^ unitPlaces * 2 ^ unitPlaces * 2 ^ (k + 53) := by
    rw [hnum]
    exact Nat.mul_lt_mul_of_pos_left hbound hpos
  have hnear := units_ofRatio_near (x.negative != y.negative) hpos hk hlt
  have hmul : (x.mul y).units = (ofRatio (x.negative != y.negative) (x.units * y.units)
      (2 ^ unitPlaces * 2 ^ unitPlaces)).units := by
    rw [mul, natPow_two_eq]
  rw [hnum, ← hmul] at hnear
  obtain ⟨hle, hge⟩ := hnear
  constructor
  · refine Nat.le_of_mul_le_mul_left ?_ hpos
    calc 2 ^ unitPlaces * 2 ^ unitPlaces * (2 * (x.mul y).units)
        = 2 * (2 ^ unitPlaces * 2 ^ unitPlaces * (x.mul y).units) := by ring
      _ ≤ 2 * (2 ^ unitPlaces * 2 ^ unitPlaces * product) +
          2 ^ unitPlaces * 2 ^ unitPlaces * 2 ^ k := hle
      _ = 2 ^ unitPlaces * 2 ^ unitPlaces * (2 * product + 2 ^ k) := by ring
  · refine Nat.le_of_mul_le_mul_left ?_ hpos
    calc 2 ^ unitPlaces * 2 ^ unitPlaces * (2 * product)
        = 2 * (2 ^ unitPlaces * 2 ^ unitPlaces * product) := by ring
      _ ≤ 2 * (2 ^ unitPlaces * 2 ^ unitPlaces * (x.mul y).units) +
          2 ^ unitPlaces * 2 ^ unitPlaces * 2 ^ k := hge
      _ = 2 ^ unitPlaces * 2 ^ unitPlaces * (2 * (x.mul y).units + 2 ^ k) := by ring

/-- A quotient that is a whole number of at most fifty-three bits, counted in some power of two, is not
rounded. -/
theorem units_ofRatio_of_eq (negative : Bool) {num den m k : Nat} (hden : 0 < den) (hk : k ≤ 2044)
    (hm : m < 2 ^ 53) (heq : num * 2 ^ unitPlaces = den * (m * 2 ^ k)) :
    (ofRatio negative num den).units = m * 2 ^ k := by
  have hbound : num * 2 ^ unitPlaces < den * 2 ^ (k + 53) := by
    rw [heq, Nat.add_comm k, pow_add]
    exact Nat.mul_lt_mul_of_pos_left (Nat.mul_lt_mul_of_pos_right hm (Nat.two_pow_pos k)) hden
  obtain ⟨scale, hscale, hunits⟩ := exists_units_ofRatio negative hk hbound
  obtain ⟨more, rfl⟩ := Nat.exists_eq_add_of_le hscale
  have hscaled : num * 2 ^ unitPlaces = den * 2 ^ scale * (m * 2 ^ more) := by
    rw [heq, pow_add]
    ring
  rw [hunits, hscaled, roundHalfEven_mul (Nat.mul_pos hden (Nat.two_pow_pos scale)), pow_add]
  ring

/-- The whole number nearest to a number that is less than a half away from it. -/
theorem nearestInt_eq {x : Binary64} {n : Nat} (hsign : x.negative = false)
    (hlt : 2 * x.units < 2 * (n * 2 ^ unitPlaces) + 2 ^ unitPlaces)
    (hge : 2 * (n * 2 ^ unitPlaces) ≤ 2 * x.units + 2 ^ unitPlaces) : x.nearestInt = n := by
  have hquotient : (2 * x.units + 2 ^ unitPlaces) / (2 * 2 ^ unitPlaces) = n := by
    apply Nat.div_eq_of_lt_le
    · calc n * (2 * 2 ^ unitPlaces) = 2 * (n * 2 ^ unitPlaces) := by ring
        _ ≤ 2 * x.units + 2 ^ unitPlaces := hge
    · calc 2 * x.units + 2 ^ unitPlaces
          < 2 * (n * 2 ^ unitPlaces) + 2 ^ unitPlaces + 2 ^ unitPlaces := by omega
        _ = (n + 1) * (2 * 2 ^ unitPlaces) := by ring
  rw [nearestInt, hsign, natPow_two_eq, hquotient]
  rfl

theorem negative_ofDecimal (negative : Bool) (digits : Nat) (power : Int) :
    (ofDecimal negative digits power).negative = negative := by
  unfold ofDecimal
  repeat' split
  all_goals rfl

theorem negative_mul_thousand (x : Binary64) : (x.mul (ofInt 1000)).negative = x.negative := by
  show (x.negative != (ofInt 1000).negative) = x.negative
  cases x.negative <;> rfl

theorem units_thousand : (ofInt 1000).units = 1000 * 2 ^ unitPlaces := by
  decide +kernel

/-- A whole decimal is not scaled before it is rounded. -/
theorem ofDecimal_whole (negative : Bool) (n : Nat) :
    ofDecimal negative n 0 = ofRatio negative n 1 := by
  by_cases hzero : n = 0
  · subst hzero
    cases negative <;> decide +kernel
  · rw [ofDecimal, if_neg hzero, if_neg (by decide), if_neg (by omega), if_pos (by decide)]
    show ofRatio negative (n * 1) 1 = _
    rw [Nat.mul_one]

/-- A rounded quotient is finite or the infinity. -/
theorem isFinite_or_eq_infinity (negative : Bool) (num den : Nat) :
    (ofRatio negative num den).isFinite = true ∨ ofRatio negative num den = infinity negative := by
  have hle : (ofRatio negative num den).magnitude ≤ infinite := Nat.min_le_right _ _
  rcases Nat.lt_or_eq_of_le hle with hlt | heq
  · exact .inl (decide_eq_true hlt)
  · right
    rw [ofRatio, infinity, mk.injEq]
    exact ⟨rfl, heq⟩

/-! ## The sign

The sign takes no part in rounding. -/

theorem units_congr {x y : Binary64} (h : x.magnitude = y.magnitude) : x.units = y.units := by
  rw [units, units, significand, significand, scale, scale, h]

theorem magnitude_ofRatio (negative : Bool) (num den : Nat) :
    (ofRatio negative num den).magnitude = (ofRatio false num den).magnitude := rfl

theorem units_mul_congr {x x' y : Binary64} (h : x.magnitude = x'.magnitude) :
    (x.mul y).units = (x'.mul y).units := by
  apply units_congr
  rw [mul, mul, magnitude_ofRatio, magnitude_ofRatio (x'.negative != y.negative), units_congr h]

end Binary64

/-! ## Seconds -/

namespace Duration

open Binary64

/-- Seconds that are close to a number of milliseconds have that number of milliseconds. The slack is
that of a quotient by a thousand which is rounded at `2 ^ -47`. -/
theorem secondsToMillis_eq {x : Binary64} {n : Nat} (last : Nat) (hlast : last + 47 = unitPlaces)
    (hsign : x.negative = false) (hn : n < 60000)
    (hle : 2 * (1000 * x.units) ≤ 2 * (n * 2 ^ unitPlaces) + 1000 * 2 ^ last)
    (hge : 2 * (n * 2 ^ unitPlaces) ≤ 2 * (1000 * x.units) + 1000 * 2 ^ last) :
    secondsToMillis x = n := by
  have hproduct : x.units * (ofInt 1000).units = 1000 * x.units * 2 ^ unitPlaces := by
    rw [units_thousand]
    ring
  have hmax : n * 2 ^ unitPlaces < 60000 * 2 ^ unitPlaces :=
    Nat.mul_lt_mul_of_pos_right hn (Nat.two_pow_pos _)
  -- All powers are multiples of the last place of the seconds.
  have hpos : 0 < 2 ^ last := Nat.two_pow_pos last
  have hunit : 2 ^ unitPlaces = 2 ^ last * 2 ^ 47 := by rw [← hlast, pow_add]
  have hplace : 2 ^ (last + 11) = 2 ^ last * 2 ^ 11 := pow_add 2 last 11
  have hbound : 1000 * x.units < 2 ^ (last + 11 + 53) := by
    rw [pow_add 2 (last + 11) 53, hplace]
    omega
  have hscale : last + 11 ≤ 2044 := by
    have : unitPlaces = 1074 := rfl
    omega
  obtain ⟨hple, hpge⟩ := units_mul_near hscale hproduct hbound
  rw [hplace] at hple hpge
  refine nearestInt_eq ?_ ?_ ?_
  · rw [negative_mul_thousand, hsign]
  · omega
  · omega

/-- Negative seconds have the milliseconds of the positive ones, with the other sign. -/
theorem secondsToMillis_negative (num den : Nat) :
    secondsToMillis (ofRatio true num den) = -secondsToMillis (ofRatio false num den) := by
  have hunits := units_mul_congr (y := ofInt 1000) (magnitude_ofRatio true num den)
  rw [secondsToMillis, secondsToMillis, nearestInt, nearestInt, negative_mul_thousand,
    negative_mul_thousand, hunits]
  exact if_pos rfl

/-- An infinite number of seconds is no duration. -/
theorem ofMillis?_infinity (negative : Bool) :
    ofMillis? (secondsToMillis (infinity negative)) = none := by
  cases negative <;> decide +kernel

/-- Whole seconds are exact as long as their milliseconds have at most fifty-three bits. -/
theorem secondsToMillis_whole {n : Nat} (hn : n ≤ 9007199254740) :
    secondsToMillis (ofDecimal false n 0) = (1000 * n : Nat) := by
  have hseconds : (ofDecimal false n 0).units = n * 2 ^ unitPlaces := by
    rw [ofDecimal_whole]
    exact units_ofRatio_of_eq false Nat.one_pos (by decide) (by omega) (Nat.one_mul _).symm
  have hsign : ((ofDecimal false n 0).mul (ofInt 1000)).negative = false := by
    rw [negative_mul_thousand, negative_ofDecimal]
  have hpos := Nat.two_pow_pos unitPlaces
  have hproduct : ((ofDecimal false n 0).mul (ofInt 1000)).units = 1000 * n * 2 ^ unitPlaces := by
    rw [mul, natPow_two_eq, hseconds, units_thousand]
    refine units_ofRatio_of_eq _ ?_ (by decide) (by omega) (by ring)
    exact Nat.mul_pos hpos hpos
  apply nearestInt_eq hsign
  · rw [hproduct]
    exact Nat.lt_add_of_pos_right hpos
  · rw [hproduct]
    exact Nat.le_add_right _ _

/-- Seconds below a minute that are written with three places are read to the millisecond. -/
theorem secondsToMillis_ofDecimal {n : Nat} (hn : n < 60000) :
    secondsToMillis (ofDecimal false n (-3)) = n := by
  by_cases hzero : n = 0
  · subst hzero
    have hunits : (ofDecimal false 0 (-3)).units = 0 := rfl
    exact secondsToMillis_eq 1027 rfl rfl hn (by rw [hunits]; exact Nat.zero_le _)
      (by rw [Nat.zero_mul]; exact Nat.zero_le _)
  · have hdecimal : ofDecimal false n (-3) = ofRatio false n 1000 := by
      rw [ofDecimal, if_neg hzero, if_neg (by decide), if_neg (by omega), if_neg (by decide)]
      rfl
    rw [hdecimal]
    have hbound : n * 2 ^ unitPlaces < 1000 * 2 ^ (1027 + 53) := by
      rw [show 1027 + 53 = 6 + unitPlaces from rfl, pow_add, ← Nat.mul_assoc]
      exact Nat.mul_lt_mul_of_pos_right (by omega) (Nat.two_pow_pos _)
    obtain ⟨hle, hge⟩ := units_ofRatio_near false (by decide) (by decide) hbound
    exact secondsToMillis_eq 1027 rfl rfl hn hle hge

end Duration

end FilterQuery
