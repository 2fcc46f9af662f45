import FilterQuery.Decimal
import FilterQuery.Text.Blank
import FilterQuery.Text.Digit

/-!
# Reading digits back

Written numbers are runs of decimal digits, some of them of a fixed width. This module states what a
reader of such a run needs to know: the run consists of digits, none of which is a blank, it ends where
it should, and it has the value that was written.
-/

namespace FilterQuery

/-! ## Runs -/

section Runs

variable {p : Char → Bool} {run rest : List Char}

/-- A text that starts with another character has no run of the class in front. -/
theorem dropWhile_eq_self (hrest : ∀ c ∈ rest.head?, p c = false) : rest.dropWhile p = rest := by
  cases rest with
  | nil => rfl
  | cons c rest => simp [hrest c rfl]

/-- A run of characters of a class, taken from a text that goes on with another character. -/
theorem takeWhile_run (hrun : ∀ c ∈ run, p c = true) (hrest : ∀ c ∈ rest.head?, p c = false) :
    (run ++ rest).takeWhile p = run := by
  rw [List.takeWhile_append_of_pos hrun]
  cases rest with
  | nil => simp
  | cons c rest => simp [hrest c rfl]

/-- What follows a run of characters of a class. -/
theorem dropWhile_run (hrun : ∀ c ∈ run, p c = true) (hrest : ∀ c ∈ rest.head?, p c = false) :
    (run ++ rest).dropWhile p = rest := by
  rw [List.dropWhile_append_of_pos hrun, dropWhile_eq_self hrest]

end Runs

namespace Text

/-! ## Classes of characters -/

theorem toNat_of_isDigit {c : Char} (h : c.isDigit = true) : 48 ≤ c.toNat ∧ c.toNat ≤ 57 := by
  simp only [Char.isDigit, Bool.and_eq_true, decide_eq_true_eq, ge_iff_le,
    UInt32.le_iff_toNat_le] at h
  exact h

/-- A table of code points beyond ASCII has no ASCII character. -/
theorem CodeTable.contains_eq_false {table : CodeTable} {c : Char}
    (htable : table.all (fun range => 0x80 ≤ range.1) = true) (hc : c.toNat < 0x80) :
    table.contains c = false := by
  rw [CodeTable.contains, List.any_eq_false]
  intro range hrange
  have hlow := List.all_eq_true.1 htable range hrange
  simp only [decide_eq_true_eq] at hlow
  simp only [Bool.and_eq_true, decide_eq_true_eq, not_and]
  omega

theorem isBlank_of_isDigit {c : Char} (h : c.isDigit = true) : isBlank c = false := by
  obtain ⟨hlow, hhigh⟩ := toNat_of_isDigit h
  have hwide : wideBlanks.contains c = false :=
    CodeTable.contains_eq_false (by decide) (by omega)
  have hspace : c ≠ ' ' := by
    rintro rfl
    cases h
  simp only [isBlank, hwide, Bool.or_false, Bool.or_eq_false_iff, beq_eq_false_iff_ne,
    Bool.and_eq_false_iff, decide_eq_false_iff_not]
  exact ⟨hspace, .inr (by omega)⟩

theorem isDecimalDigit_of_isDigit {c : Char} (h : c.isDigit = true) : isDecimalDigit c = true := by
  rw [isDecimalDigit, h, Bool.true_or]

/-- A text without blanks is left as it is. -/
theorem trim_eq_self {text : List Char} (htext : ∀ c ∈ text, isBlank c = false) :
    trim text = text := by
  have hfirst : ∀ c ∈ text.head?, isBlank c = false :=
    fun c hc => htext c (List.mem_of_mem_head? hc)
  have hlast : ∀ c ∈ text.reverse.head?, isBlank c = false :=
    fun c hc => htext c (List.mem_reverse.1 (List.mem_of_mem_head? hc))
  rw [trim, trimStart, dropWhile_eq_self hfirst, trimEnd, dropWhile_eq_self hlast,
    List.reverse_reverse]

end Text

namespace Decimal

/-! ## Values -/

theorem valueOf_digitsOf (n : Nat) : valueOf (digitsOf n) = n :=
  Nat.ofDigitChars_ten_toDigits

/-- Zeros in front do not count. -/
theorem valueOf_paddedDigits (width n : Nat) : valueOf (paddedDigits width n) = n := by
  rw [paddedDigits, valueOf, Nat.ofDigitChars_append, Nat.ofDigitChars_replicate_zero, Nat.mul_zero]
  exact valueOf_digitsOf n

/-- The digits of a number and of the rest that follows it. -/
theorem valueOf_append (digits more : List Char) :
    valueOf (digits ++ more) = Nat.pow 10 more.length * valueOf digits + valueOf more := by
  rw [valueOf, Nat.ofDigitChars_append, Nat.ofDigitChars_eq_ofDigitChars_zero]
  rfl

/-! ## Digits -/

theorem digitsOf_ne_nil (n : Nat) : digitsOf n ≠ [] :=
  Nat.toDigits_ne_nil

theorem isDigit_of_mem_digitsOf {n : Nat} {c : Char} (h : c ∈ digitsOf n) : c.isDigit = true :=
  Nat.isDigit_of_mem_toDigits (by decide) (by decide) h

/-- The digits of a number start with a digit. -/
theorem exists_digitsOf_eq_cons (n : Nat) :
    ∃ d digits, digitsOf n = d :: digits ∧ d.isDigit = true := by
  obtain ⟨d, digits, hcons⟩ := List.exists_cons_of_ne_nil (digitsOf_ne_nil n)
  exact ⟨d, digits, hcons, isDigit_of_mem_digitsOf (hcons ▸ List.mem_cons_self)⟩

/-- Only zero is written with a zero in front. -/
theorem eq_zero_of_digitsOf_eq_cons {n : Nat} {digits : List Char}
    (h : digitsOf n = '0' :: digits) : n = 0 := by
  induction n using Nat.strongRecOn generalizing digits with
  | ind n ih =>
    rw [digitsOf, Nat.toDigits_eq_if (by decide)] at h
    split at h
    · next hlt =>
      have hvalue := valueOf_digitsOf n
      rw [digitsOf, Nat.toDigits_of_lt_base hlt, (List.cons.inj h).1] at hvalue
      exact hvalue.symm
    · next hge =>
      obtain ⟨d, more, hcons⟩ := List.exists_cons_of_ne_nil (digitsOf_ne_nil (n / 10))
      rw [← digitsOf, hcons] at h
      rw [(List.cons.inj h).1] at hcons
      have hzero := ih (n / 10) (by omega) hcons
      omega

theorem isDigit_of_mem_paddedDigits {width n : Nat} {c : Char} (h : c ∈ paddedDigits width n) :
    c.isDigit = true := by
  rcases List.mem_append.1 h with hzero | hdigit
  · rw [List.eq_of_mem_replicate hzero]
    rfl
  · exact isDigit_of_mem_digitsOf hdigit

/-- So do the digits of a fixed width. -/
theorem exists_paddedDigits_eq_cons (width n : Nat) :
    ∃ d digits, paddedDigits width n = d :: digits ∧ d.isDigit = true := by
  have hne : paddedDigits width n ≠ [] :=
    List.append_ne_nil_of_right_ne_nil _ (digitsOf_ne_nil n)
  obtain ⟨d, digits, hcons⟩ := List.exists_cons_of_ne_nil hne
  exact ⟨d, digits, hcons, isDigit_of_mem_paddedDigits (hcons ▸ List.mem_cons_self)⟩

/-- A number that fits the width is written with exactly as many digits. -/
theorem length_paddedDigits {width n : Nat} (hwidth : 0 < width) (h : n < Nat.pow 10 width) :
    (paddedDigits width n).length = width := by
  have hlength : (digitsOf n).length ≤ width :=
    (Nat.length_toDigits_le_iff (by decide) hwidth).2 h
  rw [paddedDigits, List.length_append, List.length_replicate]
  omega

/-! ## Digits of a value -/

/-- The first digit counts by the number of those after it. -/
theorem valueOf_cons (c : Char) (digits : List Char) :
    valueOf (c :: digits) = Nat.pow 10 digits.length * (c.toNat - 48) + valueOf digits := by
  have hdigit : valueOf [c] = c.toNat - 48 := by
    rw [valueOf, Nat.ofDigitChars_cons, Nat.ofDigitChars_nil, Nat.mul_zero, Nat.zero_add]
    rfl
  rw [← hdigit]
  exact valueOf_append [c] digits

/-- Digits stay below the power of ten with as many zeros. -/
theorem valueOf_lt {digits : List Char} (hdigits : ∀ c ∈ digits, c.isDigit = true) :
    valueOf digits < Nat.pow 10 digits.length := by
  induction digits with
  | nil => decide
  | cons c digits ih =>
      obtain ⟨hlow, hhigh⟩ := Text.toNat_of_isDigit (hdigits c List.mem_cons_self)
      have htail := ih fun c' hc' => hdigits c' (List.mem_cons_of_mem _ hc')
      have hdigit : Nat.pow 10 digits.length * (c.toNat - 48) ≤ Nat.pow 10 digits.length * 9 :=
        Nat.mul_le_mul_left _ (by omega)
      rw [valueOf_cons]
      show _ < Nat.pow 10 digits.length * 10
      omega

/-- Two runs of as many digits with one value are the same. -/
theorem eq_of_valueOf_eq {digits : List Char} : ∀ {more : List Char},
    (∀ c ∈ digits, c.isDigit = true) → (∀ c ∈ more, c.isDigit = true) →
      digits.length = more.length → valueOf digits = valueOf more → digits = more := by
  induction digits with
  | nil =>
      intro more _ _ hlength _
      exact (List.length_eq_zero_iff.1 hlength.symm).symm
  | cons c digits ih =>
      intro more hdigits hmore hlength hvalue
      cases more with
      | nil => cases hlength
      | cons c' more =>
          have htail : digits.length = more.length := Nat.succ.inj hlength
          have hdigits' := fun x hx => hdigits x (List.mem_cons_of_mem c hx)
          have hmore' := fun x hx => hmore x (List.mem_cons_of_mem c' hx)
          obtain ⟨hlow, _⟩ := Text.toNat_of_isDigit (hdigits c List.mem_cons_self)
          obtain ⟨hlow', _⟩ := Text.toNat_of_isDigit (hmore c' List.mem_cons_self)
          have hlt := valueOf_lt hdigits'
          have hlt' := valueOf_lt hmore'
          rw [valueOf_cons, valueOf_cons, htail] at hvalue
          rw [htail] at hlt
          -- The first digits are the quotients by the power, and what follows them the rests.
          have hquotient := congrArg (· / Nat.pow 10 more.length) hvalue
          have hrest := congrArg (· % Nat.pow 10 more.length) hvalue
          have hpos : 0 < Nat.pow 10 more.length := Nat.pow_pos (by decide)
          simp only [Nat.mul_add_div hpos, Nat.div_eq_of_lt hlt, Nat.div_eq_of_lt hlt',
            Nat.add_zero] at hquotient
          simp only [Nat.mul_add_mod, Nat.mod_eq_of_lt hlt, Nat.mod_eq_of_lt hlt'] at hrest
          have hfirst : c = c' := Char.toNat_inj.1 (by omega)
          rw [hfirst, ih hdigits' hmore' htail hrest]

/-- Digits are those of their value, in as many places. -/
theorem paddedDigits_valueOf {digits : List Char} {width : Nat} (hwidth : 0 < width)
    (hdigits : ∀ c ∈ digits, c.isDigit = true) (hlength : digits.length = width) :
    paddedDigits width (valueOf digits) = digits := by
  have hlt := valueOf_lt hdigits
  rw [hlength] at hlt
  apply eq_of_valueOf_eq (fun c => isDigit_of_mem_paddedDigits) hdigits
  · rw [length_paddedDigits hwidth hlt, hlength]
  · exact valueOf_paddedDigits width _

/-- Without a zero in front, digits are those of their value. -/
theorem digitsOf_valueOf {c : Char} {digits : List Char} (hc : c ≠ '0')
    (hdigits : ∀ d ∈ c :: digits, d.isDigit = true) :
    digitsOf (valueOf (c :: digits)) = c :: digits := by
  have hpadded := paddedDigits_valueOf (Nat.succ_pos _) hdigits rfl
  simp only [paddedDigits] at hpadded
  generalize (c :: digits).length - (digitsOf (valueOf (c :: digits))).length = zeros at hpadded
  cases zeros with
  | zero => exact hpadded
  | succ zeros => exact absurd (List.cons.inj hpadded).1.symm hc

end Decimal

end FilterQuery
