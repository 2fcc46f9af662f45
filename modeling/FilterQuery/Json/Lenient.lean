import FilterQuery.Json.Strict
import FilterQuery.Text.Letter

/-!
# Lenient JSON

The lexer of the JSON form that people write by hand: with comments, bare keys, either kind of quotes,
a comma before the end of an array or object, hexadecimal numbers, numbers with a sign or a bare point,
and the words for infinity and for what is not a number, which are read as null. There is no limit on
the depth.
-/

namespace FilterQuery

namespace Json

namespace Lenient

/-- The characters that end a line. -/
def isLineEnd (c : Char) : Bool :=
  c == '\n' || c == '\r' || c == '\u2028' || c == '\u2029'

/-- The blanks of a text: the line ends, four controls and marks, and the spaces of any width. The
next-line control U+0085 is not among them. -/
def isBlank (c : Char) : Bool :=
  isLineEnd c || c == '\t' || c == '\x0b' || c == '\x0c' || c == '\ufeff' ||
    c == ' ' || c == '\xa0' || c == '\u1680' || (0x2000 ≤ c.toNat && c.toNat ≤ 0x200a) ||
    c == '\u202f' || c == '\u205f' || c == '\u3000'

/-- The rest after the end of a block comment. -/
def afterBlock : List Char → Option (List Char)
  | [] => none
  | '*' :: '/' :: rest => some rest
  | _ :: rest => afterBlock rest

/-- The rest after a comment that starts with a slash. -/
def afterComment : List Char → Option (List Char)
  | '*' :: rest => afterBlock rest
  | '/' :: rest => some (rest.dropWhile (!isLineEnd ·))
  | _ => none

/-- The character that an escape with one character stands for. A digit other than zero has no meaning,
and a character without a meaning of its own stands for itself. -/
def escaped? (c : Char) : Option Char :=
  match c with
  | 'b' => some '\x08'
  | 'f' => some '\x0c'
  | 'n' => some '\n'
  | 'r' => some '\r'
  | 't' => some '\t'
  | 'v' => some '\x0b'
  | '0' => some '\x00'
  | 'x' => none
  | 'u' => none
  | c => if c.isDigit then none else some c

/-- The pieces of a text up to the given quote, and the rest. A backslash takes a line end away, which
cannot stand in a text otherwise. -/
def readPieces (quote : Char) : List Char → Option (List Piece × List Char)
  | [] => none
  | '\\' :: '\r' :: '\n' :: rest => readPieces quote rest
  | '\\' :: 'x' :: a :: b :: rest => do
    let n ← hexNumber? [a, b]
    let (pieces, rest) ← readPieces quote rest
    return (.char (Char.ofNat n) :: pieces, rest)
  | '\\' :: 'u' :: a :: b :: c :: d :: rest => do
    let n ← hexNumber? [a, b, c, d]
    let (pieces, rest) ← readPieces quote rest
    return (.codeUnit n :: pieces, rest)
  | '\\' :: c :: rest =>
    if isLineEnd c then readPieces quote rest
    else do
      let c ← escaped? c
      let (pieces, rest) ← readPieces quote rest
      return (.char c :: pieces, rest)
  | c :: rest =>
    if c = quote then some ([], rest)
    else if isLineEnd c then none
    else do
      let (pieces, rest) ← readPieces quote rest
      return (.char c :: pieces, rest)

/-- The character of a pair of surrogates. The two parts are joined bit by bit, so the bit that the
offset `0x10000` has in common with the high part is counted once. -/
def pairValue (high low : Nat) : Nat :=
  (high - 0xd800) <<< 10 ||| ((low - 0xdc00) + 0x10000)

/-- A quoted text after its opening quote, and the rest. -/
def readText (quote : Char) (text : List Char) : Option (String × List Char) := do
  let (pieces, rest) ← readPieces quote text
  let chars ← decodePieces pairValue none pieces
  return (String.ofList chars, rest)

/-- The pieces of the longest bare word at the start of a text, and the rest. -/
def wordPieces : List Char → List Piece × List Char
  | [] => ([], [])
  | '\\' :: 'u' :: a :: b :: c :: d :: rest =>
    match hexNumber? [a, b, c, d] with
    | some n =>
      let (pieces, after) := wordPieces rest
      (.codeUnit n :: pieces, after)
    | none => ([], '\\' :: 'u' :: a :: b :: c :: d :: rest)
  | c :: rest =>
    if Text.continuesIdentifier c then
      let (pieces, after) := wordPieces rest
      (.char c :: pieces, after)
    else ([], c :: rest)

/-- The value that a bare word without escapes stands for. -/
def wordValue? (pieces : List Piece) : Option Json :=
  let spelled (word : String) : Bool := pieces = word.toList.map .char
  if spelled "null" || spelled "Infinity" || spelled "NaN" then some .null
  else if spelled "true" then some (.bool true)
  else if spelled "false" then some (.bool false)
  else none

/-- A bare word as a token, and the rest. -/
def wordToken (text : List Char) : Option (Option Token × List Char) :=
  match wordPieces text with
  | ([], _) => none
  | (piece :: more, rest) =>
    (decodePieces pairValue none (piece :: more)).map fun chars =>
      (some (.word (String.ofList chars) (wordValue? (piece :: more))), rest)

/-- A decimal numeral after its sign, and the rest. It has a digit before the point or after it. -/
def readDecimal (negative : Bool) (text : List Char) : Option (Numeral × List Char) :=
  let (whole, afterWhole) := readWhole text
  let (fraction?, afterPoint) := readPoint (!whole.isEmpty) afterWhole
  let (exponent?, rest) := readExponent afterPoint
  if whole.isEmpty && fraction?.isNone then none
  else some (⟨negative, whole, fraction?, exponent?⟩, rest)

/-- A decimal numeral as a token, and the rest. -/
def decimalToken (negative : Bool) (text : List Char) : Option (Option Token × List Char) := do
  let (numeral, rest) ← readDecimal negative text
  let value ← numeral.lenientValue?
  return (some (.scalar (.number value)), rest)

/-- Whether the character is a hexadecimal digit. -/
def isHexDigit (c : Char) : Bool :=
  (hexValue? c).isSome

/-- A hexadecimal numeral after its mark, which has to fit 32 bits, as a token, and the rest. -/
def hexToken (text : List Char) : Option (Option Token × List Char) := do
  let digits := text.takeWhile isHexDigit
  let value ← hexNumber? digits
  if digits.isEmpty || Nat.pow 2 32 ≤ value then none
  else return (some (.scalar (.number (.int value))), text.dropWhile isHexDigit)

/-- A numeral after a minus sign. The words for infinity and for what is not a number are read here
too. -/
def negativeToken (text : List Char) : Option (Option Token × List Char) :=
  match Strict.dropWord "Infinity".toList text, Strict.dropWord "NaN".toList text with
  | some rest, _ => some (some (.scalar .null), rest)
  | none, some rest => some (some (.scalar .null), rest)
  | none, none => decimalToken true text

/-- The lexeme at the start of a text. -/
def next (c : Char) (cs : List Char) : Option (Option Token × List Char) :=
  match c with
  | '[' => some (some .openArray, cs)
  | ']' => some (some .closeArray, cs)
  | '\x7b' => some (some .openObject, cs)
  | '\x7d' => some (some .closeObject, cs)
  | ',' => some (some .comma, cs)
  | ':' => some (some .colon, cs)
  | '/' => (afterComment cs).map fun rest => (none, rest)
  | '"' => (readText '"' cs).map fun (text, rest) => (some (.text text), rest)
  | '\'' => (readText '\'' cs).map fun (text, rest) => (some (.text text), rest)
  | '-' => negativeToken cs
  | '+' => decimalToken false cs
  | c =>
    if isBlank c then some (none, cs)
    else if c = '0' ∧ (cs.head? = some 'x' ∨ cs.head? = some 'X') then hexToken (cs.drop 1)
    else if c.isDigit ∨ c = '.' then decimalToken false (c :: cs)
    else if Text.startsIdentifier c ∨ c = '\\' then wordToken (c :: cs)
    else none

theorem length_afterBlock {text rest} (h : afterBlock text = some rest) :
    rest.length ≤ text.length := by
  fun_induction afterBlock text with
  | case1 => simp at h
  | case2 tail =>
    simp only [Option.some.injEq] at h
    simp only [h, List.length_cons]
    omega
  | case3 _ tail _ ih =>
    have := ih h
    simp only [List.length_cons]
    omega

theorem length_afterComment {text rest} (h : afterComment text = some rest) :
    rest.length ≤ text.length := by
  unfold afterComment at h
  split at h
  · have := length_afterBlock h
    simp only [List.length_cons]
    omega
  · next tail =>
    have := length_dropWhile (p := (!isLineEnd ·)) tail
    simp only [Option.some.injEq] at h
    simp only [← h, List.length_cons]
    omega
  · simp at h

/-- The rest after a text is shorter than what the text was read from. -/
theorem length_readPieces {quote text pieces rest}
    (h : readPieces quote text = some (pieces, rest)) : rest.length < text.length := by
  fun_induction readPieces quote text generalizing pieces with
  | case1 => simp at h
  | case2 tail ih =>
    have := ih h
    simp only [List.length_cons]
    omega
  | case3 a b tail ih =>
    simp only [Option.bind_eq_bind, Option.bind_eq_some_iff] at h
    obtain ⟨n, _, ⟨more, r⟩, hread, hr⟩ := h
    simp only [Option.pure_def, Option.some.injEq, Prod.mk.injEq] at hr
    have := ih (hr.2 ▸ hread)
    simp only [List.length_cons]
    omega
  | case4 a b c d tail ih =>
    simp only [Option.bind_eq_bind, Option.bind_eq_some_iff] at h
    obtain ⟨n, _, ⟨more, r⟩, hread, hr⟩ := h
    simp only [Option.pure_def, Option.some.injEq, Prod.mk.injEq] at hr
    have := ih (hr.2 ▸ hread)
    simp only [List.length_cons]
    omega
  | case5 c tail _ _ _ _ ih =>
    have := ih h
    simp only [List.length_cons]
    omega
  | case6 c tail _ _ _ _ ih =>
    simp only [Option.bind_eq_bind, Option.bind_eq_some_iff] at h
    obtain ⟨n, _, ⟨more, r⟩, hread, hr⟩ := h
    simp only [Option.pure_def, Option.some.injEq, Prod.mk.injEq] at hr
    have := ih (hr.2 ▸ hread)
    simp only [List.length_cons]
    omega
  | case7 => simp_all
  | case8 => simp at h
  | case9 c tail _ _ _ _ _ _ ih =>
    simp only [Option.bind_eq_bind, Option.bind_eq_some_iff] at h
    obtain ⟨⟨more, r⟩, hread, hr⟩ := h
    simp only [Option.pure_def, Option.some.injEq, Prod.mk.injEq] at hr
    have := ih (hr.2 ▸ hread)
    simp only [List.length_cons]
    omega

/-- The rest after a quoted text is shorter than what it was read from. -/
theorem length_readText {quote text value rest} (h : readText quote text = some (value, rest)) :
    rest.length < text.length := by
  simp only [readText, Option.bind_eq_bind, Option.bind_eq_some_iff] at h
  obtain ⟨⟨pieces, r⟩, hread, chars, _, hr⟩ := h
  simp only [Option.pure_def, Option.some.injEq, Prod.mk.injEq] at hr
  exact hr.2 ▸ length_readPieces hread

/-- Each piece of a bare word takes a character at least. -/
theorem length_wordPieces (text : List Char) :
    (wordPieces text).2.length + (wordPieces text).1.length ≤ text.length := by
  fun_induction wordPieces text with
  | case1 => simp
  | case2 a b c d tail n _ pieces after heq ih =>
    simp only [heq, List.length_cons] at ih ⊢
    omega
  | case3 => simp
  | case4 c tail _ _ pieces after heq ih =>
    simp only [heq, List.length_cons] at ih ⊢
    omega
  | case5 => simp

theorem length_wordToken {c cs token? rest} (h : wordToken (c :: cs) = some (token?, rest)) :
    rest.length ≤ cs.length := by
  have hlen := length_wordPieces (c :: cs)
  unfold wordToken at h
  split at h
  · simp at h
  · next heq =>
    simp only [Option.map_eq_some_iff, Prod.mk.injEq] at h
    obtain ⟨chars, _, _, rfl⟩ := h
    simp only [heq, List.length_cons] at hlen
    omega

/-- A decimal numeral takes a character at least. -/
theorem length_readDecimal {negative text numeral rest}
    (h : readDecimal negative text = some (numeral, rest)) : rest.length < text.length := by
  have hexp := length_readExponent (readPoint (!(readWhole text).1.isEmpty) (readWhole text).2).2
  have hpoint := length_readPoint (!(readWhole text).1.isEmpty) (readWhole text).2
  have hwhole := length_append_readWhole text
  simp only [readDecimal] at h
  split at h
  · simp at h
  · next hsome =>
    simp only [Option.some.injEq, Prod.mk.injEq] at h
    rw [← h.2]
    by_cases hw : (readWhole text).1 = []
    · have := @length_readPoint_some (!(readWhole text).1.isEmpty) (readWhole text).2
        (by simpa [hw] using hsome)
      omega
    · have := List.length_pos_iff.mpr hw
      omega

theorem length_decimalToken {negative text token? rest}
    (h : decimalToken negative text = some (token?, rest)) : rest.length < text.length := by
  simp only [decimalToken, Option.bind_eq_bind, Option.bind_eq_some_iff] at h
  obtain ⟨⟨numeral, r⟩, hread, value, _, hr⟩ := h
  simp only [Option.pure_def, Option.some.injEq, Prod.mk.injEq] at hr
  exact hr.2 ▸ length_readDecimal hread

theorem length_hexToken {text token? rest} (h : hexToken text = some (token?, rest)) :
    rest.length ≤ text.length := by
  simp only [hexToken, Option.bind_eq_bind, Option.bind_eq_some_iff] at h
  obtain ⟨value, _, hr⟩ := h
  split at hr
  · simp at hr
  · simp only [Option.pure_def, Option.some.injEq, Prod.mk.injEq] at hr
    exact hr.2 ▸ length_dropWhile text

theorem length_negativeToken {text token? rest} (h : negativeToken text = some (token?, rest)) :
    rest.length ≤ text.length := by
  unfold negativeToken at h
  split at h
  · next hword =>
    simp only [Option.some.injEq, Prod.mk.injEq] at h
    exact h.2 ▸ Strict.length_dropWord hword
  · next hword =>
    simp only [Option.some.injEq, Prod.mk.injEq] at h
    exact h.2 ▸ Strict.length_dropWord hword
  · exact Nat.le_of_lt (length_decimalToken h)

/-- The rest after a lexeme is no longer than the text after its first character. -/
theorem length_next {c cs token? rest} (h : next c cs = some (token?, rest)) :
    rest.length ≤ cs.length := by
  unfold next at h
  split at h
  case h_7 =>
    simp only [Option.map_eq_some_iff, Prod.mk.injEq] at h
    obtain ⟨r, hread, _, rfl⟩ := h
    exact length_afterComment hread
  case h_8 | h_9 =>
    simp only [Option.map_eq_some_iff, Prod.mk.injEq] at h
    obtain ⟨⟨text, r⟩, hread, _, rfl⟩ := h
    exact Nat.le_of_lt (length_readText hread)
  case h_10 => exact length_negativeToken h
  case h_11 => exact Nat.le_of_lt (length_decimalToken h)
  case h_12 =>
    split at h
    · simp_all
    split at h
    · exact Nat.le_trans (length_hexToken h) (by simp)
    split at h
    · exact Nat.le_of_lt_succ (length_decimalToken h)
    split at h
    · exact length_wordToken h
    · simp at h
  all_goals simp_all

/-- The lexer of lenient JSON. -/
def lexer : Lexer where
  next := next
  length_rest := length_next

/-- The rules of lenient JSON on tokens. -/
def dialect : Dialect where
  trailingComma := true
  depth? := none

end Lenient

/-- The document of a text of lenient JSON. -/
def readLenient (text : String) : Option Json :=
  readWith Lenient.lexer Lenient.dialect text.toList

/-- The document of a text, which is strict JSON or, failing that, lenient JSON. -/
def read (text : String) : Option Json :=
  (readStrict text).or (readLenient text)

end Json

end FilterQuery
