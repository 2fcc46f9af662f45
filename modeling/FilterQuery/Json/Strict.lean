import FilterQuery.Json.Escape
import FilterQuery.Json.Numeral
import FilterQuery.Json.Token

/-!
# Strict JSON

The lexer of standard JSON. Arrays and objects may be nested up to a depth of 127.
-/

namespace FilterQuery

namespace Json

namespace Strict

/-- The four blanks of a JSON text. -/
def isBlank (c : Char) : Bool :=
  c == ' ' || c == '\t' || c == '\n' || c == '\r'

/-- The character that an escape with one letter stands for. -/
def escaped? (c : Char) : Option Char :=
  match c with
  | '"' => some '"'
  | '\\' => some '\\'
  | '/' => some '/'
  | 'b' => some '\x08'
  | 'f' => some '\x0c'
  | 'n' => some '\n'
  | 'r' => some '\r'
  | 't' => some '\t'
  | _ => none

/-- The pieces of a text up to its closing quote, and the rest. Controls have to be escaped. -/
def readPieces : List Char → Option (List Piece × List Char)
  | [] => none
  | '"' :: rest => some ([], rest)
  | '\\' :: 'u' :: a :: b :: c :: d :: rest => do
    let n ← hexNumber? [a, b, c, d]
    let (pieces, rest) ← readPieces rest
    return (.codeUnit n :: pieces, rest)
  | '\\' :: c :: rest => do
    let c ← escaped? c
    let (pieces, rest) ← readPieces rest
    return (.char c :: pieces, rest)
  | c :: rest =>
    if c.toNat < 0x20 then none
    else do
      let (pieces, rest) ← readPieces rest
      return (.char c :: pieces, rest)

/-- The rest after a text is shorter than what the text was read from. -/
theorem length_readPieces {text pieces rest} (h : readPieces text = some (pieces, rest)) :
    rest.length < text.length := by
  fun_induction readPieces text generalizing pieces with
  | case1 => simp at h
  | case2 => simp_all
  | case3 a b c d tail ih =>
    simp only [Option.bind_eq_bind, Option.bind_eq_some_iff] at h
    obtain ⟨n, _, ⟨more, r⟩, hread, hr⟩ := h
    simp only [Option.pure_def, Option.some.injEq, Prod.mk.injEq] at hr
    have := ih (hr.2 ▸ hread)
    simp only [List.length_cons]
    omega
  | case4 c tail _ ih =>
    simp only [Option.bind_eq_bind, Option.bind_eq_some_iff] at h
    obtain ⟨n, _, ⟨more, r⟩, hread, hr⟩ := h
    simp only [Option.pure_def, Option.some.injEq, Prod.mk.injEq] at hr
    have := ih (hr.2 ▸ hread)
    simp only [List.length_cons]
    omega
  | case5 => simp at h
  | case6 c tail _ _ _ _ ih =>
    simp only [Option.bind_eq_bind, Option.bind_eq_some_iff] at h
    obtain ⟨⟨more, r⟩, hread, hr⟩ := h
    simp only [Option.pure_def, Option.some.injEq, Prod.mk.injEq] at hr
    have := ih (hr.2 ▸ hread)
    simp only [List.length_cons]
    omega

/-- The character of a pair of surrogates. -/
def pairValue (high low : Nat) : Nat :=
  0x10000 + (high - 0xd800) * 0x400 + (low - 0xdc00)

/-- A quoted text after its opening quote, and the rest. -/
def readText (text : List Char) : Option (String × List Char) := do
  let (pieces, rest) ← readPieces text
  let chars ← decodePieces pairValue none pieces
  return (String.ofList chars, rest)

/-- The rest after a word, if the text starts with it. -/
def dropWord : List Char → List Char → Option (List Char)
  | [], text => some text
  | _ :: _, [] => none
  | w :: word, c :: text => if w = c then dropWord word text else none

/-- A numeral after its sign, and the rest. -/
def readNumeral (negative : Bool) (text : List Char) : Numeral × List Char :=
  let (whole, afterWhole) := readWhole text
  let (fraction?, afterPoint) := readPoint false afterWhole
  let (exponent?, rest) := readExponent afterPoint
  (⟨negative, whole, fraction?, exponent?⟩, rest)

/-- A numeral as a token, and the rest. -/
def numberToken (negative : Bool) (text : List Char) : Option (Option Token × List Char) := do
  let (numeral, rest) := readNumeral negative text
  let value ← numeral.strictValue?
  return (some (.scalar (.number value)), rest)

/-- A word as a token, and the rest. -/
def wordToken (word : List Char) (value : Json) (text : List Char) :
    Option (Option Token × List Char) :=
  (dropWord word text).map fun rest => (some (.scalar value), rest)

/-- The lexeme at the start of a text. -/
def next (c : Char) (cs : List Char) : Option (Option Token × List Char) :=
  match c with
  | '[' => some (some .openArray, cs)
  | ']' => some (some .closeArray, cs)
  | '\x7b' => some (some .openObject, cs)
  | '\x7d' => some (some .closeObject, cs)
  | ',' => some (some .comma, cs)
  | ':' => some (some .colon, cs)
  | '"' => (readText cs).map fun (text, rest) => (some (.text text), rest)
  | 'n' => wordToken ['u', 'l', 'l'] .null cs
  | 't' => wordToken ['r', 'u', 'e'] (.bool true) cs
  | 'f' => wordToken ['a', 'l', 's', 'e'] (.bool false) cs
  | '-' =>
    match cs with
    | digit :: _ => if digit.isDigit then numberToken true cs else none
    | [] => none
  | c =>
    if isBlank c then some (none, cs)
    else if c.isDigit then numberToken false (c :: cs)
    else none

/-- The rest after a quoted text is shorter than what it was read from. -/
theorem length_readText {text value rest} (h : readText text = some (value, rest)) :
    rest.length < text.length := by
  simp only [readText, Option.bind_eq_bind, Option.bind_eq_some_iff] at h
  obtain ⟨⟨pieces, r⟩, hread, chars, _, hr⟩ := h
  simp only [Option.pure_def, Option.some.injEq, Prod.mk.injEq] at hr
  exact hr.2 ▸ length_readPieces hread

/-- The rest after a word is no longer than the text. -/
theorem length_dropWord {word text rest} (h : dropWord word text = some rest) :
    rest.length ≤ text.length := by
  fun_induction dropWord word text with
  | case1 => simp_all
  | case2 => simp at h
  | case3 w word text ih =>
    have := ih h
    simp only [List.length_cons]
    omega
  | case4 => simp at h

theorem length_wordToken {word value text token? rest}
    (h : wordToken word value text = some (token?, rest)) : rest.length ≤ text.length := by
  simp only [wordToken, Option.map_eq_some_iff, Prod.mk.injEq] at h
  obtain ⟨r, hdrop, _, rfl⟩ := h
  exact length_dropWord hdrop

/-- A numeral that starts with a digit takes that digit at least. -/
theorem length_readNumeral {negative c cs} (hc : c.isDigit = true) :
    (readNumeral negative (c :: cs)).2.length ≤ cs.length :=
  calc
    _ ≤ (readPoint false (readWhole (c :: cs)).2).2.length := length_readExponent _
    _ ≤ (readWhole (c :: cs)).2.length := length_readPoint _ _
    _ ≤ cs.length := length_readWhole hc

theorem length_numberToken {negative c cs token? rest} (hc : c.isDigit = true)
    (h : numberToken negative (c :: cs) = some (token?, rest)) : rest.length ≤ cs.length := by
  simp only [numberToken, Option.bind_eq_bind, Option.bind_eq_some_iff] at h
  obtain ⟨value, _, hr⟩ := h
  simp only [Option.pure_def, Option.some.injEq, Prod.mk.injEq] at hr
  exact hr.2 ▸ length_readNumeral hc

/-- The rest after a lexeme is no longer than the text after its first character. -/
theorem length_next {c cs token? rest} (h : next c cs = some (token?, rest)) :
    rest.length ≤ cs.length := by
  unfold next at h
  split at h
  case h_7 =>
    simp only [Option.map_eq_some_iff, Prod.mk.injEq] at h
    obtain ⟨⟨text, r⟩, hread, _, rfl⟩ := h
    exact Nat.le_of_lt (length_readText hread)
  case h_8 | h_9 | h_10 => exact length_wordToken h
  case h_11 =>
    split at h
    · split at h
      · have := length_numberToken ‹_› h
        simp only [List.length_cons]
        omega
      · simp at h
    · simp at h
  case h_12 =>
    split at h
    · simp_all
    · split at h
      · exact length_numberToken ‹_› h
      · simp at h
  all_goals simp_all

/-- The lexer of strict JSON. -/
def lexer : Lexer where
  next := next
  length_rest := length_next

/-- The rules of strict JSON on tokens. -/
def dialect : Dialect where
  trailingComma := false
  depth? := some 127

end Strict

/-- The document of a text of strict JSON. -/
def readStrict (text : String) : Option Json :=
  readWith Strict.lexer Strict.dialect text.toList

end Json

end FilterQuery
