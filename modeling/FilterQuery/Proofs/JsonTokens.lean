import FilterQuery.Json.Strict
import FilterQuery.Json.Writer
import FilterQuery.Proofs.Digits

/-!
# The tokens of a written document

A document is written as a sequence of lexemes, in one line without blanks or with one item a line. The
lexer of strict JSON cuts either text into the same tokens again: a quoted text ends at its quote, since
every quote and backslash inside it is escaped, a numeral ends at the comma, bracket or line break after
it, and what stands between two lexemes is passed over. `Json.Strict.Lexes` says this of a piece of a text,
and the two layouts differ in how they put the pieces together.

Only numbers can be lost. A floating point number may be rounded twice when it is read, so the statements
here are about documents whose numbers are integers of 64 bits.

## Main results

* `Json.Strict.tokens_integerText` — an integer of 64 bits is one token.
* `Json.Strict.tokens_stringText` — a text of any characters is one token.
* `Json.Strict.lexes_of_isWord` — the text of a document has the tokens of the document, in either layout.
-/

namespace FilterQuery

/-- Whether a number is an integer of 64 bits, with or without a sign. -/
def Number.isWord : Number → Bool
  | .int i => -(Nat.pow 2 63 : Int) ≤ i && i < Nat.pow 2 64
  | .float _ => false

namespace Json

namespace Lexer

variable {lexer : Lexer} {c : Char} {cs rest : List Char}

/-- The tokens of a text that starts with a lexeme. -/
theorem tokens_cons {token? : Option Token} (hnext : lexer.next c cs = some (token?, rest)) :
    lexer.tokens (c :: cs) = (lexer.tokens rest).map (token?.toList ++ ·) := by
  rw [tokens]
  split
  · next h =>
    rw [hnext] at h
    cases h
  · next h =>
    rw [hnext] at h
    cases h
    rfl

theorem tokens_of_next {token : Token} {more : List Token}
    (hnext : lexer.next c cs = some (some token, rest)) (hmore : lexer.tokens rest = some more) :
    lexer.tokens (c :: cs) = some (token :: more) := by
  rw [tokens_cons hnext, hmore]
  rfl

/-- A lexeme without a token is passed over. -/
theorem tokens_of_skip (hnext : lexer.next c cs = some (none, rest)) :
    lexer.tokens (c :: cs) = lexer.tokens rest := by
  rw [tokens_cons hnext]
  exact Option.map_id'

end Lexer

namespace Strict

/-! ## Numerals -/

section Numerals

variable {rest : List Char}

/-- Whether a numeral cannot go on with the text: the text is at its end, at a mark or at a line break. -/
def EndsNumeral (rest : List Char) : Prop :=
  ∀ c ∈ rest.head?, c = ',' ∨ c = ']' ∨ c = '\x7d' ∨ c = '\n'

theorem readWhole_digitsOf (n : Nat) (hrest : ∀ c ∈ rest.head?, c.isDigit = false) :
    readWhole (Decimal.digitsOf n ++ rest) = (Decimal.digitsOf n, rest) := by
  have htake := takeWhile_run (fun c => @Decimal.isDigit_of_mem_digitsOf n c) hrest
  have hdrop := dropWhile_run (fun c => @Decimal.isDigit_of_mem_digitsOf n c) hrest
  unfold readWhole
  split
  · next more heq =>
    -- A zero in front is read alone, and it is the whole number.
    obtain ⟨d, digits, hcons⟩ := List.exists_cons_of_ne_nil (Decimal.digitsOf_ne_nil n)
    rw [hcons] at heq
    cases heq
    have hzero := Decimal.eq_zero_of_digitsOf_eq_cons hcons
    subst hzero
    cases hcons
    rfl
  · rw [htake, hdrop]

theorem EndsNumeral.isDigit_eq_false (hrest : EndsNumeral rest) :
    ∀ c ∈ rest.head?, c.isDigit = false := by
  intro c hc
  rcases hrest c hc with rfl | rfl | rfl | rfl <;> rfl

theorem EndsNumeral.readPoint_eq (hrest : EndsNumeral rest) : readPoint false rest = (none, rest) := by
  unfold readPoint
  split
  · next more =>
    have hpoint := hrest '.' rfl
    simp at hpoint
  · rfl

theorem EndsNumeral.readExponent_eq (hrest : EndsNumeral rest) : readExponent rest = (none, rest) := by
  cases rest with
  | nil => rfl
  | cons c rest =>
      have hmark : ¬ (c = 'e' ∨ c = 'E') := by
        rcases hrest c rfl with rfl | rfl | rfl | rfl <;> decide
      rw [readExponent]
      exact if_neg fun h => hmark h.1

/-- The digits of a number are read as a whole number, without fraction and exponent. -/
theorem readNumeral_digitsOf (negative : Bool) (n : Nat) (hrest : EndsNumeral rest) :
    readNumeral negative (Decimal.digitsOf n ++ rest) =
      (⟨negative, Decimal.digitsOf n, none, none⟩, rest) := by
  simp only [readNumeral, readWhole_digitsOf n hrest.isDigit_eq_false, hrest.readPoint_eq,
    hrest.readExponent_eq]

/-- A number whose digits have a value. -/
theorem numberToken_digitsOf {negative : Bool} {n : Nat} {value : Number}
    (hvalue : (⟨negative, Decimal.digitsOf n, none, none⟩ : Numeral).strictValue? = some value)
    (hrest : EndsNumeral rest) :
    numberToken negative (Decimal.digitsOf n ++ rest) =
      some (some (.scalar (.number value)), rest) := by
  rw [numberToken, readNumeral_digitsOf negative n hrest]
  dsimp only
  rw [hvalue]
  rfl

/-- A digit starts a numeral, since no other lexeme starts with one. -/
theorem next_of_isDigit {c : Char} (hc : c.isDigit = true) (cs : List Char) :
    next c cs = numberToken false (c :: cs) := by
  unfold next
  split
  case h_12 =>
    have hblank : ¬ isBlank c = true := by
      simp only [isBlank, Bool.or_eq_true, beq_iff_eq]
      rintro (((rfl | rfl) | rfl) | rfl) <;> cases hc
    rw [if_neg hblank, if_pos hc]
  all_goals cases hc

theorem strictValue?_of_nonneg {i : Int} (hi : (Number.int i).isWord = true) (hsign : 0 ≤ i) :
    (⟨false, Decimal.digitsOf i.natAbs, none, none⟩ : Numeral).strictValue? = some (.int i) := by
  simp only [Number.isWord, Bool.and_eq_true, decide_eq_true_eq] at hi
  have hhigh : i < 18446744073709551616 := hi.2
  have hmax : i.natAbs ≤ maxUnsigned := by
    show i.natAbs ≤ 18446744073709551615
    omega
  have habs : ((i.natAbs : Nat) : Int) = i := Int.natAbs_of_nonneg hsign
  simp [Numeral.strictValue?, Decimal.valueOf_digitsOf, hmax, habs]

theorem strictValue?_of_neg {i : Int} (hi : (Number.int i).isWord = true) (hsign : i < 0) :
    (⟨true, Decimal.digitsOf i.natAbs, none, none⟩ : Numeral).strictValue? = some (.int i) := by
  simp only [Number.isWord, Bool.and_eq_true, decide_eq_true_eq] at hi
  have hlow : -9223372036854775808 ≤ i := hi.1
  have hpos : 0 < i.natAbs := by omega
  have hmax : i.natAbs ≤ Nat.pow 2 63 := by
    show i.natAbs ≤ 9223372036854775808
    omega
  have habs : -((i.natAbs : Nat) : Int) = i := by omega
  simp only [Numeral.strictValue?, Decimal.valueOf_digitsOf, hpos, hmax, habs]
  rfl

/-- An integer of 64 bits is one token. -/
theorem tokens_integerText {i : Int} (hi : (Number.int i).isWord = true) (hrest : EndsNumeral rest)
    {more : List Token} (hmore : lexer.tokens rest = some more) :
    lexer.tokens (Decimal.integerText i ++ rest) = some (.scalar (.number (.int i)) :: more) := by
  obtain ⟨d, digits, hcons, hd⟩ := Decimal.exists_digitsOf_eq_cons i.natAbs
  unfold Decimal.integerText
  split
  · next hsign =>
    have htoken := numberToken_digitsOf (strictValue?_of_neg hi hsign) hrest
    refine Lexer.tokens_of_next ?_ hmore
    rw [hcons] at htoken ⊢
    exact (if_pos hd).trans htoken
  · next hsign =>
    have htoken := numberToken_digitsOf (strictValue?_of_nonneg hi (Int.not_lt.1 hsign)) hrest
    rw [hcons] at htoken ⊢
    exact Lexer.tokens_of_next ((next_of_isDigit hd _).trans htoken) hmore

end Numerals

/-! ## Texts -/

section Texts

variable {text rest : List Char} {pieces : List Piece}

/-- A hexadecimal digit is read back. -/
theorem hexValue?_digitChar {n : Nat} (h : n < 16) : hexValue? (Nat.digitChar n) = some n := by
  have hall : ∀ n < 16, hexValue? (Nat.digitChar n) = some n := by decide
  exact hall n h

/-- A control as an escaped code unit. -/
theorem hexNumber?_control {n : Nat} (h : n < 0x20) :
    hexNumber? ['0', '0', Nat.digitChar (n / 16), Nat.digitChar (n % 16)] = some n := by
  have hzero : hexValue? '0' = some 0 := rfl
  have hhigh := hexValue?_digitChar (n := n / 16) (by omega)
  have hlow := hexValue?_digitChar (n := n % 16) (by omega)
  have hsum : 16 * (n / 16) + n % 16 = n := Nat.div_add_mod n 16
  simp [hexNumber?, hzero, hhigh, hlow, hsum]

/-- A character that is written as it is. -/
theorem readPieces_plain {c : Char} (hquote : c ≠ '"') (hback : c ≠ '\\')
    (hplain : ¬ c.toNat < 0x20) (h : readPieces text = some (pieces, rest)) :
    readPieces (c :: text) = some (.char c :: pieces, rest) := by
  rw [readPieces]
  · rw [if_neg hplain, h]
    rfl
  · exact hquote
  · rintro _ _ _ _ _ hc
    exact absurd hc hback
  · rintro _ _ hc
    exact absurd hc hback

/-- A written character is one piece, which decodes to the character. -/
theorem exists_readPieces_escapeChar (c : Char) (h : readPieces text = some (pieces, rest)) :
    ∃ piece, readPieces (escapeChar c ++ text) = some (piece :: pieces, rest) ∧
      ∀ more, decodePieces pairValue none (piece :: more) =
        (decodePieces pairValue none more).map (c :: ·) := by
  unfold escapeChar
  split
  case h_8 hquote hback _ _ _ _ _ =>
    split
    · next hcontrol =>
      refine ⟨.codeUnit c.toNat, ?_, ?_⟩
      · have hnumber := hexNumber?_control hcontrol
        simp [readPieces, hnumber, h]
      · intro more
        have hhigh : isHighSurrogate c.toNat = false := by
          simp only [isHighSurrogate, Bool.and_eq_false_iff, decide_eq_false_iff_not]
          omega
        have hlow : isLowSurrogate c.toNat = false := by
          simp only [isLowSurrogate, Bool.and_eq_false_iff, decide_eq_false_iff_not]
          omega
        simp [decodePieces, hhigh, hlow, Char.ofNat_toNat]
    · next hplain =>
      refine ⟨.char c, ?_, fun more => rfl⟩
      exact readPieces_plain hquote hback hplain h
  all_goals exact ⟨.char _, by simp [readPieces, escaped?, h], fun more => rfl⟩

/-- The pieces of a written text decode to the text. -/
theorem exists_readPieces_escaped (chars rest : List Char) :
    ∃ pieces, readPieces (chars.flatMap escapeChar ++ '"' :: rest) = some (pieces, rest) ∧
      decodePieces pairValue none pieces = some chars := by
  induction chars with
  | nil => exact ⟨[], rfl, rfl⟩
  | cons c chars ih =>
      obtain ⟨pieces, hread, hdecode⟩ := ih
      obtain ⟨piece, hpiece, hfirst⟩ := exists_readPieces_escapeChar c hread
      refine ⟨piece :: pieces, ?_, ?_⟩
      · rw [List.flatMap_cons, List.append_assoc]
        exact hpiece
      · rw [hfirst, hdecode]
        rfl

/-- A quoted text is one token, whatever follows it. -/
theorem tokens_stringText (value : String) {more : List Token}
    (hmore : lexer.tokens rest = some more) :
    lexer.tokens (stringText value ++ rest) = some (.text value :: more) := by
  obtain ⟨pieces, hread, hdecode⟩ := exists_readPieces_escaped value.toList rest
  have htext : readText (value.toList.flatMap escapeChar ++ '"' :: rest) = some (value, rest) := by
    simp [readText, hread, hdecode]
  rw [stringText, List.cons_append, List.append_assoc]
  refine Lexer.tokens_of_next ?_ hmore
  show (readText _).map _ = _
  rw [List.singleton_append, htext]
  rfl

end Texts

end Strict

/-! ## Documents -/

/-- Induction over documents. The items of an array and the members of an object share one hypothesis
each, which the recursor of the type splits over motives on lists and pairs. -/
@[elab_as_elim, induction_eliminator]
theorem induct {motive : Json → Prop}
    (null : motive .null)
    (bool : ∀ value, motive (.bool value))
    (number : ∀ value, motive (.number value))
    (string : ∀ value, motive (.string value))
    (array : ∀ items, (∀ item ∈ items, motive item) → motive (.array items))
    (object : ∀ members, (∀ member ∈ members, motive member.2) → motive (.object members))
    (j : Json) : motive j :=
  @Json.rec motive (fun items => ∀ item ∈ items, motive item)
    (fun members => ∀ member ∈ members, motive member.2) (fun member => motive member.2)
    null bool number string array object
    (fun _ h => absurd h List.not_mem_nil)
    (fun _ _ head tail => List.forall_mem_cons.2 ⟨head, tail⟩)
    (fun _ h => absurd h List.not_mem_nil)
    (fun _ _ head tail => List.forall_mem_cons.2 ⟨head, tail⟩)
    (fun _ _ value => value) j

mutual

/-- The numbers of a document. -/
def numbers : Json → List Number
  | .number n => [n]
  | .array items => itemsNumbers items
  | .object members => membersNumbers members
  | _ => []

def itemsNumbers : List Json → List Number
  | [] => []
  | item :: rest => item.numbers ++ itemsNumbers rest

def membersNumbers : List (String × Json) → List Number
  | [] => []
  | (_, value) :: rest => value.numbers ++ membersNumbers rest

end

theorem mem_itemsNumbers {n : Number} {items : List Json} :
    n ∈ itemsNumbers items ↔ ∃ item ∈ items, n ∈ item.numbers := by
  induction items with
  | nil => simp [itemsNumbers]
  | cons item items ih => simp [itemsNumbers, ih]

theorem mem_membersNumbers {n : Number} {members : List (String × Json)} :
    n ∈ membersNumbers members ↔ ∃ member ∈ members, n ∈ member.2.numbers := by
  induction members with
  | nil => simp [membersNumbers]
  | cons member members ih => simp [membersNumbers, ih]

mutual

/-- The tokens of a document. -/
def tokens : Json → List Token
  | .string s => [.text s]
  | .array items => .openArray :: (itemsTokens items ++ [.closeArray])
  | .object members => .openObject :: (membersTokens members ++ [.closeObject])
  | value => [.scalar value]

/-- The tokens of the items of an array, with commas between them. -/
def itemsTokens : List Json → List Token
  | [] => []
  | [item] => item.tokens
  | item :: rest => item.tokens ++ .comma :: itemsTokens rest

/-- The tokens of the members of an object, with commas between them. -/
def membersTokens : List (String × Json) → List Token
  | [] => []
  | [(key, value)] => .text key :: .colon :: value.tokens
  | (key, value) :: rest => .text key :: .colon :: (value.tokens ++ .comma :: membersTokens rest)

end

namespace Strict

/-! ## Pieces of a text -/

/-- The text is cut into the tokens, in front of a rest that ends a numeral. -/
def Lexes (text : List Char) (tokens : List Token) : Prop :=
  ∀ rest more, EndsNumeral rest → lexer.tokens rest = some more →
    lexer.tokens (text ++ rest) = some (tokens ++ more)

theorem endsNumeral_nil : EndsNumeral [] := by
  intro c hc
  cases hc

theorem endsNumeral_cons {c : Char} (hc : c = ',' ∨ c = ']' ∨ c = '\x7d' ∨ c = '\n')
    (rest : List Char) : EndsNumeral (c :: rest) := by
  intro d hd
  cases hd
  exact hc

/-- A line break and the indentation after it are passed over. -/
theorem tokens_newLine (level : Nat) (rest : List Char) :
    lexer.tokens (newLine level ++ rest) = lexer.tokens rest := by
  have hblanks : ∀ n, lexer.tokens (List.replicate n ' ' ++ rest) = lexer.tokens rest := by
    intro n
    induction n with
    | zero => rfl
    | succ n ih => exact (Lexer.tokens_of_skip (c := ' ') (rfl : next ' ' _ = _)).trans ih
  exact (Lexer.tokens_of_skip (c := '\n') (rfl : next '\n' _ = _)).trans (hblanks _)

section Pieces

variable {text text' : List Char} {tokens tokens' : List Token}

theorem Lexes.nil : Lexes [] [] :=
  fun _ _ _ hmore => hmore

/-- Two pieces with a comma between them. -/
theorem Lexes.comma (h : Lexes text tokens) (h' : Lexes text' tokens') :
    Lexes (text ++ ',' :: text') (tokens ++ .comma :: tokens') := by
  intro rest more hrest hmore
  have hcomma := Lexer.tokens_of_next (c := ',') (rfl : next ',' _ = _) (h' rest more hrest hmore)
  have hfirst := h _ _ (endsNumeral_cons (.inl rfl) _) hcomma
  simpa using hfirst

/-- A value after its key. -/
theorem Lexes.keyed (h : Lexes text tokens) (key : String) :
    Lexes (stringText key ++ ':' :: text) (.text key :: .colon :: tokens) := by
  intro rest more hrest hmore
  have hcolon := Lexer.tokens_of_next (c := ':') (rfl : next ':' _ = _) (h rest more hrest hmore)
  simpa using tokens_stringText key hcolon

/-- A piece between two brackets. -/
theorem Lexes.bracketed {opening closing : Char} {first last : Token}
    (hopening : ∀ cs, next opening cs = some (some first, cs))
    (hclosing : ∀ cs, next closing cs = some (some last, cs))
    (hends : ∀ rest, EndsNumeral (closing :: rest)) (h : Lexes text tokens) :
    Lexes (opening :: (text ++ [closing])) (first :: (tokens ++ [last])) := by
  intro rest more _ hmore
  have hclose := Lexer.tokens_of_next (hclosing rest) hmore
  have hopen := Lexer.tokens_of_next (hopening _) (h _ _ (hends rest) hclose)
  simpa using hopen

theorem Lexes.array (h : Lexes text tokens) :
    Lexes ('[' :: (text ++ [']'])) (.openArray :: (tokens ++ [.closeArray])) :=
  h.bracketed (fun _ => rfl) (fun _ => rfl) (endsNumeral_cons (.inr (.inl rfl)))

theorem Lexes.object (h : Lexes text tokens) :
    Lexes ('\x7b' :: (text ++ ['\x7d'])) (.openObject :: (tokens ++ [.closeObject])) :=
  h.bracketed (fun _ => rfl) (fun _ => rfl) (endsNumeral_cons (.inr (.inr (.inl rfl))))

/-- A piece after a blank. -/
theorem Lexes.afterBlank (h : Lexes text tokens) : Lexes (' ' :: text) tokens := by
  intro rest more hrest hmore
  exact (Lexer.tokens_of_skip (c := ' ') (rfl : next ' ' _ = _)).trans (h rest more hrest hmore)

/-- A piece on a line of its own. -/
theorem Lexes.onLine (h : Lexes text tokens) (level : Nat) :
    Lexes (newLine level ++ text) tokens := by
  intro rest more hrest hmore
  rw [List.append_assoc, tokens_newLine]
  exact h rest more hrest hmore

/-- A piece that ends its line. -/
theorem Lexes.endLine (h : Lexes text tokens) (level : Nat) :
    Lexes (text ++ newLine level) tokens := by
  intro rest more _ hmore
  rw [List.append_assoc]
  refine h _ more (endsNumeral_cons (.inr (.inr (.inr rfl))) _) ?_
  exact (tokens_newLine level rest).trans hmore

end Pieces

/-! ## Both layouts -/

theorem lexes_null : Lexes nullText [.scalar .null] :=
  fun _ _ _ hmore => Lexer.tokens_of_next rfl hmore

theorem lexes_bool (b : Bool) : Lexes (boolText b) [.scalar (.bool b)] := by
  intro rest more _ hmore
  cases b with
  | true => exact Lexer.tokens_of_next rfl hmore
  | false => exact Lexer.tokens_of_next rfl hmore

theorem lexes_number {n : Number} (hn : n.isWord = true) : Lexes n.text [.scalar (.number n)] := by
  intro rest more hrest hmore
  cases n with
  | int i => exact tokens_integerText hn hrest hmore
  | float x => cases hn

theorem lexes_string (s : String) : Lexes (stringText s) [.text s] :=
  fun _ _ _ hmore => tokens_stringText s hmore

theorem lexes_compactItems {items : List Json}
    (hitems : ∀ item ∈ items, Lexes item.compactChars item.tokens) :
    Lexes (compactItems items) (itemsTokens items) := by
  induction items with
  | nil => exact .nil
  | cons item items ih =>
      have hitem := hitems item List.mem_cons_self
      have htail := ih fun i hi => hitems i (List.mem_cons_of_mem _ hi)
      cases items with
      | nil => exact hitem
      | cons second items => exact hitem.comma htail

theorem lexes_compactMembers {members : List (String × Json)}
    (hmembers : ∀ member ∈ members, Lexes member.2.compactChars member.2.tokens) :
    Lexes (compactMembers members) (membersTokens members) := by
  induction members with
  | nil => exact .nil
  | cons member members ih =>
      obtain ⟨key, value⟩ := member
      have hvalue := hmembers (key, value) List.mem_cons_self
      have htail := ih fun m hm => hmembers m (List.mem_cons_of_mem _ hm)
      cases members with
      | nil => exact hvalue.keyed key
      | cons second members => exact (hvalue.comma htail).keyed key

theorem lexes_prettyItems {items : List Json} (level : Nat)
    (hitems : ∀ item ∈ items, Lexes (item.prettyChars level) item.tokens) :
    Lexes (prettyItems level items) (itemsTokens items) := by
  induction items with
  | nil => exact .nil
  | cons item items ih =>
      have hitem := hitems item List.mem_cons_self
      have htail := ih fun i hi => hitems i (List.mem_cons_of_mem _ hi)
      cases items with
      | nil => exact hitem.onLine level
      | cons second items => exact (hitem.comma htail).onLine level

theorem lexes_prettyMembers {members : List (String × Json)} (level : Nat)
    (hmembers : ∀ member ∈ members, Lexes (member.2.prettyChars level) member.2.tokens) :
    Lexes (prettyMembers level members) (membersTokens members) := by
  induction members with
  | nil => exact .nil
  | cons member members ih =>
      obtain ⟨key, value⟩ := member
      have hvalue := hmembers (key, value) List.mem_cons_self
      have htail := ih fun m hm => hmembers m (List.mem_cons_of_mem _ hm)
      cases members with
      | nil => exact (hvalue.afterBlank.keyed key).onLine level
      | cons second members => exact ((hvalue.comma htail).afterBlank.keyed key).onLine level

/-- The text of a document whose numbers are integers of 64 bits has the tokens of the document, in one
line and indented. -/
theorem lexes_of_isWord (j : Json) (hnumbers : ∀ n ∈ j.numbers, n.isWord = true) :
    Lexes j.compactChars j.tokens ∧ ∀ level, Lexes (j.prettyChars level) j.tokens := by
  induction j with
  | null => exact ⟨lexes_null, fun _ => lexes_null⟩
  | bool b => exact ⟨lexes_bool b, fun _ => lexes_bool b⟩
  | number n =>
      have hlexes := lexes_number (hnumbers n List.mem_cons_self)
      exact ⟨hlexes, fun _ => hlexes⟩
  | string s => exact ⟨lexes_string s, fun _ => lexes_string s⟩
  | array items ih =>
      have hitems := fun item hitem => ih item hitem fun n hn =>
        hnumbers n (mem_itemsNumbers.2 ⟨item, hitem, hn⟩)
      refine ⟨(lexes_compactItems fun item hitem => (hitems item hitem).1).array, fun level => ?_⟩
      cases items with
      -- An empty array has no line of its own.
      | nil => exact Lexes.nil.array
      | cons item items =>
          have hlines := lexes_prettyItems (level + 1) fun item hitem =>
            (hitems item hitem).2 (level + 1)
          exact (hlines.endLine level).array
  | object members ih =>
      have hmembers := fun member hmember =>
        ih member hmember fun n hn => hnumbers n (mem_membersNumbers.2 ⟨member, hmember, hn⟩)
      refine ⟨(lexes_compactMembers fun member hmember => (hmembers member hmember).1).object,
        fun level => ?_⟩
      cases members with
      | nil => exact Lexes.nil.object
      | cons member members =>
          have hlines := lexes_prettyMembers (level + 1) fun member hmember =>
            (hmembers member hmember).2 (level + 1)
          exact (hlines.endLine level).object

end Strict

end Json

end FilterQuery
