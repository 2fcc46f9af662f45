import FilterQuery.Proofs.JsonTokens
import FilterQuery.Report

/-!
# The layout of a document

A document is written in one line or with one item a line. The two texts are the same but for their
layout, the blanks and line breaks that stand between its lexemes. Blanks inside a text of the document
are no layout, and a text may hold anything: quotes, backslashes, or what looks like a piece of another
document. So a scan that removes the layout has to know where it stands (`Layout.Place`), and the proof
follows it through every escape: a text ends at its own quote, since those inside it stand after a
backslash.

Removing the layout is stated piece by piece (`Layout.Strips`), whatever follows the piece, so that the
pieces of a document can be put together along its tree.

## Main results

* `Layout.strips_stringText` — nothing is removed from a quoted text.
* `Layout.strips_prettyChars` — without its layout, an indented document is the one in one line.
* `Layout.noControl_compactChars` — a document in one line has no control character.
* `Report.json_layout` — both of the two reports in JSON.
-/

namespace FilterQuery

namespace Layout

/-! ## Scanning -/

/-- Where a scan of a written document stands. -/
inductive Place where
  /-- Outside of texts. -/
  | outside
  /-- In a text. -/
  | inside
  /-- In a text, after the backslash of an escape. -/
  | escaped
deriving DecidableEq

/-- The place after a character. -/
def Place.next : Place → Char → Place
  | .outside, c => if c = '"' then .inside else .outside
  | .inside, c => if c = '"' then .outside else if c = '\\' then .escaped else .inside
  | .escaped, _ => .inside

/-- The characters that a scan keeps: all but the blanks and line breaks outside of texts. -/
def strip : Place → List Char → List Char
  | _, [] => []
  | place, c :: rest =>
    if place = .outside ∧ (c = ' ' ∨ c = '\n') then strip place rest
    else c :: strip (place.next c) rest

/-- A document without its layout. -/
def compacted (text : String) : String :=
  String.ofList (strip .outside text.toList)

/-- Of a piece of a document, a scan that starts outside of texts keeps the given characters and is
outside of texts again. -/
def Strips (written kept : List Char) : Prop :=
  ∀ rest, strip .outside (written ++ rest) = kept ++ strip .outside rest

/-- Whether a character is neither layout nor a quote. -/
def isPlain (c : Char) : Bool :=
  0x20 < c.toNat && c != '"'

section Pieces

variable {written written' kept kept' text rest : List Char} {c : Char}

theorem Strips.append (h : Strips written kept) (h' : Strips written' kept') :
    Strips (written ++ written') (kept ++ kept') := by
  intro rest
  rw [List.append_assoc, h, h', List.append_assoc]

theorem isPlain_iff : isPlain c = true ↔ 0x20 < c.toNat ∧ c ≠ '"' := by
  simp [isPlain]

theorem strip_plain (hc : isPlain c = true) (rest : List Char) :
    strip .outside (c :: rest) = c :: strip .outside rest := by
  obtain ⟨hlow, hquote⟩ := isPlain_iff.1 hc
  have hlayout : ¬ (c = ' ' ∨ c = '\n') := by
    rintro (rfl | rfl) <;> simp at hlow
  simp [strip, hlayout, Place.next, hquote]

theorem strips_plain (htext : ∀ c ∈ text, isPlain c = true) : Strips text text := by
  intro rest
  induction text with
  | nil => rfl
  | cons c text ih =>
      rw [List.cons_append, strip_plain (htext c List.mem_cons_self),
        ih fun d hd => htext d (List.mem_cons_of_mem c hd), List.cons_append]

theorem Strips.cons (hc : isPlain c = true) (h : Strips written kept) :
    Strips (c :: written) (c :: kept) := by
  intro rest
  rw [List.cons_append, strip_plain hc, h, List.cons_append]

/-- A line break goes with the indentation after it. -/
theorem strips_newLine (level : Nat) : Strips (Json.newLine level) [] := by
  have hblanks : ∀ n rest, strip .outside (List.replicate n ' ' ++ rest) = strip .outside rest := by
    intro n rest
    induction n with
    | zero => rfl
    | succ n ih =>
        rw [List.replicate_succ, List.cons_append, strip, if_pos ⟨rfl, .inl rfl⟩, ih]
  intro rest
  rw [Json.newLine, List.cons_append, strip, if_pos ⟨rfl, .inr rfl⟩, hblanks]
  rfl

end Pieces

/-! ## Texts -/

section Texts

variable {c : Char}

/-- Inside of a text every character is kept. -/
theorem strip_inside (hquote : c ≠ '"') (hback : c ≠ '\\') (rest : List Char) :
    strip .inside (c :: rest) = c :: strip .inside rest := by
  simp [strip, Place.next, hquote, hback]

/-- An escaped character is kept with its backslash, also if it is a quote. -/
theorem strip_escape (c : Char) (rest : List Char) :
    strip .inside ('\\' :: c :: rest) = '\\' :: c :: strip .inside rest := by
  simp [strip, Place.next]

theorem digitChar_ne {n : Nat} (h : n < 16) : Nat.digitChar n ≠ '"' ∧ Nat.digitChar n ≠ '\\' := by
  have hall : ∀ n < 16, Nat.digitChar n ≠ '"' ∧ Nat.digitChar n ≠ '\\' := by decide
  exact hall n h

/-- After a written character the scan is still inside of the text. -/
theorem strip_escapeChar (c : Char) (rest : List Char) :
    strip .inside (Json.escapeChar c ++ rest) = Json.escapeChar c ++ strip .inside rest := by
  unfold Json.escapeChar
  split
  -- The first seven characters have an escape of two characters; the last case is that of all others.
  case h_8 hquote hback _ _ _ _ _ =>
    split
    · next hcontrol =>
      obtain ⟨hhigh, hhigh'⟩ := digitChar_ne (n := c.toNat / 16) (by omega)
      obtain ⟨hlow, hlow'⟩ := digitChar_ne (n := c.toNat % 16) (by omega)
      simp only [List.cons_append, List.nil_append]
      rw [strip_escape, strip_inside (by decide) (by decide), strip_inside (by decide) (by decide),
        strip_inside hhigh hhigh', strip_inside hlow hlow']
    · exact strip_inside hquote hback rest
  all_goals exact strip_escape _ rest

theorem strip_escaped (chars rest : List Char) :
    strip .inside (chars.flatMap Json.escapeChar ++ rest) =
      chars.flatMap Json.escapeChar ++ strip .inside rest := by
  induction chars with
  | nil => rfl
  | cons c chars ih =>
      rw [List.flatMap_cons, List.append_assoc, strip_escapeChar, ih, List.append_assoc]

/-- Nothing is removed from a quoted text, and it ends at its own quote. -/
theorem strips_stringText (s : String) : Strips (Json.stringText s) (Json.stringText s) := by
  have hopen : ∀ rest, strip .outside ('"' :: rest) = '"' :: strip .inside rest := fun _ => rfl
  have hclose : ∀ rest, strip .inside ('"' :: rest) = '"' :: strip .outside rest := fun _ => rfl
  intro rest
  simp only [Json.stringText, List.cons_append, List.append_assoc, List.nil_append]
  rw [hopen, strip_escaped, hclose]

end Texts

/-! ## Numbers -/

theorem isPlain_of_isDigit {c : Char} (h : c.isDigit = true) : isPlain c = true := by
  obtain ⟨hlow, _⟩ := Text.toNat_of_isDigit h
  refine isPlain_iff.2 ⟨by omega, ?_⟩
  rintro rfl
  simp at hlow

theorem isPlain_digitsOf (n : Nat) : ∀ c ∈ Decimal.digitsOf n, isPlain c = true :=
  fun _ hc => isPlain_of_isDigit (Decimal.isDigit_of_mem_digitsOf hc)

theorem isPlain_zeros (n : Nat) : ∀ c ∈ List.replicate n '0', isPlain c = true := by
  intro c hc
  rw [List.eq_of_mem_replicate hc]
  rfl

theorem isPlain_positional (d : Decimal) : ∀ c ∈ d.positional, isPlain c = true := by
  have hdigits := isPlain_digitsOf d.digits
  unfold Decimal.positional
  dsimp only
  split
  · exact List.forall_mem_append.2 ⟨hdigits, isPlain_zeros _⟩
  split
  · refine List.forall_mem_append.2 ⟨fun c hc => hdigits c (List.mem_of_mem_take hc), ?_⟩
    exact List.forall_mem_cons.2 ⟨rfl, fun c hc => hdigits c (List.mem_of_mem_drop hc)⟩
  · refine List.forall_mem_cons.2 ⟨rfl, List.forall_mem_cons.2 ⟨rfl, ?_⟩⟩
    exact List.forall_mem_append.2 ⟨isPlain_zeros _, hdigits⟩

theorem isPlain_scientific (d : Decimal) : ∀ c ∈ d.scientific, isPlain c = true := by
  have hdigits := isPlain_digitsOf d.digits
  have hsign : isPlain (if d.exponent < 0 then '-' else '+') = true := by split <;> rfl
  have htail : ∀ c ∈ 'e' :: (if d.exponent < 0 then '-' else '+') ::
      Decimal.digitsOf d.exponent.natAbs, isPlain c = true :=
    List.forall_mem_cons.2 ⟨rfl, List.forall_mem_cons.2 ⟨hsign, isPlain_digitsOf _⟩⟩
  unfold Decimal.scientific
  dsimp only
  split
  · exact htail
  · next digit heq =>
    rw [heq] at hdigits
    exact List.forall_mem_cons.2 ⟨hdigits digit List.mem_cons_self, htail⟩
  · next digit more _ heq =>
    rw [heq] at hdigits
    refine List.forall_mem_cons.2 ⟨hdigits digit List.mem_cons_self, List.forall_mem_cons.2 ⟨rfl, ?_⟩⟩
    exact List.forall_mem_append.2 ⟨fun c hc => hdigits c (List.mem_cons_of_mem _ hc), htail⟩

/-- A sign may stand in front. -/
theorem isPlain_signed (negative : Bool) {text : List Char} (h : ∀ c ∈ text, isPlain c = true) :
    ∀ c ∈ if negative then '-' :: text else text, isPlain c = true := by
  cases negative with
  | true => exact List.forall_mem_cons.2 ⟨rfl, h⟩
  | false => exact h

/-- The text of a number, finite or not, has neither layout nor quotes. -/
theorem isPlain_number (n : Number) : ∀ c ∈ n.text, isPlain c = true := by
  cases n with
  | int i =>
      unfold Number.text Decimal.integerText
      dsimp only
      split
      · exact List.forall_mem_cons.2 ⟨rfl, isPlain_digitsOf _⟩
      · exact isPlain_digitsOf _
  | float x =>
      have hpositional := isPlain_positional x.shortest
      unfold Number.text Number.floatText
      dsimp only
      split
      · apply isPlain_signed
        split
        · split
          · exact List.forall_mem_append.2 ⟨hpositional, List.all_eq_true.1 rfl⟩
          · exact hpositional
        · exact isPlain_scientific x.shortest
      · exact List.all_eq_true.1 rfl

/-! ## Documents -/

theorem strips_bool (b : Bool) : Strips (Json.boolText b) (Json.boolText b) := by
  cases b with
  | true => exact strips_plain (List.all_eq_true.1 rfl)
  | false => exact strips_plain (List.all_eq_true.1 rfl)

/-- What stands between two brackets, each of which may stand on a line of its own. -/
theorem Strips.bracketed {opening closing : Char} {written kept : List Char}
    (hopening : isPlain opening = true) (hclosing : isPlain closing = true)
    (h : Strips written kept) (level : Nat) :
    Strips (opening :: (written ++ Json.newLine level ++ [closing]))
      (opening :: (kept ++ [closing])) := by
  have hline : Strips (written ++ Json.newLine level) kept := by
    simpa using h.append (strips_newLine level)
  exact .cons hopening (hline.append (strips_plain (List.forall_mem_singleton.2 hclosing)))

/-- An item on a line of its own. -/
theorem Strips.onLine {written kept : List Char} (h : Strips written kept) (level : Nat) :
    Strips (Json.newLine level ++ written) kept :=
  (strips_newLine level).append h

/-- A member with its key; the blank after the colon is layout. -/
theorem Strips.keyed {written kept : List Char} (h : Strips written kept) (key : String) :
    Strips (Json.stringText key ++ ':' :: ' ' :: written) (Json.stringText key ++ ':' :: kept) := by
  refine (strips_stringText key).append (.cons rfl ?_)
  -- The scan passes over the blank in one step, so what is left is the value.
  exact h

theorem strips_prettyItems {items : List Json} (level : Nat)
    (hitems : ∀ item ∈ items, ∀ level, Strips (item.prettyChars level) item.compactChars) :
    Strips (Json.prettyItems level items) (Json.compactItems items) := by
  induction items with
  | nil => exact fun _ => rfl
  | cons item items ih =>
      have hitem := hitems item List.mem_cons_self level
      have htail := ih fun i hi => hitems i (List.mem_cons_of_mem _ hi)
      cases items with
      | nil => exact hitem.onLine level
      | cons second items => exact (hitem.append (.cons rfl htail)).onLine level

theorem strips_prettyMembers {members : List (String × Json)} (level : Nat)
    (hmembers : ∀ member ∈ members, ∀ level,
      Strips (member.2.prettyChars level) member.2.compactChars) :
    Strips (Json.prettyMembers level members) (Json.compactMembers members) := by
  induction members with
  | nil => exact fun _ => rfl
  | cons member members ih =>
      obtain ⟨key, value⟩ := member
      have hvalue := hmembers (key, value) List.mem_cons_self level
      have htail := ih fun m hm => hmembers m (List.mem_cons_of_mem _ hm)
      cases members with
      | nil => exact (hvalue.keyed key).onLine level
      | cons second members =>
          exact ((hvalue.append (.cons rfl htail)).keyed key).onLine level

/-- Without its layout, an indented document is the document in one line, at every level. -/
theorem strips_prettyChars (j : Json) : ∀ level, Strips (j.prettyChars level) j.compactChars := by
  induction j with
  | null => exact fun _ => strips_plain (List.all_eq_true.1 rfl)
  | bool b => exact fun _ => strips_bool b
  | number n => exact fun _ => strips_plain (isPlain_number n)
  | string s => exact fun _ => strips_stringText s
  | array items ih =>
      intro level
      cases items with
      | nil => exact strips_plain (List.all_eq_true.1 rfl)
      | cons item items => exact (strips_prettyItems (level + 1) ih).bracketed rfl rfl level
  | object members ih =>
      intro level
      cases members with
      | nil => exact strips_plain (List.all_eq_true.1 rfl)
      | cons member members => exact (strips_prettyMembers (level + 1) ih).bracketed rfl rfl level

/-! ## Documents in one line -/

/-- The text has no control character, and so no line break. -/
def NoControl (text : List Char) : Prop :=
  ∀ c ∈ text, 0x20 ≤ c.toNat

section OneLine

variable {text more : List Char}

theorem NoControl.append (h : NoControl text) (h' : NoControl more) : NoControl (text ++ more) :=
  List.forall_mem_append.2 ⟨h, h'⟩

theorem NoControl.cons {c : Char} (hc : 0x20 ≤ c.toNat) (h : NoControl text) : NoControl (c :: text) :=
  List.forall_mem_cons.2 ⟨hc, h⟩

theorem NoControl.bracketed {opening closing : Char} (hopening : 0x20 ≤ opening.toNat)
    (hclosing : 0x20 ≤ closing.toNat) (h : NoControl text) :
    NoControl (opening :: (text ++ [closing])) :=
  .cons hopening (h.append (List.forall_mem_singleton.2 hclosing))

theorem noControl_of_plain (h : ∀ c ∈ text, isPlain c = true) : NoControl text :=
  fun c hc => Nat.le_of_lt (isPlain_iff.1 (h c hc)).1

/-- A control is written as an escape, which has none. -/
theorem noControl_escapeChar (c : Char) : NoControl (Json.escapeChar c) := by
  have hdigit : ∀ n < 16, 0x20 ≤ (Nat.digitChar n).toNat := by decide
  unfold Json.escapeChar
  split
  case h_8 =>
    split
    · next hcontrol =>
      have hhigh := hdigit (c.toNat / 16) (by omega)
      have hlow := hdigit (c.toNat % 16) (by omega)
      have hunicode : NoControl ['\\', 'u', '0', '0'] := noControl_of_plain (List.all_eq_true.1 rfl)
      exact hunicode.append (.cons hhigh (List.forall_mem_singleton.2 hlow))
    · next hplain => exact List.forall_mem_singleton.2 (Nat.not_lt.1 hplain)
  case h_1 => exact .cons (by decide) (List.forall_mem_singleton.2 (by decide))
  all_goals exact noControl_of_plain (List.all_eq_true.1 rfl)

theorem noControl_stringText (s : String) : NoControl (Json.stringText s) := by
  refine NoControl.bracketed (by decide) (by decide) ?_
  intro c hc
  obtain ⟨d, _, hd⟩ := List.mem_flatMap.1 hc
  exact noControl_escapeChar d c hd

theorem noControl_compactItems {items : List Json}
    (hitems : ∀ item ∈ items, NoControl item.compactChars) : NoControl (Json.compactItems items) := by
  induction items with
  | nil => exact List.forall_mem_nil _
  | cons item items ih =>
      have hitem := hitems item List.mem_cons_self
      have htail := ih fun i hi => hitems i (List.mem_cons_of_mem _ hi)
      cases items with
      | nil => exact hitem
      | cons second items => exact hitem.append (.cons (by decide) htail)

theorem noControl_compactMembers {members : List (String × Json)}
    (hmembers : ∀ member ∈ members, NoControl member.2.compactChars) :
    NoControl (Json.compactMembers members) := by
  induction members with
  | nil => exact List.forall_mem_nil _
  | cons member members ih =>
      obtain ⟨key, value⟩ := member
      have hkey := noControl_stringText key
      have hvalue := hmembers (key, value) List.mem_cons_self
      have htail := ih fun m hm => hmembers m (List.mem_cons_of_mem _ hm)
      cases members with
      | nil => exact hkey.append (.cons (by decide) hvalue)
      | cons second members =>
          exact hkey.append (.cons (by decide) (hvalue.append (.cons (by decide) htail)))

/-- A document in one line has no control character. -/
theorem noControl_compactChars (j : Json) : NoControl j.compactChars := by
  induction j with
  | null => exact noControl_of_plain (List.all_eq_true.1 rfl)
  | bool b =>
      cases b with
      | true => exact noControl_of_plain (List.all_eq_true.1 rfl)
      | false => exact noControl_of_plain (List.all_eq_true.1 rfl)
  | number n => exact noControl_of_plain (isPlain_number n)
  | string s => exact noControl_stringText s
  | array items ih => exact (noControl_compactItems ih).bracketed (by decide) (by decide)
  | object members ih => exact (noControl_compactMembers ih).bracketed (by decide) (by decide)

end OneLine

end Layout

/-- **The two renderings are one document.** Each report of a compilation in one line has no control
character, so that it is a single line, and it is what is left of the indented report when the blanks and
line breaks outside of its texts are deleted. -/
theorem Report.json_layout (subject : Subject) (c : Compilation) :
    (∀ ch ∈ (json subject true c).toList, 0x20 ≤ ch.toNat) ∧ '\n' ∉ (json subject true c).toList ∧
      Layout.compacted (json subject false c) = json subject true c := by
  have hcontrol : ∀ ch ∈ (json subject true c).toList, 0x20 ≤ ch.toNat := by
    show ∀ ch ∈ (String.ofList (document subject c).compactChars).toList, _
    rw [String.toList_ofList]
    exact Layout.noControl_compactChars _
  refine ⟨hcontrol, fun h => absurd (hcontrol _ h) (by decide), ?_⟩
  have hstrips := Layout.strips_prettyChars (document subject c) 0 []
  rw [List.append_nil, Layout.strip, List.append_nil] at hstrips
  show String.ofList (Layout.strip .outside (String.ofList _).toList) = String.ofList _
  rw [String.toList_ofList, hstrips]

/-- A field with a quote, a blank and a line break, and a pattern that ends with a backslash: the blank
stays, and the line break is an escape in either report. -/
theorem Report.json_layout_escapes :
    let c : Compilation := ⟨.wildcard "a\": \n" "*\\", ["a\": \n"], []⟩
    let pretty := json .compilation false c
    let line := json .compilation true c
    (' ' ∈ line.toList ∧ 0x20 ≤ ' '.toNat) ∧ '\n' ∈ pretty.toList ∧ '\n' ∉ line.toList ∧
      Layout.compacted pretty = line := by
  intro c pretty line
  obtain ⟨hcontrol, hbreak, hcompacted⟩ := json_layout .compilation c
  have hline : line.toList = (document .compilation c).compactChars := String.toList_ofList
  have hpretty : pretty.toList = (document .compilation c).prettyChars 0 := String.toList_ofList
  have hblank : ' ' ∈ line.toList := by
    rw [hline]
    decide +kernel
  have hlayout : '\n' ∈ pretty.toList := by
    rw [hpretty]
    decide +kernel
  exact ⟨⟨hblank, hcontrol ' ' hblank⟩, hlayout, hbreak, hcompacted⟩

end FilterQuery
