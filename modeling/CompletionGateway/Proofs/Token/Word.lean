import CompletionGateway.Token.Lexing

/-!
# Words

A word is a token together with its text.  `Word.Valid` is the grammar of the words that are no
faults: marks, names, numerals, strings on one line and block strings.  Scanning a valid word gives
the word back whatever follows it, as long as the text behind does not go on with it: a name or a
numeral must not be followed by a character of a name or a point, and no word but a mark by a quote.
-/

namespace CompletionGateway

/-- A token and its text. -/
structure Word where
  kind : TokenKind
  text : List Char

namespace Lexeme

/-- A non-empty run of digits. -/
def IsDigits (text : List Char) : Prop := text ≠ [] ∧ ∀ c ∈ text, isDigit c = true

/-- The whole part of a numeral: a single zero, or digits that do not begin with zero. -/
inductive IsWhole : List Char → Prop
  | zero : IsWhole ['0']
  | digits {text : List Char} (hdigits : IsDigits text) (hhead : text.head? ≠ some '0') :
      IsWhole text

/-- The fraction of a numeral, which may be absent. -/
inductive IsFraction : List Char → Prop
  | absent : IsFraction []
  | present {digits : List Char} (hdigits : IsDigits digits) : IsFraction ('.' :: digits)

/-- The exponent of a numeral, which may be absent. -/
inductive IsExponent : List Char → Prop
  | absent : IsExponent []
  | present {mark : Char} {sign digits : List Char} (hmark : mark = 'e' ∨ mark = 'E')
      (hsign : sign = [] ∨ sign = ['+'] ∨ sign = ['-']) (hdigits : IsDigits digits) :
      IsExponent (mark :: (sign ++ digits))

/-- What a numeral is: a whole number, unless it has a fraction or an exponent. -/
def numeralKind (fraction exponent text : List Char) : TokenKind :=
  if fraction = [] ∧ exponent = [] then .int (String.ofList text)
  else .float (String.ofList text)

/-- What stands between the quotes of a string on one line: plain characters, and characters that
a backslash hides. -/
inductive IsQuotedBody (quote : Char) : List Char → Prop
  | nil : IsQuotedBody quote []
  | plain {c : Char} {rest : List Char} (hquote : c ≠ quote) (hslash : c ≠ '\\') (hfeed : c ≠ '\n')
      (hreturn : c ≠ '\r') (hrest : IsQuotedBody quote rest) : IsQuotedBody quote (c :: rest)
  | hidden {c : Char} {rest : List Char} (hfeed : c ≠ '\n') (hreturn : c ≠ '\r')
      (hrest : IsQuotedBody quote rest) : IsQuotedBody quote ('\\' :: c :: rest)

/-- A block string behind its opening quotes.  Only its last three quotes have no backslash before
them. -/
inductive IsBlockTail : List Char → Prop
  | close : IsBlockTail ['"', '"', '"']
  | hidden {rest : List Char} (hrest : IsBlockTail rest) :
      IsBlockTail ('\\' :: '"' :: '"' :: '"' :: rest)
  | plain {c : Char} {rest : List Char} (hclose : ¬ ['"', '"', '"'] <+: c :: rest)
      (hhidden : ¬ ['\\', '"', '"', '"'] <+: c :: rest) (hrest : IsBlockTail rest) :
      IsBlockTail (c :: rest)

end Lexeme

open Lexeme in
/-- The words of the query language. -/
inductive Word.Valid : Word → Prop
  | mark (mark : Punctuator) : Valid ⟨.punctuator mark, mark.spelling.toList⟩
  | name {c : Char} {rest : List Char} (hstart : isNameStart c = true)
      (hrest : ∀ d ∈ rest, isNamePart d = true) : Valid ⟨wordKind (c :: rest), c :: rest⟩
  | numeral {sign whole fraction exponent : List Char} (hsign : sign = [] ∨ sign = ['-'])
      (hwhole : IsWhole whole) (hfraction : IsFraction fraction)
      (hexponent : IsExponent exponent) :
      Valid ⟨numeralKind fraction exponent (sign ++ whole ++ fraction ++ exponent),
        sign ++ whole ++ fraction ++ exponent⟩
  | quoted {quote : Char} {body : List Char} (hquote : quote = '"' ∨ quote = '\'')
      (hbody : IsQuotedBody quote body) :
      Valid ⟨.string (String.ofList (quote :: (body ++ [quote]))), quote :: (body ++ [quote])⟩
  | block {tail : List Char} (htail : IsBlockTail tail) :
      Valid ⟨.string (String.ofList ('"' :: '"' :: '"' :: tail)), '"' :: '"' :: '"' :: tail⟩

namespace Lexeme

/-- A text that does not go on with the word that ends before it. -/
def EndsWord (rest : List Char) : Prop :=
  ∀ c ∈ rest.head?, isNamePart c = false ∧ c ≠ '.' ∧ c ≠ '"' ∧ c ≠ '\''

theorem isDigit_iff {c : Char} : isDigit c = true ↔ 48 ≤ c.toNat ∧ c.toNat ≤ 57 := by
  simp only [isDigit, Char.isDigit, Bool.and_eq_true, decide_eq_true_eq, ge_iff_le,
    UInt32.le_iff_toNat_le]
  rfl

theorem isNameStart_iff {c : Char} :
    isNameStart c = true ↔
      c = '_' ∨ (65 ≤ c.toNat ∧ c.toNat ≤ 90) ∨ (97 ≤ c.toNat ∧ c.toNat ≤ 122) := by
  have hletters : isNameStart c = (c == '_' || (decide (c.val ≥ 'A'.val ∧ c.val ≤ 'Z'.val) ||
      decide (c.val ≥ 'a'.val) && decide (c.val ≤ 'z'.val))) := rfl
  simp only [hletters, Bool.or_eq_true, Bool.and_eq_true, decide_eq_true_eq, beq_iff_eq, ge_iff_le,
    UInt32.le_iff_toNat_le]
  rfl

theorem isNamePart_eq (c : Char) : isNamePart c = (isNameStart c || isDigit c) := by
  simp [isNamePart, isNameStart, isDigit, Char.isAlphanum, Bool.or_assoc]

theorem mark?_eq_none_of_isNamePart {c : Char} (h : isNamePart c = true) : mark? c = none := by
  unfold mark?
  split <;> first | rfl | exact absurd h (by decide)

theorem isNameStart_eq_false_of_isDigit {c : Char} (h : isDigit c = true) :
    isNameStart c = false := by
  rw [Bool.eq_false_iff]
  intro hstart
  rw [isDigit_iff] at h
  rcases isNameStart_iff.1 hstart with rfl | hupper | hlower
  · revert h
    decide
  · omega
  · omega

theorem isDigit_eq_false_of_endsWord {rest : List Char} (h : EndsWord rest) :
    ∀ c ∈ rest.head?, isDigit c = false := by
  intro c hc
  have hpart := (h c hc).1
  rw [isNamePart_eq, Bool.or_eq_false_iff] at hpart
  exact hpart.2

/-! ### Runs -/

theorem takeWhile_append_of_head {p : Char → Bool} {front rest : List Char}
    (hfront : ∀ c ∈ front, p c = true) (hrest : ∀ c ∈ rest.head?, p c = false) :
    (front ++ rest).takeWhile p = front := by
  rw [List.takeWhile_append_of_pos hfront]
  cases rest with
  | nil => simp
  | cons c rest => simp [hrest c (by simp)]

theorem dropWhile_append_of_head {p : Char → Bool} {front rest : List Char}
    (hfront : ∀ c ∈ front, p c = true) (hrest : ∀ c ∈ rest.head?, p c = false) :
    (front ++ rest).dropWhile p = rest := by
  rw [List.dropWhile_append_of_pos hfront]
  cases rest with
  | nil => simp
  | cons c rest => simp [hrest c (by simp)]

/-! ### Names -/

theorem scan_of_isNameStart {c : Char} (hstart : isNameStart c = true) (rest : List Char) :
    scan c rest = ⟨.ok (wordKind (c :: rest.takeWhile isNamePart)), c :: rest.takeWhile isNamePart,
      rest.dropWhile isNamePart⟩ := by
  have hmark : mark? c = none :=
    mark?_eq_none_of_isNamePart (by rw [isNamePart_eq, hstart]; rfl)
  have hdot : c ≠ '.' := by rintro rfl; revert hstart; decide
  have hdouble : c ≠ '"' := by rintro rfl; revert hstart; decide
  have hsingle : c ≠ '\'' := by rintro rfl; revert hstart; decide
  simp only [scan, hmark, if_neg hdot, if_neg hdouble, if_neg hsingle, if_pos hstart]

theorem scan_name {c : Char} {rest : List Char} (behind : List Char)
    (hstart : isNameStart c = true) (hrest : ∀ d ∈ rest, isNamePart d = true)
    (hbehind : EndsWord behind) :
    scan c (rest ++ behind) = ⟨.ok (wordKind (c :: rest)), c :: rest, behind⟩ := by
  have hhead : ∀ d ∈ behind.head?, isNamePart d = false := fun d hd => (hbehind d hd).1
  rw [scan_of_isNameStart hstart, takeWhile_append_of_head hrest hhead,
    dropWhile_append_of_head hrest hhead]

/-! ### Strings -/

theorem scanQuoted_append {quote : Char} {body : List Char} (behind : List Char)
    (hquote : quote = '"' ∨ quote = '\'') (hbody : IsQuotedBody quote body) :
    scanQuoted quote (body ++ quote :: behind) = ⟨none, body ++ [quote], behind⟩ := by
  induction hbody with
  | nil => rcases hquote with rfl | rfl <;> simp [scanQuoted]
  | @plain c rest hne hslash hfeed hreturn hrest ih =>
      rw [List.cons_append, scanQuoted, if_neg hne, ih]
      · rfl
      all_goals simp_all
  | @hidden c rest hfeed hreturn hrest ih =>
      rw [List.cons_append, List.cons_append, scanQuoted, if_neg (by simp [hfeed, hreturn]), ih]
      rfl

theorem exists_of_isBlockTail {tail : List Char} (h : IsBlockTail tail) :
    ∃ x y z more, tail = x :: y :: z :: more := by
  induction h with
  | close => exact ⟨_, _, _, _, rfl⟩
  | hidden hrest ih => exact ⟨_, _, _, _, rfl⟩
  | plain hclose hhidden hrest ih =>
      obtain ⟨x, y, z, more, rfl⟩ := ih
      exact ⟨_, _, _, _, rfl⟩

theorem scanBlock_append {tail : List Char} (behind : List Char) (htail : IsBlockTail tail) :
    scanBlock (tail ++ behind) = ⟨none, tail, behind⟩ := by
  induction htail with
  | close => simp [scanBlock]
  | hidden hrest ih =>
      simp only [List.cons_append, scanBlock, ih]
      rfl
  | @plain c rest hclose hhidden hrest ih =>
      -- what follows the tail cannot complete three quotes, because the tail ends with three
      obtain ⟨x, y, z, more, rfl⟩ := exists_of_isBlockTail hrest
      rw [List.cons_append, scanBlock, ih]
      · rfl
      · intro text hc htext
        apply hhidden
        simp_all
      · intro text hc htext
        apply hclose
        simp_all

/-! ### Numerals -/

theorem splitFraction_append {fraction tail : List Char} (hfraction : IsFraction fraction)
    (htail : ∀ c ∈ tail.head?, isDigit c = false ∧ c ≠ '.') :
    splitFraction (fraction ++ tail) = (fraction, tail) := by
  cases hfraction with
  | absent =>
      rw [List.nil_append]
      cases tail with
      | nil => rfl
      | cons c tail =>
          have hdot : c ≠ '.' := (htail c (by simp)).2
          rw [splitFraction]
          simp [hdot]
  | @present digits hdigits =>
      obtain ⟨hne, hall⟩ := hdigits
      obtain ⟨d, more, rfl⟩ := List.exists_cons_of_ne_nil hne
      have hmore : ∀ c ∈ more, isDigit c = true := fun c hc => hall c (by simp [hc])
      have hhead : ∀ c ∈ tail.head?, isDigit c = false := fun c hc => (htail c hc).1
      simp only [List.cons_append, splitFraction, hall d (by simp), if_true,
        takeWhile_append_of_head hmore hhead, dropWhile_append_of_head hmore hhead]

theorem splitExponentMark_absent {tail : List Char}
    (htail : ∀ c ∈ tail.head?, c ≠ 'e' ∧ c ≠ 'E') : splitExponentMark tail = ([], tail) := by
  cases tail with
  | nil => rfl
  | cons c tail => simp [splitExponentMark, htail c (by simp)]

theorem splitExponentMark_present {mark : Char} {sign digits : List Char} (tail : List Char)
    (hmark : mark = 'e' ∨ mark = 'E') (hsign : sign = [] ∨ sign = ['+'] ∨ sign = ['-'])
    (hdigits : IsDigits digits) :
    splitExponentMark (mark :: (sign ++ digits ++ tail)) = (mark :: sign, digits ++ tail) := by
  obtain ⟨hne, hall⟩ := hdigits
  obtain ⟨d, more, rfl⟩ := List.exists_cons_of_ne_nil hne
  have hd := hall d (by simp)
  have hplus : d ≠ '+' := by rintro rfl; revert hd; decide
  have hminus : d ≠ '-' := by rintro rfl; revert hd; decide
  rcases hsign with rfl | rfl | rfl
  · simp [splitExponentMark, hmark, hplus, hminus]
  · simp [splitExponentMark, hmark]
  · simp [splitExponentMark, hmark]

theorem finishNumber_of_endsWord (isFloat : Bool) (taken : List Char) {behind : List Char}
    (hbehind : EndsWord behind) :
    finishNumber isFloat taken behind =
      ⟨.ok (if isFloat then .float (String.ofList taken) else .int (String.ofList taken)), taken,
        behind⟩ := by
  have hstart : startsWith (fun c => isNameStart c || c == '.') behind = false := by
    cases behind with
    | nil => rfl
    | cons c behind =>
        obtain ⟨hpart, hdot, -⟩ := hbehind c (by simp)
        rw [isNamePart_eq, Bool.or_eq_false_iff] at hpart
        simp [startsWith, hpart.1, hdot]
  simp [finishNumber, hstart]

theorem scanNumberTail_append {front fraction exponent : List Char} (behind : List Char)
    (hfraction : IsFraction fraction) (hexponent : IsExponent exponent)
    (hbehind : EndsWord behind) :
    scanNumberTail front (fraction ++ exponent ++ behind) =
      ⟨.ok (numeralKind fraction exponent (front ++ fraction ++ exponent)),
        front ++ fraction ++ exponent, behind⟩ := by
  have hdigit := isDigit_eq_false_of_endsWord hbehind
  cases hexponent with
  | absent =>
      have hsplit : splitFraction (fraction ++ behind) = (fraction, behind) :=
        splitFraction_append hfraction fun c hc => ⟨hdigit c hc, (hbehind c hc).2.1⟩
      have hmark : splitExponentMark behind = ([], behind) := by
        apply splitExponentMark_absent
        intro c hc
        have hpart := (hbehind c hc).1
        constructor <;> rintro rfl <;> revert hpart <;> decide
      simp only [List.append_nil, scanNumberTail, hsplit, hmark, if_true,
        finishNumber_of_endsWord _ _ hbehind]
      by_cases hempty : fraction = [] <;> simp [numeralKind, hempty]
  | @present mark sign digits hm hsign hdigits =>
      have hsplit : splitFraction (fraction ++ (mark :: (sign ++ digits ++ behind))) =
          (fraction, mark :: (sign ++ digits ++ behind)) := by
        apply splitFraction_append hfraction
        rcases hm with rfl | rfl <;> simp <;> decide
      have hstart : startsWith isDigit (digits ++ behind) = true := by
        obtain ⟨hne, hall⟩ := hdigits
        obtain ⟨d, more, rfl⟩ := List.exists_cons_of_ne_nil hne
        exact hall d (by simp)
      simp only [List.append_assoc, List.cons_append] at hsplit ⊢
      have hmark := splitExponentMark_present behind hm hsign hdigits
      rw [List.append_assoc] at hmark
      simp only [scanNumberTail, hsplit, hmark, hstart, if_true, reduceCtorEq, if_false,
        takeWhile_append_of_head hdigits.2 hdigit, dropWhile_append_of_head hdigits.2 hdigit,
        finishNumber_of_endsWord _ _ hbehind]
      simp [numeralKind]

theorem scanUnsigned_append {whole tail : List Char} (sign : List Char) (hwhole : IsWhole whole)
    (htail : ∀ c ∈ tail.head?, isDigit c = false) :
    scanUnsigned sign (whole ++ tail) = scanNumberTail (sign ++ whole) tail := by
  cases hwhole with
  | zero =>
      have hstart : startsWith isDigit tail = false := by
        cases tail with
        | nil => rfl
        | cons c tail => exact htail c (by simp)
      simp [scanUnsigned, hstart]
  | digits hdigits hhead =>
      obtain ⟨hne, hall⟩ := hdigits
      obtain ⟨d, more, rfl⟩ := List.exists_cons_of_ne_nil hne
      have hzero : d ≠ '0' := by simpa using hhead
      have hstart : startsWith isDigit (d :: more ++ tail) = true := hall d (by simp)
      rw [List.cons_append] at hstart
      rw [List.cons_append, scanUnsigned, if_pos hstart, ← List.cons_append,
        takeWhile_append_of_head hall htail, dropWhile_append_of_head hall htail]
      simpa using hzero

/-- The first character of a whole part is a digit. -/
theorem exists_of_isWhole {whole : List Char} (h : IsWhole whole) :
    ∃ d rest, whole = d :: rest ∧ isDigit d = true := by
  cases h with
  | zero => exact ⟨_, _, rfl, by decide⟩
  | digits hdigits hhead =>
      obtain ⟨d, more, rfl⟩ := List.exists_cons_of_ne_nil hdigits.1
      exact ⟨d, more, rfl, hdigits.2 d (by simp)⟩

theorem scanNumber_append {sign whole fraction exponent : List Char} (behind : List Char)
    (hsign : sign = [] ∨ sign = ['-']) (hwhole : IsWhole whole) (hfraction : IsFraction fraction)
    (hexponent : IsExponent exponent) (hbehind : EndsWord behind) :
    scanNumber (sign ++ whole ++ fraction ++ exponent ++ behind) =
      ⟨.ok (numeralKind fraction exponent (sign ++ whole ++ fraction ++ exponent)),
        sign ++ whole ++ fraction ++ exponent, behind⟩ := by
  have htail : ∀ c ∈ (fraction ++ exponent ++ behind).head?, isDigit c = false := by
    cases hfraction with
    | absent =>
        cases hexponent with
        | absent => simpa using isDigit_eq_false_of_endsWord hbehind
        | present hmark hsign hdigits => rcases hmark with rfl | rfl <;> simp <;> decide
    | present hdigits => simp; decide
  have hnumber : scanNumber (sign ++ whole ++ (fraction ++ exponent ++ behind)) =
      scanUnsigned sign (whole ++ (fraction ++ exponent ++ behind)) := by
    obtain ⟨d, more, rfl, hd⟩ := exists_of_isWhole hwhole
    have hminus : d ≠ '-' := by rintro rfl; revert hd; decide
    rcases hsign with rfl | rfl
    · rw [List.nil_append, List.cons_append, scanNumber]
      simpa using hminus
    · rfl
  have hassoc : sign ++ whole ++ fraction ++ exponent ++ behind =
      sign ++ whole ++ (fraction ++ exponent ++ behind) := by simp
  rw [hassoc, hnumber, scanUnsigned_append sign hwhole htail,
    scanNumberTail_append behind hfraction hexponent hbehind]

theorem scan_of_number {c : Char} (hc : c = '-' ∨ isDigit c = true) (rest : List Char) :
    scan c rest = scanNumber (c :: rest) := by
  rcases hc with rfl | hdigit
  · rfl
  · have hmark : mark? c = none :=
      mark?_eq_none_of_isNamePart (by rw [isNamePart_eq, hdigit, Bool.or_true])
    have hdot : c ≠ '.' := by rintro rfl; revert hdigit; decide
    have hdouble : c ≠ '"' := by rintro rfl; revert hdigit; decide
    have hsingle : c ≠ '\'' := by rintro rfl; revert hdigit; decide
    simp [scan, hmark, hdot, hdouble, hsingle, isNameStart_eq_false_of_isDigit hdigit, hdigit]

theorem scan_numeral {sign whole fraction exponent text : List Char} {c : Char}
    (behind : List Char) (hsign : sign = [] ∨ sign = ['-']) (hwhole : IsWhole whole)
    (hfraction : IsFraction fraction) (hexponent : IsExponent exponent)
    (htext : sign ++ whole ++ fraction ++ exponent = c :: text) (hbehind : EndsWord behind) :
    scan c (text ++ behind) = ⟨.ok (numeralKind fraction exponent (c :: text)), c :: text, behind⟩
    := by
  have hnumber := scanNumber_append behind hsign hwhole hfraction hexponent hbehind
  rw [htext, List.cons_append] at hnumber
  have hc : c = '-' ∨ isDigit c = true := by
    obtain ⟨d, more, rfl, hd⟩ := exists_of_isWhole hwhole
    rcases hsign with rfl | rfl
    · simp only [List.nil_append, List.cons_append] at htext
      exact .inr ((List.cons.inj htext).1 ▸ hd)
    · exact .inl (List.cons.inj htext).1.symm
  rw [scan_of_number hc, hnumber]

/-- A string on one line ends at its closing quote, unless its quotes open a block string. -/
theorem scan_quoted_of_not_block {quote : Char} {body behind : List Char}
    (hquote : quote = '"' ∨ quote = '\'') (hbody : IsQuotedBody quote body)
    (hblock : ¬ ['"', '"', '"'] <+: quote :: (body ++ quote :: behind)) :
    scan quote (body ++ quote :: behind) =
      ⟨.ok (.string (String.ofList (quote :: (body ++ [quote])))), quote :: (body ++ [quote]),
        behind⟩ := by
  have hscan := scanQuoted_append behind hquote hbody
  rcases hquote with rfl | rfl
  · have hnotBlock : ∀ more, body ++ '"' :: behind ≠ '"' :: '"' :: more := by
      intro more hmore
      apply hblock
      rw [hmore]
      exact ⟨more, rfl⟩
    have hunfold : scan '"' (body ++ '"' :: behind) =
        ofStringEnd ['"'] (scanQuoted '"' (body ++ '"' :: behind)) := by
      have hmark : mark? '"' = none := rfl
      have hdot : ¬ '"' = '.' := by decide
      simp only [scan, hmark, if_neg hdot, if_true]
    rw [hunfold, hscan]
    rfl
  · have hunfold : scan '\'' (body ++ '\'' :: behind) =
        ofStringEnd ['\''] (scanQuoted '\'' (body ++ '\'' :: behind)) := rfl
    rw [hunfold, hscan]
    rfl

/-- A string on one line opens a block string only if it is empty and a quote follows it. -/
theorem not_block_of_head? {quote : Char} {body behind : List Char}
    (hbody : IsQuotedBody quote body) (hbehind : behind.head? ≠ some '"') :
    ¬ ['"', '"', '"'] <+: quote :: (body ++ quote :: behind) := by
  rintro ⟨more, hmore⟩
  obtain ⟨rfl, htail⟩ := List.cons.inj hmore
  cases hbody with
  | nil =>
      have hfollows : '"' :: more = behind := (List.cons.inj htail).2
      rw [← hfollows] at hbehind
      exact hbehind rfl
  | plain hne hslash hfeed hreturn hrest => exact hne (List.cons.inj htail).1.symm
  | hidden hfeed hreturn hrest => exact absurd (List.cons.inj htail).1 (by decide)

theorem scan_quoted {quote : Char} {body behind : List Char} (hquote : quote = '"' ∨ quote = '\'')
    (hbody : IsQuotedBody quote body) (hbehind : EndsWord behind) :
    scan quote (body ++ [quote] ++ behind) =
      ⟨.ok (.string (String.ofList (quote :: (body ++ [quote])))), quote :: (body ++ [quote]),
        behind⟩ := by
  rw [List.append_assoc, List.singleton_append]
  exact scan_quoted_of_not_block hquote hbody (not_block_of_head? hbody fun hhead =>
    (hbehind '"' hhead).2.2.1 rfl)

end Lexeme

namespace Word

/-- A mark. -/
def mark (mark : Punctuator) : Word := ⟨.punctuator mark, mark.spelling.toList⟩

theorem valid_mark (m : Punctuator) : (mark m).Valid := .mark m

/-- Only the spelling of a mark makes the mark. -/
theorem Valid.eq_mark {word : Word} {m : Punctuator} (h : word.Valid)
    (hkind : word.kind = .punctuator m) : word = Word.mark m := by
  cases h with
  | mark m' =>
      obtain rfl := TokenKind.punctuator.inj hkind
      rfl
  | name hstart hrest =>
      simp only [Lexeme.wordKind] at hkind
      split at hkind <;> (try split at hkind) <;> (try split at hkind) <;> cases hkind
  | numeral hsign hwhole hfraction hexponent =>
      simp only [Lexeme.numeralKind] at hkind
      split at hkind <;> cases hkind
  | quoted hquote hbody => cases hkind
  | block htail => cases hkind

/-- A word is no fault and not the end of a text. -/
theorem Valid.kind_ne {word : Word} (h : word.Valid) :
    word.kind.isError = false ∧ word.kind ≠ .finish := by
  cases h with
  | mark m => exact ⟨rfl, nofun⟩
  | @name c rest hstart hrest =>
      simp only [Lexeme.wordKind]
      split
      · exact ⟨rfl, nofun⟩
      · split
        · exact ⟨rfl, nofun⟩
        · split <;> exact ⟨rfl, nofun⟩
  | numeral hsign hwhole hfraction hexponent =>
      simp only [Lexeme.numeralKind]
      split <;> exact ⟨rfl, nofun⟩
  | quoted hquote hbody => exact ⟨rfl, nofun⟩
  | block htail => exact ⟨rfl, nofun⟩

/-- Whether the text behind a word does not go on with it.  Nothing goes on with a mark. -/
def Ends (word : Word) (behind : List Char) : Prop :=
  (∃ mark, word.kind = .punctuator mark) ∨ Lexeme.EndsWord behind

/-- Scanning a text that begins with a valid word gives the word. -/
theorem scan_append {word : Word} {c : Char} {text : List Char} (behind : List Char)
    (h : word.Valid) (htext : word.text = c :: text) (hends : word.Ends behind) :
    Lexeme.scan c (text ++ behind) = ⟨.ok word.kind, word.text, behind⟩ := by
  rcases hends with ⟨m, hmark⟩ | hends
  · obtain rfl := h.eq_mark hmark
    cases m <;> cases htext <;> rfl
  · cases h with
    | mark mark => cases mark <;> cases htext <;> rfl
    | name hstart hrest =>
        cases htext
        exact Lexeme.scan_name behind hstart hrest hends
    | numeral hsign hwhole hfraction hexponent =>
        rw [Lexeme.scan_numeral behind hsign hwhole hfraction hexponent htext hends]
        simp only at htext
        rw [htext]
    | quoted hquote hbody =>
        cases htext
        exact Lexeme.scan_quoted hquote hbody hends
    | block htail =>
        cases htext
        have hscan := Lexeme.scanBlock_append behind htail
        simp only [Lexeme.scan, Lexeme.mark?, List.cons_append]
        rw [hscan]
        rfl

end Word

end CompletionGateway
