import CompletionGateway.Proofs.Token.BareText
import CompletionGateway.Proofs.Token.NumeralForm
import CompletionGateway.Proofs.Token.StringForm

/-!
# The shape of lexed literals

Where a literal ends is found by walking over it, and what it means is found by taking it apart again.
The two agree: a string token ends with the quotes that it begins with, so it lacks a value only for an
escape in it, and a number token reads as a number, and the text does not go on with it.
-/

namespace CompletionGateway

/-- Whether the fault is an escape. -/
def StringFault.isEscape : StringFault → Bool
  | unknownEscape _ | badCodePoint _ => true
  | unclosed => false

/-- Behind a number stands neither a character of a name, digits among them, nor a dot. -/
def EndsNumber (behind : List Char) : Prop :=
  ∀ c ∈ behind.head?, Lexeme.isNamePart c = false ∧ c ≠ '.'

/-- A string has a value, or an escape that is at fault, and a number is read. -/
structure TokenKind.WellShaped (kind : TokenKind) : Prop where
  string : ∀ fault, kind.stringValue? = some (.error fault) → fault.isEscape = true
  number : ∀ result, kind.numberValue? = some result → ∃ x, result = .ok x

theorem TokenKind.wellShaped_of_none {kind : TokenKind} (hstring : kind.stringValue? = none)
    (hnumber : kind.numberValue? = none) : kind.WellShaped :=
  ⟨fun _ h => by simp [hstring] at h, fun _ h => by simp [hnumber] at h⟩

/-! ### Strings -/

namespace Literal

theorem isEscape_of_readCodePoint {text : List Char} {fault : StringFault}
    (h : readCodePoint text = .error fault) : fault.isEscape = true := by
  unfold readCodePoint at h
  split at h
  all_goals
    dsimp only at h
    repeat' split at h
    all_goals first
      | cases h; rfl
      | cases h

/-- Escapes are replaced, or one of them is at fault. -/
theorem isEscape_of_unescape {quote : Char} {limit : Nat} {text : List Char} {fault : StringFault}
    (h : unescape quote limit text = .error fault) : fault.isEscape = true := by
  -- what is put in front of the rest does not change what is wrong with it
  have hmore : ∀ {c : Char} {limit : Nat} {rest : List Char},
      (do return c :: (← unescape quote limit rest) : Except StringFault (List Char)) =
        .error fault → unescape quote limit rest = .error fault := by
    intro c limit rest hrest
    cases hread : unescape quote limit rest with
    | ok found => rw [hread] at hrest; cases hrest
    | error fault' => rw [hread] at hrest; exact hrest
  induction limit generalizing text with
  | zero => cases h
  | succ limit ih =>
      unfold unescape at h
      split at h
      · cases h
      · cases h
        rfl
      · rename_i rest
        cases hcode : readCodePoint rest with
        | error fault' =>
            rw [hcode] at h
            cases h
            exact isEscape_of_readCodePoint hcode
        | ok found =>
            rw [hcode] at h
            exact ih (hmore h)
      · split at h
        · exact ih (hmore h)
        · cases h
          rfl
      · exact ih (hmore h)

/-- A block string that ends with its quotes has a value. -/
theorem readString_block (content : List Char) :
    readString ('"' :: '"' :: '"' :: (content ++ ['"', '"', '"'])) =
      .ok (dedent (unescapeBlock content)) := by
  rw [readString, stripEnd?_append]

/-- A string on one line that ends with its quote is what its escapes make of it. -/
theorem readString_quoted {quote : Char} (hquote : quote = '"' ∨ quote = '\'') (content : List Char)
    (hblock : ∀ rest, quote :: (content ++ [quote]) ≠ '"' :: '"' :: '"' :: rest) :
    readString (quote :: (content ++ [quote])) = unescape quote content.length content := by
  unfold readString
  split
  · rename_i rest heq
    exact absurd heq (hblock rest)
  · rename_i heq
    obtain ⟨rfl, rfl⟩ := List.cons.inj heq
    simp only [hquote, if_true, stripEnd?_append]
  · rename_i heq
    cases heq

end Literal

theorem TokenKind.wellShaped_string {text : List Char}
    (h : ∀ fault, Literal.readString text = .error fault → fault.isEscape = true) :
    (TokenKind.string (String.ofList text)).WellShaped := by
  refine ⟨fun fault hfault => h fault ?_, fun _ hnumber => by cases hnumber⟩
  rw [stringValue?, String.toList_ofList] at hfault
  cases hread : Literal.readString text with
  | ok value => simp [hread, Except.map] at hfault
  | error fault' => simpa [hread, Except.map] using hfault

namespace Lexeme

theorem taken_scanQuoted {quote : Char} {text : List Char} (h : (scanQuoted quote text).fault = none) :
    ∃ content, (scanQuoted quote text).taken = content ++ [quote] := by
  fun_induction scanQuoted quote text with
  | case1 | case2 | case3 | case4 | case5 => cases h
  | case6 c rest _ ih | case9 c rest _ _ _ _ _ _ ih =>
      obtain ⟨content, hcontent⟩ := ih h
      exact ⟨_ :: content, congrArg (_ :: ·) hcontent⟩
  | case7 c rest _ ih =>
      obtain ⟨content, hcontent⟩ := ih h
      exact ⟨'\\' :: c :: content, congrArg (fun more => '\\' :: c :: more) hcontent⟩
  | case8 => exact ⟨[], rfl⟩

theorem taken_scanBlock {text : List Char} (h : (scanBlock text).fault = none) :
    ∃ content, (scanBlock text).taken = content ++ ['"', '"', '"'] := by
  fun_induction scanBlock text with
  | case1 => cases h
  | case2 rest ih =>
      obtain ⟨content, hcontent⟩ := ih h
      exact ⟨'\\' :: '"' :: '"' :: '"' :: content,
        congrArg (fun more => '\\' :: '"' :: '"' :: '"' :: more) hcontent⟩
  | case3 => exact ⟨[], rfl⟩
  | case4 c rest _ _ ih =>
      obtain ⟨content, hcontent⟩ := ih h
      exact ⟨c :: content, congrArg (c :: ·) hcontent⟩

theorem wellShaped_ofStringEnd {quotes : List Char} {tail : StringEnd} {kind : TokenKind}
    (h : (ofStringEnd quotes tail).content = .ok kind)
    (hread : tail.fault = none → ∀ fault,
      Literal.readString (quotes ++ tail.taken) = .error fault → fault.isEscape = true) :
    kind.WellShaped ∧ kind.numberValue? = none := by
  unfold ofStringEnd at h
  split at h
  · rename_i hnone
    obtain rfl := Except.ok.inj h
    exact ⟨TokenKind.wellShaped_string (hread hnone), rfl⟩
  · cases h

theorem wellShaped_scanBlock {text : List Char} {kind : TokenKind}
    (h : (ofStringEnd ['"', '"', '"'] (scanBlock text)).content = .ok kind) :
    kind.WellShaped ∧ kind.numberValue? = none := by
  refine wellShaped_ofStringEnd h fun hnone fault hfault => ?_
  obtain ⟨content, hcontent⟩ := taken_scanBlock hnone
  rw [hcontent] at hfault
  cases (Literal.readString_block content).symm.trans hfault

/-- A string on one line is not taken for a block string when it is read. -/
theorem wellShaped_scanQuoted {quote : Char} (hquote : quote = '"' ∨ quote = '\'') {text : List Char}
    (hblock : ∀ rest, quote :: text ≠ '"' :: '"' :: '"' :: rest) {kind : TokenKind}
    (h : (ofStringEnd [quote] (scanQuoted quote text)).content = .ok kind) :
    kind.WellShaped ∧ kind.numberValue? = none := by
  refine wellShaped_ofStringEnd h fun hnone fault hfault => ?_
  obtain ⟨content, hcontent⟩ := taken_scanQuoted hnone
  have hcovers := scanQuoted_covers quote text
  rw [hcontent] at hfault hcovers
  refine Literal.isEscape_of_unescape
    ((Literal.readString_quoted hquote content fun rest heq => ?_).symm.trans hfault)
  refine hblock (rest ++ (scanQuoted quote text).rest) ?_
  exact (congrArg (quote :: ·) hcovers).symm.trans (congrArg (· ++ (scanQuoted quote text).rest) heq)

/-! ### Numbers -/

section Number

variable {kind : TokenKind} {rest : List Char}

theorem IsNumber.wellShaped {lexeme : Lexeme} (h : lexeme.IsNumber kind) : kind.WellShaped := by
  obtain ⟨⟨sign, whole, fraction, exponent, hsign, hwhole, hfraction, hexponent, htaken⟩, hkind⟩ := h
  have hread := readNumber_numeral hsign hwhole hfraction hexponent
  rw [← htaken] at hread
  rcases hkind with rfl | rfl
  all_goals
    refine ⟨fun _ hstring => (by cases hstring), fun result hresult => ?_⟩
    rw [TokenKind.numberValue?, String.toList_ofList, hread] at hresult
    exact ⟨_, (Option.some.inj hresult).symm⟩

theorem startsWith_dropWhile (p : Char → Bool) (text : List Char) :
    startsWith p (text.dropWhile p) = false := by
  have hnot := List.head?_dropWhile_not p text
  cases hdrop : text.dropWhile p with
  | nil => rfl
  | cons c more =>
      rw [hdrop] at hnot
      exact hnot

theorem startsWith_splitFraction (h : startsWith isDigit rest = false) :
    startsWith isDigit (splitFraction rest).2 = false := by
  unfold splitFraction
  split
  · split
    · exact startsWith_dropWhile isDigit _
    · exact h
  · exact h

theorem endsNumber_finishNumber {isFloat : Bool} {taken : List Char}
    (hdigit : startsWith isDigit rest = false)
    (h : (finishNumber isFloat taken rest).content = .ok kind) :
    EndsNumber (finishNumber isFloat taken rest).rest := by
  unfold finishNumber at h ⊢
  split at h
  · cases h
  · rename_i hglued
    rw [if_neg hglued]
    intro c hc
    obtain ⟨more, rfl⟩ := List.head?_eq_some_iff.1 hc
    simp only [startsWith, isNameStart, isDigit, Bool.or_eq_true, not_or, Bool.not_eq_true,
      beq_eq_false_iff_ne] at hglued hdigit
    obtain ⟨⟨hline, halpha⟩, hdot⟩ := hglued
    refine ⟨?_, hdot⟩
    rw [isNamePart, Char.isAlphanum, halpha, hdigit, beq_eq_false_iff_ne.2 hline]
    rfl

theorem endsNumber_scanNumberTail {whole : List Char} (hdigit : startsWith isDigit rest = false)
    (h : (scanNumberTail whole rest).content = .ok kind) :
    EndsNumber (scanNumberTail whole rest).rest := by
  have hfraction := startsWith_splitFraction hdigit
  have hsplit := append_splitExponentMark (splitFraction rest).2
  simp only [scanNumberTail] at h ⊢
  split at h
  · rename_i hmark
    rw [hmark, List.nil_append] at hsplit
    rw [if_pos hmark]
    rw [← hsplit] at hfraction
    exact endsNumber_finishNumber hfraction h
  rename_i hmark
  rw [if_neg hmark]
  split at h
  · rename_i hexponent
    rw [if_pos hexponent]
    exact endsNumber_finishNumber (startsWith_dropWhile isDigit _) h
  · cases h

theorem endsNumber_scanUnsigned {sign : List Char} (h : (scanUnsigned sign rest).content = .ok kind) :
    EndsNumber (scanUnsigned sign rest).rest := by
  unfold scanUnsigned at h ⊢
  split at h
  · split at h
    · cases h
    · rename_i hdigit
      simp only [if_neg hdigit]
      exact endsNumber_scanNumberTail (eq_false_of_ne_true hdigit) h
  · split at h
    · rename_i hdigit
      simp only [if_pos hdigit]
      exact endsNumber_scanNumberTail (startsWith_dropWhile isDigit _) h
    · cases h

/-- The text does not go on with a number. -/
theorem endsNumber_scanNumber {text : List Char} (h : (scanNumber text).content = .ok kind) :
    EndsNumber (scanNumber text).rest := by
  unfold scanNumber at h ⊢
  split at h <;> exact endsNumber_scanUnsigned h

end Number

/-! ### Lexemes -/

theorem wellShaped_wordKind (word : List Char) :
    (wordKind word).WellShaped ∧ (wordKind word).numberValue? = none := by
  unfold wordKind
  repeat' split
  all_goals exact ⟨TokenKind.wellShaped_of_none rfl rfl, rfl⟩

/-- A lexeme has the shape of what it is, and no number is cut short. -/
theorem wellShaped_scan {c : Char} {rest : List Char} {kind : TokenKind}
    (h : (scan c rest).content = .ok kind) :
    kind.WellShaped ∧ (kind.numberValue?.isSome = true → EndsNumber (scan c rest).rest) := by
  have hother : kind.WellShaped ∧ kind.numberValue? = none →
      kind.WellShaped ∧ (kind.numberValue?.isSome = true → EndsNumber (scan c rest).rest) :=
    fun h => ⟨h.1, fun hsome => by rw [h.2] at hsome; cases hsome⟩
  unfold scan at h
  split at h
  · obtain rfl := Except.ok.inj h
    exact hother ⟨TokenKind.wellShaped_of_none rfl rfl, rfl⟩
  rename_i hmark
  split at h
  · unfold scanDots at h
    split at h
    · obtain rfl := Except.ok.inj h
      exact hother ⟨TokenKind.wellShaped_of_none rfl rfl, rfl⟩
    · cases h
    · cases h
  rename_i hdot
  split at h
  · rename_i hdouble
    subst hdouble
    split at h
    · exact hother (wellShaped_scanBlock h)
    · rename_i hblock
      refine hother (wellShaped_scanQuoted (.inl rfl) (fun more hmore => ?_) h)
      exact hblock more (List.cons.inj hmore).2
  rename_i hdouble
  split at h
  · rename_i hsingle
    subst hsingle
    exact hother (wellShaped_scanQuoted (.inr rfl) (fun more hmore => by cases hmore) h)
  rename_i hsingle
  split at h
  · obtain rfl := Except.ok.inj h
    exact hother (wellShaped_wordKind _)
  rename_i hname
  split at h
  · rename_i hnumber
    have heq : scan c rest = scanNumber (c :: rest) := by
      unfold scan
      rw [hmark]
      simp only [if_neg hdot, if_neg hdouble, if_neg hsingle, if_neg hname, if_pos hnumber]
    rw [heq]
    exact ⟨(isNumber_scanNumber h).wellShaped, fun _ => endsNumber_scanNumber h⟩
  · cases h

end Lexeme

namespace Token

/-- Every string token has a value or an escape that is at fault, and every number token is read as a
number, with which the text does not go on. -/
theorem wellShaped_of_mem_list {text : List Char} {token : Token} (h : token ∈ list text) :
    token.kind.WellShaped ∧ (token.kind.numberValue?.isSome = true → ∃ behind,
      Text.dropBytes token.span.stop.offset text = some behind ∧ EndsNumber behind) := by
  by_cases hfinish : token.kind = .finish
  · rw [hfinish]
    exact ⟨TokenKind.wellShaped_of_none rfl rfl, fun hnumber => by cases hnumber⟩
  obtain ⟨before, c, rest, htext, hkind, -, hstop⟩ := exists_origin h hfinish
  cases hcontent : (Lexeme.scan c rest).content with
  | error fault =>
      rw [hkind, Lexeme.kindAt, hcontent]
      exact ⟨TokenKind.wellShaped_of_none rfl rfl, fun hnumber => by cases hnumber⟩
  | ok kind =>
      obtain ⟨hshape, hends⟩ := Lexeme.wellShaped_scan hcontent
      have heq : token.kind = kind := by rw [hkind, Lexeme.kindAt, hcontent]
      rw [heq]
      refine ⟨hshape, fun hnumber => ⟨(Lexeme.scan c rest).rest, ?_, hends hnumber⟩⟩
      have hzero : Cursor.start.position.offset = 0 := rfl
      rw [htext, hstop, Cursor.offset_walk, hzero, Nat.zero_add, ← Lexeme.taken_append_rest c rest,
        ← List.append_assoc, Text.dropBytes_byteLength_append]

end Token

end CompletionGateway
