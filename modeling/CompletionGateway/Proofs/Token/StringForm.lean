import CompletionGateway.Proofs.Token.Word
import CompletionGateway.Token.Literal

/-!
# Written forms of a string on one line

Every character can be written as itself, unless it would end the string or the line, and behind a
backslash: by a short escape or by its code point.  However the characters of a string are written,
the literal is a valid word and its value is the string.
-/

namespace CompletionGateway.Literal

/-- The short escapes: the character behind the backslash, and the character that is meant. -/
def shortEscapes : List (Char × Char) :=
  [('n', '\n'), ('r', '\r'), ('t', '\t'), ('b', '\x08'), ('f', '\x0c'), ('\\', '\\'), ('/', '/'),
    ('"', '"')]

/-- The ways to write one character in a string with the given quote. -/
inductive Writes (quote : Char) : Char → List Char → Prop
  | plain {c : Char} (hquote : c ≠ quote) (hslash : c ≠ '\\') (hfeed : c ≠ '\n')
      (hreturn : c ≠ '\r') : Writes quote c [c]
  | short {e c : Char} (he : (e, c) ∈ shortEscapes) : Writes quote c ['\\', e]
  | single (hquote : quote = '\'') : Writes quote '\'' ['\\', '\'']
  | four {c : Char} {digits : List Char} (hdigits : ∀ d ∈ digits, Text.isHexDigit d = true)
      (hlength : digits.length = 4) (hvalue : Text.readHex digits = c.toNat) :
      Writes quote c ('\\' :: 'u' :: digits)
  | braced {c : Char} {digits : List Char} (hdigits : ∀ d ∈ digits, Text.isHexDigit d = true)
      (hleast : 1 ≤ digits.length) (hmost : digits.length ≤ 6)
      (hvalue : Text.readHex digits = c.toNat) :
      Writes quote c ('\\' :: 'u' :: '{' :: (digits ++ ['}']))

/-- The ways to write the characters of a string between its quotes. -/
inductive WritesAll (quote : Char) : List Char → List Char → Prop
  | nil : WritesAll quote [] []
  | cons {c : Char} {text piece body : List Char} (hc : Writes quote c piece)
      (htext : WritesAll quote text body) : WritesAll quote (c :: text) (piece ++ body)

/-- The ways to write a string: its characters between two quotes of one kind. -/
def IsWritten (quote : Char) (text literal : List Char) : Prop :=
  ∃ body, WritesAll quote text body ∧ literal = quote :: (body ++ [quote])

theorem charOfCode?_toNat (c : Char) : charOfCode? c.toNat = some c := by
  have hvalid : c.toNat.isValidChar := c.valid
  rw [charOfCode?, if_pos hvalid, Char.ofNat_toNat]

theorem shortEscape?_of_mem {quote e c : Char} (h : (e, c) ∈ shortEscapes) :
    shortEscape? quote e = some c := by
  simp only [shortEscapes, List.mem_cons, Prod.mk.injEq, List.not_mem_nil, or_false] at h
  rcases h with ⟨rfl, rfl⟩ | ⟨rfl, rfl⟩ | ⟨rfl, rfl⟩ | ⟨rfl, rfl⟩ | ⟨rfl, rfl⟩ | ⟨rfl, rfl⟩ |
    ⟨rfl, rfl⟩ | ⟨rfl, rfl⟩ <;> rfl

theorem readCodePoint_four {c : Char} {digits : List Char} (rest : List Char)
    (hdigits : ∀ d ∈ digits, Text.isHexDigit d = true) (hlength : digits.length = 4)
    (hvalue : Text.readHex digits = c.toNat) :
    readCodePoint (digits ++ rest) = .ok (c, rest) := by
  have hall : digits.all Text.isHexDigit = true := List.all_eq_true.2 hdigits
  have htake : (digits ++ rest).take 4 = digits := by rw [← hlength, List.take_left']; rfl
  have hdrop : (digits ++ rest).drop 4 = rest := by rw [← hlength, List.drop_left']; rfl
  have hbrace : ∀ inner, digits ++ rest ≠ '{' :: inner := by
    intro inner heq
    obtain ⟨d, more, rfl⟩ : ∃ d more, digits = d :: more :=
      List.exists_cons_of_length_pos (by omega)
    have hd := hdigits d (by simp)
    rw [(List.cons.inj heq).1] at hd
    exact absurd hd (by decide)
  unfold readCodePoint
  split
  · rename_i inner heq
    exact absurd heq (hbrace inner)
  · simp only [htake, hdrop, hall, hlength, and_self, if_true, hvalue, charOfCode?_toNat]

theorem readCodePoint_braced {c : Char} {digits : List Char} (rest : List Char)
    (hdigits : ∀ d ∈ digits, Text.isHexDigit d = true) (hleast : 1 ≤ digits.length)
    (hmost : digits.length ≤ 6) (hvalue : Text.readHex digits = c.toNat) :
    readCodePoint ('{' :: (digits ++ '}' :: rest)) = .ok (c, rest) := by
  have hall : digits.all Text.isHexDigit = true := List.all_eq_true.2 hdigits
  have hinside : ∀ d ∈ digits, (fun x => decide (x ≠ '}')) d = true := by
    intro d hd
    have hhex := hdigits d hd
    rw [decide_eq_true_eq]
    rintro rfl
    exact absurd hhex (by decide)
  have hclose : ∀ d ∈ ('}' :: rest).head?, (fun x => decide (x ≠ '}')) d = false := by simp
  rw [readCodePoint]
  simp only [Lexeme.takeWhile_append_of_head hinside hclose,
    Lexeme.dropWhile_append_of_head hinside hclose, hall, hleast, hmost, and_self, if_true, hvalue,
    charOfCode?_toNat]

theorem unescape_short {quote e c : Char} (rest : List Char) (limit : Nat) (hu : e ≠ 'u')
    (h : shortEscape? quote e = some c) :
    unescape quote (limit + 1) ('\\' :: e :: rest) = (unescape quote limit rest).map (c :: ·) := by
  simp only [unescape, h]
  cases unescape quote limit rest <;> rfl

theorem unescape_codePoint {quote c : Char} {text rest : List Char} (limit : Nat)
    (h : readCodePoint text = .ok (c, rest)) :
    unescape quote (limit + 1) ('\\' :: 'u' :: text) =
      (unescape quote limit rest).map (c :: ·) := by
  rw [unescape, h]
  change (unescape quote limit rest >>= fun more => pure (c :: more)) = _
  cases unescape quote limit rest <;> rfl

/-- Reading one written character. -/
theorem unescape_writes {quote c : Char} {piece : List Char} (rest : List Char) (limit : Nat)
    (h : Writes quote c piece) :
    unescape quote (limit + 1) (piece ++ rest) = (unescape quote limit rest).map (c :: ·) := by
  cases h with
  | plain hquote hslash hfeed hreturn =>
      rw [List.singleton_append, unescape]
      · cases unescape quote limit rest <;> rfl
      all_goals simp_all
  | @short e _ he =>
      have hu : e ≠ 'u' := by
        rintro rfl
        simp [shortEscapes] at he
      exact unescape_short rest limit hu (shortEscape?_of_mem he)
  | single hquote =>
      have hescape : shortEscape? quote '\'' = some '\'' := by rw [hquote]; rfl
      exact unescape_short rest limit (by decide) hescape
  | four hdigits hlength hvalue =>
      exact unescape_codePoint limit (readCodePoint_four rest hdigits hlength hvalue)
  | braced hdigits hleast hmost hvalue =>
      rw [List.cons_append, List.cons_append, List.cons_append, List.append_assoc,
        List.singleton_append]
      exact unescape_codePoint limit (readCodePoint_braced rest hdigits hleast hmost hvalue)

theorem length_pos_of_writes {quote c : Char} {piece : List Char} (h : Writes quote c piece) :
    0 < piece.length := by
  cases h <;> simp

theorem unescape_writesAll {quote : Char} {text body : List Char} {limit : Nat}
    (h : WritesAll quote text body) (hlimit : body.length ≤ limit) :
    unescape quote limit body = .ok text := by
  induction h generalizing limit with
  | nil => cases limit <;> rfl
  | @cons c text piece body hc htext ih =>
      have hpos := length_pos_of_writes hc
      rw [List.length_append] at hlimit
      cases limit with
      | zero => omega
      | succ limit =>
          rw [unescape_writes body limit hc, ih (by omega)]
          rfl

theorem stripEnd?_append (ending text : List Char) :
    stripEnd? ending (text ++ ending) = some text := by
  have hsuffix : ending.isSuffixOf (text ++ ending) = true := by
    rw [List.isSuffixOf_iff_suffix]
    exact List.suffix_append text ending
  rw [stripEnd?, if_pos hsuffix, List.length_append, Nat.add_sub_cancel, List.take_left']
  rfl

theorem isQuotedBody_append {quote : Char} {front back : List Char}
    (hfront : Lexeme.IsQuotedBody quote front) (hback : Lexeme.IsQuotedBody quote back) :
    Lexeme.IsQuotedBody quote (front ++ back) := by
  induction hfront with
  | nil => exact hback
  | plain hquote hslash hfeed hreturn hrest ih => exact .plain hquote hslash hfeed hreturn ih
  | hidden hfeed hreturn hrest ih => exact .hidden hfeed hreturn ih

theorem isQuotedBody_of_hex {quote : Char} {digits : List Char}
    (hquote : quote = '"' ∨ quote = '\'') (h : ∀ d ∈ digits, Text.isHexDigit d = true) :
    Lexeme.IsQuotedBody quote digits := by
  induction digits with
  | nil => exact .nil
  | cons d digits ih =>
      have hd := h d (by simp)
      refine .plain ?_ ?_ ?_ ?_ (ih fun x hx => h x (by simp [hx]))
      · rcases hquote with rfl | rfl <;> rintro rfl <;> exact absurd hd (by decide)
      all_goals
        rintro rfl
        exact absurd hd (by decide)

theorem isQuotedBody_of_writes {quote c : Char} {piece : List Char}
    (hquote : quote = '"' ∨ quote = '\'') (h : Writes quote c piece) :
    Lexeme.IsQuotedBody quote piece := by
  cases h with
  | plain hne hslash hfeed hreturn => exact .plain hne hslash hfeed hreturn .nil
  | @short e _ he =>
      refine .hidden ?_ ?_ .nil
      all_goals
        rintro rfl
        simp [shortEscapes] at he
  | single hsingle => exact .hidden (by decide) (by decide) .nil
  | four hdigits hlength hvalue =>
      exact .hidden (by decide) (by decide) (isQuotedBody_of_hex hquote hdigits)
  | @braced _ digits hdigits hleast hmost hvalue =>
      have hbrace : ∀ b : Char, b = '{' ∨ b = '}' →
          b ≠ quote ∧ b ≠ '\\' ∧ b ≠ '\n' ∧ b ≠ '\r' := by
        rcases hquote with rfl | rfl <;> rintro b (rfl | rfl) <;> decide
      obtain ⟨ho₁, ho₂, ho₃, ho₄⟩ := hbrace '{' (.inl rfl)
      obtain ⟨hc₁, hc₂, hc₃, hc₄⟩ := hbrace '}' (.inr rfl)
      exact .hidden (by decide) (by decide) (.plain ho₁ ho₂ ho₃ ho₄
        (isQuotedBody_append (isQuotedBody_of_hex hquote hdigits)
          (.plain hc₁ hc₂ hc₃ hc₄ .nil)))

theorem isQuotedBody_of_writesAll {quote : Char} {text body : List Char}
    (hquote : quote = '"' ∨ quote = '\'') (h : WritesAll quote text body) :
    Lexeme.IsQuotedBody quote body := by
  induction h with
  | nil => exact .nil
  | cons hc htext ih => exact isQuotedBody_append (isQuotedBody_of_writes hquote hc) ih

/-- The value of a string, however it is written. -/
theorem readString_of_isWritten {quote : Char} {text literal : List Char}
    (hquote : quote = '"' ∨ quote = '\'') (h : IsWritten quote text literal) :
    readString literal = .ok text := by
  obtain ⟨body, hbody, rfl⟩ := h
  have hvalue := unescape_writesAll hbody (Nat.le_refl body.length)
  have hshape := isQuotedBody_of_writesAll hquote hbody
  have hblock : ∀ rest, quote :: (body ++ [quote]) ≠ '"' :: '"' :: '"' :: rest := by
    intro rest heq
    obtain ⟨rfl, htail⟩ := List.cons.inj heq
    cases hshape with
    | nil => simp at htail
    | plain hne hslash hfeed hreturn hrest => exact hne (List.cons.inj htail).1
    | hidden hfeed hreturn hrest => exact absurd (List.cons.inj htail).1 (by decide)
  unfold readString
  split
  · rename_i rest heq
    exact absurd heq (hblock rest)
  · rename_i c rest _ heq
    obtain ⟨rfl, rfl⟩ := List.cons.inj heq
    simp only [hquote, if_true, stripEnd?_append, hvalue]
  · rename_i heq
    simp at heq

/-- However a string is written, the literal is a word. -/
theorem valid_of_isWritten {quote : Char} {text literal : List Char}
    (hquote : quote = '"' ∨ quote = '\'') (h : IsWritten quote text literal) :
    Word.Valid ⟨.string (String.ofList literal), literal⟩ := by
  obtain ⟨body, hbody, rfl⟩ := h
  exact .quoted hquote (isQuotedBody_of_writesAll hquote hbody)

end CompletionGateway.Literal
