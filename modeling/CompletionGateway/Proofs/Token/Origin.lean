import CompletionGateway.Proofs.Text.Offset
import CompletionGateway.Proofs.Token.Passing

/-!
# Where tokens come from

Every token of a text but its end is a lexeme that stands at the token's place: in front of it is the
text before the token, and the lexeme and what is behind it are the rest of the text.  So a string
without its end begins with a quote in the text.
-/

namespace CompletionGateway

namespace Lexeme

/-- The lexeme is the front of a text, and it is no string without its end. -/
structure IsPlain (text : List Char) (lexeme : Lexeme) : Prop where
  covers : lexeme.taken ++ lexeme.rest = text
  kind : ∀ kind, lexeme.content = .ok kind → kind.isError = false ∧ kind ≠ .finish
  fault : ∀ fault, lexeme.content = .error fault → fault.isOpenString = false

section Plain

variable {text taken rest : List Char}

theorem isPlain_of_error (fault : LexicalFault) (h : fault.isOpenString = false)
    (hcovers : taken ++ rest = text) : IsPlain text ⟨.error fault, taken, rest⟩ where
  covers := hcovers
  kind _ hkind := by cases hkind
  fault _ hfault := Except.error.inj hfault ▸ h

theorem isPlain_of_ok (kind : TokenKind) (herror : kind.isError = false) (hfinish : kind ≠ .finish)
    (hcovers : taken ++ rest = text) : IsPlain text ⟨.ok kind, taken, rest⟩ where
  covers := hcovers
  kind _ hkind := Except.ok.inj hkind ▸ ⟨herror, hfinish⟩
  fault _ hfault := by cases hfault

theorem isPlain_scanDots (text : List Char) : IsPlain text (scanDots text) := by
  unfold scanDots
  split
  · exact isPlain_of_ok _ rfl (by simp) rfl
  · exact isPlain_of_error _ rfl rfl
  · exact isPlain_of_error _ rfl (List.take_append_drop 1 _)

/-! ### Numbers -/

theorem isPlain_brokenNumber (fault : LexicalFault) (h : fault.isOpenString = false)
    (hcovers : taken ++ rest = text) : IsPlain text (brokenNumber fault taken rest) := by
  refine isPlain_of_error fault h ?_
  rw [List.append_assoc, List.takeWhile_append_dropWhile, hcovers]

theorem isPlain_finishNumber (isFloat : Bool) (hcovers : taken ++ rest = text) :
    IsPlain text (finishNumber isFloat taken rest) := by
  unfold finishNumber
  split
  · exact isPlain_brokenNumber _ rfl hcovers
  · exact isPlain_of_ok _ (by cases isFloat <;> rfl) (by cases isFloat <;> simp) hcovers

theorem append_splitFraction (text : List Char) :
    (splitFraction text).1 ++ (splitFraction text).2 = text := by
  unfold splitFraction
  split
  · split
    · simp
    · rfl
  · rfl

theorem append_splitExponentMark (text : List Char) :
    (splitExponentMark text).1 ++ (splitExponentMark text).2 = text := by
  unfold splitExponentMark
  split
  · split
    · split <;> simp
    · rfl
  · rfl

theorem isPlain_scanNumberTail (hcovers : taken ++ rest = text) :
    IsPlain text (scanNumberTail taken rest) := by
  have hcovers' : taken ++ (splitFraction rest).1 ++ (splitExponentMark (splitFraction rest).2).1 ++
      (splitExponentMark (splitFraction rest).2).2 = text := by
    rw [List.append_assoc, append_splitExponentMark, List.append_assoc, append_splitFraction, hcovers]
  simp only [scanNumberTail]
  split
  · exact isPlain_finishNumber _ hcovers'
  · split
    · refine isPlain_finishNumber _ ?_
      rw [List.append_assoc, List.takeWhile_append_dropWhile, hcovers']
    · exact isPlain_brokenNumber _ rfl hcovers'

theorem isPlain_scanUnsigned (sign text : List Char) :
    IsPlain (sign ++ text) (scanUnsigned sign text) := by
  unfold scanUnsigned
  split
  · split
    · exact isPlain_brokenNumber _ rfl (by simp)
    · exact isPlain_scanNumberTail (by simp)
  · split
    · refine isPlain_scanNumberTail ?_
      rw [List.append_assoc, List.takeWhile_append_dropWhile]
    · exact isPlain_of_error _ rfl rfl

theorem isPlain_scanNumber (text : List Char) : IsPlain text (scanNumber text) := by
  unfold scanNumber
  split
  · exact isPlain_scanUnsigned ['-'] _
  · exact isPlain_scanUnsigned [] _

end Plain

/-! ### Strings -/

theorem scanQuoted_covers (quote : Char) (text : List Char) :
    (scanQuoted quote text).taken ++ (scanQuoted quote text).rest = text := by
  fun_induction scanQuoted quote text <;> simp_all [StringEnd.after]

theorem scanBlock_covers (text : List Char) :
    (scanBlock text).taken ++ (scanBlock text).rest = text := by
  fun_induction scanBlock text <;> simp_all [StringEnd.after]

theorem taken_ofStringEnd (quotes : List Char) (tail : StringEnd) :
    (ofStringEnd quotes tail).taken = quotes ++ tail.taken := by
  unfold ofStringEnd
  split <;> rfl

theorem rest_ofStringEnd (quotes : List Char) (tail : StringEnd) :
    (ofStringEnd quotes tail).rest = tail.rest := by
  unfold ofStringEnd
  split <;> rfl

theorem kind_ofStringEnd {quotes : List Char} {tail : StringEnd} {kind : TokenKind}
    (h : (ofStringEnd quotes tail).content = .ok kind) : kind.isError = false ∧ kind ≠ .finish := by
  unfold ofStringEnd at h
  split at h
  · obtain rfl := Except.ok.inj h
    exact ⟨rfl, by simp⟩
  · cases h

/-! ### Lexemes -/

theorem isName_wordKind (word : List Char) :
    (wordKind word).isError = false ∧ wordKind word ≠ .finish := by
  unfold wordKind
  split
  · exact ⟨rfl, by simp⟩
  split
  · exact ⟨rfl, by simp⟩
  split <;> exact ⟨rfl, by simp⟩

/-- A text that begins with no quote begins with no string. -/
theorem isPlain_scan {c : Char} (rest : List Char) (hdouble : c ≠ '"') (hsingle : c ≠ '\'') :
    IsPlain (c :: rest) (scan c rest) := by
  unfold scan
  split
  · exact isPlain_of_ok _ rfl (by simp) rfl
  rw [if_neg hdouble, if_neg hsingle]
  split
  · exact isPlain_scanDots _
  split
  · obtain ⟨herror, hfinish⟩ := isName_wordKind (c :: rest.takeWhile isNamePart)
    exact isPlain_of_ok _ herror hfinish (by simp)
  split
  · exact isPlain_scanNumber _
  · exact isPlain_of_error _ rfl rfl

/-- The fault of a string on one line is that it has no end. -/
theorem isOpenString_scanQuoted (quote : Char) (text : List Char) :
    ∀ fault ∈ (scanQuoted quote text).fault, fault.isOpenString = true := by
  fun_induction scanQuoted quote text with
  | case6 _ _ _ ih | case7 _ _ _ ih | case9 _ _ _ _ _ _ _ _ ih => exact ih
  | case8 => nofun
  | _ =>
      intro fault hfault
      obtain rfl := Option.some.inj hfault
      rfl

/-- The fault of a block string is that it has no end. -/
theorem isOpenString_scanBlock (text : List Char) :
    ∀ fault ∈ (scanBlock text).fault, fault.isOpenString = true := by
  fun_induction scanBlock text with
  | case1 =>
      intro fault hfault
      obtain rfl := Option.some.inj hfault
      rfl
  | case2 _ ih | case4 _ _ _ _ ih => exact ih
  | case3 => nofun

/-- A text that begins with a quote begins with a string. -/
theorem exists_ofStringEnd {c : Char} (rest : List Char) (hquote : c = '"' ∨ c = '\'') :
    ∃ quotes tail, scan c rest = ofStringEnd quotes tail ∧
      quotes ++ (tail.taken ++ tail.rest) = c :: rest ∧
        ∀ fault ∈ tail.fault, fault.isOpenString = true := by
  rcases hquote with rfl | rfl
  · have hmark : mark? '"' = none := rfl
    simp only [scan, hmark, if_neg (by decide : '"' ≠ '.'), if_true]
    split
    · exact ⟨_, _, rfl, by rw [scanBlock_covers]; rfl, isOpenString_scanBlock _⟩
    · exact ⟨_, _, rfl, by rw [scanQuoted_covers]; rfl, isOpenString_scanQuoted _ _⟩
  · exact ⟨['\''], scanQuoted '\'' rest, rfl, by rw [scanQuoted_covers]; rfl,
      isOpenString_scanQuoted _ _⟩

/-- A lexeme and the text behind it are the text that it was found in. -/
theorem taken_append_rest (c : Char) (rest : List Char) :
    (scan c rest).taken ++ (scan c rest).rest = c :: rest := by
  by_cases hquote : c = '"' ∨ c = '\''
  · obtain ⟨quotes, tail, hscan, hcovers, -⟩ := exists_ofStringEnd rest hquote
    rw [hscan, taken_ofStringEnd, rest_ofStringEnd, List.append_assoc, hcovers]
  · rw [not_or] at hquote
    exact (isPlain_scan rest hquote.1 hquote.2).covers

/-- A lexeme that is a token is neither faulty nor the end of a text. -/
theorem kind_of_content {c : Char} {rest : List Char} {kind : TokenKind}
    (h : (scan c rest).content = .ok kind) : kind.isError = false ∧ kind ≠ .finish := by
  by_cases hquote : c = '"' ∨ c = '\''
  · obtain ⟨quotes, tail, hscan, -⟩ := exists_ofStringEnd rest hquote
    rw [hscan] at h
    exact kind_ofStringEnd h
  · rw [not_or] at hquote
    exact (isPlain_scan rest hquote.1 hquote.2).kind kind h

/-- A string without its end begins with a quote. -/
theorem quote_of_isOpenString {c : Char} {rest : List Char} {fault : LexicalFault}
    (h : (scan c rest).content = .error fault) (hfault : fault.isOpenString = true) :
    c = '"' ∨ c = '\'' := by
  refine Decidable.byContradiction fun hquote => ?_
  rw [not_or] at hquote
  have hplain := (isPlain_scan rest hquote.1 hquote.2).fault fault h
  rw [hplain] at hfault
  cases hfault

end Lexeme

/-- Whether a token is a string without its end, as its message tells. -/
def TokenKind.isOpenString : TokenKind → Bool
  | .error message _ =>
      message == "Unterminated string literal" || message == "Unterminated block string"
  | _ => false

theorem LexicalFault.toList_message_strayCharacter (c : Char) :
    (strayCharacter c).message.toList = "Unexpected character ".toList ++ (describe c).toList := by
  unfold message
  simp only [String.toList_append]
  rfl

/-- Only the faults of strings have such messages. -/
theorem LexicalFault.isOpenString_of_message {fault : LexicalFault} {notes : List Note}
    (h : (TokenKind.error fault.message notes).isOpenString = true) : fault.isOpenString = true := by
  simp only [TokenKind.isOpenString, Bool.or_eq_true, beq_iff_eq] at h
  cases fault with
  | strayCharacter c =>
      have hfront : (strayCharacter c).message.toList.take 3 = "Une".toList := by
        rw [toList_message_strayCharacter, List.take_append_of_le_length (by decide)]
        decide
      rcases h with h | h <;> rw [h] at hfront <;> exact absurd hfront (by decide)
  | openString | brokenString | openBlockString => rfl
  | _ => exact absurd h (by decide)

theorem LexicalFault.message_isOpenString {fault : LexicalFault} (h : fault.isOpenString = true)
    (notes : List Note) : (TokenKind.error fault.message notes).isOpenString = true := by
  cases fault <;> first | rfl | cases h

/-- The notes on a fault point at its beginning, if they point anywhere. -/
theorem LexicalFault.span_of_mem_notes (fault : LexicalFault) (start : Position) :
    ∀ note ∈ fault.notes start, ∀ span ∈ note.span, span = .emptyAt start := by
  unfold notes
  cases fault <;> simp [Note.explainAt, Note.explain, Note.advise]

namespace Token

/-- The token is a lexeme of the text, and `before` is the text in front of it. -/
structure Origin (text before : List Char) (c : Char) (rest : List Char) (token : Token) : Prop where
  text_eq : text = before ++ c :: rest
  kind : token.kind = (Lexeme.scan c rest).kindAt token.span.start
  start : token.span.start = (Cursor.start.walk before).position
  stop : token.span.stop = (Cursor.start.walk (before ++ (Lexeme.scan c rest).taken)).position

/-- The tokens of the text behind `front`: only the end, or the next lexeme and the tokens behind. -/
theorem listFrom_cases (limit : Nat) (front text : List Char) :
    (∃ place, listFrom limit (Cursor.start.walk front) text = [finishAt place]) ∨
      ∃ limit' gap c rest token, limit = limit' + 1 ∧ text = gap ++ c :: rest ∧
        token.Origin (front ++ text) (front ++ gap) c rest ∧
          listFrom limit (Cursor.start.walk front) text = token :: listFrom limit'
            (Cursor.start.walk (front ++ gap ++ (Lexeme.scan c rest).taken))
            (Lexeme.scan c rest).rest := by
  cases limit with
  | zero => exact .inl ⟨_, rfl⟩
  | succ limit =>
      have hsplit := List.take_append_drop (triviaLength false text) text
      rw [listFrom_succ]
      simp only [← Cursor.walk_append]
      split
      · exact .inl ⟨_, rfl⟩
      · rename_i c rest hdrop
        rw [hdrop] at hsplit
        refine .inr ⟨limit, text.take (triviaLength false text), c, rest, _, rfl, hsplit.symm, ?_, rfl⟩
        exact ⟨by rw [List.append_assoc, hsplit], rfl, rfl, rfl⟩

/-- Every token but the end of a text is a lexeme that stands at its place in the text. -/
theorem exists_origin_listFrom {limit : Nat} {front text : List Char} {token : Token}
    (h : token ∈ listFrom limit (Cursor.start.walk front) text) (hkind : token.kind ≠ .finish) :
    ∃ gap c rest, token.Origin (front ++ text) (front ++ gap) c rest := by
  induction limit generalizing front text with
  | zero =>
      simp only [listFrom, List.mem_singleton] at h
      exact absurd (by rw [h]; rfl) hkind
  | succ limit ih =>
      rcases listFrom_cases (limit + 1) front text with
        ⟨place, heq⟩ | ⟨limit', gap, c, rest, first, hlimit, rfl, horigin, heq⟩
      · rw [heq, List.mem_singleton] at h
        exact absurd (by rw [h]; rfl) hkind
      · obtain rfl := Nat.succ.inj hlimit
        rw [heq] at h
        rcases List.mem_cons.1 h with rfl | hmem
        · exact ⟨gap, c, rest, horigin⟩
        · obtain ⟨gap', c', rest', horigin'⟩ := ih hmem
          refine ⟨gap ++ (Lexeme.scan c rest).taken ++ gap', c', rest', ?_⟩
          rw [List.append_assoc, Lexeme.taken_append_rest] at horigin'
          simpa using horigin'

theorem exists_origin {text : List Char} {token : Token} (h : token ∈ list text)
    (hkind : token.kind ≠ .finish) : ∃ before c rest, token.Origin text before c rest := by
  have hwhole : token ∈ listFrom text.length (Cursor.start.walk []) text := h
  obtain ⟨gap, c, rest, horigin⟩ := exists_origin_listFrom hwhole hkind
  exact ⟨_, c, rest, horigin⟩

/-- A string without its end stands where there is a quote in the text. -/
theorem exists_quote {text : List Char} {token : Token} (h : token ∈ list text)
    (hopen : token.kind.isOpenString = true) :
    ∃ c rest, Text.dropBytes token.span.start.offset text = some (c :: rest) ∧
      (c = '"' ∨ c = '\'') := by
  have hkind : token.kind ≠ .finish := by
    rintro hfinish
    rw [hfinish] at hopen
    cases hopen
  obtain ⟨before, c, rest, rfl, hlexeme, hstart, -⟩ := exists_origin h hkind
  refine ⟨c, rest, ?_, ?_⟩
  · rw [hstart, Cursor.offset_walk]
    have hzero : Cursor.start.position.offset = 0 := rfl
    rw [hzero, Nat.zero_add, Text.dropBytes_byteLength_append]
  · rw [hlexeme, Lexeme.kindAt] at hopen
    split at hopen
    · rename_i kind hcontent
      have herror := (Lexeme.kind_of_content hcontent).1
      cases kind <;> simp_all [TokenKind.isOpenString, TokenKind.isError]
    · rename_i fault hcontent
      exact Lexeme.quote_of_isOpenString hcontent (LexicalFault.isOpenString_of_message hopen)

end Token

end CompletionGateway
