import CompletionGateway.Operation.Document
import CompletionGateway.Proofs.Operation.ValueTaking
import CompletionGateway.Proofs.Token.BareText
import CompletionGateway.Proofs.Token.NumeralForm

/-!
# Bare texts as values

Where a value can stand, a text without trivia, quotes and brackets is one value up to the next of
these, however the lexer cuts it into tokens: one of the three value words, a number, or a string
that is the text itself.  A single token that is a word or a number is read by its kind; all other
tokens begin a bare run, which takes every token of the text and means the text that it covers.
-/

namespace CompletionGateway

open Lexeme

/-- A text that is read as one value. -/
structure IsBareText (text : List Char) : Prop where
  bare : AllBare text
  ne_nil : text ≠ []
  no_dollar : text.head? ≠ some '$'
  no_colon : text.head? ≠ some ':'

/-- A text stands where reading is, behind the text `front` and before the text `back`: the next
token of the document begins where the text does. -/
structure Reading.StandsAt (s : Reading) (front text back : List Char) : Prop where
  source : s.source = some (front ++ (text ++ back))
  unread : ∃ before first rest, Token.list (front ++ (text ++ back)) = before ++ s.unread ∧
    s.unread = first :: rest ∧ first.span.start.offset = Text.byteLength front

/-- The state after tokens have been taken: what is unread then, and where the last token ended. -/
def Reading.movedTo (s : Reading) (behind : List Token) (stop : Position) : Reading :=
  { s with unread := behind, lastEnd := stop }

/-- What reading a bare text as a value comes to: `after` is the state behind the text, and `span`
is the place of the text. -/
structure Rule.ReadsBare (text : List Char) (span : Span) (s after : Reading) : Prop where
  yes : text = "true".toList → value s = .done (.bool true) after
  no : text = "false".toList → value s = .done (.bool false) after
  null : text = "null".toList → value s = .done .null after
  number {sign whole fraction exponent : List Char} (hsign : sign = [] ∨ sign = ['-'])
    (hwhole : IsWhole whole) (hfraction : IsFraction fraction) (hexponent : IsExponent exponent)
    (htext : text = sign ++ whole ++ fraction ++ exponent) :
    value s =
      if (numeralDecimal sign whole fraction exponent).toBinary64.isFinite then
        .done (.number (numeralDecimal sign whole fraction exponent).toBinary64) after
      else .failed (after.record (.invalidNumber (String.ofList text) span))
  text : text ≠ "true".toList → text ≠ "false".toList → text ≠ "null".toList →
    ¬ IsNumeralText text → value s = .done (.string (String.ofList text)) after

/-! ### Words and numbers are single lexemes -/

theorem endsWord_of_endsBareText {back : List Char} (h : EndsBareText back) : EndsWord back := by
  intro c hc
  have hends := h c hc
  have hnot (p : Char → Bool) (hp : ∀ d, p d = true → isBare d = true) : p c = false := by
    apply eq_false_of_ne_true
    intro hpc
    have hbare := hp c hpc
    simp [isBare, hends] at hbare
  refine ⟨hnot _ fun _ => isBare_of_isNamePart, ?_, ?_, ?_⟩
  · rintro rfl
    revert hends
    decide
  · rintro rfl
    revert hends
    decide
  · rintro rfl
    revert hends
    decide

/-- A numeral begins with a sign or a digit, so it is no word. -/
theorem Lexeme.IsNumeralText.isNameStart_eq_false {text : List Char} (h : IsNumeralText text) {c : Char}
    (hhead : text.head? = some c) : isNameStart c = false := by
  obtain ⟨sign, whole, fraction, exponent, hsign, hwhole, -, -, rfl⟩ := h
  obtain ⟨d, more, rfl, hd⟩ := exists_of_isWhole hwhole
  rcases hsign with rfl | rfl
  · obtain rfl : d = c := by simpa using hhead
    exact isNameStart_eq_false_of_isDigit hd
  · obtain rfl : '-' = c := by simpa using hhead
    decide

/-- What a bare text is that makes a single token with a value of its own. -/
inductive LoneKind (text : List Char) : TokenKind → Prop
  | word {c : Char} {rest : List Char} (htext : text = c :: rest) (hstart : isNameStart c = true) :
      LoneKind text (wordKind text)
  | number (hnumeral : IsNumeralText text) {kind : TokenKind}
      (hkind : kind = .int (String.ofList text) ∨ kind = .float (String.ofList text)) :
      LoneKind text kind

section Scan

variable {c : Char} {rest back : List Char} (hback : EndsBareText back)

include hback

/-- A name before the end of a bare text is one lexeme. -/
theorem scan_word (hstart : isNameStart c = true) (hrest : ∀ d ∈ rest, isNamePart d = true) :
    scan c (rest ++ back) = ⟨.ok (wordKind (c :: rest)), c :: rest, back⟩ :=
  scan_name back hstart hrest (endsWord_of_endsBareText hback)

/-- The three value words and the numerals are single lexemes. -/
theorem exists_scan_lone (h : c :: rest = "true".toList ∨ c :: rest = "false".toList ∨
    c :: rest = "null".toList ∨ IsNumeralText (c :: rest)) :
    ∃ kind, LoneKind (c :: rest) kind ∧ scan c (rest ++ back) = ⟨.ok kind, c :: rest, back⟩ := by
  have hword (hstart : isNameStart c = true) (hrest : ∀ d ∈ rest, isNamePart d = true) :
      ∃ kind, LoneKind (c :: rest) kind ∧ scan c (rest ++ back) = ⟨.ok kind, c :: rest, back⟩ :=
    ⟨_, .word rfl hstart, scan_word hback hstart hrest⟩
  rcases h with h | h | h | h
  · obtain ⟨rfl, rfl⟩ := List.cons.inj h
    exact hword (by decide) (List.all_eq_true.1 (by decide))
  · obtain ⟨rfl, rfl⟩ := List.cons.inj h
    exact hword (by decide) (List.all_eq_true.1 (by decide))
  · obtain ⟨rfl, rfl⟩ := List.cons.inj h
    exact hword (by decide) (List.all_eq_true.1 (by decide))
  · have hnumeral := h
    obtain ⟨sign, whole, fraction, exponent, hsign, hwhole, hfraction, hexponent, htext⟩ := h
    have hscan := scan_numeral back hsign hwhole hfraction hexponent htext.symm
      (endsWord_of_endsBareText hback)
    refine ⟨_, .number hnumeral ?_, hscan⟩
    unfold numeralKind
    split
    · exact .inl rfl
    · exact .inr rfl

end Scan

/-! ### Where a run begins -/

/-- Whether a token by itself is a word or a number. -/
def TokenKind.isLone : TokenKind → Bool
  | name _ | int _ | float _ | bool _ | null => true
  | _ => false

theorem isLone_wordKind (text : List Char) : (wordKind text).isLone = true := by
  unfold wordKind
  repeat' split
  all_goals rfl

theorem LoneKind.isLone {text : List Char} {kind : TokenKind} (h : LoneKind text kind) :
    kind.isLone = true := by
  cases h with
  | word => exact isLone_wordKind text
  | number hnumeral hkind => rcases hkind with rfl | rfl <;> rfl

namespace Reading

variable {s : Reading} {token : Token} {rest : List Token}

/-- A word or a number begins a run if a token goes on with it. -/
theorem startsRun_of_isLone (hlone : token.kind.isLone = true) (hunread : s.unread = token :: rest) :
    s.startsRun token = rest.head?.any fun after =>
      after.follows token.span && !after.kind.endsRun := by
  have hpeek : s.toTokenStream.peek 1 = rest.head? := by
    simp [TokenStream.peek, hunread, List.head?_eq_getElem?]
  unfold startsRun
  cases hkind : token.kind <;> simp only [hkind, TokenKind.isLone, Bool.false_eq_true] at hlone
  all_goals
    simp only [hpeek]
    cases rest.head? <;> rfl

/-- A token at a bare character begins a run, or it is a word or a number. -/
theorem startsRun_or_lone {c : Char} {text back : List Char} (hc : isBare c = true)
    (hdollar : c ≠ '$') (hcolon : c ≠ ':')
    (hkind : token.kind = (scan c text).kindAt token.span.start)
    (hsource : s.source.bind (Text.dropBytes token.span.start.offset) = some (c :: back)) :
    (s.startsRun token = true ∧
        ∀ kind, (scan c text).content = .ok kind → kind.isLone = false) ∨
      LoneKind (scan c text).taken token.kind := by
  rw [kindAt] at hkind
  cases bareCases_scan hc text with
  | fault fault h =>
      rw [h] at hkind
      simp only [isBare, Bool.and_eq_true, bne_iff_ne] at hc
      refine .inl ⟨?_, fun kind hok => ?_⟩
      · simp [startsRun, hkind, isOpenString, hsource, hc.1.2, hc.2]
      · rw [h] at hok
        cases hok
  | mark mark h hopening hclosing hd hcl =>
      rw [h] at hkind
      refine .inl ⟨?_, fun kind hok => ?_⟩
      · dsimp only at hkind
        rw [startsRun, hkind]
        cases mark with
        | dollar => exact absurd (hd rfl) hdollar
        | colon => exact absurd (hcl rfl) hcolon
        | «at» | bang | ellipsis | equals => rfl
        | _ => first | exact absurd hopening (by decide) | exact absurd hclosing (by decide)
      · rw [h] at hok
        obtain rfl := Except.ok.inj hok
        rfl
  | word h hstart =>
      rw [h] at hkind
      obtain ⟨tail, htaken, -⟩ := exists_taken_eq_cons c text
      exact .inr (hkind ▸ .word htaken hstart)
  | number kind h hnumber =>
      rw [h] at hkind
      exact .inr (hkind ▸ .number hnumber.1 hnumber.2)

end Reading

/-! ### Reading a bare text -/

namespace Rule

theorem nested_of_done {rule : Rule ArgValue} {s after : Reading} {found : ArgValue}
    (hdepth : s.depth < deepestValue) (hafter : after.depth = s.depth)
    (h : rule { s with depth := s.depth + 1 } = .done found { after with depth := s.depth + 1 }) :
    nested rule s = .done found after := by
  rw [nested, if_pos hdepth, h]
  simp only [Nat.add_sub_cancel, ← hafter]

theorem nested_of_failed {rule : Rule ArgValue} {s after : Reading}
    (hdepth : s.depth < deepestValue) (hafter : after.depth = s.depth)
    (h : rule { s with depth := s.depth + 1 } = .failed { after with depth := s.depth + 1 }) :
    nested rule s = .failed after := by
  rw [nested, if_pos hdepth, h]
  simp only [Nat.add_sub_cancel, ← hafter]

/-- A number that begins no run is read by its text. -/
theorem valueAt_of_number (inner : Rule ArgValue) {s : Reading} {token : Token} {text : String}
    (hstarts : s.startsRun token = false) (hkind : token.kind = .int text ∨ token.kind = .float text) :
    valueAt inner token s = numberLiteral token text s.advance := by
  rw [valueAt, ask_bind, hstarts]
  rcases hkind with hkind | hkind <;> rw [hkind] <;> rfl

/-- The tokens of a bare text that comes next: the first one, those behind it that belong to the
text, and those behind the text. -/
structure BareTokens (s : Reading) (start : Cursor) (c : Char) (rest back : List Char)
    (first : Token) (more : List Char) (run behind : List Token) : Prop where
  source : s.source.bind (Text.dropBytes first.span.start.offset) = some (c :: rest ++ back)
  unread : s.unread = first :: (run ++ behind)
  text_eq : c :: rest = (scan c (rest ++ back)).taken ++ more
  first_eq : first = ⟨(scan c (rest ++ back)).kindAt start.position,
    ⟨start.position, (start.walk (scan c (rest ++ back)).taken).position⟩⟩
  covers : Token.Covers (start.walk (scan c (rest ++ back)).taken) more run
  behind : Token.Lexed (start.walk (c :: rest)) back behind

theorem exists_bareTokens {front rest back : List Char} {c : Char} {s : Reading}
    (h : s.StandsAt front (c :: rest) back) (hbare : AllBare (c :: rest))
    (hback : EndsBareText back) : ∃ first more run behind,
      BareTokens s (Cursor.start.walk front) c rest back first more run behind := by
  obtain ⟨before, first, others, hlist, hunread, hfirst⟩ := h.unread
  rw [hunread] at hlist
  obtain ⟨passed, left, htext, hplace, hleft⟩ := (Token.lexed_list _).exists_behind hlist
  -- both texts in front of the token have the same length
  have hlength : Text.byteLength front = Text.byteLength passed := by
    rw [← hfirst, hplace, Token.offset_walk_start]
  obtain ⟨rfl, rfl⟩ := Text.append_inj_of_byteLength htext hlength
  obtain ⟨more, tail, hmore, -, htokens, htail⟩ := hleft.exists_first hbare hback
  obtain ⟨rfl, rfl⟩ := List.cons.inj htokens
  have hbareMore : AllBare more := by
    rw [hmore] at hbare
    exact fun d hd => hbare d (List.mem_append_right _ hd)
  obtain ⟨run, behind, rfl, hcovers, hbehind⟩ := htail.exists_covers hbareMore hback
  rw [← Cursor.walk_append, ← hmore] at hbehind
  refine ⟨_, more, run, behind, ?_, hunread, hmore, rfl, hcovers, hbehind⟩
  rw [h.source, Option.bind_some, hfirst, Text.dropBytes_byteLength_append]

namespace BareTokens

variable {s : Reading} {start : Cursor} {c : Char} {rest back more : List Char} {first : Token}
variable {run behind : List Token} (h : BareTokens s start c rest back first more run behind)
variable (hbare : AllBare (c :: rest)) (hback : EndsBareText back)

include h

theorem covers_all (hbare : AllBare (c :: rest)) :
    Token.Covers start (c :: rest) (first :: run) := by
  rw [h.text_eq, h.first_eq]
  exact .cons (taken_scan_ne_nil c _) rfl rfl (Token.endsRun_kindAt_scan (hbare c (by simp)) _ _)
    h.covers

/-- The token behind the text does not go on with a run. -/
theorem stopsRun (hback : EndsBareText back) :
    ∀ token ∈ behind.head?, token.StopsRun (start.walk (c :: rest)) :=
  h.behind.stopsRun hback

/-- If the text is a single lexeme, no more tokens belong to it. -/
theorem run_eq_nil {kind : TokenKind}
    (hscan : scan c (rest ++ back) = ⟨.ok kind, c :: rest, back⟩) : run = [] := by
  have htext := h.text_eq
  rw [hscan] at htext
  exact h.covers.eq_nil_iff.2 (by simpa using htext)

/-- If no more tokens belong to the text, it is what the first one covers. -/
theorem taken_eq (hrun : run = []) : (scan c (rest ++ back)).taken = c :: rest := by
  have htext := h.text_eq
  rw [h.covers.eq_nil_iff.1 hrun, List.append_nil] at htext
  exact htext.symm

/-- A run that begins with the first token takes the text and means it. -/
theorem bareRun_eq (hback : EndsBareText back) :
    bareRun s = .done (.string (String.ofList (c :: rest)))
      (s.movedTo behind (start.walk (c :: rest)).position) := by
  have hstart : first.span.start = start.position := by rw [h.first_eq]
  have hstop : first.span.stop = (start.walk (scan c (rest ++ back)).taken).position := by
    rw [h.first_eq]
  have hwalk : (start.walk (scan c (rest ++ back)).taken).walk more = start.walk (c :: rest) := by
    rw [← Cursor.walk_append, ← h.text_eq]
  have hbehind := h.stopsRun hback
  rw [← hwalk] at hbehind
  have htake := h.covers.takeRun_eq hstop hbehind
  have hlast := h.covers.stop_eq hstop
  rw [hwalk] at hlast
  -- the text that stands at the place of the first token is cut out
  obtain ⟨source, hsource, hdrop⟩ := Option.bind_eq_some_iff.1 h.source
  obtain ⟨front, rfl, hfront⟩ := Text.exists_of_dropBytes hdrop
  have hslice : Text.slice (front ++ (c :: rest ++ back)) first.span.start.offset
      (start.walk (c :: rest)).position.offset = some (c :: rest) := by
    rw [Cursor.offset_walk, ← hstart, ← hfront, ← List.append_assoc]
    exact Text.slice_append front (c :: rest) back
  rw [bareRun, h.unread]
  simp only [htake, hlast, hsource, Option.bind_some, hslice, Reading.movedTo]

end BareTokens

/-! ### The value of a bare text -/

section Value

variable {s : Reading} {start : Cursor} {c : Char} {rest back more : List Char} {first : Token}
variable {run behind : List Token}

/-- The same tokens at another depth. -/
theorem BareTokens.deeper (h : BareTokens s start c rest back first more run behind) (depth : Nat) :
    BareTokens { s with depth } start c rest back first more run behind :=
  ⟨h.source, h.unread, h.text_eq, h.first_eq, h.covers, h.behind⟩

/-- A bare text is a run, and then it is no word and no number, or it is a word or a number that
begins no run. -/
theorem BareTokens.run_or_lone (h : BareTokens s start c rest back first more run behind)
    (htext : IsBareText (c :: rest)) (hback : EndsBareText back) :
    (s.startsRun first = true ∧ ∀ kind, LoneKind (c :: rest) kind →
        scan c (rest ++ back) ≠ ⟨.ok kind, c :: rest, back⟩) ∨
      (s.startsRun first = false ∧ run = [] ∧ LoneKind (c :: rest) first.kind) := by
  have hc : isBare c = true := htext.bare c (by simp)
  have hkind : first.kind = (scan c (rest ++ back)).kindAt first.span.start := by rw [h.first_eq]
  have hdollar : c ≠ '$' := by simpa using htext.no_dollar
  have hcolon : c ≠ ':' := by simpa using htext.no_colon
  rcases Reading.startsRun_or_lone hc hdollar hcolon hkind h.source with ⟨hstarts, hnone⟩ | hlone
  · refine .inl ⟨hstarts, fun kind hlone hscan => ?_⟩
    have hfalse := hnone kind (by rw [hscan])
    rw [hlone.isLone] at hfalse
    cases hfalse
  have hstarts := Reading.startsRun_of_isLone hlone.isLone h.unread
  have hstop : first.span.stop = (start.walk (scan c (rest ++ back)).taken).position := by
    rw [h.first_eq]
  by_cases hrun : run = []
  · -- nothing goes on with the only token of the text
    have htaken := h.taken_eq hrun
    rw [htaken] at hlone hstop
    refine .inr ⟨?_, hrun, hlone⟩
    rw [hstarts, hrun, List.nil_append]
    cases hbehind : behind.head? with
    | none => rfl
    | some after =>
        rcases h.stopsRun hback after hbehind with hends | hgap
        · simp [hends]
        · rw [← hstop] at hgap
          simp [Token.follows, hgap]
  · -- the second token of the text goes on with the first one
    refine .inl ⟨?_, fun kind _ hscan => hrun (h.run_eq_nil hscan)⟩
    rw [hstarts]
    cases h.covers with
    | nil => exact absurd rfl hrun
    | cons hpiece hsecond hstop' hends hmore =>
        simp [Token.follows, hsecond, hstop, hends]

namespace BareTokens

/-- A value that begins with a bare text is chosen by the first token of the text. -/
theorem value_eq (h : BareTokens s start c rest back first more run behind) :
    value s = nested (valueAt (valueWithin (run ++ behind).length.succ) first) s := by
  rw [value, h.unread, List.length_cons]
  exact valueWithin_of_unread _ h.unread

/-- If the first token begins a run then the text is read as itself. -/
theorem value_of_startsRun (h : BareTokens s start c rest back first more run behind)
    (hback : EndsBareText back) (hdepth : s.depth < deepestValue)
    (hstarts : { s with depth := s.depth + 1 }.startsRun first = true) :
    value s = .done (.string (String.ofList (c :: rest)))
      (s.movedTo behind (start.walk (c :: rest)).position) := by
  rw [h.value_eq]
  refine nested_of_done hdepth rfl ?_
  rw [valueAt_of_startsRun _ hstarts, (h.deeper (s.depth + 1)).bareRun_eq hback]
  rfl

section Lone

variable (h : BareTokens s start c rest back first more [] behind)
variable (hdepth : s.depth < deepestValue)
variable (hstarts : { s with depth := s.depth + 1 }.startsRun first = false)

include h

/-- The only token of a text lies where the text does. -/
theorem span_eq : first.span = ⟨start.position, (start.walk (c :: rest)).position⟩ := by
  rw [← h.taken_eq rfl, h.first_eq]

/-- Behind the only token of a text is the end of the text. -/
theorem advance_eq (depth : Nat) : ({ s with depth } : Reading).advance =
    { s.movedTo behind (start.walk (c :: rest)).position with depth } := by
  rw [Reading.advance_of_unread (h.deeper depth).unread, h.span_eq]
  rfl

include hdepth hstarts

/-- The only token of a text is read as its own value. -/
theorem value_of_value? {found : ArgValue} (hfound : first.kind.value? = some found) :
    value s = .done found (s.movedTo behind (start.walk (c :: rest)).position) := by
  rw [h.value_eq]
  refine nested_of_done hdepth rfl ?_
  rw [valueAt_of_value? _ hstarts hfound, h.advance_eq]

/-- A number that is the only token of its text is read as what it denotes, if that is finite. -/
theorem value_of_numeral
    (hkind : first.kind = .int (String.ofList (c :: rest)) ∨
      first.kind = .float (String.ofList (c :: rest)))
    {sign whole fraction exponent : List Char} (hsign : sign = [] ∨ sign = ['-'])
    (hwhole : IsWhole whole) (hfraction : IsFraction fraction) (hexponent : IsExponent exponent)
    (htext : c :: rest = sign ++ whole ++ fraction ++ exponent) :
    value s =
      if (numeralDecimal sign whole fraction exponent).toBinary64.isFinite then
        .done (.number (numeralDecimal sign whole fraction exponent).toBinary64)
          (s.movedTo behind (start.walk (c :: rest)).position)
      else .failed ((s.movedTo behind (start.walk (c :: rest)).position).record
        (.invalidNumber (String.ofList (c :: rest))
          ⟨start.position, (start.walk (c :: rest)).position⟩)) := by
  have hread := readNumber_numeral hsign hwhole hfraction hexponent
  rw [← htext] at hread
  rw [h.value_eq]
  split
  · rename_i hfinite
    refine nested_of_done hdepth rfl ?_
    rw [valueAt_of_number _ hstarts hkind, numberLiteral, String.toList_ofList, hread]
    simp only [if_pos hfinite]
    rw [pure_apply, h.advance_eq]
  · rename_i hfinite
    refine nested_of_failed hdepth rfl ?_
    rw [valueAt_of_number _ hstarts hkind, numberLiteral, String.toList_ofList, hread]
    simp only [if_neg hfinite]
    rw [h.advance_eq, h.span_eq]
    rfl

end Lone

end BareTokens

namespace ReadsBare

variable {text : List Char} {span : Span} {after : Reading}

/-- A text that is no value word and no number is read as itself. -/
theorem of_string (h : value s = .done (.string (String.ofList text)) after)
    (hno : text = "true".toList ∨ text = "false".toList ∨ text = "null".toList ∨
      IsNumeralText text → False) : ReadsBare text span s after where
  yes htrue := (hno (.inl htrue)).elim
  no hfalse := (hno (.inr (.inl hfalse))).elim
  null hnull := (hno (.inr (.inr (.inl hnull)))).elim
  number hsign hwhole hfraction hexponent htext :=
    (hno (.inr (.inr (.inr ⟨_, _, _, _, hsign, hwhole, hfraction, hexponent, htext⟩)))).elim
  text _ _ _ _ := h

/-- A word is read by its kind. -/
theorem of_word (hnot : ¬ IsNumeralText text)
    (h : ∀ {found : ArgValue}, (wordKind text).value? = some found → value s = .done found after) :
    ReadsBare text span s after where
  yes htrue := h (by rw [htrue]; rfl)
  no hfalse := h (by rw [hfalse]; rfl)
  null hnull := h (by rw [hnull]; rfl)
  number hsign hwhole hfraction hexponent htext :=
    (hnot ⟨_, _, _, _, hsign, hwhole, hfraction, hexponent, htext⟩).elim
  text htrue hfalse hnull _ := h (by rw [wordKind, if_neg htrue, if_neg hfalse, if_neg hnull]; rfl)

end ReadsBare

/-- What a bare text comes to at a place for a value, whatever the rule for the values inside it. -/
theorem BareTokens.readsBare (h : BareTokens s start c rest back first more run behind)
    (htext : IsBareText (c :: rest)) (hback : EndsBareText back) (hdepth : s.depth < deepestValue) :
    ReadsBare (c :: rest) ⟨start.position, (start.walk (c :: rest)).position⟩ s
      (s.movedTo behind (start.walk (c :: rest)).position) := by
  rcases (h.deeper (s.depth + 1)).run_or_lone htext hback with ⟨hstarts, hlone⟩ | ⟨hstarts, rfl, hlone⟩
  · -- a run: a value word or a number would have been a single lexeme
    refine .of_string (h.value_of_startsRun hback hdepth hstarts) fun hword => ?_
    obtain ⟨kind, hkind, hscan⟩ := exists_scan_lone hback hword
    exact hlone kind hkind hscan
  generalize hfirst : first.kind = kind at hlone
  cases hlone with
  | @word d tail heq hname =>
      refine .of_word (fun hnumeral => ?_) fun hfound => ?_
      · rw [hnumeral.isNameStart_eq_false (by rw [heq, List.head?_cons])] at hname
        cases hname
      · exact h.value_of_value? hdepth hstarts (hfirst ▸ hfound)
  | number hnumeral hkind =>
      have hno {word : List Char} (hword : word.head?.any isNameStart = true) :
          c :: rest ≠ word := by
        rintro rfl
        rw [List.head?_cons, Option.any_some, hnumeral.isNameStart_eq_false rfl] at hword
        cases hword
      exact {
        yes := fun htrue => (hno (by decide) htrue).elim
        no := fun hfalse => (hno (by decide) hfalse).elim
        null := fun hnull => (hno (by decide) hnull).elim
        number := h.value_of_numeral hdepth hstarts (hfirst ▸ hkind)
        text := fun _ _ _ hnot => (hnot hnumeral).elim }

end Value

/-- Where a value can stand, reading takes a bare text up to its end and nothing behind it, and
yields what the text means: a word's value, a number, unless it is not finite, or the text itself. -/
theorem value_bareText {front text back : List Char} {s : Reading} (htext : IsBareText text)
    (hback : EndsBareText back) (hstands : s.StandsAt front text back)
    (hdepth : s.depth < deepestValue) :
    ∃ run behind, s.unread = run ++ behind ∧ Token.Covers (Cursor.start.walk front) text run ∧
      Token.Lexed (Cursor.start.walk (front ++ text)) back behind ∧
        ReadsBare text ⟨(Cursor.start.walk front).position,
          (Cursor.start.walk (front ++ text)).position⟩ s
            (s.movedTo behind (Cursor.start.walk (front ++ text)).position) := by
  obtain ⟨c, rest, rfl⟩ := List.exists_cons_of_ne_nil htext.ne_nil
  obtain ⟨first, more, run, behind, htokens⟩ := exists_bareTokens hstands htext.bare hback
  rw [Cursor.walk_append]
  exact ⟨first :: run, behind, htokens.unread, htokens.covers_all htext.bare, htokens.behind,
    htokens.readsBare htext hback hdepth⟩

/-- A document with a bare text of five tokens, two of which are faulty. -/
def versionDocument : List Char :=
  ['{', 'f', '(', 'x', ':', ' ', 'v', '1', '.', '5', '-', 'b', ')', '}']

/-- Reading in this document before the text. -/
def beforeVersion : Reading :=
  .start (some versionDocument) ((Token.list versionDocument).drop 5)

/-- The whole text is taken as a string. -/
theorem value_beforeVersion :
    IsBareText ['v', '1', '.', '5', '-', 'b'] ∧ EndsBareText [')', '}'] ∧
      beforeVersion.StandsAt ['{', 'f', '(', 'x', ':', ' '] ['v', '1', '.', '5', '-', 'b'] [')', '}'] ∧
        beforeVersion.depth < deepestValue ∧ ∃ behind stop, value beforeVersion =
          .done (.string (String.ofList ['v', '1', '.', '5', '-', 'b']))
            (beforeVersion.movedTo behind stop) := by
  have htext : IsBareText ['v', '1', '.', '5', '-', 'b'] :=
    ⟨by decide, by decide, by decide, by decide⟩
  have hback : EndsBareText [')', '}'] := by decide
  have hstands : beforeVersion.StandsAt ['{', 'f', '(', 'x', ':', ' ']
      ['v', '1', '.', '5', '-', 'b'] [')', '}'] := by
    refine ⟨rfl, (Token.list versionDocument).take 5, (Token.list versionDocument)[5],
      (Token.list versionDocument).drop 6, ?_, ?_, ?_⟩ <;> decide +kernel
  have hdepth : beforeVersion.depth < deepestValue := by decide
  obtain ⟨run, behind, -, -, -, hreads⟩ := value_bareText htext hback hstands hdepth
  have hnumeral : ¬ IsNumeralText ['v', '1', '.', '5', '-', 'b'] := fun h =>
    absurd (h.isNameStart_eq_false rfl) (by decide)
  exact ⟨htext, hback, hstands, hdepth, behind, _,
    hreads.text (by decide) (by decide) (by decide) hnumeral⟩

/-- The text in front of a value inside as many lists as values may enclose each other. -/
def deepFront : List Char := ['{', 'f', '(', 'x', ':'] ++ List.replicate deepestValue '['

/-- The text behind it. -/
def deepBack : List Char := List.replicate deepestValue ']' ++ [')', '}']

/-- Reading before a bare text inside so many lists. -/
def beforeDeep : Reading :=
  { Reading.start (some (deepFront ++ (['v', '1'] ++ deepBack)))
      ((Token.list (deepFront ++ (['v', '1'] ++ deepBack))).drop 69) with depth := deepestValue }

/-- Inside so many lists a bare text is not read, because it would be nested too deeply. -/
theorem value_beforeDeep :
    IsBareText ['v', '1'] ∧ EndsBareText deepBack ∧
      beforeDeep.StandsAt deepFront ['v', '1'] deepBack ∧
        (∀ found after, value beforeDeep ≠ .done found after) ∧
          (match Operation.parse (deepFront ++ (['v', '1'] ++ deepBack)) with
            | .ok _ => none
            | .error error => some error.cause) = some .nestingTooDeep := by
  have htext : IsBareText ['v', '1'] :=
    ⟨by decide, by decide, by decide, by decide⟩
  have hback : EndsBareText deepBack := by decide
  have hstands : beforeDeep.StandsAt deepFront ['v', '1'] deepBack := by
    refine ⟨rfl, (Token.list (deepFront ++ (['v', '1'] ++ deepBack))).take 69,
      ((Token.list (deepFront ++ (['v', '1'] ++ deepBack))).drop 69).head (by decide +kernel),
      (Token.list (deepFront ++ (['v', '1'] ++ deepBack))).drop 70, ?_, ?_, ?_⟩
    · rw [beforeDeep, Reading.start, List.take_append_drop]
    · decide +kernel
    · decide +kernel
  refine ⟨htext, hback, hstands, fun found after hdone => ?_, by decide +kernel⟩
  -- no value is read at this depth, whatever its first token
  have hfailed : value beforeDeep =
      .failed (beforeDeep.record (.nestingTooDeep beforeDeep.nextSpan)) := by
    rw [value, valueWithin, nested, if_neg (by decide)]
    rfl
  rw [hfailed] at hdone
  cases hdone

end Rule

end CompletionGateway
