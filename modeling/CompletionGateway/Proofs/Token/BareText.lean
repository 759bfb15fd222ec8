import CompletionGateway.Operation.ValueRule
import CompletionGateway.Proofs.Token.Tiling

/-!
# The tokens of a bare text

A bare text holds no trivia, no quotes and no brackets.  Whatever its characters are, the tokens that
begin in it end in it as well: a lexeme that is no string takes bare characters alone, also where it
is faulty and more is passed with it.  So the tokens cover the text one behind the other, however it
is cut into tokens, and the text behind it is read by itself.
-/

namespace CompletionGateway

/-- The brackets of all groups. -/
def isBracket (c : Char) : Bool := ['{', '}', '(', ')', '[', ']'].contains c

/-- Whether a bare text ends before a character. -/
def endsBareText (c : Char) : Bool := opensTrivia c || isBracket c

/-- Whether a character can stand in a bare text. -/
def isBare (c : Char) : Bool := !endsBareText c && c != '"' && c != '\''

namespace Lexeme

/-- All characters are bare. -/
def AllBare (text : List Char) : Prop := ∀ c ∈ text, isBare c = true

instance (text : List Char) : Decidable (AllBare text) :=
  List.decidableBAll (fun c => isBare c = true) text

/-- The texts of numerals. -/
def IsNumeralText (text : List Char) : Prop :=
  ∃ sign whole fraction exponent, (sign = [] ∨ sign = ['-']) ∧ IsWhole whole ∧
    IsFraction fraction ∧ IsExponent exponent ∧ text = sign ++ whole ++ fraction ++ exponent

/-! ### Classes of bare characters -/

/-- A class of characters that holds none of the special ones is a class of bare characters. -/
theorem isBare_of_any {p : Char → Bool}
    (h : [' ', '\t', '\n', '\r', '\uFEFF', ',', '#', '{', '}', '(', ')', '[', ']', '"', '\''].any p =
      false) {c : Char} (hc : p c = true) : isBare c = true := by
  have hne (d : Char) (hd : d ∈ [' ', '\t', '\n', '\r', '\uFEFF', ',', '#', '{', '}', '(', ')', '[',
      ']', '"', '\'']) : c ≠ d := by
    rintro rfl
    exact List.any_eq_false.1 h c hd hc
  simp only [List.mem_cons, List.not_mem_nil, or_false, forall_eq_or_imp, forall_eq] at hne
  simp [isBare, endsBareText, opensTrivia, isSeparator, isBracket, hne]

theorem isBare_of_isNamePart {c : Char} (h : isNamePart c = true) : isBare c = true :=
  isBare_of_any (by decide) h

theorem isBare_of_isDigit {c : Char} (h : isDigit c = true) : isBare c = true :=
  isBare_of_any (by decide) h

theorem AllBare.append {front back : List Char} (h : AllBare front) (h' : AllBare back) :
    AllBare (front ++ back) := fun c hc => (List.mem_append.1 hc).elim (h c) (h' c)

theorem AllBare.cons {c : Char} {text : List Char} (hc : isBare c = true) (h : AllBare text) :
    AllBare (c :: text) := List.forall_mem_cons.2 ⟨hc, h⟩

theorem allBare_nil : AllBare [] := by simp [AllBare]

theorem allBare_takeWhile {p : Char → Bool} (h : ∀ c, p c = true → isBare c = true)
    (text : List Char) : AllBare (text.takeWhile p) :=
  fun c hc => h c (List.all_eq_true.1 List.all_takeWhile c hc)

/-! ### What lexemes take -/

section Taken

variable {taken : List Char} (htaken : AllBare taken)

theorem allBare_scanDots (text : List Char) : AllBare (scanDots ('.' :: text)).taken := by
  have hdot : isBare '.' = true := by decide
  unfold scanDots
  split
  · exact .cons hdot (.cons hdot (.cons hdot allBare_nil))
  · exact .cons hdot (.cons hdot allBare_nil)
  · exact .cons hdot allBare_nil

include htaken

theorem allBare_brokenNumber (fault : LexicalFault) (rest : List Char) :
    AllBare (brokenNumber fault taken rest).taken :=
  htaken.append (allBare_takeWhile (fun _ hc => isBare_of_any (by decide) hc) rest)

theorem allBare_finishNumber (isFloat : Bool) (rest : List Char) :
    AllBare (finishNumber isFloat taken rest).taken := by
  unfold finishNumber
  split
  · exact allBare_brokenNumber htaken _ rest
  · exact htaken

theorem allBare_scanNumberTail (rest : List Char) : AllBare (scanNumberTail taken rest).taken := by
  have hfraction : AllBare (splitFraction rest).1 := by
    unfold splitFraction
    split
    · split
      · rename_i hdigit
        exact .cons (by decide) (.cons (isBare_of_isDigit hdigit)
          (allBare_takeWhile (fun _ => isBare_of_isDigit) _))
      · exact allBare_nil
    · exact allBare_nil
  have hmark : AllBare (splitExponentMark (splitFraction rest).2).1 := by
    unfold splitExponentMark
    split
    · split
      · rename_i hexponent
        have hc := isBare_of_any (p := fun c => c == 'e' || c == 'E') (by decide)
          (by simpa using hexponent)
        split
        · exact .cons hc (.cons (by decide) allBare_nil)
        · exact .cons hc (.cons (by decide) allBare_nil)
        · exact .cons hc allBare_nil
      · exact allBare_nil
    · exact allBare_nil
  have hfront := (htaken.append hfraction).append hmark
  simp only [scanNumberTail]
  split
  · exact allBare_finishNumber hfront _ _
  split
  · exact allBare_finishNumber (hfront.append (allBare_takeWhile (fun _ => isBare_of_isDigit) _)) _ _
  · exact allBare_brokenNumber hfront _ _

omit htaken in
theorem allBare_scanUnsigned {sign : List Char} (hsign : AllBare sign) (text : List Char) :
    AllBare (scanUnsigned sign text).taken := by
  unfold scanUnsigned
  split
  · have hzero : AllBare (sign ++ ['0']) := hsign.append (.cons (by decide) allBare_nil)
    split
    · exact allBare_brokenNumber hzero _ _
    · exact allBare_scanNumberTail hzero _
  · split
    · exact allBare_scanNumberTail
        (hsign.append (allBare_takeWhile (fun _ => isBare_of_isDigit) _)) _
    · exact hsign

end Taken

/-- A lexeme that begins with a bare character takes bare characters alone. -/
theorem allBare_scan {c : Char} (hc : isBare c = true) (rest : List Char) :
    AllBare (scan c rest).taken := by
  have hself : AllBare [c] := .cons hc allBare_nil
  simp only [isBare, Bool.and_eq_true, bne_iff_ne] at hc
  unfold scan
  split
  · exact hself
  rw [if_neg hc.1.2, if_neg hc.2]
  split
  · rename_i hdot
    exact hdot ▸ allBare_scanDots rest
  split
  · exact hself.append (allBare_takeWhile (fun _ => isBare_of_isNamePart) rest)
  split
  · unfold scanNumber
    split
    · exact allBare_scanUnsigned (.cons (by decide) allBare_nil) _
    · exact allBare_scanUnsigned allBare_nil _
  · exact hself

/-! ### Which numbers are no faults -/

section Numeral

variable {sign whole fraction exponent rest : List Char} {kind : TokenKind}

theorem isFraction_splitFraction (text : List Char) : IsFraction (splitFraction text).1 := by
  unfold splitFraction
  split
  · rename_i d rest
    split
    · rename_i hdigit
      refine .present ⟨by simp, ?_⟩
      exact List.forall_mem_cons.2
        ⟨hdigit, fun c hc => List.all_eq_true.1 List.all_takeWhile c hc⟩
    · exact .absent
  · exact .absent

/-- An exponent mark is a letter with or without a sign. -/
theorem splitExponentMark_cases (text : List Char) : (splitExponentMark text).1 = [] ∨
    ∃ mark sign, (splitExponentMark text).1 = mark :: sign ∧ (mark = 'e' ∨ mark = 'E') ∧
      (sign = [] ∨ sign = ['+'] ∨ sign = ['-']) := by
  unfold splitExponentMark
  split
  · rename_i c rest
    split
    · rename_i hmark
      split
      · exact .inr ⟨c, _, rfl, hmark, .inr (.inl rfl)⟩
      · exact .inr ⟨c, _, rfl, hmark, .inr (.inr rfl)⟩
      · exact .inr ⟨c, _, rfl, hmark, .inl rfl⟩
    · exact .inl rfl
  · exact .inl rfl

theorem isDigits_takeWhile {text : List Char} (h : startsWith isDigit text = true) :
    IsDigits (text.takeWhile isDigit) := by
  refine ⟨?_, fun c hc => List.all_eq_true.1 List.all_takeWhile c hc⟩
  cases text with
  | nil => cases h
  | cons c text =>
      have hc : isDigit c = true := h
      simp [hc]

theorem content_finishNumber {isFloat : Bool} {taken : List Char}
    (h : (finishNumber isFloat taken rest).content = .ok kind) :
    (finishNumber isFloat taken rest).taken = taken ∧
      (kind = .int (String.ofList taken) ∨ kind = .float (String.ofList taken)) := by
  unfold finishNumber at h ⊢
  split at h
  · cases h
  · rename_i hglued
    rw [if_neg hglued]
    obtain rfl := Except.ok.inj h
    refine ⟨rfl, ?_⟩
    cases isFloat
    · exact .inl rfl
    · exact .inr rfl

/-- A lexeme that is a number covers the text of a numeral, and this is the text of its token. -/
def IsNumber (lexeme : Lexeme) (kind : TokenKind) : Prop :=
  IsNumeralText lexeme.taken ∧
    (kind = .int (String.ofList lexeme.taken) ∨ kind = .float (String.ofList lexeme.taken))

theorem isNumber_scanNumberTail (hsign : sign = [] ∨ sign = ['-']) (hwhole : IsWhole whole)
    (h : (scanNumberTail (sign ++ whole) rest).content = .ok kind) :
    (scanNumberTail (sign ++ whole) rest).IsNumber kind := by
  have hfraction := isFraction_splitFraction rest
  simp only [scanNumberTail] at h ⊢
  split at h
  · rename_i hmark
    rw [if_pos hmark]
    obtain ⟨htaken, hkind⟩ := content_finishNumber h
    rw [IsNumber, htaken]
    refine ⟨⟨sign, whole, _, [], hsign, hwhole, hfraction, .absent, ?_⟩, hkind⟩
    rw [hmark]
  rename_i hmark
  rw [if_neg hmark]
  split at h
  · rename_i hdigit
    rw [if_pos hdigit]
    obtain ⟨htaken, hkind⟩ := content_finishNumber h
    rw [IsNumber, htaken]
    refine ⟨⟨sign, whole, _, _, hsign, hwhole, hfraction, ?_, List.append_assoc _ _ _⟩, hkind⟩
    rcases splitExponentMark_cases (splitFraction rest).2 with hnone | ⟨mark, more, hsome, hm, hmore⟩
    · exact absurd hnone hmark
    · rw [hsome, List.cons_append]
      exact .present hm hmore (isDigits_takeWhile hdigit)
  · cases h

theorem isNumber_scanUnsigned (hsign : sign = [] ∨ sign = ['-'])
    (h : (scanUnsigned sign rest).content = .ok kind) : (scanUnsigned sign rest).IsNumber kind := by
  by_cases hzero : ∃ more, rest = '0' :: more
  · obtain ⟨more, rfl⟩ := hzero
    simp only [scanUnsigned] at h ⊢
    split at h
    · cases h
    · rename_i hdigit
      rw [if_neg hdigit]
      exact isNumber_scanNumberTail hsign .zero h
  · rw [scanUnsigned.eq_2 _ _ fun more hmore => hzero ⟨more, hmore⟩] at h ⊢
    split at h
    · rename_i hdigit
      rw [if_pos hdigit]
      refine isNumber_scanNumberTail hsign (.digits (isDigits_takeWhile hdigit) ?_) h
      -- the first digit is the first character, which is no zero
      cases rest with
      | nil => cases hdigit
      | cons c more =>
          have hc : isDigit c = true := hdigit
          rw [List.takeWhile_cons, if_pos hc, List.head?_cons]
          exact fun hhead => hzero ⟨more, by rw [Option.some.inj hhead]⟩
    · cases h

theorem isNumber_scanNumber {text : List Char} (h : (scanNumber text).content = .ok kind) :
    (scanNumber text).IsNumber kind := by
  unfold scanNumber at h ⊢
  split at h
  · exact isNumber_scanUnsigned (.inr rfl) h
  · exact isNumber_scanUnsigned (.inl rfl) h

end Numeral

/-! ### What a bare character begins -/

/-- What a lexeme is that begins with a bare character. -/
inductive BareCases (c : Char) (lexeme : Lexeme) : Prop
  | fault (fault : LexicalFault) (h : lexeme.content = .error fault)
  | mark (mark : Punctuator) (h : lexeme.content = .ok (.punctuator mark))
      (hopening : mark.isOpening = false) (hclosing : mark.isClosing = false)
      (hdollar : mark = .dollar → c = '$') (hcolon : mark = .colon → c = ':')
  | word (h : lexeme.content = .ok (wordKind lexeme.taken)) (hstart : isNameStart c = true)
  | number (kind : TokenKind) (h : lexeme.content = .ok kind) (hnumber : lexeme.IsNumber kind)

theorem bareCases_scan {c : Char} (hc : isBare c = true) (rest : List Char) :
    BareCases c (scan c rest) := by
  have hbare := hc
  simp only [isBare, Bool.and_eq_true, bne_iff_ne] at hc
  unfold scan
  split
  · rename_i mark hmark
    refine .mark mark rfl ?_ ?_ ?_ ?_
    all_goals
      unfold mark? at hmark
      split at hmark
    all_goals first
      | cases hmark; rfl
      | cases hmark; exact absurd hbare (by decide)
      | cases hmark; simp
      | cases hmark
  rw [if_neg hc.1.2, if_neg hc.2]
  split
  · unfold scanDots
    split
    · exact .mark .ellipsis rfl rfl rfl (by simp) (by simp)
    · exact .fault _ rfl
    · exact .fault _ rfl
  split
  · rename_i hstart
    exact .word rfl hstart
  split
  · cases hcontent : (scanNumber (c :: rest)).content with
    | error fault => exact .fault fault hcontent
    | ok kind => exact .number kind hcontent (isNumber_scanNumber hcontent)
  · exact .fault _ rfl

end Lexeme

/-- Behind a bare text there is nothing, trivia or a bracket. -/
def EndsBareText (text : List Char) : Prop := ∀ c ∈ text.head?, endsBareText c = true

instance : (text : List Char) → Decidable (EndsBareText text)
  | [] => .isTrue nofun
  | c :: _ => decidable_of_iff (endsBareText c = true) (by simp [EndsBareText])

/-- What is taken of a bare text and the text behind it is taken of the bare text. -/
theorem exists_of_allBare {text back taken rest : List Char} (htaken : Lexeme.AllBare taken)
    (hback : EndsBareText back) (h : text ++ back = taken ++ rest) :
    ∃ more, text = taken ++ more ∧ rest = more ++ back := by
  rcases List.append_eq_append_iff.1 h with ⟨more, rfl, rfl⟩ | ⟨more, rfl, rfl⟩
  · -- what would be taken behind the text begins with a character that is not bare
    cases more with
    | nil => exact ⟨[], by simp, rfl⟩
    | cons c more =>
        have hends : endsBareText c = true := hback c rfl
        have hbare := htaken c (by simp)
        simp [isBare, hends] at hbare
  · exact ⟨more, rfl, rfl⟩

namespace Token

/-- Tokens that cover a text one behind the other from a cursor on, and all of them can go on with a
run. -/
inductive Covers : Cursor → List Char → List Token → Prop
  | nil (cursor : Cursor) : Covers cursor [] []
  | cons {cursor : Cursor} {piece rest : List Char} {token : Token} {more : List Token}
      (hpiece : piece ≠ []) (hstart : token.span.start = cursor.position)
      (hstop : token.span.stop = (cursor.walk piece).position)
      (hends : token.kind.endsRun = false) (hmore : Covers (cursor.walk piece) rest more) :
      Covers cursor (piece ++ rest) (token :: more)

/-- Only an empty text is covered by no token, and only by that. -/
theorem Covers.eq_nil_iff {cursor : Cursor} {text : List Char} {run : List Token}
    (h : Covers cursor text run) : run = [] ↔ text = [] := by
  cases h with
  | nil => simp
  | cons hpiece => simp [hpiece]

/-- A token that does not go on with a run that ends at a cursor. -/
def StopsRun (cursor : Cursor) (token : Token) : Prop :=
  token.kind.endsRun = true ∨ token.span.start.offset ≠ cursor.position.offset

/-- A run takes the tokens that cover a text, and stops behind them. -/
theorem Covers.takeRun_eq {cursor : Cursor} {text : List Char} {run behind : List Token}
    {last : Span} (h : Covers cursor text run) (hlast : last.stop = cursor.position)
    (hbehind : ∀ token ∈ behind.head?, token.StopsRun (cursor.walk text)) :
    takeRun last (run ++ behind) = (run, behind) := by
  induction h generalizing last with
  | nil cursor =>
      cases behind with
      | nil => rfl
      | cons token rest =>
          rw [List.nil_append, takeRun, if_neg]
          rcases hbehind token rfl with hends | hgap
          · simp [hends]
          · simp [Token.follows, hlast, show token.span.start.offset ≠ cursor.position.offset from hgap]
  | @cons cursor piece rest token more hpiece hstart hstop hends hmore ih =>
      rw [Cursor.walk_append] at hbehind
      have hgoes : (token.follows last && !token.kind.endsRun) = true := by
        simp [Token.follows, hstart, hlast, hends]
      rw [List.cons_append, takeRun, if_pos hgoes, ih hstop hbehind]

/-- The last of the tokens that cover a text ends where the text does. -/
theorem Covers.stop_eq {cursor : Cursor} {text : List Char} {run : List Token} {first : Token}
    (h : Covers cursor text run) (hfirst : first.span.stop = cursor.position) :
    (run.getLast?.getD first).span.stop = (cursor.walk text).position := by
  induction h generalizing first with
  | nil cursor => simpa using hfirst
  | cons hpiece hstart hstop hends hmore ih =>
      rw [Cursor.walk_append, ← ih hstop]
      simp [List.getLast?_cons]

theorem endsRun_kindAt_scan {c : Char} (hc : isBare c = true) (rest : List Char)
    (place : Position) : ((Lexeme.scan c rest).kindAt place).endsRun = false := by
  rw [Lexeme.kindAt]
  cases Lexeme.bareCases_scan hc rest with
  | fault fault h =>
      rw [h]
      rfl
  | mark mark h hopening hclosing =>
      rw [h]
      simp [TokenKind.endsRun, TokenKind.isOpening, TokenKind.isClosing, hopening, hclosing]
  | word h =>
      rw [h]
      simp only [Lexeme.wordKind]
      repeat' split
      all_goals rfl
  | number kind h hnumber =>
      rw [h]
      rcases hnumber.2 with rfl | rfl <;> rfl

namespace Lexed

variable {cursor : Cursor} {text back : List Char} {tokens : List Token}

/-- Behind a bare text no token goes on with a run. -/
theorem stopsRun (h : Lexed cursor back tokens) (hback : EndsBareText back) :
    ∀ token ∈ tokens.head?, token.StopsRun cursor := by
  cases h with
  | finish cursor hgap =>
      intro token htoken
      obtain rfl := Option.some.inj htoken
      exact .inl rfl
  | @lexeme cursor start stop gap rest c tokens hgap hc hstart hstop hmore =>
      intro token htoken
      obtain rfl := Option.some.inj htoken
      by_cases hempty : gap = []
      · subst hempty
        have hbracket : isBracket c = true := by
          have hends : endsBareText c = true := hback c rfl
          rwa [endsBareText, hc, Bool.false_or] at hends
        refine .inl ?_
        simp only [isBracket, List.contains_eq_mem, List.mem_cons, List.not_mem_nil, or_false,
          decide_eq_true_eq] at hbracket
        rcases hbracket with rfl | rfl | rfl | rfl | rfl | rfl <;> rfl
      · refine .inr ?_
        rw [hstart]
        exact fun heq => hempty ((Cursor.offset_walk_eq_iff cursor gap).1 heq)

/-- The first lexeme of a bare text, what is left of the text, and the tokens behind. -/
theorem exists_first {c : Char} {rest : List Char} (h : Lexed cursor (c :: rest ++ back) tokens)
    (hbare : Lexeme.AllBare (c :: rest)) (hback : EndsBareText back) :
    ∃ more tail, c :: rest = (Lexeme.scan c (rest ++ back)).taken ++ more ∧
      (Lexeme.scan c (rest ++ back)).rest = more ++ back ∧
      tokens = ⟨(Lexeme.scan c (rest ++ back)).kindAt cursor.position,
        ⟨cursor.position, (cursor.walk (Lexeme.scan c (rest ++ back)).taken).position⟩⟩ :: tail ∧
      Lexed (cursor.walk (Lexeme.scan c (rest ++ back)).taken) (more ++ back) tail := by
  have hc : isBare c = true := hbare c (by simp)
  have htrivia : opensTrivia c = false := by
    simp only [isBare, endsBareText, Bool.and_eq_true, Bool.not_eq_true', Bool.or_eq_false_iff] at hc
    exact hc.1.1.1
  have htext : c :: rest ++ back =
      (Lexeme.scan c (rest ++ back)).taken ++ (Lexeme.scan c (rest ++ back)).rest := by
    rw [Lexeme.taken_append_rest, List.cons_append]
  obtain ⟨more, hmore, hrest⟩ := exists_of_allBare (Lexeme.allBare_scan hc _) hback htext
  obtain ⟨tail, htail⟩ := exists_lexed (cursor.walk (Lexeme.scan c (rest ++ back)).taken)
    (Lexeme.scan c (rest ++ back)).rest
  have hwhole : Lexed cursor ([] ++ c :: (rest ++ back)) (⟨(Lexeme.scan c (rest ++ back)).kindAt
      cursor.position, ⟨cursor.position,
        (cursor.walk (Lexeme.scan c (rest ++ back)).taken).position⟩⟩ :: tail) :=
    .lexeme .nil htrivia rfl rfl htail
  have hsame := h.listFrom_eq (Nat.le_refl _)
  rw [List.nil_append, ← List.cons_append] at hwhole
  rw [hwhole.listFrom_eq (Nat.le_refl _)] at hsame
  rw [hrest] at htail
  exact ⟨more, tail, hmore, hrest, hsame.symm, htail⟩

/-- The tokens of a bare text cover it, and behind them come the tokens of the text behind it. -/
theorem exists_covers (h : Lexed cursor (text ++ back) tokens) (hbare : Lexeme.AllBare text)
    (hback : EndsBareText back) : ∃ run behind, tokens = run ++ behind ∧ Covers cursor text run ∧
      Lexed (cursor.walk text) back behind := by
  induction hlength : text.length using Nat.strong_induction_on generalizing cursor text tokens with
  | _ length ih =>
    subst hlength
    cases text with
    | nil => exact ⟨[], tokens, rfl, .nil cursor, h⟩
    | cons c rest =>
        obtain ⟨more, tail, htext, -, rfl, htail⟩ := h.exists_first hbare hback
        have hshort : more.length < (c :: rest).length := by
          have hpos := List.length_pos_iff.2 (Lexeme.taken_scan_ne_nil c (rest ++ back))
          rw [htext, List.length_append]
          omega
        have hmore : Lexeme.AllBare more := by
          rw [htext] at hbare
          exact fun d hd => hbare d (List.mem_append_right _ hd)
        obtain ⟨run, behind, rfl, hcovers, hbehind⟩ := ih more.length hshort htail hmore rfl
        refine ⟨_ :: run, behind, rfl, ?_, ?_⟩
        · rw [htext]
          exact .cons (Lexeme.taken_scan_ne_nil c _) rfl rfl (endsRun_kindAt_scan (hbare c (by simp)) _ _) hcovers
        · rw [htext, Cursor.walk_append]
          exact hbehind

/-- The tokens from some token on are those of the text from its place on. -/
theorem exists_behind {before rest : List Token} {first : Token} (h : Lexed cursor text tokens)
    (hsplit : tokens = before ++ first :: rest) : ∃ passed left, text = passed ++ left ∧
      first.span.start = (cursor.walk passed).position ∧
        Lexed (cursor.walk passed) left (first :: rest) := by
  induction h generalizing before with
  | @finish cursor gap hgap =>
      cases before with
      | nil =>
          obtain ⟨rfl, rfl⟩ := List.cons.inj hsplit
          exact ⟨gap, [], by simp, rfl, .finish _ (.inl .nil)⟩
      | cons other before =>
          obtain ⟨-, hmore⟩ := List.cons.inj hsplit
          cases before <;> cases hmore
  | @lexeme cursor start stop gap tail c tokens hgap hc hstart hstop hmore ih =>
      subst hstart hstop
      cases before with
      | nil =>
          obtain ⟨rfl, rfl⟩ := List.cons.inj hsplit
          exact ⟨gap, c :: tail, rfl, rfl, .lexeme .nil hc rfl rfl hmore⟩
      | cons other before =>
          obtain ⟨-, hbefore⟩ := List.cons.inj hsplit
          obtain ⟨passed, left, htext, hfirst, hleft⟩ := ih hbefore
          refine ⟨gap ++ ((Lexeme.scan c tail).taken ++ passed), left, ?_, ?_, ?_⟩
          · rw [List.append_assoc, List.append_assoc, ← htext, Lexeme.taken_append_rest]
          · rw [Cursor.walk_append, Cursor.walk_append]
            exact hfirst
          · rw [Cursor.walk_append, Cursor.walk_append]
            exact hleft

end Lexed

end Token

end CompletionGateway
