import CompletionGateway.Proofs.Token.Origin
import CompletionGateway.Proofs.Token.Spacing

/-!
# Tokens tile their text

Reading a text is a relation without a bound on the number of tokens: trivia, a lexeme, trivia, a
lexeme and so on up to trivia before the end.  It relates every text to exactly one list of tokens,
the list that the lexer makes.  From it follows where tokens lie: they stand one behind the other,
each covers what it spells, and the text between them is trivia.
-/

namespace CompletionGateway

/-- The text that a token covers, as far as its kind tells.  A fault can cover any text. -/
def TokenKind.written? : TokenKind → Option (List Char)
  | punctuator mark => some mark.spelling.toList
  | name text | int text | float text | string text => some text.toList
  | bool true => some "true".toList
  | bool false => some "false".toList
  | null => some "null".toList
  | finish => some []
  | error _ _ => none

namespace Lexeme

/-! ### What a lexeme spells -/

/-- The lexeme covers what its token spells. -/
def Spells (lexeme : Lexeme) : Prop :=
  ∀ kind, lexeme.content = .ok kind → kind.written? = some lexeme.taken

section Spells

variable {taken rest : List Char}

theorem spells_of_error (fault : LexicalFault) : Spells ⟨.error fault, taken, rest⟩ :=
  fun _ hkind => by cases hkind

theorem spells_of_ok {kind : TokenKind} (h : kind.written? = some taken) :
    Spells ⟨.ok kind, taken, rest⟩ := fun _ hkind => Except.ok.inj hkind ▸ h

theorem spells_mark {c : Char} {mark : Punctuator} (h : mark? c = some mark) :
    Spells ⟨.ok (.punctuator mark), [c], rest⟩ := by
  refine spells_of_ok ?_
  unfold mark? at h
  split at h
  case h_12 => cases h
  all_goals
    obtain rfl := Option.some.inj h
    rfl

theorem spells_scanDots (text : List Char) : (scanDots text).Spells := by
  unfold scanDots
  split
  · exact spells_of_ok rfl
  · exact spells_of_error _
  · exact spells_of_error _

theorem spells_finishNumber (isFloat : Bool) : (finishNumber isFloat taken rest).Spells := by
  unfold finishNumber
  split
  · exact spells_of_error _
  · cases isFloat <;> exact spells_of_ok (by simp [TokenKind.written?])

theorem spells_scanNumberTail : (scanNumberTail taken rest).Spells := by
  simp only [scanNumberTail]
  split
  · exact spells_finishNumber _
  · split
    · exact spells_finishNumber _
    · exact spells_of_error _

theorem spells_scanUnsigned (sign text : List Char) : (scanUnsigned sign text).Spells := by
  unfold scanUnsigned
  split
  · split
    · exact spells_of_error _
    · exact spells_scanNumberTail
  · split
    · exact spells_scanNumberTail
    · exact spells_of_error _

theorem spells_scanNumber (text : List Char) : (scanNumber text).Spells := by
  unfold scanNumber
  split <;> exact spells_scanUnsigned _ _

theorem spells_ofStringEnd (quotes : List Char) (tail : StringEnd) :
    (ofStringEnd quotes tail).Spells := by
  unfold ofStringEnd
  split
  · exact spells_of_ok (by simp [TokenKind.written?])
  · exact spells_of_error _

theorem written?_wordKind (word : List Char) : (wordKind word).written? = some word := by
  unfold wordKind
  split
  · rename_i h
    rw [h]
    rfl
  split
  · rename_i h
    rw [h]
    rfl
  split
  · rename_i h
    rw [h]
    rfl
  · simp [TokenKind.written?]

theorem spells_scan (c : Char) (rest : List Char) : (scan c rest).Spells := by
  by_cases hquote : c = '"' ∨ c = '\''
  · obtain ⟨quotes, tail, hscan, -⟩ := exists_ofStringEnd rest hquote
    rw [hscan]
    exact spells_ofStringEnd quotes tail
  rw [not_or] at hquote
  unfold scan
  split
  · rename_i mark hmark
    exact spells_mark hmark
  rw [if_neg hquote.1, if_neg hquote.2]
  split
  · exact spells_scanDots _
  split
  · exact spells_of_ok (written?_wordKind _)
  split
  · exact spells_scanNumber _
  · exact spells_of_error _

end Spells

/-! ### Lexemes are not empty -/

section Front

variable {taken rest : List Char}

theorem front_brokenNumber (fault : LexicalFault) :
    taken <+: (brokenNumber fault taken rest).taken := List.prefix_append _ _

theorem front_finishNumber (isFloat : Bool) :
    taken <+: (finishNumber isFloat taken rest).taken := by
  unfold finishNumber
  split
  · exact front_brokenNumber _
  · exact List.prefix_rfl

theorem front_scanNumberTail : taken <+: (scanNumberTail taken rest).taken := by
  simp only [scanNumberTail, List.append_assoc]
  split
  · exact (List.prefix_append _ _).trans (front_finishNumber _)
  · split
    · exact (List.prefix_append _ _).trans (front_finishNumber _)
    · exact (List.prefix_append _ _).trans (front_brokenNumber _)

theorem front_scanUnsigned (sign text : List Char) : sign <+: (scanUnsigned sign text).taken := by
  unfold scanUnsigned
  split
  · split
    · exact (List.prefix_append _ _).trans (front_brokenNumber _)
    · exact (List.prefix_append _ _).trans front_scanNumberTail
  · split
    · exact (List.prefix_append _ _).trans front_scanNumberTail
    · exact List.prefix_rfl

theorem taken_scanNumber_ne_nil {c : Char} (rest : List Char) (hc : c = '-' ∨ isDigit c = true) :
    (scanNumber (c :: rest)).taken ≠ [] := by
  rcases hc with rfl | hdigit
  · exact (front_scanUnsigned ['-'] rest).ne_nil (by simp)
  have hminus : c ≠ '-' := by rintro rfl; revert hdigit; decide
  have hnumber : scanNumber (c :: rest) = scanUnsigned [] (c :: rest) := by
    simp [scanNumber, hminus]
  rw [hnumber]
  unfold scanUnsigned
  split
  · rename_i more htext
    split
    · exact (front_brokenNumber _).ne_nil (by simp)
    · exact front_scanNumberTail.ne_nil (by simp)
  · have hstart : startsWith isDigit (c :: rest) = true := hdigit
    rw [if_pos hstart]
    exact front_scanNumberTail.ne_nil (by simp [hdigit])

end Front

theorem taken_scan_ne_nil (c : Char) (rest : List Char) : (scan c rest).taken ≠ [] := by
  unfold scan
  split
  · simp
  split
  · unfold scanDots
    split <;> simp
  split
  · split <;> simp [taken_ofStringEnd]
  split
  · simp [taken_ofStringEnd]
  split
  · simp
  split
  · rename_i hc
    exact taken_scanNumber_ne_nil rest (by simpa using hc)
  · simp

/-- A lexeme begins with the first character of its text. -/
theorem exists_taken_eq_cons (c : Char) (rest : List Char) :
    ∃ tail, (scan c rest).taken = c :: tail ∧ tail ++ (scan c rest).rest = rest := by
  obtain ⟨d, tail, htaken⟩ := List.exists_cons_of_ne_nil (taken_scan_ne_nil c rest)
  have hcovers := taken_append_rest c rest
  rw [htaken, List.cons_append] at hcovers
  obtain ⟨rfl, hrest⟩ := List.cons.inj hcovers
  exact ⟨tail, htaken, hrest⟩

theorem length_rest_scan (c : Char) (rest : List Char) :
    (scan c rest).rest.length ≤ rest.length := by
  obtain ⟨tail, -, hrest⟩ := exists_taken_eq_cons c rest
  have hlength := congrArg List.length hrest
  rw [List.length_append] at hlength
  omega

end Lexeme

/-! ### Reading a text -/

/-- Whether trivia begin with a character. -/
def opensTrivia (c : Char) : Bool := isSeparator c || c == '#'

/-- A text is one line, or there is a first line end in it. -/
theorem exists_lineEnd_or (text : List Char) : (∀ c ∈ text, c ≠ '\n' ∧ c ≠ '\r') ∨
    ∃ body lineEnd rest, text = body ++ lineEnd :: rest ∧ (∀ c ∈ body, c ≠ '\n' ∧ c ≠ '\r') ∧
      (lineEnd = '\n' ∨ lineEnd = '\r') := by
  induction text with
  | nil => exact .inl (by simp)
  | cons c text ih =>
      by_cases hc : c = '\n' ∨ c = '\r'
      · exact .inr ⟨[], c, text, rfl, by simp, hc⟩
      rw [not_or] at hc
      rcases ih with hall | ⟨body, lineEnd, rest, rfl, hbody, hend⟩
      · exact .inl (by simpa using ⟨hc, hall⟩)
      · exact .inr ⟨c :: body, lineEnd, rest, rfl, by simpa using ⟨hc, hbody⟩, hend⟩

/-- A text is trivia, or there are trivia and then something else. -/
theorem isFinalTrivia_or (text : List Char) : IsFinalTrivia text ∨
    ∃ gap c rest, text = gap ++ c :: rest ∧ IsTrivia gap ∧ opensTrivia c = false := by
  induction hlength : text.length using Nat.strong_induction_on generalizing text with
  | _ length ih =>
    subst hlength
    -- what is found behind more trivia is found behind all of them
    have hmore : ∀ front more, text = front ++ more → front ≠ [] →
        (∀ gap, IsTrivia gap → IsTrivia (front ++ gap)) → IsFinalTrivia text ∨
          ∃ gap c rest, text = gap ++ c :: rest ∧ IsTrivia gap ∧ opensTrivia c = false := by
      rintro front more rfl hne hfront
      have hshort : more.length < (front ++ more).length := by
        have hpos := List.length_pos_iff.2 hne
        simp only [List.length_append]
        omega
      rcases ih more.length hshort more rfl with
        (htrivia | ⟨gap, body, hgap, hbody, rfl⟩) | ⟨gap, c, rest, rfl, hgap, hc⟩
      · exact .inl (.inl (hfront more htrivia))
      · exact .inl (.inr ⟨front ++ gap, body, hfront gap hgap, hbody, by simp⟩)
      · exact .inr ⟨front ++ gap, c, rest, by simp, hfront gap hgap, hc⟩
    cases text with
    | nil => exact .inl (.inl .nil)
    | cons c rest =>
        by_cases hseparator : isSeparator c = true
        · exact hmore [c] rest rfl (by simp) fun gap hgap => .separator hseparator hgap
        by_cases hhash : c = '#'
        · subst hhash
          rcases exists_lineEnd_or rest with hall | ⟨body, lineEnd, more, rfl, hbody, hend⟩
          · exact .inl (.inr ⟨[], rest, .nil, hall, rfl⟩)
          · refine hmore ('#' :: (body ++ [lineEnd])) more (by simp) (by simp) fun gap hgap => ?_
            simpa using IsTrivia.comment hbody hend hgap
        · exact .inr ⟨[], c, rest, rfl, .nil, by simp [opensTrivia, hseparator, hhash]⟩

namespace Token

/-- Reading a text from a cursor on gives these tokens. -/
inductive Lexed : Cursor → List Char → List Token → Prop
  | finish (cursor : Cursor) {gap : List Char} (hgap : IsFinalTrivia gap) :
      Lexed cursor gap [finishAt (cursor.walk gap).position]
  | lexeme {cursor start stop : Cursor} {gap rest : List Char} {c : Char} {tokens : List Token}
      (hgap : IsTrivia gap) (hc : opensTrivia c = false) (hstart : start = cursor.walk gap)
      (hstop : stop = start.walk (Lexeme.scan c rest).taken)
      (hmore : Lexed stop (Lexeme.scan c rest).rest tokens) :
      Lexed cursor (gap ++ c :: rest) (⟨(Lexeme.scan c rest).kindAt start.position,
        ⟨start.position, stop.position⟩⟩ :: tokens)

/-- The lexer reads the text up to its end. -/
theorem Lexed.listFrom_eq {cursor : Cursor} {text : List Char} {tokens : List Token} {limit : Nat}
    (h : Lexed cursor text tokens) (hlimit : text.length ≤ limit) :
    listFrom limit cursor text = tokens := by
  induction h generalizing limit with
  | finish cursor hgap =>
      have hlength := triviaLength_of_isFinalTrivia hgap
      cases limit with
      | zero =>
          obtain rfl := List.eq_nil_of_length_eq_zero (Nat.le_zero.1 hlimit)
          rfl
      | succ limit => simp [listFrom_succ, hlength]
  | @lexeme cursor start stop gap rest c tokens hgap hc hstart hstop hmore ih =>
      subst hstart hstop
      simp only [opensTrivia, Bool.or_eq_false_iff, beq_eq_false_iff_ne] at hc
      have hzero : triviaLength false (c :: rest) = 0 := by simp [triviaLength, hc]
      have hshort := Lexeme.length_rest_scan c rest
      simp only [List.length_append, List.length_cons] at hlimit
      cases limit with
      | zero => omega
      | succ limit =>
          simp only [listFrom_succ, triviaLength_append _ hgap, hzero, Nat.add_zero, List.take_left',
            List.drop_left']
          rw [ih (by omega)]

theorem exists_lexed (cursor : Cursor) (text : List Char) : ∃ tokens, Lexed cursor text tokens := by
  induction hlength : text.length using Nat.strong_induction_on generalizing cursor text with
  | _ length ih =>
    subst hlength
    rcases isFinalTrivia_or text with hgap | ⟨gap, c, rest, rfl, hgap, hc⟩
    · exact ⟨_, .finish cursor hgap⟩
    · have hshort := Lexeme.length_rest_scan c rest
      have hsmall : (Lexeme.scan c rest).rest.length < (gap ++ c :: rest).length := by
        simp only [List.length_append, List.length_cons]
        omega
      obtain ⟨tokens, hmore⟩ := ih _ hsmall
        ((cursor.walk gap).walk (Lexeme.scan c rest).taken) (Lexeme.scan c rest).rest rfl
      exact ⟨_, .lexeme hgap hc rfl rfl hmore⟩

theorem lexed_listFrom {limit : Nat} (cursor : Cursor) {text : List Char}
    (hlimit : text.length ≤ limit) : Lexed cursor text (listFrom limit cursor text) := by
  obtain ⟨tokens, htokens⟩ := exists_lexed cursor text
  rwa [htokens.listFrom_eq hlimit]

theorem lexed_list (text : List Char) : Lexed .start text (list text) :=
  lexed_listFrom .start (Nat.le_refl _)

/-! ### Where tokens lie -/

/-- Where the last of some tokens ends, or the beginning of the text. -/
def endOf (tokens : List Token) : Nat := (tokens.getLast?.map (·.span.stop.offset)).getD 0

/-- What it means that tokens tile a text. -/
structure Tiling (text : List Char) (tokens : List Token) : Prop where
  /-- The last token and no other is the end of the text, where it stands. -/
  finish : ∃ front place, tokens = front ++ [finishAt place] ∧
    place.offset = Text.byteLength text ∧ ∀ token ∈ front, token.kind ≠ .finish
  /-- A token begins and ends between two characters and covers what it spells; only the end covers
  nothing. -/
  covers : ∀ token ∈ tokens, ∃ before covered behind, text = before ++ covered ++ behind ∧
    token.span.start.offset = Text.byteLength before ∧
      token.span.stop.offset = Text.byteLength (before ++ covered) ∧
        (token.kind ≠ .finish → covered ≠ []) ∧
          ∀ spelling ∈ token.kind.written?, covered = spelling
  /-- No token begins before the ones in front of it end. -/
  ordered : tokens.Pairwise fun first second => first.span.stop.offset ≤ second.span.start.offset
  /-- The text between tokens is trivia, and only the last comment needs no line end. -/
  gaps : ∀ front token back, tokens = front ++ token :: back → ∃ before gap behind,
    text = before ++ gap ++ behind ∧ Text.byteLength before = endOf front ∧
      Text.byteLength (before ++ gap) = token.span.start.offset ∧
        IsFinalTrivia gap ∧ (token.kind ≠ .finish → IsTrivia gap)

theorem offset_walk_start (text : List Char) :
    (Cursor.start.walk text).position.offset = Text.byteLength text := by
  rw [Cursor.offset_walk]
  exact Nat.zero_add _

theorem kindAt_scan_ne_finish (c : Char) (rest : List Char) (place : Position) :
    (Lexeme.scan c rest).kindAt place ≠ .finish := by
  simp only [Lexeme.kindAt]
  split
  · rename_i kind hcontent
    exact (Lexeme.kind_of_content hcontent).2
  · simp

theorem written?_kindAt_scan {c : Char} {rest : List Char} {place : Position}
    {spelling : List Char}
    (h : ((Lexeme.scan c rest).kindAt place).written? = some spelling) :
    (Lexeme.scan c rest).taken = spelling := by
  simp only [Lexeme.kindAt] at h
  split at h
  · rename_i kind hcontent
    exact Option.some.inj ((Lexeme.spells_scan c rest kind hcontent).symm.trans h)
  · cases h

namespace Lexed

variable {cursor : Cursor} {text : List Char} {tokens : List Token}

theorem exists_finish (h : Lexed cursor text tokens) : ∃ front place,
    tokens = front ++ [finishAt place] ∧ place = (cursor.walk text).position ∧
      ∀ token ∈ front, token.kind ≠ .finish := by
  induction h with
  | finish cursor hgap => exact ⟨[], _, rfl, rfl, by simp⟩
  | @lexeme cursor start stop gap rest c tokens hgap hc hstart hstop hmore ih =>
      obtain ⟨front, place, rfl, hplace, hfront⟩ := ih
      refine ⟨_ :: front, place, rfl, ?_, ?_⟩
      · rw [hplace, hstop, hstart, ← Cursor.walk_append, Lexeme.taken_append_rest,
          ← Cursor.walk_append]
      · intro token htoken
        rcases List.mem_cons.1 htoken with rfl | hmem
        · exact kindAt_scan_ne_finish _ _ _
        · exact hfront token hmem

/-- Tokens begin behind the cursor, and one behind the other. -/
theorem ordered (h : Lexed cursor text tokens) :
    (∀ token ∈ tokens, cursor.position.offset ≤ token.span.start.offset) ∧
      tokens.Pairwise fun first second => first.span.stop.offset ≤ second.span.start.offset := by
  induction h with
  | finish cursor hgap =>
      refine ⟨?_, List.pairwise_singleton _ _⟩
      intro token htoken
      obtain rfl := List.mem_singleton.1 htoken
      simp only [finishAt, Span.emptyAt, Cursor.offset_walk]
      omega
  | @lexeme cursor start stop gap rest c tokens hgap hc hstart hstop hmore ih =>
      have hfirst : cursor.position.offset ≤ start.position.offset := by
        rw [hstart, Cursor.offset_walk]
        omega
      have hbefore : start.position.offset ≤ stop.position.offset := by
        rw [hstop, Cursor.offset_walk]
        omega
      refine ⟨?_, List.pairwise_cons.2 ⟨ih.1, ih.2⟩⟩
      intro token htoken
      rcases List.mem_cons.1 htoken with rfl | hmem
      · exact hfirst
      · exact hfirst.trans (hbefore.trans (ih.1 token hmem))

/-- Before each token there are trivia, from the end of the token in front of it on. -/
theorem exists_gap {passed : List Char} (h : Lexed cursor text tokens)
    (hcursor : cursor = Cursor.start.walk passed) {front back : List Token} {token : Token}
    (hsplit : tokens = front ++ token :: back) : ∃ before gap behind,
      passed ++ text = before ++ gap ++ behind ∧ (front = [] → before = passed) ∧
        (∀ last ∈ front.getLast?, last.span.stop.offset = Text.byteLength before) ∧
          Text.byteLength (before ++ gap) = token.span.start.offset ∧
            IsFinalTrivia gap ∧ (token.kind ≠ .finish → IsTrivia gap) := by
  induction h generalizing passed front with
  | @finish cursor gap hgap =>
      cases front with
      | nil =>
          obtain ⟨rfl, -⟩ := List.cons.inj hsplit
          refine ⟨passed, gap, [], by simp, fun _ => rfl, by simp, ?_, hgap,
            fun hne => absurd rfl hne⟩
          rw [hcursor, ← Cursor.walk_append]
          exact (offset_walk_start _).symm
      | cons first front =>
          obtain ⟨-, hmore⟩ := List.cons.inj hsplit
          cases front <;> cases hmore
  | @lexeme cursor start stop gap rest c tokens hgap hc hstart hstop hmore ih =>
      have hstart' : start = Cursor.start.walk (passed ++ gap) := by
        rw [hstart, hcursor, Cursor.walk_append]
      have hstop' : stop = Cursor.start.walk (passed ++ gap ++ (Lexeme.scan c rest).taken) := by
        rw [hstop, hstart', ← Cursor.walk_append]
      cases front with
      | nil =>
          obtain ⟨rfl, -⟩ := List.cons.inj hsplit
          refine ⟨passed, gap, c :: rest, by simp, fun _ => rfl, by simp, ?_, .inl hgap,
            fun _ => hgap⟩
          rw [hstart']
          exact (offset_walk_start _).symm
      | cons first front =>
          obtain ⟨rfl, htokens⟩ := List.cons.inj hsplit
          obtain ⟨before, gap', behind, htext, hnil, hlast, hfound⟩ := ih hstop' htokens
          refine ⟨before, gap', behind, ?_, by simp, ?_, hfound⟩
          · rw [← htext, List.append_assoc, Lexeme.taken_append_rest, List.append_assoc]
          · intro last hmem
            cases front with
            | nil =>
                obtain rfl : _ = last := by simpa using hmem
                rw [hnil rfl, hstop']
                exact offset_walk_start _
            | cons second front => exact hlast last (by simpa using hmem)

end Lexed

/-- The end of a text is its last token and no other. -/
theorem exists_finish_list (text : List Char) : ∃ front place,
    list text = front ++ [finishAt place] ∧ place.offset = Text.byteLength text ∧
      ∀ token ∈ front, token.kind ≠ .finish := by
  obtain ⟨front, place, hlist, rfl, hfront⟩ := (lexed_list text).exists_finish
  exact ⟨front, _, hlist, offset_walk_start text, hfront⟩

/-- A token covers a piece of its text, which is what it spells. -/
theorem exists_covered {text : List Char} {token : Token} (h : token ∈ list text) :
    ∃ before covered behind, text = before ++ covered ++ behind ∧
      token.span.start.offset = Text.byteLength before ∧
        token.span.stop.offset = Text.byteLength (before ++ covered) ∧
          (token.kind ≠ .finish → covered ≠ []) ∧
            ∀ spelling ∈ token.kind.written?, covered = spelling := by
  by_cases hfinish : token.kind = .finish
  · obtain ⟨front, place, hlist, hplace, hfront⟩ := exists_finish_list text
    rw [hlist] at h
    rcases List.mem_append.1 h with hmem | hmem
    · exact absurd hfinish (hfront token hmem)
    obtain rfl := List.mem_singleton.1 hmem
    refine ⟨text, [], [], by simp, hplace, ?_, fun hne => absurd rfl hne, ?_⟩
    · rw [List.append_nil]
      exact hplace
    · intro spelling hspelling
      exact Option.some.inj hspelling
  · obtain ⟨before, c, rest, rfl, hkind, hstart, hstop⟩ := exists_origin h hfinish
    refine ⟨before, (Lexeme.scan c rest).taken, (Lexeme.scan c rest).rest, ?_, ?_, ?_, fun _ =>
      Lexeme.taken_scan_ne_nil c rest, ?_⟩
    · rw [List.append_assoc, Lexeme.taken_append_rest]
    · rw [hstart]
      exact offset_walk_start _
    · rw [hstop]
      exact offset_walk_start _
    · intro spelling hspelling
      rw [hkind] at hspelling
      exact written?_kindAt_scan hspelling

/-- Between the tokens of a text there are trivia. -/
theorem exists_gap_list {text : List Char} {front back : List Token} {token : Token}
    (h : list text = front ++ token :: back) : ∃ before gap behind,
      text = before ++ gap ++ behind ∧ Text.byteLength before = endOf front ∧
        Text.byteLength (before ++ gap) = token.span.start.offset ∧
          IsFinalTrivia gap ∧ (token.kind ≠ .finish → IsTrivia gap) := by
  have hstart : Cursor.start = Cursor.start.walk [] := rfl
  obtain ⟨before, gap, behind, htext, hnil, hlast, hfound⟩ := (lexed_list text).exists_gap hstart h
  refine ⟨before, gap, behind, htext, ?_, hfound⟩
  rcases List.eq_nil_or_concat front with rfl | ⟨more, last, rfl⟩
  · rw [hnil rfl]
    rfl
  · rw [← hlast last (by simp)]
    simp [endOf]

/-- The tokens of a text tile it. -/
theorem list_tiling (text : List Char) : Tiling text (list text) where
  finish := exists_finish_list text
  covers _ htoken := exists_covered htoken
  ordered := (lexed_list text).ordered.2
  gaps _ _ _ hsplit := exists_gap_list hsplit

end Token

end CompletionGateway
