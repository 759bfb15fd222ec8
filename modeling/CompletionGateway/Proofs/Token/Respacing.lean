import CompletionGateway.Proofs.Token.Alike
import CompletionGateway.Proofs.Token.Lookahead

/-!
# Other trivia in a gap

A gap is the trivia between two tokens that do not touch, or before the first token or behind the
last.  With other trivia in it a text has the same tokens, which stand elsewhere.  Before the gap
the lexer sees nothing of it, and behind the gap it goes on with the same text from another place.
Only a line feed must not come right behind a carriage return that the gap begins after.
-/

namespace CompletionGateway

namespace Token

variable {text text' : List Char}

/-! ### One lexeme at two places -/

theorem withoutNotes_kindAt {lexeme lexeme' : Lexeme} (h : lexeme.content = lexeme'.content)
    (place place' : Position) :
    (lexeme.kindAt place).withoutNotes = (lexeme'.kindAt place').withoutNotes := by
  unfold Lexeme.kindAt
  rw [h]
  cases lexeme'.content <;> rfl

/-- What a cursor walks over is cut out between the places where it starts and stops. -/
theorem textIn?_walk (before piece behind : List Char) :
    Span.textIn? ⟨(Cursor.start.walk before).position,
      ((Cursor.start.walk before).walk piece).position⟩ (before ++ (piece ++ behind)) =
        some piece := by
  rw [Span.textIn?, Cursor.offset_walk _ piece, offset_walk_start, ← List.append_assoc]
  exact Text.slice_append before piece behind

/-- The same lexeme makes tokens that are alike. -/
theorem alike_of_lexeme {lexeme lexeme' : Lexeme} {before before' behind behind' : List Char}
    (hcontent : lexeme.content = lexeme'.content) (htaken : lexeme.taken = lexeme'.taken)
    (hne : lexeme.taken ≠ []) (htext : text = before ++ (lexeme.taken ++ behind))
    (htext' : text' = before' ++ (lexeme'.taken ++ behind')) :
    Alike text text'
      ⟨lexeme.kindAt (Cursor.start.walk before).position, ⟨(Cursor.start.walk before).position,
        ((Cursor.start.walk before).walk lexeme.taken).position⟩⟩
      ⟨lexeme'.kindAt (Cursor.start.walk before').position,
        ⟨(Cursor.start.walk before').position,
          ((Cursor.start.walk before').walk lexeme'.taken).position⟩⟩ := by
  subst htext htext'
  refine ⟨withoutNotes_kindAt hcontent _ _, lexeme.taken, textIn?_walk _ _ _, ?_, fun _ => hne⟩
  rw [textIn?_walk, htaken]

theorem alike_finishAt (text text' : List Char) :
    Alike text text' (finishAt (Cursor.start.walk text).position)
      (finishAt (Cursor.start.walk text').position) := by
  have hend : ∀ text : List Char,
      (finishAt (Cursor.start.walk text).position).span.textIn? text = some [] := by
    intro text
    have hwalk := textIn?_walk text [] []
    rwa [List.append_nil, List.append_nil] at hwalk
  exact ⟨rfl, [], hend text, hend text', fun hne => absurd rfl hne⟩

/-- Tokens behind two cursors are alike, and the first ones touch what is before the cursors or not,
both of them. -/
structure AlikeBehind (text text' : List Char) (cursor cursor' : Cursor)
    (tokens tokens' : List Token) : Prop where
  all : AllAlike text text' tokens tokens'
  touch : ∀ first ∈ tokens.head?, ∀ first' ∈ tokens'.head?,
    first.follows (.emptyAt cursor.position) = first'.follows (.emptyAt cursor'.position)

/-- A token that is alike comes before the tokens behind its end. -/
theorem AlikeBehind.cons {stop stop' : Cursor} {token token' : Token} {rest rest' : List Token}
    (h : AlikeBehind text text' stop stop' rest rest') (first : Alike text text' token token')
    (hstop : token.span.stop = stop.position) (hstop' : token'.span.stop = stop'.position) :
    AllAlike text text' (token :: rest) (token' :: rest') := by
  refine .cons first (fun second hsecond second' hsecond' => ?_) h.all
  have htouch := h.touch second hsecond second' hsecond'
  simpa only [follows, Span.emptyAt, hstop, hstop'] using htouch

theorem follows_walk (kind : TokenKind) (cursor : Cursor) (gap : List Char) (stop : Position) :
    (⟨kind, ⟨(cursor.walk gap).position, stop⟩⟩ : Token).follows (.emptyAt cursor.position) =
      gap.isEmpty := by
  rw [Bool.eq_iff_iff, List.isEmpty_iff, follows, beq_iff_eq]
  exact Cursor.offset_walk_eq_iff cursor gap

section Behind

variable {passed passed' gap gap' : List Char}

/-- Two texts end behind gaps both of which are there or not. -/
theorem alikeBehind_finish (hempty : gap.isEmpty = gap'.isEmpty) :
    AlikeBehind (passed ++ gap) (passed' ++ gap') (Cursor.start.walk passed)
      (Cursor.start.walk passed') [finishAt ((Cursor.start.walk passed).walk gap).position]
      [finishAt ((Cursor.start.walk passed').walk gap').position] := by
  constructor
  · rw [← Cursor.walk_append, ← Cursor.walk_append]
    exact .cons (alike_finishAt _ _) (by simp) .nil
  · rintro first hfirst first' hfirst'
    obtain rfl : _ = first := by simpa using hfirst
    obtain rfl : _ = first' := by simpa using hfirst'
    exact (follows_walk _ _ gap _).trans (hempty.trans (follows_walk _ _ gap' _).symm)

/-- The same lexeme stands in two texts, behind gaps both of which are there or not. -/
theorem alikeBehind_lexeme {c : Char} {rest rest' : List Char} {tokens tokens' : List Token}
    (hcontent : (Lexeme.scan c rest).content = (Lexeme.scan c rest').content)
    (htaken : (Lexeme.scan c rest).taken = (Lexeme.scan c rest').taken)
    (hempty : gap.isEmpty = gap'.isEmpty) (hbehind : AlikeBehind
      (passed ++ gap ++ (Lexeme.scan c rest).taken ++ (Lexeme.scan c rest).rest)
      (passed' ++ gap' ++ (Lexeme.scan c rest').taken ++ (Lexeme.scan c rest').rest)
      (Cursor.start.walk (passed ++ gap ++ (Lexeme.scan c rest).taken))
      (Cursor.start.walk (passed' ++ gap' ++ (Lexeme.scan c rest').taken)) tokens tokens') :
    AlikeBehind (passed ++ (gap ++ c :: rest)) (passed' ++ (gap' ++ c :: rest'))
      (Cursor.start.walk passed) (Cursor.start.walk passed')
      (⟨(Lexeme.scan c rest).kindAt ((Cursor.start.walk passed).walk gap).position,
        ⟨((Cursor.start.walk passed).walk gap).position,
          (((Cursor.start.walk passed).walk gap).walk (Lexeme.scan c rest).taken).position⟩⟩ ::
        tokens)
      (⟨(Lexeme.scan c rest').kindAt ((Cursor.start.walk passed').walk gap').position,
        ⟨((Cursor.start.walk passed').walk gap').position,
          (((Cursor.start.walk passed').walk gap').walk (Lexeme.scan c rest').taken).position⟩⟩ ::
        tokens') := by
  have htext : ∀ passed gap rest : List Char, passed ++ (gap ++ c :: rest) =
      passed ++ gap ++ ((Lexeme.scan c rest).taken ++ (Lexeme.scan c rest).rest) := by
    intro passed gap rest
    rw [Lexeme.taken_append_rest, List.append_assoc]
  constructor
  · rw [List.append_assoc _ (Lexeme.scan c rest).taken, ← htext,
      List.append_assoc _ (Lexeme.scan c rest').taken, ← htext] at hbehind
    simp only [← Cursor.walk_append _ _ gap, ← Cursor.walk_append _ _ gap']
    exact hbehind.cons (alike_of_lexeme hcontent htaken (Lexeme.taken_scan_ne_nil c rest)
      (htext _ _ _) (htext _ _ _)) (by simp only [Cursor.walk_append])
      (by simp only [Cursor.walk_append])
  · rintro first hfirst first' hfirst'
    obtain rfl : _ = first := by simpa using hfirst
    obtain rfl : _ = first' := by simpa using hfirst'
    exact (follows_walk _ _ gap _).trans (hempty.trans (follows_walk _ _ gap' _).symm)

end Behind

/-! ### One text behind two cursors -/

/-- The tokens of a text are alike wherever it begins. -/
theorem Lexed.alikeBehind {cursor : Cursor} {tokens : List Token} (h : Lexed cursor text tokens)
    (passed : List Char) (hcursor : cursor = Cursor.start.walk passed) (passed' : List Char) :
    ∃ tokens', Lexed (Cursor.start.walk passed') text tokens' ∧
      AlikeBehind (passed ++ text) (passed' ++ text) cursor (Cursor.start.walk passed') tokens
        tokens' := by
  induction h generalizing passed passed' with
  | finish cursor hgap =>
      subst hcursor
      exact ⟨_, .finish _ hgap, alikeBehind_finish rfl⟩
  | @lexeme cursor start stop gap rest c tokens hgap hc hstart hstop hmore ih =>
      subst hcursor hstart hstop
      obtain ⟨tokens', hlexed, hbehind⟩ := ih (passed ++ gap ++ (Lexeme.scan c rest).taken)
        (by simp only [Cursor.walk_append]) (passed' ++ gap ++ (Lexeme.scan c rest).taken)
      simp only [Cursor.walk_append] at hlexed
      simp only [← Cursor.walk_append] at hbehind
      exact ⟨_, .lexeme hgap hc rfl rfl hlexed, alikeBehind_lexeme rfl rfl rfl hbehind⟩

/-! ### Another gap -/

/-- Trivia that may stand before a text; only at the end of a document a comment needs no line
end. -/
def IsTriviaBefore (gap back : List Char) : Prop := IsTrivia gap ∨ back = [] ∧ IsFinalTrivia gap

theorem IsTriviaBefore.isFinalTrivia {gap back : List Char} (h : IsTriviaBefore gap back) :
    IsFinalTrivia gap := h.elim .inl And.right

/-- The tokens begin behind the cursor and end there as well. -/
theorem Lexed.le_stop {cursor : Cursor} {tokens : List Token} (h : Lexed cursor text tokens) :
    ∀ token ∈ tokens, cursor.position.offset ≤ token.span.stop.offset := by
  induction h with
  | finish cursor hgap =>
      intro token htoken
      obtain rfl := List.mem_singleton.1 htoken
      simp only [finishAt, Span.emptyAt, Cursor.offset_walk]
      omega
  | @lexeme cursor start stop gap rest c tokens hgap hc hstart hstop hmore ih =>
      have hle : cursor.position.offset ≤ stop.position.offset := by
        rw [hstop, hstart, Cursor.offset_walk, Cursor.offset_walk]
        omega
      intro token htoken
      rcases List.mem_cons.1 htoken with rfl | hmem
      · exact hle
      · exact hle.trans (ih token hmem)

section Respaced

variable {cursor : Cursor} {token : Token} {after : List Token} {passed gap gap' back : List Char}
variable (hgap : StartsGap gap) (hgap' : StartsGap gap') (htrivia : IsTriviaBefore gap' back)

include hgap hgap' htrivia

/-- Another gap before the first token. -/
theorem Lexed.respaced_first (h : Lexed cursor (gap ++ back) (token :: after))
    (hcursor : cursor = Cursor.start.walk passed)
    (hplace : token.span.start.offset = Text.byteLength (passed ++ gap)) (passed' : List Char) :
    ∃ tokens', Lexed (Cursor.start.walk passed') (gap' ++ back) tokens' ∧
      AlikeBehind (passed ++ (gap ++ back)) (passed' ++ (gap' ++ back)) cursor
        (Cursor.start.walk passed') (token :: after) tokens' := by
  have hempty : gap.isEmpty = gap'.isEmpty := by rw [hgap.isEmpty, hgap'.isEmpty]
  subst hcursor
  generalize htext : gap ++ back = whole at h
  cases h with
  | finish _ hwhole =>
      -- the text is all gap
      rw [finishAt, Span.emptyAt, ← Cursor.walk_append, offset_walk_start, ← htext,
        ← List.append_assoc, Text.byteLength_append (passed ++ gap)] at hplace
      obtain rfl : back = [] := Text.byteLength_eq_zero.1 (by omega)
      simp only [List.append_nil] at htext ⊢
      subst htext
      exact ⟨_, .finish _ htrivia.isFinalTrivia, alikeBehind_finish hempty⟩
  | @lexeme _ _ _ gap₀ rest c _ hgap₀ hc hstart hstop hmore =>
      subst hstart hstop
      rw [← Cursor.walk_append, offset_walk_start, Text.byteLength_append,
        Text.byteLength_append] at hplace
      obtain ⟨rfl, rfl⟩ := Text.append_inj_of_byteLength htext (by omega)
      have hgap₁ : IsTrivia gap' := htrivia.resolve_right fun h => absurd h.1 (by simp)
      obtain ⟨tokens', hlexed, hbehind⟩ := hmore.alikeBehind
        (passed ++ gap ++ (Lexeme.scan c rest).taken) (by simp only [Cursor.walk_append])
        (passed' ++ gap' ++ (Lexeme.scan c rest).taken)
      simp only [Cursor.walk_append] at hlexed
      simp only [← Cursor.walk_append] at hbehind
      exact ⟨_, .lexeme hgap₁ hc rfl rfl hlexed, alikeBehind_lexeme rfl rfl hempty hbehind⟩

omit hgap hgap' htrivia in
/-- The first of some tokens ends before the gap behind them. -/
theorem Lexed.exists_between {stop : Cursor} {tokens more : List Token}
    {piece rest front : List Char} (h : Lexed stop rest (more ++ tokens))
    (hstop : stop = Cursor.start.walk (passed ++ piece))
    (htext : piece ++ rest = front ++ (gap ++ back))
    (hfront : Text.byteLength (passed ++ front) =
      (more.getLast?.map (·.span.stop.offset)).getD stop.position.offset) :
    ∃ between, front = piece ++ between ∧ rest = between ++ (gap ++ back) := by
  have hle : stop.position.offset ≤ Text.byteLength (passed ++ front) := by
    rw [hfront]
    cases hlast : more.getLast? with
    | none => exact Nat.le_refl _
    | some last => exact h.le_stop last (by simp [List.mem_of_getLast? hlast])
  rw [hstop, offset_walk_start, Text.byteLength_append, Text.byteLength_append] at hle
  obtain ⟨between, rfl⟩ : piece <+: front :=
    Text.prefix_of_byteLength_le ⟨_, rfl⟩ ⟨_, htext.symm⟩ (by omega)
  refine ⟨between, rfl, ?_⟩
  rw [List.append_assoc] at htext
  exact List.append_cancel_left htext

/-- Another gap behind some tokens. -/
theorem Lexed.respaced {tokens before : List Token} (h : Lexed cursor text tokens)
    (hcursor : cursor = Cursor.start.walk passed) (hsplit : tokens = before ++ token :: after)
    {front : List Char} (htext : text = front ++ (gap ++ back))
    (hfront : Text.byteLength (passed ++ front) =
      (before.getLast?.map (·.span.stop.offset)).getD cursor.position.offset)
    (hplace : token.span.start.offset = Text.byteLength (passed ++ (front ++ gap)))
    (hreturn : front.getLast? = some '\r' → (gap' ++ back).head? ≠ some '\n')
    (passed' : List Char) :
    ∃ tokens', Lexed (Cursor.start.walk passed') (front ++ (gap' ++ back)) tokens' ∧
      AlikeBehind (passed ++ text) (passed' ++ (front ++ (gap' ++ back))) cursor
        (Cursor.start.walk passed') tokens tokens' := by
  induction before generalizing cursor text tokens passed front passed' with
  | nil =>
      have hempty : front = [] := by
        rw [Text.byteLength_append, hcursor, List.getLast?_nil, offset_walk_start] at hfront
        exact Text.byteLength_eq_zero.1 (by simpa using hfront)
      subst hempty htext hsplit
      exact h.respaced_first hgap hgap' htrivia hcursor hplace passed'
  | cons first more ih =>
      cases h with
      | finish _ _ =>
          -- the end of the text is no token before another
          have hlength := congrArg List.length hsplit
          simp at hlength
      | @lexeme _ start stop gap₀ rest c tokens hgap₀ hc hstart hstop hmore =>
          obtain ⟨hfirst, rfl⟩ := List.cons.inj hsplit
          subst hcursor hstart hstop
          simp only [← Cursor.walk_append] at hfirst hmore
          have hlast : Text.byteLength (passed ++ front) =
              (more.getLast?.map (·.span.stop.offset)).getD (Cursor.start.walk
                (passed ++ gap₀ ++ (Lexeme.scan c rest).taken)).position.offset := by
            rw [hfront, List.getLast?_cons, ← hfirst]
            cases more.getLast? <;> rfl
          have hwhole : gap₀ ++ (Lexeme.scan c rest).taken ++ (Lexeme.scan c rest).rest =
              front ++ (gap ++ back) := by
            rw [List.append_assoc, Lexeme.taken_append_rest, htext]
          obtain ⟨between, rfl, hrest⟩ :=
            hmore.exists_between (by rw [List.append_assoc]) hwhole hlast
          -- the lexeme does not see which trivia the gap holds
          obtain ⟨rest', hinput, hcontent, htaken, hrest'⟩ :=
            Lexeme.exists_scan_eq (hgap.append back) (hgap'.append back) hrest fun hlast =>
              hreturn (by rw [List.append_assoc, List.getLast?_append, hlast]; rfl)
          obtain ⟨tokens', hlexed, hbehind⟩ := ih hmore rfl rfl hrest (by simpa using hlast)
            (by simpa using hplace)
            (fun hlast => hreturn (by rw [List.getLast?_append, hlast]; rfl))
            (passed' ++ gap₀ ++ (Lexeme.scan c rest').taken)
          rw [← hrest'] at hlexed hbehind
          simp only [Cursor.walk_append] at hlexed
          rw [List.append_assoc, List.append_assoc, ← hinput]
          exact ⟨_, .lexeme hgap₀ hc rfl rfl hlexed, alikeBehind_lexeme hcontent htaken rfl hbehind⟩

end Respaced

/-! ### Texts with another gap -/

/-- The middle part of a text is what stands between two of its tokens, or before the first one or
behind the last. -/
def IsGap (front gap back : List Char) : Prop :=
  ∃ before token after, list (front ++ (gap ++ back)) = before ++ token :: after ∧
    endOf before = Text.byteLength front ∧
      token.span.start.offset = Text.byteLength (front ++ gap)

/-- Other trivia stand where there are trivia.  A line feed does not come right behind a carriage
return. -/
structure Respaced (front gap gap' back : List Char) : Prop where
  isGap : IsGap front gap back
  present : gap ≠ []
  present' : gap' ≠ []
  trivia : IsTriviaBefore gap' back
  apart : front.getLast? = some '\r' → gap'.head? ≠ some '\n'

theorem IsGap.isFinalTrivia {front gap back : List Char} (h : IsGap front gap back) :
    IsFinalTrivia gap := by
  obtain ⟨before, token, after, hlist, hfront, hplace⟩ := h
  obtain ⟨front', gap', back', htext, hfront', hplace', htrivia, -⟩ := exists_gap_list hlist
  rw [List.append_assoc] at htext
  obtain ⟨rfl, hrest⟩ := Text.append_inj_of_byteLength htext (by rw [hfront', hfront])
  rw [hplace, Text.byteLength_append, Text.byteLength_append] at hplace'
  obtain ⟨rfl, -⟩ := Text.append_inj_of_byteLength hrest (by omega)
  exact htrivia

/-- Other trivia leave the tokens alike. -/
theorem Respaced.allAlike {front gap gap' back : List Char} (h : Respaced front gap gap' back) :
    AllAlike (front ++ (gap ++ back)) (front ++ (gap' ++ back)) (list (front ++ (gap ++ back)))
      (list (front ++ (gap' ++ back))) := by
  have hgap := startsGap_of_isFinalTrivia h.isGap.isFinalTrivia h.present
  have hgap' := startsGap_of_isFinalTrivia h.trivia.isFinalTrivia h.present'
  have hreturn : front.getLast? = some '\r' → (gap' ++ back).head? ≠ some '\n' := by
    rw [List.head?_append_of_ne_nil _ h.present']
    exact h.apart
  obtain ⟨before, token, after, hlist, hfront, hplace⟩ := h.isGap
  have hstart : Cursor.start = Cursor.start.walk [] := rfl
  obtain ⟨tokens', hlexed, hbehind⟩ := (lexed_list (front ++ (gap ++ back))).respaced hgap hgap'
    h.trivia hstart hlist rfl hfront.symm hplace hreturn []
  rw [← hlexed.listFrom_eq (Nat.le_refl _)] at hbehind
  exact hbehind.all

end Token

end CompletionGateway
