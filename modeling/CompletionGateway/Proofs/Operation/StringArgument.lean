import CompletionGateway.Proofs.Operation.ArgumentReading
import CompletionGateway.Proofs.Token.Tiling

/-!
# Strings as arguments

A string on one line can be written in many ways, and finding where the literal ends is a different
business from finding out what it means: the lexer passes over escapes without reading them, and
reading the value relies on the quotes being where they should be.  Both come to the same end, so
every string gets through as the value of an argument, in either kind of quotes.
-/

namespace CompletionGateway

/-! ### One token -/

namespace Literal

variable {quote : Char} {text literal : List Char}

/-- Wherever a literal stands, it is one token, and what follows it is read from there on.  Only the
empty string in double quotes can go on: with a third quote it opens a block string. -/
theorem lexed_of_isWritten (hquote : quote = '"' ∨ quote = '\'') (h : IsWritten quote text literal)
    {cursor : Cursor} {behind : List Char} {tokens : List Token}
    (hblock : ¬ ['"', '"', '"'] <+: literal ++ behind)
    (hbehind : Token.Lexed (cursor.walk literal) behind tokens) :
    Token.Lexed cursor (literal ++ behind) (⟨.string (String.ofList literal),
      ⟨cursor.position, (cursor.walk literal).position⟩⟩ :: tokens) := by
  obtain ⟨body, hbody, rfl⟩ := h
  have htext : quote :: (body ++ [quote]) ++ behind = quote :: (body ++ quote :: behind) := by simp
  rw [htext] at hblock ⊢
  have hscan := Lexeme.scan_quoted_of_not_block hquote (isQuotedBody_of_writesAll hquote hbody) hblock
  have hopens : opensTrivia quote = false := by
    rcases hquote with rfl | rfl <;> decide
  have hmore : Token.Lexed (cursor.walk (Lexeme.scan quote (body ++ quote :: behind)).taken)
      (Lexeme.scan quote (body ++ quote :: behind)).rest tokens := by
    rw [hscan]
    exact hbehind
  have hlexed := Token.Lexed.lexeme .nil hopens rfl rfl hmore
  rw [hscan] at hlexed
  exact hlexed

/-- A text that is nothing but a literal makes one token and the end. -/
theorem list_of_isWritten (hquote : quote = '"' ∨ quote = '\'')
    (h : IsWritten quote text literal) :
    Token.list literal = [⟨.string (String.ofList literal),
      ⟨Cursor.start.position, (Cursor.start.walk literal).position⟩⟩,
      Token.finishAt (Cursor.start.walk literal).position] := by
  have hblock : ¬ ['"', '"', '"'] <+: literal ++ [] := by
    obtain ⟨body, hbody, rfl⟩ := h
    rw [List.append_nil]
    exact Lexeme.not_block_of_head? (isQuotedBody_of_writesAll hquote hbody) (by simp)
  have hend : Token.Lexed (Cursor.start.walk literal) []
      [Token.finishAt ((Cursor.start.walk literal).walk []).position] := .finish _ (.inl .nil)
  have hlexed := lexed_of_isWritten hquote h hblock hend
  rw [List.append_nil] at hlexed
  exact hlexed.listFrom_eq (Nat.le_refl _)

theorem stringValue?_of_isWritten (hquote : quote = '"' ∨ quote = '\'')
    (h : IsWritten quote text literal) :
    TokenKind.stringValue? (.string (String.ofList literal)) = some (.ok (String.ofList text)) := by
  rw [TokenKind.stringValue?, String.toList_ofList, readString_of_isWritten hquote h]
  rfl

end Literal

/-! ### One argument -/

namespace Rule

/-- A string that has a value is read as the value. -/
theorem value_of_string {s : Reading} {token : Token} {rest : List Token} {text : String}
    {value : List Char} (hunread : s.unread = token :: rest) (hdepth : s.depth < deepestValue)
    (hkind : token.kind = .string text) (hvalue : Literal.readString text.toList = .ok value) :
    Rule.value.Reads s (.string (String.ofList value)) rest := by
  have hstarts : ∀ s : Reading, s.startsRun token = false := by
    intro s
    rw [Reading.startsRun, hkind]
  have hmeans : token.kind.value? = some (.string (String.ofList value)) := by
    simp only [hkind, TokenKind.value?, hvalue]
  have hinner : (valueAt (valueWithin s.unread.length) token).Answers
      { s with depth := s.depth + 1 } 0 (.string (String.ofList value)) rest :=
    .of_reads (Nat.succ_le_of_lt hdepth) (reads_advance hunread (valueAt_of_value? _ (hstarts _) hmeans))
  have hrule : Rule.value s = nested (valueAt (valueWithin s.unread.length) token) s := by
    rw [Rule.value, valueWithin_of_unread s.unread.length hunread]
  have hnested := Answers.nested (Nat.le_of_lt hdepth) fun _ => hinner
  exact .congr hrule (hnested.1 hdepth)

/-- A fragment of one argument. -/
theorem argumentFragment_of_single {s : Reading} {named colon last : Token} {word : Word}
    {name : String} {value : ArgValue} {tokens : List Token}
    (hunread : s.unread = named :: colon :: (tokens ++ [last])) (hword : Word.IsNamed name word)
    (hnamed : named.kind = word.kind) (hcolon : colon.kind = .punctuator .colon)
    (hlast : last.kind = .finish)
    (hvalue : ∀ s', s'.unread = tokens ++ [last] → s.Agrees s' → Rule.value.Reads s' value [last]) :
    argumentFragment.Reads s [(name, value)] [last] := by
  obtain ⟨hmark, hfinish⟩ := kind_ne_of_isNamed hword
  have hnoMark : StartsOnlyWith [] s.unread := by
    intro token htoken mark hkind
    rw [hunread] at htoken
    obtain rfl : named = token := by simpa using htoken
    exact absurd (hnamed.symm.trans hkind) (hmark mark)
  have hmore : s.toTokenStream.atEnd = false := by
    rw [Reading.atEnd_of_unread hunread, hnamed, beq_eq_false_iff_ne.2 hfinish]
  refine .congr (nextIs_bind_of_startsOnlyWith _ hnoMark (by simp))
    (.congr (looseArguments_of_more s.unread.length [] hmore) ?_)
  refine (reads_advance hunread (argumentName_of_isNamed hword hunread hnamed)).bind
    fun s₁ hunread₁ hagrees₁ => ?_
  refine (reads_advance hunread₁ (expect_of_unread hunread₁ hcolon)).bind
    fun s₂ hunread₂ hagrees₂ => ?_
  refine (hvalue s₂ hunread₂ (hagrees₁.trans hagrees₂)).bind fun s₃ hunread₃ _ => ?_
  -- behind the value the document ends
  have hend : s₃.toTokenStream.atEnd = true := by
    rw [Reading.atEnd_of_unread hunread₃, hlast, beq_self_eq_true]
  exact ⟨s₃, looseArguments_of_end _ _ hend, hunread₃, .refl s₃⟩

end Rule

namespace Arguments

variable {quote : Char} {text literal : List Char} {name : String}

/-- An argument with a literal as its value has the string as its value. -/
theorem parse_of_isWritten (hquote : quote = '"' ∨ quote = '\'')
    (h : Literal.IsWritten quote text literal) (hname : Word.IsName name) :
    parse (name.toList ++ ": ".toList ++ literal) = .ok [(name, .string (String.ofList text))] := by
  let pieces : List SpacedWord :=
    [⟨[], .name name⟩, ⟨[], .mark .colon⟩, ⟨[' '], ⟨.string (String.ofList literal), literal⟩⟩]
  have htext : SpacedWord.text [] pieces = name.toList ++ ": ".toList ++ literal := by
    simp [pieces, SpacedWord.text, Word.name, Word.mark, Punctuator.spelling]
  have hspace : IsTrivia [' '] := .separator (by decide) .nil
  have hlaid : SpacedWord.Laid [] pieces := by
    refine .cons .nil ?_ (.cons .nil ?_ (.of_forall (.inl .nil) ?_))
    · intro next hnext _
      obtain rfl := Option.some.inj hnext
      exact .inr ⟨.colon, rfl, rfl⟩
    · intro _ _ _
      exact .inl ⟨.colon, rfl⟩
    · intro piece hpiece
      obtain rfl := List.mem_singleton.1 hpiece
      exact ⟨hspace, by simp⟩
  have hvalid : ∀ piece ∈ pieces, piece.word.Valid := by
    intro piece hpiece
    simp only [pieces, List.mem_cons, List.not_mem_nil, or_false] at hpiece
    rcases hpiece with rfl | rfl | rfl
    · exact Word.valid_name hname
    · exact Word.valid_mark .colon
    · exact Literal.valid_of_isWritten hquote h
  obtain ⟨tokens, last, htokens, hmake, hlast, -⟩ := hlaid.list_text hvalid
  rw [htext] at htokens
  obtain ⟨named, tokens, rfl, hnamed, hmake⟩ := hmake.cons
  obtain ⟨colon, tokens, rfl, hcolon, hmake⟩ := hmake.cons
  obtain ⟨token, tokens, rfl, hkind, hmake⟩ := hmake.cons
  obtain rfl := hmake.nil
  have hread : Literal.readString (String.ofList literal).toList = .ok text := by
    rw [String.toList_ofList]
    exact Literal.readString_of_isWritten hquote h
  let s : Reading := .start (some (name.toList ++ ": ".toList ++ literal))
    (Token.list (name.toList ++ ": ".toList ++ literal))
  have hunread : s.unread = [named, colon, token] ++ [last] := htokens
  have hfragment := Rule.argumentFragment_of_single hunread ⟨hname, rfl⟩ hnamed hcolon hlast
    fun s' hunread' hagrees => by
      have hdepth : s'.depth = 0 := hagrees.depth
      exact Rule.value_of_string hunread' (by rw [hdepth]; decide) hkind hread
  exact Rule.run_whole_of_reads hfragment hlast rfl

/-- However a string is written in quotes of one kind, the literal is one token wherever it stands,
unless its quotes open a block string; the value of the token is the string, and so is the value of
an argument that it is written for. -/
theorem parse_string (hquote : quote = '"' ∨ quote = '\'')
    (h : Literal.IsWritten quote text literal) (hname : Word.IsName name) :
    (∀ cursor behind tokens, ¬ ['"', '"', '"'] <+: literal ++ behind →
        Token.Lexed (cursor.walk literal) behind tokens →
          Token.Lexed cursor (literal ++ behind) (⟨.string (String.ofList literal),
            ⟨cursor.position, (cursor.walk literal).position⟩⟩ :: tokens)) ∧
      Token.list literal = [⟨.string (String.ofList literal),
        ⟨Cursor.start.position, (Cursor.start.walk literal).position⟩⟩,
        Token.finishAt (Cursor.start.walk literal).position] ∧
      TokenKind.stringValue? (.string (String.ofList literal)) = some (.ok (String.ofList text)) ∧
      parse (name.toList ++ ": ".toList ++ literal) =
        .ok [(name, .string (String.ofList text))] :=
  ⟨fun _ _ _ => Literal.lexed_of_isWritten hquote h, Literal.list_of_isWritten hquote h,
    Literal.stringValue?_of_isWritten hquote h, parse_of_isWritten hquote h hname⟩

/-- A literal in single quotes that holds both quotes, one of them escaped, a line feed by its four
digits and an emoji by digits in braces. -/
def sampleString : List Char :=
  ['\'', '\\', '\'', '"', '\\', 'u', '0', '0', '0', 'A', '\\', 'u', '{', '1', 'f', '6', '0', '0', '}',
    '\'']

theorem parse_sampleString :
    Literal.IsWritten '\'' ['\'', '"', '\n', '😀'] sampleString ∧
      parse ("content".toList ++ ": ".toList ++ sampleString) =
        .ok [("content", .string (String.ofList ['\'', '"', '\n', '😀']))] := by
  have hquote : Literal.Writes '\'' '"' ['"'] :=
    .plain (by decide) (by decide) (by decide) (by decide)
  have hfeed : Literal.Writes '\'' '\n' ('\\' :: 'u' :: ['0', '0', '0', 'A']) :=
    .four (List.all_eq_true.1 (by decide)) rfl rfl
  have hemoji : Literal.Writes '\'' '😀' ('\\' :: 'u' :: '{' :: (['1', 'f', '6', '0', '0'] ++ ['}'])) :=
    .braced (List.all_eq_true.1 (by decide)) (by decide) (by decide) rfl
  have hbody := Literal.WritesAll.cons (.single rfl) (.cons hquote (.cons hfeed (.cons hemoji .nil)))
  have hwritten : Literal.IsWritten '\'' ['\'', '"', '\n', '😀'] sampleString := ⟨_, hbody, rfl⟩
  have hname : Word.IsName "content" := ⟨'c', "ontent".toList, rfl, by decide,
    List.all_eq_true.1 (by decide)⟩
  exact ⟨hwritten, (parse_string (.inr rfl) hwritten hname).2.2.2⟩

end Arguments

end CompletionGateway
