import CompletionGateway.Proofs.Operation.Apart
import CompletionGateway.Proofs.Operation.Spelling
import CompletionGateway.Proofs.Token.Respacing

/-!
# Lexing printed words

Words are printed one behind another with trivia between them.  Lexing the printed text gives the
words back: the kind of each, with the text that its span covers, and one end.  Some trivia before
every word but the first are enough for this; words that may touch need none.
-/

namespace CompletionGateway

/-- What a token is, and the text that it covers. -/
def Token.withText (text : List Char) (token : Token) : TokenKind × Option (List Char) :=
  (token.kind, token.span.textIn? text)

namespace SpacedWord

/-- The spans of the tokens cover the words. -/
theorem withText_tokens (passed last : List Char) (pieces : List SpacedWord) :
    (tokens last (Cursor.start.walk passed) pieces).map
        (Token.withText (passed ++ text last pieces)) =
      pieces.map (fun piece => (piece.word.kind, some piece.word.text)) ++
        [(.finish, some [])] := by
  induction pieces generalizing passed with
  | nil =>
      have hend := Token.textIn?_walk (passed ++ last) [] []
      rw [Cursor.walk_nil, Cursor.walk_append, List.append_nil, List.append_nil] at hend
      exact congrArg (fun covered => [(TokenKind.finish, covered)]) hend
  | cons piece rest ih =>
      have hmore := ih (passed ++ piece.gap ++ piece.word.text)
      have hcovered := Token.textIn?_walk (passed ++ piece.gap) piece.word.text (text last rest)
      simp only [List.append_assoc, Cursor.walk_append] at hmore hcovered
      simp only [tokens, text, List.map_cons, List.cons_append, hmore, Token.withText, hcovered]

/-- Trivia before every word but the first part the words. -/
theorem laid_of_tail {last : List Char} {pieces : List SpacedWord} (hlast : IsFinalTrivia last)
    (htrivia : ∀ piece ∈ pieces, IsTrivia piece.gap)
    (hparted : ∀ piece ∈ pieces.tail, piece.gap ≠ []) : Laid last pieces := by
  cases pieces with
  | nil => exact .of_forall hlast nofun
  | cons piece rest =>
      have hrest : Laid last rest := .of_forall hlast fun next hnext =>
        ⟨htrivia next (List.mem_cons_of_mem piece hnext), hparted next hnext⟩
      refine hrest.cons (htrivia piece List.mem_cons_self) fun next hnext hgap => ?_
      exact absurd hgap (hparted next (List.mem_of_mem_head? hnext))

end SpacedWord

namespace Token

/-- Lexing gives the words of a laid text back. -/
theorem withText_list {last : List Char} {pieces : List SpacedWord}
    (h : SpacedWord.Laid last pieces) (hvalid : ∀ piece ∈ pieces, piece.word.Valid) :
    (list (SpacedWord.text last pieces)).map (withText (SpacedWord.text last pieces)) =
      pieces.map (fun piece => (piece.word.kind, some piece.word.text)) ++
        [(.finish, some [])] := by
  rw [SpacedWord.list_text (h.wellSpaced hvalid)]
  exact SpacedWord.withText_tokens [] last pieces

/-- Lexing undoes printing, whatever trivia stand before the words and at the end. -/
theorem list_printed {last : List Char} {pieces : List SpacedWord}
    (hwords : ∀ piece ∈ pieces, piece.word.Valid ∧ IsTrivia piece.gap)
    (hparted : ∀ piece ∈ pieces.tail, piece.gap ≠ []) (hlast : IsFinalTrivia last) :
    (list (SpacedWord.text last pieces)).map (withText (SpacedWord.text last pieces)) =
      pieces.map (fun piece => (piece.word.kind, some piece.word.text)) ++
        [(.finish, some [])] :=
  withText_list (SpacedWord.laid_of_tail hlast (fun piece hpiece => (hwords piece hpiece).2)
    hparted) fun piece hpiece => (hwords piece hpiece).1

/-- A value word, an empty string, a block string with hidden quotes, a numeral and the three dots;
a comment ends the text. -/
def printedSample : List SpacedWord :=
  [⟨[], .name "true"⟩,
    ⟨[' '], ⟨.string "\"\"", ['"', '"']⟩⟩,
    ⟨['#', '"', '\r', '\n'],
      ⟨.string "\"\"\"\\\"\"\"\"\"\"",
        ['"', '"', '"', '\\', '"', '"', '"', '"', '"', '"']⟩⟩,
    ⟨[','], ⟨.float "-0.5E+1", ['-', '0', '.', '5', 'E', '+', '1']⟩⟩,
    ⟨['\t'], .mark .ellipsis⟩]

theorem list_printed_sample :
    (∀ piece ∈ printedSample, piece.word.Valid ∧ IsTrivia piece.gap) ∧
      (∀ piece ∈ printedSample.tail, piece.gap ≠ []) ∧ IsFinalTrivia ['\uFEFF', '#', '{'] ∧
        (list (SpacedWord.text ['\uFEFF', '#', '{'] printedSample)).map
            (withText (SpacedWord.text ['\uFEFF', '#', '{'] printedSample)) =
          [(.bool true, some ['t', 'r', 'u', 'e']),
            (.string "\"\"", some ['"', '"']),
            (.string "\"\"\"\\\"\"\"\"\"\"",
              some ['"', '"', '"', '\\', '"', '"', '"', '"', '"', '"']),
            (.float "-0.5E+1", some ['-', '0', '.', '5', 'E', '+', '1']),
            (.punctuator .ellipsis, some ['.', '.', '.']), (.finish, some [])] := by
  have hname : (Word.name "true").Valid := Word.valid_name ⟨_, _, rfl, by decide, by simp; decide⟩
  have hempty : Word.Valid ⟨.string "\"\"", ['"', '"']⟩ :=
    .quoted (.inl rfl) .nil
  have hblock : Word.Valid ⟨.string "\"\"\"\\\"\"\"\"\"\"",
      ['"', '"', '"', '\\', '"', '"', '"', '"', '"', '"']⟩ :=
    .block (.hidden .close)
  have hfive : Lexeme.IsDigits ['5'] := ⟨List.cons_ne_nil _ _, List.forall_mem_singleton.2 rfl⟩
  have hone : Lexeme.IsDigits ['1'] := ⟨List.cons_ne_nil _ _, List.forall_mem_singleton.2 rfl⟩
  have hnumeral : Word.Valid ⟨.float "-0.5E+1", ['-', '0', '.', '5', 'E', '+', '1']⟩ :=
    .numeral (.inr rfl) .zero (.present hfive) (.present (.inr rfl) (.inr (.inl rfl)) hone)
  have hbody : ∀ c ∈ ['"'], c ≠ '\n' ∧ c ≠ '\r' :=
    List.forall_mem_singleton.2 (by decide)
  have hcomment : IsTrivia ['#', '"', '\r', '\n'] :=
    .comment hbody (.inr rfl) (.separator (by decide) .nil)
  have hwords : ∀ piece ∈ printedSample, piece.word.Valid ∧ IsTrivia piece.gap := by
    simp only [printedSample, List.forall_mem_cons]
    exact ⟨⟨hname, .nil⟩, ⟨hempty, .separator (by decide) .nil⟩, ⟨hblock, hcomment⟩,
      ⟨hnumeral, .separator (by decide) .nil⟩, ⟨Word.valid_mark _, .separator (by decide) .nil⟩,
      nofun⟩
  have hparted : ∀ piece ∈ printedSample.tail, piece.gap ≠ [] := by
    simp [printedSample]
  have hlast : IsFinalTrivia ['\uFEFF', '#', '{'] :=
    .inr ⟨['\uFEFF'], ['{'], .separator (by decide) .nil,
      List.forall_mem_singleton.2 (by decide), rfl⟩
  exact ⟨hwords, hparted, hlast, list_printed hwords hparted hlast⟩

end Token

end CompletionGateway
