import Mathlib.Data.List.Chain
import CompletionGateway.Proofs.Text.Offset
import CompletionGateway.Proofs.Token.Passing

/-!
# Words and the trivia between them

A text is written as words, each behind some trivia, and trivia at the end.  Lexing it gives the
words back as tokens, with the spans that walking over the text gives, if no word is followed by
text that goes on with it.  Two tokens touch exactly if there is no trivia between their words.
-/

namespace CompletionGateway

/-- Trivia that can stand before a word: separators and comments with their line ends. -/
inductive IsTrivia : List Char → Prop
  | nil : IsTrivia []
  | separator {c : Char} {rest : List Char} (hc : isSeparator c = true) (hrest : IsTrivia rest) :
      IsTrivia (c :: rest)
  | comment {body rest : List Char} {lineEnd : Char} (hbody : ∀ c ∈ body, c ≠ '\n' ∧ c ≠ '\r')
      (hend : lineEnd = '\n' ∨ lineEnd = '\r') (hrest : IsTrivia rest) :
      IsTrivia ('#' :: (body ++ lineEnd :: rest))

/-- Trivia at the end of a text.  A last comment needs no line end. -/
def IsFinalTrivia (text : List Char) : Prop :=
  IsTrivia text ∨
    ∃ front body, IsTrivia front ∧ (∀ c ∈ body, c ≠ '\n' ∧ c ≠ '\r') ∧ text = front ++ '#' :: body

theorem triviaLength_comment {body : List Char} (rest : List Char)
    (hbody : ∀ c ∈ body, c ≠ '\n' ∧ c ≠ '\r') :
    triviaLength true (body ++ rest) = body.length + triviaLength true rest := by
  induction body with
  | nil => simp
  | cons c body ih =>
      obtain ⟨hfeed, hreturn⟩ := hbody c (by simp)
      have hinside : (c != '\n' && c != '\r') = true := by simp [hfeed, hreturn]
      have hmore := ih fun d hd => hbody d (by simp [hd])
      simp only [List.cons_append, triviaLength, if_true, hinside, hmore, List.length_cons]
      omega

theorem triviaLength_append {gap : List Char} (rest : List Char) (h : IsTrivia gap) :
    triviaLength false (gap ++ rest) = gap.length + triviaLength false rest := by
  induction h with
  | nil => simp
  | separator hc hrest ih =>
      simp only [List.cons_append, triviaLength, hc, Bool.false_eq_true, if_false, if_true, ih,
        List.length_cons]
      omega
  | @comment body more lineEnd hbody hend hrest ih =>
      have hhash : isSeparator '#' = false := by decide
      have hstop : triviaLength true (lineEnd :: (more ++ rest)) =
          triviaLength false (more ++ rest) + 1 := by
        rcases hend with rfl | rfl <;> rfl
      have hstart : triviaLength false ('#' :: (body ++ lineEnd :: (more ++ rest))) =
          triviaLength true (body ++ lineEnd :: (more ++ rest)) + 1 := by
        simp [triviaLength, hhash]
      rw [List.cons_append, List.append_assoc, List.cons_append, hstart,
        triviaLength_comment _ hbody, hstop, ih]
      simp only [List.length_cons, List.length_append]
      omega

theorem triviaLength_of_isFinalTrivia {last : List Char} (h : IsFinalTrivia last) :
    triviaLength false last = last.length := by
  rcases h with htrivia | ⟨front, body, hfront, hbody, rfl⟩
  · simpa [triviaLength] using triviaLength_append [] htrivia
  · have hcomment := triviaLength_comment [] hbody
    have hhash : isSeparator '#' = false := by decide
    simp only [List.append_nil, triviaLength, Nat.add_zero] at hcomment
    simp [triviaLength_append _ hfront, triviaLength, hhash, hcomment]

namespace Word.Valid

theorem isSeparator_eq_false_of_isNamePart {c : Char} (h : Lexeme.isNamePart c = true) :
    isSeparator c = false ∧ c ≠ '#' := by
  simp only [isSeparator, Bool.or_eq_false_iff, beq_eq_false_iff_ne]
  refine ⟨⟨⟨⟨⟨⟨?_, ?_⟩, ?_⟩, ?_⟩, ?_⟩, ?_⟩, ?_⟩ <;> rintro rfl <;> revert h <;> decide

/-- A word begins with a character that is no trivia. -/
theorem exists_text {word : Word} (h : word.Valid) :
    ∃ c text, word.text = c :: text ∧ isSeparator c = false ∧ c ≠ '#' := by
  cases h with
  | mark mark => cases mark <;> exact ⟨_, _, rfl, by decide, by decide⟩
  | @name c rest hstart hrest =>
      have hpart : Lexeme.isNamePart c = true := by
        rw [Lexeme.isNamePart_eq, hstart, Bool.true_or]
      exact ⟨_, _, rfl, isSeparator_eq_false_of_isNamePart hpart⟩
  | numeral hsign hwhole hfraction hexponent =>
      obtain ⟨d, more, rfl, hd⟩ := Lexeme.exists_of_isWhole hwhole
      have hpart : Lexeme.isNamePart d = true := by rw [Lexeme.isNamePart_eq, hd, Bool.or_true]
      rcases hsign with rfl | rfl
      · exact ⟨_, _, rfl, isSeparator_eq_false_of_isNamePart hpart⟩
      · exact ⟨_, _, rfl, by decide, by decide⟩
  | quoted hquote hbody => rcases hquote with rfl | rfl <;> exact ⟨_, _, rfl, by decide, by decide⟩
  | block htail => exact ⟨_, _, rfl, by decide, by decide⟩

end Word.Valid

/-- A word and the trivia before it. -/
structure SpacedWord where
  gap : List Char
  word : Word

namespace SpacedWord

/-- The text of some words and of the trivia at its end. -/
def text (last : List Char) : List SpacedWord → List Char
  | [] => last
  | piece :: rest => piece.gap ++ (piece.word.text ++ text last rest)

/-- The tokens that a text of words makes from a cursor on. -/
def tokens (last : List Char) : Cursor → List SpacedWord → List Token
  | cursor, [] => [Token.finishAt (cursor.walk last).position]
  | cursor, piece :: rest =>
      let start := cursor.walk piece.gap
      let stop := start.walk piece.word.text
      ⟨piece.word.kind, ⟨start.position, stop.position⟩⟩ :: tokens last stop rest

/-- Valid words with trivia between them that keep each other apart. -/
def WellSpaced (last : List Char) : List SpacedWord → Prop
  | [] => IsFinalTrivia last
  | piece :: rest =>
      IsTrivia piece.gap ∧ piece.word.Valid ∧ piece.word.Ends (text last rest) ∧
        WellSpaced last rest

/-- Lexing a text of words gives the words back. -/
theorem listFrom_text {last : List Char} {pieces : List SpacedWord} (cursor : Cursor) (limit : Nat)
    (h : WellSpaced last pieces) (hlimit : (text last pieces).length ≤ limit) :
    Token.listFrom limit cursor (text last pieces) = tokens last cursor pieces := by
  induction pieces generalizing cursor limit with
  | nil =>
      have hgap := triviaLength_of_isFinalTrivia h
      cases limit with
      | zero =>
          have hlast : last = [] := List.eq_nil_of_length_eq_zero (Nat.le_zero.1 hlimit)
          simp [Token.listFrom, tokens, hlast]
      | succ limit => simp [Token.listFrom_succ, tokens, text, hgap]
  | cons piece rest ih =>
      obtain ⟨hgap, hvalid, hends, hrest⟩ := h
      obtain ⟨c, word, htext, hc, hhash⟩ := hvalid.exists_text
      have hscan := Word.scan_append (text last rest) hvalid htext hends
      have hzero : triviaLength false (c :: (word ++ text last rest)) = 0 := by
        simp [triviaLength, hc, hhash]
      simp only [text, htext, List.length_append, List.length_cons, List.cons_append] at hlimit
      cases limit with
      | zero => omega
      | succ limit =>
          have hmore := ih ((cursor.walk piece.gap).walk piece.word.text) limit hrest (by omega)
          simp only [text, htext, List.cons_append, Token.listFrom_succ, triviaLength_append _ hgap,
            hzero, Nat.add_zero, List.take_left', List.drop_left', hscan, tokens]
          simp only [Lexeme.kindAt, ← htext, hmore]

theorem list_text {last : List Char} {pieces : List SpacedWord} (h : WellSpaced last pieces) :
    Token.list (text last pieces) = tokens last .start pieces :=
  listFrom_text _ _ h (Nat.le_refl _)

theorem map_kind_tokens (last : List Char) (cursor : Cursor) (pieces : List SpacedWord) :
    (tokens last cursor pieces).map (·.kind) = pieces.map (·.word.kind) ++ [.finish] := by
  induction pieces generalizing cursor with
  | nil => rfl
  | cons piece rest ih => simp [tokens, ih]

end SpacedWord

end CompletionGateway
