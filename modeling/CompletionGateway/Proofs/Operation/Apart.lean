import CompletionGateway.Operation.ValueRule
import CompletionGateway.Proofs.Token.Spacing

/-!
# Words that are apart

A bare run goes on with the tokens that touch it.  Tokens are apart if none of them goes on with a
word before it; a colon may touch the name before it, because what stands there is no value.  Trivia
part words; without trivia nothing has to be parted behind a mark, and before a bracket or a colon.
-/

namespace CompletionGateway

/-- Whether a token is a word that can begin a bare run. -/
def TokenKind.isWord : TokenKind → Bool
  | name _ | int _ | float _ | bool _ | null => true
  | _ => false

/-- Whether a token that is no colon goes on with a bare run whose last token is the first one. -/
def Token.joins (first second : Token) : Bool :=
  second.follows first.span && !second.kind.endsRun && second.kind != .punctuator .colon

/-- Tokens none of which goes on with a word before it. -/
def Token.Apart (tokens : List Token) : Prop :=
  tokens.IsChain fun first second => first.kind.isWord = true → first.joins second = false

/-- Tokens that do not begin with a colon. -/
def Token.NoColon (tokens : List Token) : Prop :=
  ∀ token ∈ tokens.head?, token.kind ≠ .punctuator .colon

theorem Token.noColon_cons {token : Token} {rest : List Token}
    (h : token.kind ≠ .punctuator .colon) : NoColon (token :: rest) := by
  intro next hnext
  obtain rfl : token = next := by simpa using hnext
  exact h

/-- Tokens of the kinds of some words. -/
def Word.Make (words : List Word) (tokens : List Token) : Prop :=
  tokens.map (·.kind) = words.map (·.kind)

namespace Token.Apart

theorem tail {token : Token} {rest : List Token} (h : Apart (token :: rest)) : Apart rest :=
  List.IsChain.tail h

theorem of_append {front back : List Token} (h : Apart (front ++ back)) : Apart back :=
  List.IsChain.suffix h (List.suffix_append front back)

end Token.Apart

namespace Word.Make

theorem nil {tokens : List Token} (h : Word.Make [] tokens) : tokens = [] := by
  simpa [Word.Make] using h

theorem cons {word : Word} {words : List Word} {tokens : List Token}
    (h : Word.Make (word :: words) tokens) :
    ∃ token more, tokens = token :: more ∧ token.kind = word.kind ∧ Word.Make words more := by
  obtain ⟨token, more, rfl, hkind, hmore⟩ := List.map_eq_cons_iff.1 h
  exact ⟨token, more, rfl, hkind, hmore⟩

theorem head {word : Word} {words : List Word} {token : Token} {tokens : List Token}
    (h : Word.Make (word :: words) (token :: tokens)) :
    token.kind = word.kind ∧ Word.Make words tokens := List.cons.inj h

theorem single {word : Word} {token : Token} {tokens : List Token}
    (h : Word.Make [word] (token :: tokens)) : token.kind = word.kind ∧ tokens = [] :=
  ⟨h.head.1, h.head.2.nil⟩

theorem append {front back : List Word} {tokens : List Token}
    (h : Word.Make (front ++ back) tokens) :
    ∃ first second, tokens = first ++ second ∧ Word.Make front first ∧ Word.Make back second := by
  rw [Word.Make, List.map_append] at h
  obtain ⟨first, second, rfl, hfirst, hsecond⟩ := List.map_eq_append_iff.1 h
  exact ⟨first, second, rfl, hfirst, hsecond⟩

theorem concat {front : List Word} {word : Word} {tokens : List Token}
    (h : Word.Make (front ++ [word]) tokens) :
    ∃ inside last, tokens = inside ++ [last] ∧ Word.Make front inside ∧ last.kind = word.kind := by
  obtain ⟨inside, closing, rfl, hinside, hclosing⟩ := h.append
  obtain ⟨last, more, rfl, hlast, hmore⟩ := hclosing.cons
  obtain rfl := hmore.nil
  exact ⟨inside, last, rfl, hinside, hlast⟩

end Word.Make

/-- Two words that may stand next to each other without trivia. -/
def Word.MayTouch (first second : Word) : Prop :=
  (∃ mark, first.kind = .punctuator mark) ∨
    ∃ mark, second.kind = .punctuator mark ∧
      (mark.isOpening || mark.isClosing || mark == .colon) = true

namespace SpacedWord

/-- Words with trivia before each and at the end, where whatever must not touch is parted. -/
structure Laid (last : List Char) (pieces : List SpacedWord) : Prop where
  trivia : ∀ piece ∈ pieces, IsTrivia piece.gap
  final : IsFinalTrivia last
  parted : pieces.IsChain fun first second => second.gap = [] → first.word.MayTouch second.word

theorem endsWord_of_isSeparator {c : Char} {rest : List Char}
    (h : isSeparator c = true ∨ c = '#') : Lexeme.EndsWord (c :: rest) := by
  intro d hd
  obtain rfl : c = d := by simpa using hd
  simp only [isSeparator, Bool.or_eq_true, beq_iff_eq] at h
  rcases h with (((((rfl | rfl) | rfl) | rfl) | rfl) | rfl) | rfl <;> decide

theorem endsWord_of_isTrivia {gap : List Char} (rest : List Char) (h : IsTrivia gap)
    (hne : gap ≠ []) : Lexeme.EndsWord (gap ++ rest) := by
  cases h with
  | nil => exact absurd rfl hne
  | separator hc hrest => exact endsWord_of_isSeparator (.inl hc)
  | comment hbody hend hrest => exact endsWord_of_isSeparator (.inr rfl)

theorem endsWord_of_isFinalTrivia {last : List Char} (h : IsFinalTrivia last) :
    Lexeme.EndsWord last := by
  have hnil : Lexeme.EndsWord [] := by simp [Lexeme.EndsWord]
  rcases h with htrivia | ⟨front, body, hfront, hbody, rfl⟩
  · by_cases hne : last = []
    · rw [hne]
      exact hnil
    · simpa using endsWord_of_isTrivia [] htrivia hne
  · by_cases hne : front = []
    · rw [hne]
      exact endsWord_of_isSeparator (.inr rfl)
    · exact endsWord_of_isTrivia _ hfront hne

/-- A mark other than three dots ends the word before it. -/
theorem endsWord_of_mark {word : Word} {mark : Punctuator} (rest : List Char) (h : word.Valid)
    (hkind : word.kind = .punctuator mark) (hmark : mark ≠ .ellipsis) :
    Lexeme.EndsWord (word.text ++ rest) := by
  obtain rfl : word = .mark mark := h.eq_mark hkind
  intro c hc
  cases mark <;> simp [Word.mark, Punctuator.spelling] at hc <;> subst hc <;> first
    | decide
    | exact absurd rfl hmark

theorem ends_of_mayTouch {first second : Word} (rest : List Char) (hvalid : second.Valid)
    (h : first.MayTouch second) : first.Ends (second.text ++ rest) := by
  rcases h with hmark | ⟨mark, hkind, hbracket⟩
  · exact .inl hmark
  · refine .inr (endsWord_of_mark rest hvalid hkind ?_)
    rintro rfl
    exact absurd hbracket (by decide)

/-- Trivia before every word part all words. -/
theorem Laid.of_forall {last : List Char} {pieces : List SpacedWord} (hlast : IsFinalTrivia last)
    (h : ∀ piece ∈ pieces, IsTrivia piece.gap ∧ piece.gap ≠ []) : Laid last pieces where
  trivia piece hpiece := (h piece hpiece).1
  final := hlast
  parted := by
    induction pieces with
    | nil => exact .nil
    | cons piece rest ih =>
        have hrest := ih fun next hnext => h next (by simp [hnext])
        cases rest with
        | nil => exact List.isChain_singleton _
        | cons next more =>
            exact List.isChain_cons_cons.2 ⟨fun hgap => absurd hgap (h next (by simp)).2, hrest⟩

theorem Laid.tail {last : List Char} {piece : SpacedWord} {rest : List SpacedWord}
    (h : Laid last (piece :: rest)) : Laid last rest where
  trivia next hnext := h.trivia next (by simp [hnext])
  final := h.final
  parted := List.IsChain.tail h.parted

theorem Laid.cons {last : List Char} {piece : SpacedWord} {rest : List SpacedWord}
    (hgap : IsTrivia piece.gap)
    (hnext : ∀ next ∈ rest.head?, next.gap = [] → piece.word.MayTouch next.word)
    (h : Laid last rest) : Laid last (piece :: rest) where
  trivia next hmem := by
    rcases List.mem_cons.1 hmem with rfl | hmem
    · exact hgap
    · exact h.trivia next hmem
  final := h.final
  parted := List.isChain_cons.2 ⟨hnext, h.parted⟩

/-- Lexing gives the valid words of a laid text back. -/
theorem Laid.wellSpaced {last : List Char} {pieces : List SpacedWord} (h : Laid last pieces)
    (hvalid : ∀ piece ∈ pieces, piece.word.Valid) : WellSpaced last pieces := by
  induction pieces with
  | nil => exact h.final
  | cons piece rest ih =>
      refine ⟨h.trivia piece (by simp), hvalid piece (by simp), ?_,
        ih h.tail fun next hnext => hvalid next (by simp [hnext])⟩
      cases rest with
      | nil => exact .inr (endsWord_of_isFinalTrivia h.final)
      | cons next more =>
          by_cases hgap : next.gap = []
          · have htouch := (List.isChain_cons_cons.1 h.parted).1 hgap
            simpa [text, hgap] using ends_of_mayTouch _ (hvalid next (by simp)) htouch
          · exact .inr (endsWord_of_isTrivia _ (h.trivia next (by simp)) hgap)

/-- The tokens of a laid text are apart. -/
theorem Laid.apart {last : List Char} {pieces : List SpacedWord} (h : Laid last pieces)
    (cursor : Cursor) : Token.Apart (tokens last cursor pieces) := by
  induction pieces generalizing cursor with
  | nil => exact List.isChain_singleton _
  | cons piece rest ih =>
      cases rest with
      | nil =>
          refine List.isChain_cons_cons.2 ⟨fun _ => ?_, List.isChain_singleton _⟩
          simp [Token.joins, Token.finishAt, TokenKind.endsRun]
      | cons next more =>
          refine List.isChain_cons_cons.2 ⟨fun hword => ?_, ih h.tail _⟩
          have htouch := (List.isChain_cons_cons.1 h.parted).1
          by_cases hgap : next.gap = []
          · rcases htouch hgap with ⟨mark, hmark⟩ | ⟨mark, hkind, hbracket⟩
            · simp [hmark, TokenKind.isWord] at hword
            · cases mark <;> first
                | exact absurd hbracket (by decide)
                | simp [Token.joins, hkind, TokenKind.endsRun, TokenKind.isOpening,
                    TokenKind.isClosing, Punctuator.isOpening, Punctuator.isClosing]
          · have hoffset := (Cursor.offset_walk_eq_iff
              ((cursor.walk piece.gap).walk piece.word.text) next.gap).not.2 hgap
            simp [Token.joins, Token.follows, hoffset]

/-- The tokens of laid words make the words, and the end of the text. -/
theorem Laid.list_text {last : List Char} {pieces : List SpacedWord} (h : Laid last pieces)
    (hvalid : ∀ piece ∈ pieces, piece.word.Valid) :
    ∃ tokens finish, Token.list (text last pieces) = tokens ++ [finish] ∧
      Word.Make (pieces.map (·.word)) tokens ∧ finish.kind = .finish ∧
        Token.Apart (Token.list (text last pieces)) := by
  have hlist := SpacedWord.list_text (h.wellSpaced hvalid)
  have hkinds := map_kind_tokens last .start pieces
  rw [← hlist] at hkinds
  obtain ⟨tokens, ends, htokens, hmake, hends⟩ := List.map_eq_append_iff.1 hkinds
  obtain ⟨finish, rest, rfl, hfinish, hrest⟩ := List.map_eq_cons_iff.1 hends
  obtain rfl := List.map_eq_nil_iff.1 hrest
  refine ⟨tokens, finish, htokens, ?_, hfinish, hlist ▸ h.apart .start⟩
  rw [Word.Make, hmake, List.map_map]
  rfl

end SpacedWord

end CompletionGateway
