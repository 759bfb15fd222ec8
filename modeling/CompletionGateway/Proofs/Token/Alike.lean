import CompletionGateway.Diagnostic.Basic
import CompletionGateway.Proofs.Token.Tiling

/-!
# Tokens that are alike

Two texts have the same tokens, but for where these stand, if their tokens are of the same kinds,
the remarks on faults apart, and cover the same pieces of text, and if the same tokens touch the
ones before them.  Then the lists of tokens are alike one by one, which is all that a rule can see.
-/

namespace CompletionGateway

namespace TokenKind

/-- The kind without the remarks on a fault, which may name places. -/
def withoutNotes : TokenKind → TokenKind
  | error message _ => error message []
  | kind => kind

/-- Kinds with the same wording are equal, or two faults with the same message. -/
theorem eq_or_error {kind kind' : TokenKind} (h : kind.withoutNotes = kind'.withoutNotes) :
    kind = kind' ∨ ∃ message notes notes', kind = .error message notes ∧
      kind' = .error message notes' := by
  cases kind <;> cases kind' <;> simp_all [withoutNotes]

/-- What does not depend on remarks is the same for kinds with the same wording. -/
theorem congr_of_withoutNotes {α : Type} {kind kind' : TokenKind}
    (h : kind.withoutNotes = kind'.withoutNotes) (f : TokenKind → α)
    (hf : ∀ message notes notes', f (.error message notes) = f (.error message notes')) :
    f kind = f kind' := by
  rcases eq_or_error h with rfl | ⟨message, notes, notes', rfl, rfl⟩
  · rfl
  · exact hf message notes notes'

end TokenKind

namespace Token

/-- Which of some tokens touch the ones before them. -/
def touching : List Token → List Bool
  | first :: second :: rest => second.follows first.span :: touching (second :: rest)
  | _ => []

/-- Two texts have the same tokens, but for where these stand. -/
structure SameTokens (text text' : List Char) : Prop where
  kinds : (list text).map (·.kind.withoutNotes) = (list text').map (·.kind.withoutNotes)
  pieces : (list text).map (·.span.textIn? text) = (list text').map (·.span.textIn? text')
  touching : touching (list text) = touching (list text')

variable {text text' : List Char}

/-- A token of one text is like a token of another. -/
structure Alike (text text' : List Char) (token token' : Token) : Prop where
  kind : token.kind.withoutNotes = token'.kind.withoutNotes
  piece : ∃ piece, token.span.textIn? text = some piece ∧ token'.span.textIn? text' = some piece ∧
    (token.kind ≠ .finish → piece ≠ [])

/-- The tokens of one text are like those of another, one by one, and the same ones touch. -/
inductive AllAlike (text text' : List Char) : List Token → List Token → Prop
  | nil : AllAlike text text' [] []
  | cons {token token' : Token} {rest rest' : List Token} (first : Alike text text' token token')
      (touch : ∀ second ∈ rest.head?, ∀ second' ∈ rest'.head?,
        second.follows token.span = second'.follows token'.span)
      (others : AllAlike text text' rest rest') :
      AllAlike text text' (token :: rest) (token' :: rest')

theorem AllAlike.length_eq {tokens tokens' : List Token} (h : AllAlike text text' tokens tokens') :
    tokens.length = tokens'.length := by
  induction h with
  | nil => rfl
  | cons _ _ _ ih => rw [List.length_cons, List.length_cons, ih]

/-- A token of a text covers a piece of it. -/
theorem exists_piece {token : Token} (h : token ∈ list text) :
    ∃ piece, token.span.textIn? text = some piece ∧ (token.kind ≠ .finish → piece ≠ []) := by
  obtain ⟨before, covered, behind, htext, hstart, hstop, hne, -⟩ := exists_covered h
  refine ⟨covered, ?_, hne⟩
  rw [Span.textIn?, hstart, hstop, Text.byteLength_append]
  exact htext ▸ Text.slice_append before covered behind

/-- Lists of tokens that look the same are alike piece by piece. -/
theorem allAlike_of_eq {tokens tokens' : List Token}
    (hkinds : tokens.map (·.kind.withoutNotes) = tokens'.map (·.kind.withoutNotes))
    (hpieces : tokens.map (·.span.textIn? text) = tokens'.map (·.span.textIn? text'))
    (htouching : touching tokens = touching tokens') (hmem : ∀ token ∈ tokens, ∃ piece,
      token.span.textIn? text = some piece ∧ (token.kind ≠ .finish → piece ≠ [])) :
    AllAlike text text' tokens tokens' := by
  induction tokens generalizing tokens' with
  | nil =>
      obtain rfl := List.map_eq_nil_iff.1 hkinds.symm
      exact .nil
  | cons token rest ih =>
      obtain ⟨token', rest', rfl, hkind, hkinds⟩ := List.map_eq_cons_iff.1 hkinds.symm
      obtain ⟨hpiece, hpieces⟩ := List.cons.inj hpieces
      obtain ⟨piece, htext, hne⟩ := hmem token (by simp)
      have hlength : rest'.length = rest.length := by simpa using congrArg List.length hkinds
      refine .cons ⟨hkind.symm, piece, htext, hpiece.symm.trans htext, hne⟩ ?_ ?_
      · -- the flag of the second token is the first of all flags
        rintro second hsecond second' hsecond'
        obtain ⟨more, rfl⟩ := List.head?_eq_some_iff.1 hsecond
        obtain ⟨more', rfl⟩ := List.head?_eq_some_iff.1 hsecond'
        exact (List.cons.inj htouching).1
      · refine ih hkinds.symm hpieces ?_ fun other hother => hmem other (by simp [hother])
        cases rest with
        | nil =>
            obtain rfl := List.eq_nil_of_length_eq_zero hlength
            rfl
        | cons second more =>
            obtain ⟨second', more', rfl⟩ := List.exists_cons_of_length_eq_add_one hlength
            exact (List.cons.inj htouching).2

/-- Texts with the same tokens have lists of tokens that are alike. -/
theorem SameTokens.allAlike (h : SameTokens text text') :
    AllAlike text text' (list text) (list text') :=
  allAlike_of_eq h.kinds h.pieces h.touching fun _ => exists_piece

end Token

end CompletionGateway
