import CompletionGateway.Diagnostic.Basic
import CompletionGateway.Proofs.Operation.Brackets

/-!
# Nesting by shape

Brackets are nested by their shape if each closing bracket has the shape of the innermost open one.
A forest is a list of tokens together with this nesting, so whatever is said of nested tokens can be
said by recursion on forests: a forest is a sequence of tokens that are no brackets and of groups
around smaller forests.  Every nested list of tokens is that of a forest.
-/

namespace CompletionGateway

namespace Delimiter

/-- The mark that opens a group of this shape. -/
def opening : Delimiter → Punctuator
  | brace => .openBrace
  | paren => .openParen
  | bracket => .openBracket

/-- The mark that closes a group of this shape. -/
def closing : Delimiter → Punctuator
  | brace => .closeBrace
  | paren => .closeParen
  | bracket => .closeBracket

theorem isOpening_opening (shape : Delimiter) : shape.opening.isOpening = true := by
  cases shape <;> rfl

theorem isClosing_closing (shape : Delimiter) : shape.closing.isClosing = true := by
  cases shape <;> rfl

end Delimiter

namespace TokenKind

/-- The shape of the group that a token opens. -/
def opens? : TokenKind → Option Delimiter
  | punctuator .openBrace => some .brace
  | punctuator .openParen => some .paren
  | punctuator .openBracket => some .bracket
  | _ => none

/-- The shape of the group that a token closes. -/
def closes? : TokenKind → Option Delimiter
  | punctuator .closeBrace => some .brace
  | punctuator .closeParen => some .paren
  | punctuator .closeBracket => some .bracket
  | _ => none

/-- Whether the token is neither a bracket nor the end. -/
def isPlain (kind : TokenKind) : Bool := !kind.isOpening && !kind.isClosing && kind != .finish

theorem opens?_eq_some {kind : TokenKind} {shape : Delimiter} :
    kind.opens? = some shape ↔ kind = .punctuator shape.opening := by
  constructor
  · intro h
    unfold opens? at h
    split at h <;> cases h <;> rfl
  · rintro rfl
    cases shape <;> rfl

theorem closes?_eq_some {kind : TokenKind} {shape : Delimiter} :
    kind.closes? = some shape ↔ kind = .punctuator shape.closing := by
  constructor
  · intro h
    unfold closes? at h
    split at h <;> cases h <;> rfl
  · rintro rfl
    cases shape <;> rfl

theorem isPlain_iff {kind : TokenKind} :
    kind.isPlain = true ↔ kind.opens? = none ∧ kind.closes? = none ∧ kind ≠ .finish := by
  cases kind with
  | punctuator mark => cases mark <;> simp [isPlain, opens?, closes?] <;> decide
  | finish => simp [isPlain]
  | _ => simp [isPlain, opens?, closes?, isOpening, isClosing]

end TokenKind

namespace Token

/-- Whether the brackets of some tokens are nested by shape, inside groups of given shapes that are
open, the innermost first.  All groups are closed, and none of the tokens is the end. -/
def nested : List Delimiter → List Token → Bool
  | opened, [] => opened.isEmpty
  | opened, token :: rest =>
      match token.kind.opens?, token.kind.closes? with
      | some shape, _ => nested (shape :: opened) rest
      | none, some shape =>
          match opened with
          | [] => false
          | innermost :: outer => innermost == shape && nested outer rest
      | none, none => token.kind != .finish && nested opened rest

section Nested

variable {token : Token} {shape : Delimiter} (opened : List Delimiter) (rest : List Token)

theorem nested_of_opens (h : token.kind = .punctuator shape.opening) :
    nested opened (token :: rest) = nested (shape :: opened) rest := by
  rw [nested, TokenKind.opens?_eq_some.2 h]

theorem nested_of_closes (h : token.kind = .punctuator shape.closing) :
    nested (shape :: opened) (token :: rest) = nested opened rest := by
  have hopens : token.kind.opens? = none := by
    rw [h]
    cases shape <;> rfl
  rw [nested, hopens, TokenKind.closes?_eq_some.2 h]
  simp

theorem nested_of_isPlain (h : token.kind.isPlain = true) :
    nested opened (token :: rest) = nested opened rest := by
  obtain ⟨hopens, hcloses, hfinish⟩ := TokenKind.isPlain_iff.1 h
  rw [nested, hopens, hcloses]
  simp [hfinish]

end Nested

/-- How many groups are open where most are, if `outer` are open around the tokens. -/
def deepest (outer : Nat) : List Token → Nat
  | [] => outer
  | token :: rest =>
      if token.kind.isOpening then deepest (outer + 1) rest
      else if token.kind.isClosing then max outer (deepest (outer - 1) rest)
      else deepest outer rest

theorem le_deepest (outer : Nat) (tokens : List Token) : outer ≤ deepest outer tokens := by
  induction tokens generalizing outer with
  | nil => exact Nat.le_refl outer
  | cons token rest ih =>
      rw [deepest]
      split
      · have hrest := ih (outer + 1)
        omega
      · split
        · omega
        · exact ih outer

/-- Where most groups are open, there are at least as many as anywhere. -/
theorem open_le_deepest {outer inner : Nat} {front : List Token} (back : List Token)
    (h : BracketCount.all.after outer (front.map (·.kind)) = some inner) :
    inner ≤ deepest outer (front ++ back) := by
  induction front generalizing outer with
  | nil =>
      obtain rfl := Option.some.inj h
      exact le_deepest outer back
  | cons token rest ih =>
      obtain ⟨between, hstep, hrest⟩ := Option.bind_eq_some_iff.1 h
      have hle := ih hrest
      rw [List.cons_append, deepest]
      by_cases hopening : token.kind.isOpening = true
      · rw [BracketCount.all_step_of_isOpening hopening] at hstep
        obtain rfl := Option.some.inj hstep
        rwa [if_pos hopening]
      rw [if_neg hopening]
      by_cases hclosing : token.kind.isClosing = true
      · rw [if_pos hclosing]
        cases outer with
        | zero =>
            rw [(BracketCount.all_step_of_isClosing hclosing).1] at hstep
            cases hstep
        | succ outer =>
            rw [(BracketCount.all_step_of_isClosing hclosing).2] at hstep
            obtain rfl := Option.some.inj hstep
            exact Nat.le_trans hle (Nat.le_max_right _ _)
      · rw [if_neg hclosing]
        obtain ⟨-, rfl⟩ : token.kind ≠ .finish ∧ outer = between := by
          simpa [BracketCount.step, BracketCount.all, hopening, hclosing] using hstep
        exact hle

end Token

/-- Tokens whose brackets are nested by shape. -/
inductive Forest where
  | nil
  | token (token : Token) (plain : token.kind.isPlain = true) (rest : Forest)
  | group (shape : Delimiter) (first last : Token)
      (opens : first.kind = .punctuator shape.opening)
      (closes : last.kind = .punctuator shape.closing) (inside rest : Forest)

namespace Forest

/-- The tokens in order. -/
def tokens : Forest → List Token
  | nil => []
  | token t _ rest => t :: rest.tokens
  | group _ first last _ _ inside rest => first :: (inside.tokens ++ last :: rest.tokens)

/-- How many groups enclose the innermost one, itself included. -/
def depth : Forest → Nat
  | nil => 0
  | token _ _ rest => rest.depth
  | group _ _ _ _ _ inside rest => max (inside.depth + 1) rest.depth

/-- A forest changes no groups that are open around it. -/
theorem nested_append (forest : Forest) (opened : List Delimiter) (rest : List Token) :
    Token.nested opened (forest.tokens ++ rest) = Token.nested opened rest := by
  induction forest generalizing opened rest with
  | nil => rfl
  | token t plain more ih =>
      rw [tokens, List.cons_append, Token.nested_of_isPlain _ _ plain, ih]
  | group shape first last opens closes inside more ihInside ihMore =>
      rw [tokens, List.cons_append, Token.nested_of_opens _ _ opens, List.append_assoc, ihInside,
        List.cons_append, Token.nested_of_closes _ _ closes, ihMore]

theorem nested_tokens (forest : Forest) : Token.nested [] forest.tokens = true := by
  have hnested := forest.nested_append [] []
  rwa [List.append_nil] at hnested

/-- Nested tokens inside open groups are a forest up to the bracket that closes the innermost. -/
theorem exists_tokens_append (opened : List Delimiter) (tokens : List Token)
    (h : Token.nested opened tokens = true) :
    ∃ (forest : Forest) (rest : List Token), tokens = forest.tokens ++ rest ∧
      (opened = [] ∧ rest = [] ∨ ∃ shape outer last more, opened = shape :: outer ∧
        rest = last :: more ∧ last.kind = .punctuator shape.closing ∧
          Token.nested outer more = true) := by
  match tokens with
  | [] =>
      have hempty : opened = [] := by simpa [Token.nested] using h
      exact ⟨nil, [], rfl, .inl ⟨hempty, rfl⟩⟩
  | first :: tokens =>
      rw [Token.nested] at h
      cases hopens : first.kind.opens? with
      | some shape =>
          rw [hopens] at h
          -- the tokens of the group, and then those behind it
          obtain ⟨inside, _, hinside, hend⟩ := exists_tokens_append (shape :: opened) tokens h
          obtain ⟨hcontra, -⟩ | ⟨shape', outer, last, more, heq, rfl, hlast, hmore⟩ := hend
          · exact absurd hcontra (List.cons_ne_nil _ _)
          obtain ⟨rfl, rfl⟩ := List.cons.inj heq
          have hshorter : more.length < tokens.length := by
            rw [hinside, List.length_append, List.length_cons]
            omega
          obtain ⟨forest, rest, hforest, hend⟩ := exists_tokens_append opened more hmore
          refine ⟨group shape first last (TokenKind.opens?_eq_some.1 hopens) hlast inside forest,
            rest, ?_, hend⟩
          rw [hinside, hforest]
          simp [Forest.tokens]
      | none =>
          rw [hopens] at h
          cases hcloses : first.kind.closes? with
          | some shape =>
              rw [hcloses] at h
              cases opened with
              | nil => exact absurd h Bool.false_ne_true
              | cons innermost outer =>
                  simp only [Bool.and_eq_true, beq_iff_eq] at h
                  obtain ⟨rfl, hrest⟩ := h
                  exact ⟨nil, first :: tokens, rfl, .inr ⟨innermost, outer, first, tokens, rfl, rfl,
                    TokenKind.closes?_eq_some.1 hcloses, hrest⟩⟩
          | none =>
              rw [hcloses] at h
              simp only [Bool.and_eq_true, bne_iff_ne] at h
              obtain ⟨forest, rest, hforest, hend⟩ := exists_tokens_append opened tokens h.2
              have hplain := TokenKind.isPlain_iff.2 ⟨hopens, hcloses, h.1⟩
              refine ⟨token first hplain forest, rest, ?_, hend⟩
              rw [hforest]
              rfl
termination_by tokens.length

/-- Nested tokens are the tokens of a forest. -/
theorem exists_tokens_eq {tokens : List Token} (h : Token.nested [] tokens = true) :
    ∃ forest : Forest, forest.tokens = tokens := by
  obtain ⟨forest, rest, rfl, hend⟩ := exists_tokens_append [] tokens h
  obtain ⟨-, rfl⟩ | ⟨_, _, _, _, hcontra, -⟩ := hend
  · exact ⟨forest, (List.append_nil _).symm⟩
  · exact absurd hcontra.symm (List.cons_ne_nil _ _)

end Forest

namespace Token

theorem nested_append {front back : List Token} (h : nested [] front = true)
    (h' : nested [] back = true) : nested [] (front ++ back) = true := by
  obtain ⟨forest, rfl⟩ := Forest.exists_tokens_eq h
  rwa [forest.nested_append]

theorem nested_group (shape : Delimiter) {first last : Token} {inside : List Token}
    (hfirst : first.kind = .punctuator shape.opening)
    (hlast : last.kind = .punctuator shape.closing) (h : nested [] inside = true) :
    nested [] (first :: (inside ++ [last])) = true := by
  obtain ⟨forest, rfl⟩ := Forest.exists_tokens_eq h
  exact (Forest.group shape first last hfirst hlast forest .nil).nested_tokens

theorem nested_of_forall {tokens : List Token} (h : ∀ token ∈ tokens, token.kind.isPlain = true) :
    nested [] tokens = true := by
  induction tokens with
  | nil => rfl
  | cons token rest ih =>
      rw [nested_of_isPlain _ _ (h token List.mem_cons_self)]
      exact ih fun next hnext => h next (List.mem_cons_of_mem _ hnext)

end Token

namespace Forest

theorem deepest_append (forest : Forest) (outer : Nat) (rest : List Token) :
    Token.deepest outer (forest.tokens ++ rest) =
      max (outer + forest.depth) (Token.deepest outer rest) := by
  induction forest generalizing outer rest with
  | nil =>
      have hrest := Token.le_deepest outer rest
      show Token.deepest outer rest = max (outer + 0) (Token.deepest outer rest)
      omega
  | token t plain more ih =>
      have hopening : t.kind.isOpening = false := by simp_all [TokenKind.isPlain]
      have hclosing : t.kind.isClosing = false := by simp_all [TokenKind.isPlain]
      rw [tokens, List.cons_append, Token.deepest, hopening, hclosing, ih outer rest]
      rfl
  | group shape first last opens closes inside more ihInside ihMore =>
      have hfirst : first.kind.isOpening = true := by
        rw [opens]
        exact shape.isOpening_opening
      have hlast : last.kind.isOpening = false ∧ last.kind.isClosing = true := by
        rw [closes]
        cases shape <;> exact ⟨rfl, rfl⟩
      have hrest := Token.le_deepest outer rest
      have hclose : Token.deepest (outer + 1) (last :: (more.tokens ++ rest)) =
          max (outer + 1) (Token.deepest outer (more.tokens ++ rest)) := by
        rw [Token.deepest, hlast.1, hlast.2]
        rfl
      rw [tokens, List.cons_append, List.append_assoc, Token.deepest, hfirst, if_pos rfl, ihInside,
        List.cons_append, hclose, ihMore]
      simp only [depth]
      omega

theorem deepest_tokens (forest : Forest) : Token.deepest 0 forest.tokens = forest.depth := by
  have hdeepest := forest.deepest_append 0 []
  rw [List.append_nil] at hdeepest
  simpa [Token.deepest] using hdeepest

/-- However many tokens of a forest are taken, the groups that are open then fit into its depth. -/
theorem open_le_depth (forest : Forest) {front back : List Token} {inner : Nat}
    (hsplit : forest.tokens = front ++ back)
    (hinner : BracketCount.all.after 0 (front.map (·.kind)) = some inner) :
    inner ≤ forest.depth := by
  have hle := Token.open_le_deepest back hinner
  rwa [← hsplit, deepest_tokens] at hle

theorem balanced (forest : Forest) : BracketCount.all.Balanced forest.tokens := by
  induction forest with
  | nil => exact .nil
  | token t plain more ih =>
      simp only [TokenKind.isPlain, Bool.and_eq_true, Bool.not_eq_true', bne_iff_ne] at plain
      exact (BracketCount.Balanced.single plain.1.1 plain.1.2 plain.2).append ih
  | group shape first last opens closes inside more ihInside ihMore =>
      have hgroup : BracketCount.all.Balanced (first :: (inside.tokens ++ [last])) := by
        refine .brackets ?_ ihInside ?_
        · rw [opens]
          exact shape.isOpening_opening
        · rw [closes]
          exact shape.isClosing_closing
      have hall := hgroup.append ihMore
      rwa [List.cons_append, List.append_assoc, List.singleton_append] at hall

end Forest

end CompletionGateway
