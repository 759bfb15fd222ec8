import CompletionGateway.Proofs.Operation.ValueStart

/-!
# What encloses a token

Which groups are open at a place is told by the tokens before it alone: an opening bracket begins the
group that it can begin inside the groups around it, and a closing bracket ends the innermost group,
whatever its shape.  In a group that is passed only the group's own brackets count.  This is what the
groups on the reader's stack are compared with.
-/

namespace CompletionGateway

namespace Enclosure

/-- Whether the reader passes what stands in the group without interpreting it. -/
def isPassed : Enclosure → Bool
  | variableDefinitions | selectionSet => true
  | _ => false

/-- Whether the group holds values. -/
def holdsValues : Enclosure → Bool
  | fieldArguments | listValue | objectValue => true
  | _ => false

/-- What an opening bracket begins inside some groups, the innermost first. -/
def opened? (around : List Enclosure) : Punctuator → Option Enclosure
  | .openBrace => some <|
      match around with
      | [] => operationBody
      | operationBody :: _ | selectionSet :: _ => selectionSet
      | _ => objectValue
  | .openParen => some <|
      match around with
      | [] | variableDefinitions :: _ => variableDefinitions
      | _ => fieldArguments
  | .openBracket => some listValue
  | _ => none

/-- Whether a bracket counts inside some groups. -/
def counts (around : List Enclosure) (mark : Punctuator) : Bool :=
  match around with
  | [] => true
  | innermost :: _ => !innermost.isPassed || mark == innermost.delimiter.opening ||
      mark == innermost.delimiter.closing

/-- The groups that are open behind a token, if some are open before it. -/
def behind (around : List Enclosure) : TokenKind → List Enclosure
  | .punctuator mark =>
      if counts around mark then
        match opened? around mark with
        | some enclosure => enclosure :: around
        | none => if mark.isClosing then around.tail else around
      else around
  | _ => around

/-- The groups that are open behind some tokens, if `base` are open before them. -/
def around (base : List Enclosure) (tokens : List Token) : List Enclosure :=
  tokens.foldl (fun outer token => behind outer token.kind) base

/-- Groups of which the innermost one holds values. -/
def HoldValues (around : List Enclosure) : Prop :=
  ∃ innermost ∈ around.head?, innermost.holdsValues = true

theorem around_append (base : List Enclosure) (front back : List Token) :
    around base (front ++ back) = around (around base front) back := List.foldl_append

theorem around_concat (base : List Enclosure) (front : List Token) (token : Token) :
    around base (front ++ [token]) = behind (around base front) token.kind :=
  around_append base front [token]

variable {surroundings : List Enclosure} {enclosure : Enclosure}

theorem isPassed_of_holdsValues (h : enclosure.holdsValues = true) : enclosure.isPassed = false := by
  cases enclosure <;> first | rfl | cases h

/-- Where values are, every bracket counts. -/
theorem HoldValues.counts (h : HoldValues surroundings) (mark : Punctuator) :
    counts surroundings mark = true := by
  obtain ⟨innermost, hhead, hvalues⟩ := h
  obtain ⟨outer, rfl⟩ := List.head?_eq_some_iff.1 hhead
  simp [Enclosure.counts, isPassed_of_holdsValues hvalues]

/-- Where values are, a bracket begins a group that holds values. -/
theorem HoldValues.opened? (h : HoldValues surroundings) {mark : Punctuator}
    (hmark : mark.isOpening = true) :
    ∃ enclosure, opened? surroundings mark = some enclosure ∧ enclosure.holdsValues = true := by
  obtain ⟨innermost, hhead, hvalues⟩ := h
  obtain ⟨outer, rfl⟩ := List.head?_eq_some_iff.1 hhead
  cases mark with
  | openBracket => exact ⟨_, rfl, rfl⟩
  | openBrace | openParen => cases innermost <;> first | exact ⟨_, rfl, rfl⟩ | cases hvalues
  | _ => cases hmark

theorem HoldValues.opened?_shape (h : HoldValues surroundings) (kind : LiteralKind) :
    Enclosure.opened? surroundings kind.shape.opening = some kind.enclosure := by
  obtain ⟨innermost, hhead, hvalues⟩ := h
  obtain ⟨outer, rfl⟩ := List.head?_eq_some_iff.1 hhead
  cases kind with
  | object => cases innermost <;> first | rfl | cases hvalues
  | list => rfl

/-! ### Behind one token -/

theorem behind_of_opened {mark : Punctuator} (hcounts : counts surroundings mark = true)
    (h : opened? surroundings mark = some enclosure) :
    behind surroundings (.punctuator mark) = enclosure :: surroundings := by
  rw [behind, if_pos hcounts, h]

theorem behind_of_isClosing {mark : Punctuator} (hcounts : counts surroundings mark = true)
    (h : mark.isClosing = true) : behind surroundings (.punctuator mark) = surroundings.tail := by
  have hnone : opened? surroundings mark = none := by
    cases mark <;> first | rfl | cases h
  rw [behind, if_pos hcounts, hnone]
  simp only [h, if_true]

/-- A token that is no bracket changes nothing. -/
theorem behind_of_plain {kind : TokenKind} (hopening : kind.isOpening = false)
    (hclosing : kind.isClosing = false) : behind surroundings kind = surroundings := by
  cases kind with
  | punctuator mark =>
      have hnone : opened? surroundings mark = none := by
        cases mark <;> first | rfl | cases hopening
      have hclosing' : mark.isClosing = false := hclosing
      simp [behind, hnone, hclosing']
  | _ => rfl

/-- In a group that is passed other brackets than its own change nothing. -/
theorem behind_of_passed (hpassed : enclosure.isPassed = true) {kind : TokenKind}
    (hopening : kind ≠ .punctuator enclosure.delimiter.opening)
    (hclosing : kind ≠ .punctuator enclosure.delimiter.closing) :
    behind (enclosure :: surroundings) kind = enclosure :: surroundings := by
  cases kind with
  | punctuator mark =>
      simp only [ne_eq, TokenKind.punctuator.injEq] at hopening hclosing
      simp [behind, counts, hpassed, hopening, hclosing]
  | _ => rfl

/-- In a group that is passed its own opening bracket begins another one. -/
theorem behind_opening_of_passed (hpassed : enclosure.isPassed = true) :
    behind (enclosure :: surroundings) (.punctuator enclosure.delimiter.opening) =
      enclosure :: enclosure :: surroundings := by
  refine behind_of_opened ?_ ?_
  · simp [counts]
  · cases enclosure <;> first | rfl | cases hpassed

theorem behind_closing (enclosure : Enclosure) (surroundings : List Enclosure) :
    behind (enclosure :: surroundings) (.punctuator enclosure.delimiter.closing) = surroundings :=
  behind_of_isClosing (by simp [counts]) enclosure.delimiter.isClosing_closing

/-- A group that is passed encloses what the count of its own brackets says. -/
theorem behind_of_step (hpassed : enclosure.isPassed = true) {inner inner' : Nat} {kind : TokenKind}
    (h : (BracketCount.pair enclosure.delimiter.opening enclosure.delimiter.closing).step inner kind =
      some inner') :
    behind (List.replicate (inner + 1) enclosure ++ surroundings) kind =
      List.replicate (inner' + 1) enclosure ++ surroundings := by
  simp only [BracketCount.step, BracketCount.pair, beq_iff_eq] at h
  split at h
  · cases h
  split at h
  · rename_i hopening
    obtain rfl := Option.some.inj h
    rw [hopening]
    exact behind_opening_of_passed hpassed
  · rename_i hopening
    split at h
    · rename_i hclosing
      cases inner with
      | zero => cases h
      | succ inner =>
          obtain rfl := Option.some.inj h
          rw [hclosing]
          exact behind_closing enclosure _
    · rename_i hclosing
      obtain rfl := Option.some.inj h
      exact behind_of_passed hpassed hopening hclosing

/-- Tokens that are no brackets change nothing. -/
theorem around_of_plain {base : List Enclosure} {tokens : List Token}
    (h : ∀ token ∈ tokens, token.kind.isOpening = false ∧ token.kind.isClosing = false) :
    around base tokens = base := by
  induction tokens generalizing base with
  | nil => rfl
  | cons token rest ih =>
      obtain ⟨hopening, hclosing⟩ := h token List.mem_cons_self
      have hsplit : around base (token :: rest) = around (behind base token.kind) rest := rfl
      rw [hsplit, behind_of_plain hopening hclosing]
      exact ih fun next hnext => h next (List.mem_cons_of_mem _ hnext)

end Enclosure

end CompletionGateway
