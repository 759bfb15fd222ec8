import CompletionGateway.Token.Basic

/-!
# Counting brackets

How many groups are open after some tokens, where a count says which tokens open a group and which
close one.  The reader counts in two ways: a skipped group counts only its own brackets, and a
malformed literal counts all brackets whatever their shape.  The end of the document lies in no
group.
-/

namespace CompletionGateway

/-- Which tokens open a group and which close one. -/
structure BracketCount where
  opens : TokenKind → Bool
  closes : TokenKind → Bool

namespace BracketCount

/-- The brackets of one pair count. -/
def pair (opening closing : Punctuator) : BracketCount where
  opens kind := kind == .punctuator opening
  closes kind := kind == .punctuator closing

/-- All brackets count, whatever their shape. -/
def all : BracketCount := ⟨TokenKind.isOpening, TokenKind.isClosing⟩

variable (count : BracketCount)

/-- How many groups are open after one token, unless it closes a group that is not there. -/
def step (before : Nat) (kind : TokenKind) : Option Nat :=
  if kind = .finish then none
  else if count.opens kind then some (before + 1)
  else if count.closes kind then
    match before with
    | 0 => none
    | before + 1 => some before
  else some before

/-- How many groups are open after some tokens. -/
def after (before : Nat) (kinds : List TokenKind) : Option Nat := kinds.foldlM count.step before

/-- Tokens that close exactly the groups that they open. -/
def Balanced (tokens : List Token) : Prop := count.after 0 (tokens.map (·.kind)) = some 0

variable {count}

theorem after_cons (before : Nat) (kind : TokenKind) (rest : List TokenKind) :
    count.after before (kind :: rest) =
      (count.step before kind).bind fun between => count.after between rest := rfl

theorem after_append (before : Nat) (front back : List TokenKind) :
    count.after before (front ++ back) =
      (count.after before front).bind fun between => count.after between back :=
  List.foldlM_append

theorem step_finish (before : Nat) : count.step before .finish = none := if_pos rfl

theorem step_add {before after : Nat} {kind : TokenKind} (h : count.step before kind = some after)
    (more : Nat) : count.step (before + more) kind = some (after + more) := by
  unfold step at h ⊢
  split at h
  · cases h
  rename_i hfinish
  rw [if_neg hfinish]
  split at h
  · rename_i hopens
    obtain rfl := Option.some.inj h
    rw [if_pos hopens, Nat.add_right_comm]
  rename_i hopens
  rw [if_neg hopens]
  split at h
  · rename_i hcloses
    rw [if_pos hcloses]
    cases before with
    | zero => cases h
    | succ before =>
        obtain rfl := Option.some.inj h
        rw [Nat.succ_add]
  · rename_i hcloses
    obtain rfl := Option.some.inj h
    rw [if_neg hcloses]

/-- Groups around the tokens stay open. -/
theorem after_add {before after : Nat} {kinds : List TokenKind}
    (h : count.after before kinds = some after) (more : Nat) :
    count.after (before + more) kinds = some (after + more) := by
  induction kinds generalizing before with
  | nil =>
      obtain rfl := Option.some.inj h
      rfl
  | cons kind rest ih =>
      obtain ⟨between, hstep, hrest⟩ := Option.bind_eq_some_iff.1 h
      rw [after_cons, step_add hstep more]
      exact ih hrest

theorem all_step_of_isOpening {kind : TokenKind} (h : kind.isOpening = true) (before : Nat) :
    all.step before kind = some (before + 1) := by
  have hfinish : kind ≠ .finish := by
    rintro rfl
    cases h
  simp [step, all, hfinish, h]

theorem all_step_of_isClosing {kind : TokenKind} (h : kind.isClosing = true) :
    all.step 0 kind = none ∧ ∀ before, all.step (before + 1) kind = some before := by
  have hopening : kind.isOpening = false := by
    cases kind with
    | punctuator mark => cases mark <;> first | rfl | cases h
    | _ => cases h
  have hfinish : kind ≠ .finish := by
    rintro rfl
    cases h
  simp [step, all, hopening, hfinish, h]

/-- Tokens that leave a group open end before the bracket that closes it. -/
theorem exists_more_of_append_eq {before after : Nat} {front rest inside back : List Token}
    {last : Token} (hinside : count.after before (inside.map (·.kind)) = some 0)
    (hlast : count.step 0 last.kind = none)
    (hfront : count.after before (front.map (·.kind)) = some after)
    (h : front ++ rest = inside ++ last :: back) :
    ∃ more, inside = front ++ more ∧ rest = more ++ last :: back ∧
      count.after after (more.map (·.kind)) = some 0 := by
  have hmore : ∃ more, inside = front ++ more ∧ rest = more ++ last :: back := by
    rcases List.append_eq_append_iff.1 h with ⟨more, hsplit, hrest⟩ | ⟨more, hsplit, hback⟩
    · exact ⟨more, hsplit, hrest⟩
    · cases more with
      | nil => exact ⟨[], by simpa using hsplit.symm, hback.symm⟩
      | cons next more =>
          obtain ⟨rfl, -⟩ := List.cons.inj hback
          rw [hsplit, List.map_append, after_append, hinside, List.map_cons, Option.bind_some,
            after_cons, hlast] at hfront
          cases hfront
  obtain ⟨more, hsplit, hrest⟩ := hmore
  refine ⟨more, hsplit, hrest, ?_⟩
  rwa [hsplit, List.map_append, after_append, hfront] at hinside

/-- The end of the document closes no group. -/
theorem ne_finish_of_after {before after : Nat} {tokens : List Token}
    (h : count.after before (tokens.map (·.kind)) = some after) :
    ∀ token ∈ tokens, token.kind ≠ .finish := by
  induction tokens generalizing before with
  | nil => simp
  | cons token rest ih =>
      rw [List.map_cons, after_cons] at h
      obtain ⟨between, hstep, hrest⟩ := Option.bind_eq_some_iff.1 h
      have hfirst : token.kind ≠ .finish := by
        intro hfinish
        rw [hfinish, step_finish] at hstep
        cases hstep
      simpa using ⟨hfirst, ih hrest⟩

theorem Balanced.nil : count.Balanced [] := rfl

/-- Balanced tokens change no count. -/
theorem Balanced.after {tokens : List Token} (h : count.Balanced tokens) (before : Nat)
    (rest : List TokenKind) :
    count.after before (tokens.map (·.kind) ++ rest) = count.after before rest := by
  have hadd := after_add h before
  rw [Nat.zero_add] at hadd
  rw [after_append, hadd]
  rfl

theorem Balanced.append {front back : List Token} (h : count.Balanced front)
    (h' : count.Balanced back) : count.Balanced (front ++ back) := by
  rw [Balanced, List.map_append, h.after]
  exact h'

/-- A token that is no bracket is balanced by itself. -/
theorem Balanced.single {token : Token} (hopens : count.opens token.kind = false)
    (hcloses : count.closes token.kind = false) (hfinish : token.kind ≠ .finish) :
    count.Balanced [token] := by
  simp [Balanced, BracketCount.after, step, hopens, hcloses, hfinish]

/-- Brackets around balanced tokens are balanced. -/
theorem Balanced.brackets {first last : Token} {inside : List Token}
    (hfirst : first.kind.isOpening = true) (hinside : all.Balanced inside)
    (hlast : last.kind.isClosing = true) : all.Balanced (first :: (inside ++ [last])) := by
  have hcount := after_add hinside 1
  have hclose : all.after 1 [last.kind] = some 0 := by
    rw [after_cons, (all_step_of_isClosing hlast).2 0]
    rfl
  have hopen := all_step_of_isOpening hfirst 0
  rw [Balanced, List.map_cons, List.map_append, after_cons, hopen, Option.bind_some, after_append,
    hcount]
  exact hclose

theorem Balanced.of_forall {tokens : List Token}
    (h : ∀ token ∈ tokens, count.opens token.kind = false ∧ count.closes token.kind = false ∧
      token.kind ≠ .finish) : count.Balanced tokens := by
  induction tokens with
  | nil => exact .nil
  | cons token rest ih =>
      obtain ⟨hopens, hcloses, hfinish⟩ := h token (by simp)
      have hrest := ih fun next hnext => h next (by simp [hnext])
      exact (Balanced.single hopens hcloses hfinish).append hrest

end BracketCount

end CompletionGateway
