import CompletionGateway.Proofs.Operation.Level
import CompletionGateway.Proofs.Operation.ValueTaking

/-!
# Rules follow the pieces of a literal

Inside a literal the reader stands in front of some pieces and the bracket behind them.  There each
rule does what the pieces say: it yields the name, the key, the colon or the value that stands at
their front and leaves the pieces behind it, or it fails if they do not begin with one.
-/

namespace CompletionGateway

namespace Rule

variable {α β : Type}

/-- The rule yields a result and leaves the pieces behind it, or, where there is no result, it
fails.  The tokens in `tail` stand behind all pieces. -/
def Follows (rule : Rule α) (s : Reading) (result : Option (α × List Piece))
    (tail : List Token) : Prop :=
  match result with
  | some (value, rest) => rule.Reads s value (Piece.flat rest ++ tail)
  | none => ∃ s', rule s = .failed s'

section Follows

variable {s : Reading} {tail : List Token}

theorem Follows.congr {rule rule' : Rule α} {result : Option (α × List Piece)}
    (h : rule s = rule' s) (h' : rule'.Follows s result tail) : rule.Follows s result tail := by
  cases result with
  | none =>
      obtain ⟨s', hfailed⟩ := h'
      exact ⟨s', h.trans hfailed⟩
  | some found => exact Reads.congr h h'

theorem follows_failed {rule : Rule α} {s' : Reading} (h : rule s = .failed s') :
    rule.Follows s none tail := ⟨s', h⟩

theorem follows_pure (value : α) (rest : List Piece)
    (hunread : s.unread = Piece.flat rest ++ tail) :
    (pure value : Rule α).Follows s (some (value, rest)) tail :=
  ⟨s, rfl, hunread, .refl s⟩

/-- The second rule follows the pieces that the first one leaves. -/
theorem Follows.bind {first : Rule α} {second : α → Rule β} {result : Option (α × List Piece)}
    {result' : α × List Piece → Option (β × List Piece)} (h : first.Follows s result tail)
    (h' : ∀ value rest s', result = some (value, rest) → s'.unread = Piece.flat rest ++ tail →
      s.Agrees s' → (second value).Follows s' (result' (value, rest)) tail) :
    (first >>= second).Follows s (result.bind result') tail := by
  cases result with
  | none =>
      obtain ⟨s', hfailed⟩ := h
      exact ⟨s', bind_of_failed hfailed⟩
  | some found =>
      obtain ⟨value, rest⟩ := found
      obtain ⟨s', hdone, hunread, hagrees⟩ := h
      have hsecond := h' value rest s' rfl hunread hagrees
      show (first >>= second).Follows s (result' (value, rest)) tail
      cases hresult : result' (value, rest) with
      | none =>
          rw [hresult] at hsecond
          obtain ⟨s'', hfailed⟩ := hsecond
          exact ⟨s'', (bind_of_done hdone).trans hfailed⟩
      | some found =>
          rw [hresult] at hsecond
          obtain ⟨s'', hdone', hunread', hagrees'⟩ := hsecond
          exact ⟨s'', (bind_of_done hdone).trans hdone', hunread', hagrees.trans hagrees'⟩

/-- What is made of a value afterwards. -/
theorem Follows.map {rule : Rule α} {result : Option (α × List Piece)} (f : α → β)
    (h : rule.Follows s result tail) :
    (do return f (← rule) : Rule β).Follows s
      (result.map fun found => (f found.1, found.2)) tail := by
  rw [Option.map_eq_bind]
  exact h.bind fun value rest s' _ hunread _ => follows_pure (f value) rest hunread

/-- A token is taken, and then another rule follows the pieces. -/
theorem Follows.of_advance {rule rule' : Rule α} {result : Option (α × List Piece)}
    (h : rule s = rule' s.advance) (h' : rule'.Follows s.advance result tail) :
    rule.Follows s result tail := by
  cases result with
  | none =>
      obtain ⟨s', hfailed⟩ := h'
      exact ⟨s', h.trans hfailed⟩
  | some found => exact Reads.of_advance h h'

theorem Follows.nested {rule : Rule α} {result : Option (α × List Piece)}
    (hroom : s.depth < deepestValue)
    (h : rule.Follows { s with depth := s.depth + 1 } result tail) :
    (Rule.nested rule).Follows s result tail := by
  cases result with
  | none =>
      obtain ⟨s', hfailed⟩ := h
      exact ⟨{ s' with depth := s'.depth - 1 }, by rw [Rule.nested, if_pos hroom, hfailed]⟩
  | some found =>
      obtain ⟨s', hdone, hunread, hagrees⟩ := h
      refine ⟨{ s' with depth := s'.depth - 1 }, ?_, hunread, hagrees.opened, ?_, hagrees.errors,
        hagrees.source⟩
      · rw [Rule.nested, if_pos hroom, hdone]
      · simp only [hagrees.depth, Nat.add_sub_cancel]

/-- A group has the result of what stands inside its brackets. -/
theorem Follows.group {body : Rule α} {wrap : α → β} {opening closing : Punctuator}
    {enclosure : Enclosure} {first last : Token} {inside : List Token} {result : Option α}
    (hunread : s.unread = first :: (inside ++ last :: tail))
    (hfirst : first.kind = .punctuator opening) (hlast : last.kind = .punctuator closing)
    (h : body.Follows (s.advance.push enclosure first.span) (result.map fun value => (value, []))
      (last :: tail)) :
    (do
      let _ ← openGroup opening enclosure
      let found ← body
      let _ ← closeGroup closing
      return wrap found : Rule β).Follows s (result.map fun value => (wrap value, [])) tail := by
  cases result with
  | none =>
      obtain ⟨s', hfailed⟩ := h
      refine ⟨s', ?_⟩
      rw [bind_of_done (openGroup_of_unread hunread hfirst), bind_of_failed hfailed]
  | some value => exact Reads.group hunread hfirst hlast rfl h

end Follows

end Rule

namespace Piece

/-- The piece is what it is taken for: a token is no bracket, and a group begins with one and is
read as its value, as long as it has the room that it may need. -/
def Sound (source : Option (List Char)) (room : Nat) : Piece → Prop
  | token t => t.kind.isPlain = true
  | group tokens value? => (∃ first more, tokens = first :: more ∧ first.kind.isOpening = true) ∧
      ∀ limit s tail, s.source = source → s.unread = tokens ++ tail → s.unread.length < limit →
        s.depth + room + 1 ≤ deepestValue →
          (Rule.valueWithin limit).Follows s (value?.map fun value => (value, [])) tail

theorem Sound.mono {source : Option (List Char)} {room room' : Nat} {piece : Piece}
    (h : piece.Sound source room) (hle : room ≤ room') : piece.Sound source room' := by
  cases piece with
  | token t => exact h
  | group tokens value? =>
      refine ⟨h.1, fun limit s tail hsource hunread hlimit hdepth => ?_⟩
      exact h.2 limit s tail hsource hunread hlimit (by omega)

section Front

variable {source : Option (List Char)} {room : Nat} {pieces : List Piece}
variable (hsound : ∀ piece ∈ pieces, piece.Sound source room)
variable (last : Token) (rest : List Token)

include hsound in
/-- What stands at the front of pieces: a token that is no bracket, an opening bracket, or, where
there are no pieces, the closing bracket behind them. -/
theorem exists_front : ∃ next more, flat pieces ++ last :: rest = next :: more ∧
    ((∃ pieces', pieces = token next :: pieces' ∧ more = flat pieces' ++ last :: rest ∧
        next.kind.isPlain = true) ∨
      (∃ tokens value? pieces', pieces = group tokens value? :: pieces' ∧
        next.kind.isOpening = true) ∨
      pieces = [] ∧ next = last ∧ more = rest) := by
  cases pieces with
  | nil => exact ⟨last, rest, rfl, .inr (.inr ⟨rfl, rfl, rfl⟩)⟩
  | cons piece pieces' =>
      have hpiece := hsound piece List.mem_cons_self
      cases piece with
      | token t => exact ⟨t, _, rfl, .inl ⟨pieces', rfl, rfl, hpiece⟩⟩
      | group tokens value? =>
          obtain ⟨⟨first, more, rfl, hfirst⟩, -⟩ := hpiece
          refine ⟨first, more ++ (flat pieces' ++ last :: rest), ?_, .inr (.inl
            ⟨first :: more, value?, pieces', rfl, hfirst⟩)⟩
          rw [flat_cons, List.append_assoc]
          rfl

end Front

end Piece

namespace Rule

/-! ### One piece -/

/-- What the token stands for with which some pieces begin. -/
def front? {α : Type} (meaning? : Token → Option α) : List Piece → Option (α × List Piece)
  | .token t :: rest => (meaning? t).map fun value => (value, rest)
  | _ => none

/-- A bracket is no name, no key and no colon, and it ends a bare run. -/
theorem of_isBracket {kind : TokenKind} (h : kind.isOpening = true ∨ kind.isClosing = true) :
    kind.asName? = none ∧ kind.key? = none ∧ kind.endsRun = true ∧ kind.isPlain = false ∧
      kind ≠ .finish := by
  cases kind with
  | punctuator mark => cases mark <;> simp [TokenKind.isOpening, TokenKind.isClosing,
      Punctuator.isOpening, Punctuator.isClosing, TokenKind.asName?, TokenKind.key?,
      TokenKind.endsRun, TokenKind.isPlain] at h ⊢
  | _ => simp [TokenKind.isOpening, TokenKind.isClosing] at h

section Pieces

variable {source : Option (List Char)} {room : Nat} {pieces : List Piece}
variable (hsound : ∀ piece ∈ pieces, piece.Sound source room)
variable {s : Reading} {last : Token} {rest : List Token}
variable (hlast : last.kind.isClosing = true) (hunread : s.unread = Piece.flat pieces ++ last :: rest)

include hsound hlast hunread

/-- The next token is a piece, or it is a bracket and no piece is a token there. -/
theorem next_cases :
    (∃ next pieces', pieces = .token next :: pieces' ∧ next.kind.isPlain = true ∧
        s.unread = next :: (Piece.flat pieces' ++ last :: rest)) ∨
      ∃ next more, s.unread = next :: more ∧
        (next.kind.isOpening = true ∨ next.kind.isClosing = true) ∧
          ∀ t pieces', pieces ≠ .token t :: pieces' := by
  obtain ⟨next, more, hnext, hcase⟩ := Piece.exists_front hsound last rest
  rw [hnext] at hunread
  rcases hcase with ⟨pieces', rfl, rfl, hplain⟩ | ⟨tokens, value?, pieces', rfl, hopening⟩ |
    ⟨rfl, rfl, rfl⟩
  · exact .inl ⟨next, pieces', rfl, hplain, hunread⟩
  · exact .inr ⟨next, more, hunread, .inl hopening, by simp⟩
  · exact .inr ⟨next, more, hunread, .inr hlast, by simp⟩

/-- A rule that takes the next token, if that stands for something, follows the pieces.  Behind the last
piece and in front of a group there is a bracket, which stands for nothing. -/
theorem front_follows {α : Type} {rule : Rule α} {meaning? : Token → Option α}
    (hbracket : ∀ token : Token, token.kind.isOpening = true ∨ token.kind.isClosing = true →
      meaning? token = none)
    (hdone : ∀ next more value, s.unread = next :: more → meaning? next = some value →
      rule s = .done value s.advance)
    (hfailed : ∀ next more, s.unread = next :: more → meaning? next = none →
      ∃ s', rule s = .failed s') : rule.Follows s (front? meaning? pieces) (last :: rest) := by
  rcases next_cases hsound hlast hunread with
    ⟨next, pieces', rfl, -, hnext⟩ | ⟨next, more, hnext, hkind, hnone⟩
  · rw [front?]
    cases hmeaning : meaning? next with
    | some value => exact reads_advance hnext (hdone next _ value hnext hmeaning)
    | none => exact hfailed next _ hnext hmeaning
  · have hnothing : front? meaning? pieces = none := by
      unfold front?
      split
      · rename_i t pieces'
        exact absurd rfl (hnone t pieces')
      · rfl
    rw [hnothing]
    exact hfailed next more hnext (hbracket next hkind)

theorem variableName_follows : variableName.Follows s
    ((Piece.name? pieces).map fun found => (.variable found.1, found.2)) (last :: rest) := by
  have hname : (Piece.name? pieces).map (fun found => (ArgValue.variable found.1, found.2)) =
      front? (fun t => t.kind.asName?.map .variable) pieces := by
    cases pieces with
    | nil => rfl
    | cons piece pieces' =>
        cases piece with
        | token t => simp only [Piece.name?, front?, Option.map_map, Function.comp_def]
        | group tokens value? => rfl
  rw [hname]
  refine front_follows hsound hlast hunread ?_ ?_ ?_
  · intro token hkind
    rw [(of_isBracket hkind).1]
    rfl
  · intro next more value hnext hvalue
    obtain ⟨name, hname, rfl⟩ := Option.map_eq_some_iff.1 hvalue
    rw [variableName, bind_of_done (expectName_of_unread hnext hname)]
    rfl
  · intro next more hnext hnone
    exact ⟨_, bind_of_failed (expectName_of_none hnext (Option.map_eq_none_iff.1 hnone))⟩

theorem objectKey_follows : objectKey.Follows s (Piece.key? pieces) (last :: rest) := by
  refine front_follows hsound hlast hunread (fun token hkind => (of_isBracket hkind).2.1)
    (fun next more name hnext hkey => objectKey_of_key? hnext hkey) ?_
  intro next more hnext hkey
  rcases objectKey_of_none hnext hkey with ⟨-, error, -, hrule⟩ | hrule
  · exact ⟨_, hrule⟩
  · exact ⟨_, hrule⟩

theorem colon_follows : (expect .colon).Follows s (Piece.colon? pieces) (last :: rest) := by
  have hcolon : Piece.colon? pieces =
      front? (fun t => if t.kind = .punctuator .colon then some t else none) pieces := by
    cases pieces with
    | nil => rfl
    | cons piece pieces' =>
        cases piece with
        | token t =>
            rw [Piece.colon?, front?]
            split <;> rfl
        | group tokens value? => rfl
  rw [hcolon]
  refine front_follows hsound hlast hunread ?_ ?_ ?_
  · intro token hkind
    refine if_neg fun hcolon => ?_
    simp [hcolon, TokenKind.isOpening, TokenKind.isClosing, Punctuator.isOpening,
      Punctuator.isClosing] at hkind
  · intro next more found hnext hfound
    split at hfound
    · rename_i hkind
      obtain rfl := Option.some.inj hfound
      exact expect_of_unread hnext hkind
    · cases hfound
  · intro next more hnext hnone
    split at hnone
    · cases hnone
    · rename_i hkind
      exact ⟨_, expect_of_ne hnext hkind⟩

/-- Whether a bare run goes on does not depend on what is inside of groups. -/
theorem goesOn_eq (span : Span) :
    Piece.goesOn span pieces = (match s.unread with
      | next :: _ => next.follows span && !next.kind.endsRun
      | [] => false) := by
  rcases next_cases hsound hlast hunread with
    ⟨next, pieces', rfl, -, hnext⟩ | ⟨next, more, hnext, hbracket, hnone⟩
  · rw [hnext]
    rfl
  · rw [hnext]
    unfold Piece.goesOn
    split
    · rename_i t pieces'
      exact absurd rfl (hnone t pieces')
    · simp [(of_isBracket hbracket).2.2.1]

end Pieces

theorem takeRun_flat {source : Option (List Char)} {room : Nat} {pieces : List Piece}
    (hsound : ∀ piece ∈ pieces, piece.Sound source room) {last : Token} {rest : List Token}
    (hlast : last.kind.isClosing = true) (span : Span) :
    takeRun span (Piece.flat pieces ++ last :: rest) = ((Piece.takeRun span pieces).1,
      Piece.flat (Piece.takeRun span pieces).2 ++ last :: rest) := by
  induction pieces generalizing span with
  | nil =>
      have hends := (of_isBracket (.inr hlast)).2.2.1
      simp [takeRun, Piece.takeRun, hends]
  | cons piece pieces ih =>
      have hrest := ih fun piece hpiece => hsound piece (List.mem_cons_of_mem _ hpiece)
      cases piece with
      | token next =>
          rw [Piece.flat_cons, Piece.takeRun]
          show takeRun span (next :: (Piece.flat pieces ++ last :: rest)) = _
          rw [takeRun, hrest next.span]
          split <;> rfl
      | group tokens value? =>
          obtain ⟨⟨first, more, rfl, hfirst⟩, -⟩ := hsound _ List.mem_cons_self
          have hends := (of_isBracket (.inl hfirst)).2.2.1
          rw [Piece.flat_cons, Piece.takeRun]
          simp [Piece.tokens, takeRun, hends]

/-! ### Values -/

section Values

variable {source : Option (List Char)} {room : Nat} {pieces : List Piece}
variable (hsound : ∀ piece ∈ pieces, piece.Sound source room)
variable {s : Reading} {first last : Token} {rest : List Token}
variable (hlast : last.kind.isClosing = true)

include hsound hlast

theorem startsRun_eq (hunread : s.unread = first :: (Piece.flat pieces ++ last :: rest)) :
    s.startsRun first = Piece.startsRun s.source first pieces := by
  have hgoes := goesOn_eq hsound hlast (Reading.unread_advance hunread) first.span
  rw [Reading.unread_advance hunread] at hgoes
  unfold Reading.startsRun Piece.startsRun
  cases first.kind with
  | name | int | float | bool | null =>
      rw [hgoes, TokenStream.peek, hunread]
      cases Piece.flat pieces <;> rfl
  | _ => rfl

theorem bareRun_follows (hunread : s.unread = first :: (Piece.flat pieces ++ last :: rest)) :
    bareRun.Follows s
      ((Token.runText? s.source first (Piece.takeRun first.span pieces).1).map fun text =>
        (.string text, (Piece.takeRun first.span pieces).2)) (last :: rest) := by
  have hrun : takeRun first.span (Piece.flat pieces ++ last :: rest) =
      ((Piece.takeRun first.span pieces).1,
        Piece.flat (Piece.takeRun first.span pieces).2 ++ last :: rest) :=
    takeRun_flat hsound hlast first.span
  have hrule := bareRun_of_unread hunread
  rw [hrun] at hrule
  simp only at hrule
  cases htext : Token.runText? s.source first (Piece.takeRun first.span pieces).1 with
  | some text =>
      rw [htext] at hrule
      exact ⟨_, hrule, rfl, ⟨rfl, rfl, rfl, rfl⟩⟩
  | none =>
      rw [htext] at hrule
      simp only at hrule
      split at hrule <;> exact ⟨_, hrule⟩

/-- A value that begins with a token. -/
theorem valueAt_follows (inner : Rule ArgValue) (hplain : first.kind.isPlain = true)
    (hunread : s.unread = first :: (Piece.flat pieces ++ last :: rest)) :
    (valueAt inner first).Follows s (Piece.value? s.source (.token first :: pieces))
      (last :: rest) := by
  have hnext := Reading.unread_advance hunread
  -- whether a run begins does not depend on what stands inside of groups
  have hstarts := startsRun_eq hsound hlast hunread
  rw [Piece.value?, ← hstarts]
  cases beginsValue inner first s with
  | run hrun hrule =>
      rw [if_pos hrun]
      exact .congr hrule (bareRun_follows hsound hlast hunread)
  | word hrun hvalue hrule =>
      have hdollar : first.kind ≠ .punctuator .dollar := by
        intro hkind
        simp [hkind, TokenKind.value?] at hvalue
      rw [hrun, if_neg Bool.false_ne_true, if_neg hdollar, hvalue]
      exact .of_advance hrule (follows_pure _ pieces hnext)
  | «variable» hdollar hrule =>
      have hrun : s.startsRun first = false := by simp [Reading.startsRun, hdollar]
      rw [hrun, if_neg Bool.false_ne_true, if_pos hdollar]
      exact .of_advance hrule (variableName_follows hsound hlast hnext)
  | literal kind hopening hrule =>
      have hbracket : first.kind.isOpening = true := by
        rw [hopening]
        exact kind.shape.isOpening_opening
      rw [(of_isBracket (.inl hbracket)).2.2.2.1] at hplain
      cases hplain
  | faulty hrun hliteral hvalue hmild hrule =>
      have hdollar : first.kind ≠ .punctuator .dollar := by
        intro hkind
        simp [hkind, TokenKind.isLiteral] at hliteral
      rw [hrun, if_neg Bool.false_ne_true, if_neg hdollar, hvalue]
      exact follows_failed hrule
  | refused hrun hvalue hdollar hrule =>
      rw [hrun, if_neg Bool.false_ne_true, if_neg hdollar, hvalue]
      exact follows_failed hrule

end Values

/-- A bracket that opens no literal begins no value. -/
theorem valueAt_of_isBracket (inner : Rule ArgValue) {token : Token}
    (h : token.kind.isOpening = true ∨ token.kind.isClosing = true)
    (hopening : ∀ kind : LiteralKind, token.kind ≠ .punctuator kind.shape.opening) (s : Reading) :
    valueAt inner token s = refuseNext ["value"] s := by
  cases hkind : token.kind with
  | punctuator mark =>
      have hmark : s.startsRun token = false ∧ mark ≠ .dollar := by
        cases mark <;> simp_all [Reading.startsRun, TokenKind.isOpening, TokenKind.isClosing,
          Punctuator.isOpening, Punctuator.isClosing]
      refine valueAt_of_refused inner hmark.1 (by rw [hkind]; rfl) (by rw [hkind]; rfl) ?_ hopening
      rw [hkind]
      exact fun hdollar => hmark.2 (TokenKind.punctuator.inj hdollar)
  | _ => simp [hkind, TokenKind.isOpening, TokenKind.isClosing] at h

end Rule

end CompletionGateway
