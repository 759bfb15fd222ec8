import CompletionGateway.Proofs.Operation.Alike
import CompletionGateway.Proofs.Text.Offset

/-!
# Rules for values see no places

A bare run means the text that it covers.  In two texts with tokens that are alike this is the same
text, because its pieces are the same and touch.  All other values depend on kinds alone, and an
object or list that counts as empty on one side does so on the other.
-/

namespace CompletionGateway

variable {text text' : List Char}

/-! ### Bare runs -/

section Run

variable {token token' : Token} {rest rest' : List Token}
variable (first : token.Alike text text' token') (others : Token.AllAlike text text' rest rest')
variable (touch : ∀ second ∈ rest.head?, ∀ second' ∈ rest'.head?,
  second.follows token.span = second'.follows token'.span)

include first others touch

/-- A run covers the same text on both sides, and what is behind it is alike. -/
theorem takeRun_alike : Token.AllAlike text text' (takeRun token.span rest).2
      (takeRun token'.span rest').2 ∧ ∃ piece,
    Text.slice text token.span.start.offset
      ((takeRun token.span rest).1.getLast?.getD token).span.stop.offset = some piece ∧
    Text.slice text' token'.span.start.offset
      ((takeRun token'.span rest').1.getLast?.getD token').span.stop.offset = some piece := by
  induction others generalizing token token' with
  | nil =>
      obtain ⟨piece, hpiece, hpiece', -⟩ := first.piece
      exact ⟨.nil, piece, hpiece, hpiece'⟩
  | @cons second second' more more' hsecond htouch hmore ih =>
      have hfollows := touch second rfl second' rfl
      have hends : second.kind.endsRun = second'.kind.endsRun :=
        TokenKind.congr_of_withoutNotes hsecond.kind _ fun _ _ _ => rfl
      by_cases hgoes : (second.follows token.span && !second.kind.endsRun) = true
      · have hgoes' : (second'.follows token'.span && !second'.kind.endsRun) = true := by
          rwa [← hfollows, ← hends]
        simp only [takeRun, if_pos hgoes, if_pos hgoes']
        obtain ⟨hbehind, piece, hslice, hslice'⟩ := ih hsecond htouch
        obtain ⟨front, hfront, hfront', -⟩ := first.piece
        -- the token and the run behind it touch
        rw [Bool.and_eq_true, Token.follows, beq_iff_eq] at hgoes hgoes'
        rw [hgoes.1] at hslice
        rw [hgoes'.1] at hslice'
        refine ⟨hbehind, front ++ piece, ?_, ?_⟩
        · simpa [List.getLast?_cons] using Text.slice_append_slice hfront hslice
        · simpa [List.getLast?_cons] using Text.slice_append_slice hfront' hslice'
      · have hgoes' : ¬ (second'.follows token'.span && !second'.kind.endsRun) = true := by
          rwa [← hfollows, ← hends]
        simp only [takeRun, if_neg hgoes, if_neg hgoes']
        obtain ⟨piece, hpiece, hpiece', -⟩ := first.piece
        exact ⟨.cons hsecond htouch hmore, piece, hpiece, hpiece'⟩

end Run

namespace Reading.Alike

variable {s s' : Reading} (h : s.Alike text text' s')
variable {token token' : Token} {rest rest' : List Token}
variable (hunread : s.unread = token :: rest) (hunread' : s'.unread = token' :: rest')

include h hunread hunread'

theorem next_alike : token.Alike text text' token' ∧ Token.AllAlike text text' rest rest' ∧
    ∀ second ∈ rest.head?, ∀ second' ∈ rest'.head?,
      second.follows token.span = second'.follows token'.span := by
  have hall := h.unread
  rw [hunread, hunread'] at hall
  cases hall with
  | cons first touch others => exact ⟨first, others, touch⟩

/-- A faulty token is a string without its end on both sides. -/
theorem isOpenString_eq (hkind : token.kind ≠ .finish) :
    s.isOpenString token = s'.isOpenString token' := by
  obtain ⟨⟨-, piece, hpiece, hpiece', hne⟩, -, -⟩ := h.next_alike hunread hunread'
  obtain ⟨c, more, rfl⟩ := List.exists_cons_of_ne_nil (hne hkind)
  obtain ⟨back, hback⟩ := Text.dropBytes_of_slice hpiece
  obtain ⟨back', hback'⟩ := Text.dropBytes_of_slice hpiece'
  simp only [isOpenString, h.source, h.source', Option.bind_some, hback, hback', List.cons_append]

theorem startsRun_eq : s.startsRun token = s'.startsRun token' := by
  obtain ⟨htoken, hrest, htouch⟩ := h.next_alike hunread hunread'
  rcases TokenKind.eq_or_error htoken.kind with hkind | ⟨message, notes, notes', hkind, hkind'⟩
  · unfold startsRun
    cases hfirst : token.kind with
    | error message notes =>
        have hopen := h.isOpenString_eq hunread hunread' (by simp [hfirst])
        simp only [← hkind, hfirst, hopen]
    | name _ | int _ | float _ | bool _ | null =>
        -- the token behind a word says whether a run goes on there
        simp only [← hkind, hfirst, TokenStream.peek, hunread, hunread', List.getElem?_cons_succ]
        cases hrest with
        | nil => rfl
        | @cons second second' _ _ hsecond _ _ =>
            have hends : second.kind.endsRun = second'.kind.endsRun :=
              TokenKind.congr_of_withoutNotes hsecond.kind _ fun _ _ _ => rfl
            simp [htouch second rfl second' rfl, hends]
    | _ => simp only [← hkind, hfirst]
  · have hopen := h.isOpenString_eq hunread hunread' (by simp [hkind])
    simp only [startsRun, hkind, hkind', hopen]

end Reading.Alike

namespace Rule

theorem alike_bareRun : Alike text text' bareRun bareRun Eq := by
  intro s s' hs
  rcases hs.unread_cases with ⟨hnil, hnil'⟩ |
    ⟨token, rest, token', rest', hunread, hunread', htoken, hrest, htouch⟩
  · have hrule : ∀ s : Reading, s.unread = [] → bareRun s = refuseNext ["value"] s :=
      fun s hs => by rw [bareRun, hs]
    rw [hrule s hnil, hrule s' hnil']
    exact alike_refuseNext _ s s' hs
  · obtain ⟨hbehind, piece, hslice, hslice'⟩ := takeRun_alike htoken hrest htouch
    simp only [bareRun, hunread, hunread', hs.source, hs.source', Option.bind_some, hslice, hslice']
    exact .done rfl ⟨hbehind, hs.opened, hs.depth, hs.errors, rfl, rfl⟩

/-! ### Literals -/

theorem alike_stringLiteral (token token' : Token) (content : String) :
    Alike text text' (stringLiteral token content) (stringLiteral token' content) Eq := by
  unfold stringLiteral
  split
  · exact alike_pure rfl
  · exact alike_refuse fun _ _ _ => rfl

theorem alike_numberLiteral (token token' : Token) (content : String) :
    Alike text text' (numberLiteral token content) (numberLiteral token' content) Eq := by
  unfold numberLiteral
  split
  · split
    · exact alike_pure rfl
    · exact alike_refuse fun _ _ _ => rfl
  · exact alike_refuse fun _ _ _ => rfl

/-- Passing closing brackets goes by the kinds of tokens. -/
theorem alike_skipClosers (depth : Nat) {tokens tokens' : List Token}
    (h : Token.AllAlike text text' tokens tokens') :
    Alike text text' (skipClosers depth tokens) (skipClosers depth tokens') fun _ _ => True := by
  -- what is missing at the end is the bracket of the innermost group
  have hmissing : Alike text text'
      (fun s => refuseUnclosed ((s.opened.head?.map (·.enclosure.delimiter)).getD .brace) s)
      (fun s => refuseUnclosed ((s.opened.head?.map (·.enclosure.delimiter)).getD .brace) s)
      fun _ _ : Unit => True := by
    intro s s' hs
    have hhead := congrArg (fun list => list.head?.map Enclosure.delimiter) hs.opened
    simp only [List.head?_map, Option.map_map, Function.comp_def] at hhead
    simp only [hhead]
    exact alike_refuseUnclosed _ s s' hs
  induction h generalizing depth with
  | nil =>
      cases depth with
      | zero => exact fun _ _ hs => .done trivial hs
      | succ depth => exact hmissing
  | @cons token token' rest rest' first touch others ih =>
      cases depth with
      | zero => exact fun _ _ hs => .done trivial hs
      | succ depth =>
          intro s s' hs
          have hfinish : (token.kind = .finish) = (token'.kind = .finish) :=
            TokenKind.congr_of_withoutNotes first.kind (· = .finish) fun _ _ _ => by simp
          have hopening : token.kind.isOpening = token'.kind.isOpening :=
            TokenKind.congr_of_withoutNotes first.kind _ fun _ _ _ => rfl
          have hclosing : token.kind.isClosing = token'.kind.isClosing :=
            TokenKind.congr_of_withoutNotes first.kind _ fun _ _ _ => rfl
          simp only [skipClosers, hfinish, hopening, hclosing]
          split
          · exact hmissing s s' hs
          split
          · exact ih _ _ _ hs.advance
          split
          · exact ih _ _ _ hs.advance
          · exact ih _ _ _ hs.advance

/-- Whether a literal counts as empty goes by the causes of the errors in it. -/
theorem alike_literal {body : Rule ArgValue} (kind : LiteralKind)
    (h : Alike text text' body body Eq) :
    Alike text text' (literal kind body) (literal kind body) Eq := by
  intro s s' hs
  have hbody := h s s' hs
  rw [literal, literal]
  generalize body s = outcome at hbody
  generalize body s' = outcome' at hbody
  cases hbody with
  | done hvalue hstate => exact .done hvalue hstate
  | @failed after after' hstate =>
      have herrors : s.errors.length = s'.errors.length := by
        simpa only [List.length_map] using congrArg List.length hs.errors
      have hopened {r r' : Reading} (hr : r.Alike text text' r') :
          r.opened.length = r'.opened.length := by
        simpa only [List.length_map] using congrArg List.length hr.opened
      -- the errors found inside have the same causes, so both are fatal or both are mended
      have hreasons : (after.errors.drop s.errors.length).map (·.gist) =
          (after'.errors.drop s'.errors.length).map (·.gist) := by
        rw [List.map_drop, List.map_drop, hstate.errors, herrors]
      have hfatal : (after.errors.drop s.errors.length).any (·.cause.isFatal) =
          (after'.errors.drop s'.errors.length).any (·.cause.isFatal) := by
        have hany := congrArg (fun list => list.any fun gist => gist.1.isFatal) hreasons
        simpa only [List.any_map, Function.comp_def, Diagnostic.gist] using hany
      dsimp only
      rw [← hfatal, ← hopened hs, ← hopened hstate]
      split
      · exact .failed hstate
      have hskip := alike_skipClosers (after.opened.length - s.opened.length) hstate.unread
        after after' hstate
      generalize skipClosers _ after.unread after = skipped at hskip
      generalize skipClosers _ after'.unread after' = skipped' at hskip
      cases hskip with
      | @done _ _ skipped skipped' _ hstate =>
          refine .done rfl ⟨hstate.unread, ?_, hstate.depth, ?_, hstate.source, hstate.source'⟩
          · simp only [Reading.discard, List.map_drop, hstate.opened, hopened hstate]
          · simp only [Reading.discard, List.map_take, hstate.errors, herrors]
      | failed hstate => exact .failed hstate

theorem alike_objectKey : Alike text text' objectKey objectKey Eq := by
  have hname : Alike text text' (do return (← expectName).1 : Rule String)
      (do return (← expectName).1 : Rule String) Eq :=
    alike_expectName.bind fun _ _ hfound => alike_pure hfound
  intro s s' hs
  rcases hs.unread_cases with ⟨hnil, hnil'⟩ |
    ⟨token, rest, token', rest', hunread, hunread', htoken, -, -⟩
  · simp only [objectKey, Reading.next?, hnil, hnil', List.head?_nil]
    exact alike_refuseNext _ s s' hs
  · simp only [objectKey, Reading.next?_of_unread hunread, Reading.next?_of_unread hunread']
    rcases TokenKind.eq_or_error htoken.kind with hkind | ⟨message, notes, notes', hkind, hkind'⟩
    · rw [← hkind]
      cases token.kind with
      | string content => exact alike_stringLiteral _ _ content _ _ hs.advance
      | _ => exact hname s s' hs
    · rw [hkind, hkind']
      exact hname s s' hs

/-! ### Groups of values -/

/-- A rule that is given the number of unread tokens is given the same number on both sides. -/
theorem alike_atSize {α β : Type} {rule : Nat → Rule α} {rule' : Nat → Rule β}
    {related : α → β → Prop} (h : ∀ size, Alike text text' (rule size) (rule' size) related) :
    Alike text text' (fun s => rule (s.unread.length + 1) s)
      (fun s => rule' (s.unread.length + 1) s) related := by
  intro s s' hs
  simp only [hs.unread.length_eq]
  exact h _ s s' hs

section Inside

variable {inner : Rule ArgValue} (hinner : Alike text text' inner inner Eq)

include hinner

theorem alike_entries (closing : Punctuator) (delimiter : Delimiter) {key : Rule String}
    (hkey : Alike text text' key key Eq) (limit : Nat) (before : Arguments) :
    Alike text text' (entries closing delimiter key inner limit before)
      (entries closing delimiter key inner limit before) Eq := by
  induction limit generalizing before with
  | zero => exact alike_refuseUnclosed delimiter
  | succ limit ih =>
      rw [entries]
      refine .nextIs_bind closing fun closed => ?_
      cases closed with
      | true => exact alike_pure rfl
      | false =>
          refine .atEnd_bind fun ended => ?_
          cases ended with
          | true => exact alike_refuseUnclosed delimiter
          | false =>
              refine hkey.bind fun name _ hname => ?_
              refine (alike_expect .colon).bind fun _ _ _ => ?_
              refine hinner.bind fun found _ hfound => ?_
              subst hname hfound
              exact ih _

theorem alike_items (limit : Nat) :
    Alike text text' (items inner limit) (items inner limit) Eq := by
  induction limit with
  | zero => exact alike_refuseUnclosed .bracket
  | succ limit ih =>
      rw [items]
      refine .nextIs_bind .closeBracket fun closed => ?_
      cases closed with
      | true => exact alike_pure rfl
      | false =>
          refine .atEnd_bind fun ended => ?_
          cases ended with
          | true => exact alike_refuseUnclosed .bracket
          | false =>
              refine hinner.bind fun first _ hfirst => ?_
              refine ih.bind fun more _ hmore => ?_
              subst hfirst hmore
              exact alike_pure rfl

theorem alike_objectBody : Alike text text' (objectBody inner) (objectBody inner) Eq := by
  refine (alike_openGroup .openBrace .objectValue).bind fun _ _ _ => ?_
  refine (alike_atSize fun size =>
    alike_entries hinner .closeBrace .brace alike_objectKey size []).bind fun found _ hfound => ?_
  refine (alike_closeGroup .closeBrace).bind fun _ _ _ => ?_
  exact alike_pure (congrArg ArgValue.object hfound)

theorem alike_listBody : Alike text text' (listBody inner) (listBody inner) Eq := by
  refine (alike_openGroup .openBracket .listValue).bind fun _ _ _ => ?_
  refine (alike_atSize (alike_items hinner)).bind fun found _ hfound => ?_
  refine (alike_closeGroup .closeBracket).bind fun _ _ _ => ?_
  exact alike_pure (congrArg ArgValue.list hfound)

end Inside

/-! ### Values -/

theorem alike_nested {rule rule' : Rule ArgValue} (h : Alike text text' rule rule' Eq) :
    Alike text text' (nested rule) (nested rule') Eq := by
  intro s s' hs
  rw [nested, nested, hs.depth]
  split
  · have hrule := h { s with depth := s'.depth + 1 } { s' with depth := s'.depth + 1 }
      ⟨hs.unread, hs.opened, rfl, hs.errors, hs.source, hs.source'⟩
    generalize rule _ = outcome at hrule
    generalize rule' _ = outcome' at hrule
    cases hrule with
    | done hvalue hstate =>
        exact .done hvalue ⟨hstate.unread, hstate.opened, congrArg (· - 1) hstate.depth,
          hstate.errors, hstate.source, hstate.source'⟩
    | failed hstate =>
        exact .failed ⟨hstate.unread, hstate.opened, congrArg (· - 1) hstate.depth,
          hstate.errors, hstate.source, hstate.source'⟩
  · exact .failed (hs.record rfl)

/-- Taking a token that is next, and then rules that are alike. -/
theorem alike_taking {α : Type} {rule rule' : Rule α} {related : α → α → Prop}
    (h : Alike text text' rule rule' related) :
    Alike text text' (update (·.advance) >>= fun _ => rule)
      (update (·.advance) >>= fun _ => rule') related :=
  .update_bind (fun _ _ hs => hs.advance) h

theorem alike_valueAt {inner : Rule ArgValue} (hinner : Alike text text' inner inner Eq)
    {s s' : Reading} (hs : s.Alike text text' s') {token token' : Token} {rest rest' : List Token}
    (hunread : s.unread = token :: rest) (hunread' : s'.unread = token' :: rest') :
    Outcome.Alike text text' Eq (valueAt inner token s) (valueAt inner token' s') := by
  have hkind := (hs.next_alike hunread hunread').1.kind
  rw [valueAt, valueAt, Rule.ask_bind, Rule.ask_bind, ← hs.startsRun_eq hunread hunread']
  split
  · exact alike_bareRun s s' hs
  · rcases TokenKind.eq_or_error hkind with hkind | ⟨message, notes, notes', hkind, hkind'⟩
    · rw [← hkind]
      refine (?_ : Alike text text' _ _ Eq) s s' hs
      cases token.kind with
      | string content =>
          refine alike_taking ((alike_stringLiteral token token' content).bind ?_)
          exact fun _ _ hfound => alike_pure (congrArg ArgValue.string hfound)
      | int content | float content => exact alike_taking (alike_numberLiteral _ _ content)
      | bool _ | null | name _ => exact alike_taking (alike_pure rfl)
      | punctuator mark =>
          cases mark with
          | dollar =>
              refine alike_taking (alike_expectName.bind ?_)
              exact fun _ _ hfound => alike_pure (congrArg ArgValue.variable hfound)
          | openBrace => exact alike_literal .object (alike_objectBody hinner)
          | openBracket => exact alike_literal .list (alike_listBody hinner)
          | _ => exact alike_refuseNext _
      | _ => exact alike_refuseNext _
    · rw [hkind, hkind']
      exact alike_refuseNext _ s s' hs

theorem alike_valueWithin (limit : Nat) :
    Alike text text' (valueWithin limit) (valueWithin limit) Eq := by
  -- the limit bounds how deep values lie in one another, and it is the same on both sides
  induction limit with
  | zero => exact alike_nested (alike_refuseNext _)
  | succ limit ih =>
      refine alike_nested ?_
      intro s s' hs
      rw [Rule.ask_bind, Rule.ask_bind]
      rcases hs.unread_cases with ⟨hnil, hnil'⟩ |
        ⟨token, rest, token', rest', hunread, hunread', -, -, -⟩
      · simp only [Reading.next?, hnil, hnil', List.head?_nil]
        exact alike_refuseNext _ s s' hs
      · simp only [Reading.next?_of_unread hunread, Reading.next?_of_unread hunread']
        exact alike_valueAt ih hs hunread hunread'

theorem alike_value : Alike text text' value value Eq := alike_atSize alike_valueWithin

/-! ### Arguments -/

theorem alike_argumentName : Alike text text' argumentName argumentName Eq :=
  alike_expectName.bind fun _ _ hfound => alike_pure hfound

theorem alike_argumentList : Alike text text' argumentList argumentList Eq := by
  refine (alike_openGroup .openParen .fieldArguments).bind fun _ _ _ => ?_
  refine (alike_atSize fun size =>
    alike_entries alike_value .closeParen .paren alike_argumentName size []).bind
      fun found _ hfound => ?_
  exact (alike_closeGroup .closeParen).bind fun _ _ _ => alike_pure hfound

theorem alike_looseArguments (limit : Nat) (before : Arguments) :
    Alike text text' (looseArguments limit before) (looseArguments limit before) Eq := by
  induction limit generalizing before with
  | zero => exact alike_pure rfl
  | succ limit ih =>
      rw [looseArguments]
      refine .atEnd_bind fun ended => ?_
      cases ended with
      | true => exact alike_pure rfl
      | false =>
          refine alike_argumentName.bind fun name _ hname => ?_
          refine (alike_expect .colon).bind fun _ _ _ => ?_
          refine alike_value.bind fun found _ hfound => ?_
          subst hname hfound
          exact ih _

theorem alike_argumentFragment :
    Alike text text' argumentFragment argumentFragment Eq := by
  refine .nextIs_bind .openParen fun opened => ?_
  cases opened with
  | true => exact alike_argumentList
  | false => exact alike_atSize fun size => alike_looseArguments size []

end Rule

end CompletionGateway
