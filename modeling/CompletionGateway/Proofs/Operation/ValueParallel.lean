import CompletionGateway.Proofs.Operation.Parallel
import CompletionGateway.Proofs.Operation.ValueAlike
import CompletionGateway.Proofs.Operation.ValueTaking
import CompletionGateway.Proofs.Token.Prolongation

/-!
# Values on common tokens

A bare run stops where the common tokens end.  A malformed literal is passed up to its closing
bracket; if this is not one of the common tokens, the literal goes beyond them on both sides,
whatever it finds there.  The limit on the number of tokens does not matter, so it may differ.
-/

namespace CompletionGateway

variable {o : Overlap}

namespace Token

variable {text text' : List Char} {tokens tokens' : List Token}

/-- Brackets are counted without a look at remarks. -/
theorem after_eq_of_kinds_eq
    (h : tokens.map (·.kind.withoutNotes) = tokens'.map (·.kind.withoutNotes)) (before : Nat) :
    BracketCount.all.after before (tokens.map (·.kind)) =
      BracketCount.all.after before (tokens'.map (·.kind)) := by
  induction tokens generalizing tokens' before with
  | nil =>
      obtain rfl := List.map_eq_nil_iff.1 h.symm
      rfl
  | cons token rest ih =>
      obtain ⟨token', rest', rfl, hkind, hkinds⟩ := List.map_eq_cons_iff.1 h.symm
      have hstep : BracketCount.all.step before token.kind =
          BracketCount.all.step before token'.kind :=
        TokenKind.congr_of_withoutNotes hkind.symm _ fun _ _ _ => rfl
      rw [List.map_cons, List.map_cons, BracketCount.after_cons, BracketCount.after_cons, hstep]
      exact congrArg _ (funext fun between => ih hkinds.symm between)

end Token

namespace Reading

section StartsRun

variable {s : Reading} {token : Token} {rest back : List Token}

/-- Whether a run begins is settled by the tokens before those that no run goes on into. -/
theorem startsRun_append (hunread : s.unread = token :: (rest ++ back))
    (h : Token.RunStops (token :: rest) back) (opened : List OpenGroup)
    (errors : List Diagnostic) :
    s.startsRun token = ({ s with unread := token :: rest, opened, errors } : Reading).startsRun token := by
  have hopen : s.isOpenString token =
    ({ s with unread := token :: rest, opened, errors } : Reading).isOpenString token := rfl
  unfold startsRun
  cases token.kind with
  | name _ | int _ | float _ | bool _ | null =>
      simp only [TokenStream.peek, hunread, List.getElem?_cons_succ]
      cases rest with
      | nil =>
          cases back with
          | nil => rfl
          | cons next more => exact h token rfl next rfl
      | cons second rest => rfl
  | _ => simp only [hopen]

end StartsRun

namespace Parallel

variable {front front' rest rest' : List Token} {token token' : Token} {s s' : Reading}

/-- As far as the common tokens go, the states are alike. -/
theorem alike (h : s.Parallel o front front' s') :
    ({ s with unread := front, opened := [], errors := [] } : Reading).Alike o.text o.text'
      { s' with unread := front', opened := [], errors := [] } :=
  ⟨h.common, rfl, h.depth, rfl, h.source, h.source'⟩

theorem startsRun_eq (h : s.Parallel o (token :: rest) (token' :: rest') s') :
    s.startsRun token = s'.startsRun token' := by
  rw [startsRun_append h.unread_cons h.stops [] [], startsRun_append h.unread_cons' h.stops' [] []]
  exact h.alike.startsRun_eq rfl rfl

end Parallel

end Reading

namespace Rule

/-! ### Bare runs -/

/-- A run does not go on into tokens at which it stops. -/
theorem takeRun_append_stops {first : Token} {front back : List Token}
    (h : Token.RunStops (first :: front) back) :
    takeRun first.span (front ++ back) =
      ((takeRun first.span front).1, (takeRun first.span front).2 ++ back) := by
  induction front generalizing first with
  | nil =>
      cases back with
      | nil => rfl
      | cons next back =>
          have hnext := h first rfl next rfl
          simp only [List.nil_append, takeRun, hnext, Bool.false_eq_true, if_false]
  | cons token rest ih =>
      have hrest : takeRun token.span (rest ++ back) = _ := ih (.of_append [first] h)
      simp only [List.cons_append, takeRun, hrest]
      split <;> rfl

section Common

variable {token token' : Token} {rest rest' : List Token} {s s' : Reading}
variable (hs : s.Parallel o (token :: rest) (token' :: rest') s')

include hs

theorem parallel_bareRun :
    (bareRun s).Parallel o s.errors s'.errors 1 (bareRun s') := by
  obtain ⟨hfirst, hrest, htouch⟩ := hs.next_alike
  -- the run lies in the common tokens, so both documents have the same text for it
  obtain ⟨hbehind, piece, hslice, hslice'⟩ := takeRun_alike hfirst hrest htouch
  have hsplit := takeRun_append token.span rest
  have hsplit' := takeRun_append token'.span rest'
  simp only [bareRun, hs.unread_cons, hs.unread_cons', takeRun_append_stops hs.stops,
    takeRun_append_stops hs.stops', hs.source, hs.source', Option.bind_some, hslice, hslice']
  refine .done ⟨rfl, rfl, hbehind, fun other hother => ?_, ?_, ?_, hs.depth, rfl, rfl⟩ rfl rfl
  · exact hs.unfinished other (by rw [← hsplit]; simp [hother])
  · refine .of_append (token :: (takeRun token.span rest).1) ?_
    rw [List.cons_append, hsplit]
    exact hs.stops
  · refine .of_append (token' :: (takeRun token'.span rest').1) ?_
    rw [List.cons_append, hsplit']
    exact hs.stops'

end Common

/-! ### Literals -/

section Literals

theorem tokenless_stringLiteral (token token' : Token) (content : String) :
    Tokenless o (stringLiteral token content) (stringLiteral token' content) := by
  unfold stringLiteral
  cases Literal.readString content.toList with
  | ok text => exact tokenless_pure _
  | error fault => exact tokenless_refuse fun _ _ => rfl

theorem tokenless_numberLiteral (token token' : Token) (content : String) :
    Tokenless o (numberLiteral token content) (numberLiteral token' content) := by
  unfold numberLiteral
  cases Decimal.readNumber content.toList with
  | ok number =>
      dsimp only
      split
      · exact tokenless_pure _
      · exact tokenless_refuse fun _ _ => rfl
  | error fault => exact tokenless_refuse fun _ _ => rfl

/-- Passing closing brackets takes the last of them. -/
theorem leaves_skipClosers (depth : Nat) (s : Reading) :
    (skipClosers (depth + 1) s.unread s).Leaves s.unread.length 1 := by
  have hmeets := meets_skipClosers depth s.unread (s := s) rfl
  cases hrule : skipClosers (depth + 1) s.unread s with
  | done value after =>
      obtain ⟨-, inside, last, hsplit, -⟩ := hmeets.of_done hrule
      simp only [Outcome.Leaves, hsplit, List.length_append, List.length_cons]
      omega
  | failed after =>
      obtain ⟨inside, inner, hsplit, -⟩ := (hmeets.of_failed hrule).count
      simp only [Outcome.Leaves, hsplit, List.length_append]
      omega

theorem skipClosers_zero (tokens : List Token) (s : Reading) :
    skipClosers 0 tokens s = .done () s := by
  rw [skipClosers]
  rfl

/-- Closing brackets are passed on both sides as long as the common tokens last. -/
theorem parallel_skipClosers (depth : Nat) {front front' : List Token} {s s' : Reading}
    (hs : s.Parallel o front front' s') :
    (∃ after after' r r', skipClosers depth s.unread s = .done () r ∧
        skipClosers depth s'.unread s' = .done () r' ∧ r.Parallel o after after' r') ∨
      (skipClosers depth s.unread s).Leaves o.back.length 1 ∧
        (skipClosers depth s'.unread s').Leaves o.back'.length 1 := by
  induction front generalizing depth front' s s' with
  | nil =>
      obtain rfl : front' = [] := List.eq_nil_of_length_eq_zero hs.common.length_eq.symm
      cases depth with
      | zero => exact .inl ⟨_, _, s, s', skipClosers_zero _ _, skipClosers_zero _ _, hs⟩
      | succ depth =>
          have hleft := leaves_skipClosers depth s
          have hleft' := leaves_skipClosers depth s'
          rw [hs.unread] at hleft ⊢
          rw [hs.unread'] at hleft' ⊢
          exact .inr ⟨hleft, hleft'⟩
  | cons token rest ih =>
      obtain ⟨token', rest', rfl⟩ : ∃ token' rest', front' = token' :: rest' :=
        List.exists_cons_of_length_eq_add_one hs.common.length_eq.symm
      cases depth with
      | zero => exact .inl ⟨_, _, s, s', skipClosers_zero _ _, skipClosers_zero _ _, hs⟩
      | succ depth =>
          have hmore := fun depth => ih depth hs.advance
          rw [Reading.unread_advance hs.unread_cons, Reading.unread_advance hs.unread_cons'] at hmore
          have hopening : token.kind.isOpening = token'.kind.isOpening :=
            hs.congr_kind _ fun _ _ _ => rfl
          have hclosing : token.kind.isClosing = token'.kind.isClosing :=
            hs.congr_kind _ fun _ _ _ => rfl
          simp only [hs.unread_cons, hs.unread_cons', skipClosers, if_neg hs.kind_ne_finish,
            if_neg hs.kind_ne_finish', ← hopening, ← hclosing]
          split
          · exact hmore (depth + 2)
          split
          · exact hmore depth
          · exact hmore (depth + 1)

section Literal

variable {body body' : Rule ArgValue} {enclosure : Enclosure}
variable {post post' : ArgValue → Reading → Prop} {outer outer' : Nat}

/-- A literal leaves no more than its body, and takes a token if its body does. -/
theorem leaves_literal (kind : LiteralKind) {s : Reading} {token : Token} {rest : List Token}
    (hunread : s.unread = token :: rest)
    (hmeets : body.Meets s post ((s.advance.push enclosure token.span).Faults outer))
    {length : Nat} (h : (body s).Leaves length 1) : (literal kind body s).Leaves length 1 := by
  rw [literal]
  cases hbody : body s with
  | done value after => rwa [hbody] at h
  | failed after =>
      rw [hbody] at h
      dsimp only
      split
      · exact h
      rename_i hmild
      rw [Bool.not_eq_true] at hmild
      obtain ⟨taken, groups, inner, -, -, hopened, hgroups⟩ :=
        exists_groups_of_faults hunread (hmeets.of_failed hbody) hmild
      rw [hopened, List.length_append, Nat.add_sub_cancel, hgroups]
      have hskip := leaves_skipClosers inner after
      cases hskipped : skipClosers (inner + 1) after.unread after <;>
        simp only [hskipped, Outcome.Leaves, Reading.unread_discard] at h hskip ⊢ <;> omega

/-- A literal that is malformed is emptied on both sides, or it goes beyond the common tokens. -/
theorem parallel_literal (kind : LiteralKind) {s s' : Reading} {token token' : Token}
    {rest rest' : List Token} (hs : s.Parallel o (token :: rest) (token' :: rest') s')
    (hmeets : body.Meets s post ((s.advance.push enclosure token.span).Faults outer))
    (hmeets' : body'.Meets s' post' ((s'.advance.push enclosure token'.span).Faults outer'))
    (hbody : (body s).Parallel o s.errors s'.errors 1 (body' s')) :
    (literal kind body s).Parallel o s.errors s'.errors 1 (literal kind body' s') := by
  have hfault : ∀ after, body s = .failed after → _ := fun _ => hmeets.of_failed
  have hfault' : ∀ after, body' s' = .failed after → _ := fun _ => hmeets'.of_failed
  have hleaves : (body s).Leaves o.back.length 1 → _ := leaves_literal kind hs.unread_cons hmeets
  have hleaves' : (body' s').Leaves o.back'.length 1 → _ :=
    leaves_literal kind hs.unread_cons' hmeets'
  rw [literal, literal] at *
  generalize body s = outcome at *
  generalize body' s' = outcome' at *
  cases hbody with
  | done hstate herrors herrors' => exact .done hstate herrors herrors'
  | beyond hleft hleft' => exact .beyond (hleaves hleft) (hleaves' hleft')
  | @failed front front' after after' hstate hfatal =>
      dsimp only
      by_cases hany : (after.errors.drop s.errors.length).any (·.cause.isFatal) = true
      · rw [if_pos hany, if_pos (hfatal ▸ hany)]
        exact .failed hstate hfatal
      have hany' : ¬ (after'.errors.drop s'.errors.length).any (·.cause.isFatal) = true :=
        hfatal ▸ hany
      rw [if_neg hany, if_neg hany']
      rw [Bool.not_eq_true] at hany hany'
      obtain ⟨taken, groups, inner, hsplit, hcount, hopened, hgroups⟩ :=
        exists_groups_of_faults hs.unread_cons (hfault _ rfl) hany
      obtain ⟨taken', groups', inner', hsplit', hcount', hopened', hgroups'⟩ :=
        exists_groups_of_faults hs.unread_cons' (hfault' _ rfl) hany'
      -- the tokens before the failure are common, so they leave as many groups open
      have hsame : inner = inner' := by
        rw [hstate.unread, ← List.append_assoc] at hsplit
        rw [hstate.unread', ← List.append_assoc] at hsplit'
        obtain rfl := List.append_cancel_right hsplit
        obtain rfl := List.append_cancel_right hsplit'
        have hkinds := hs.next_alike.2.1.kinds_eq
        rw [List.map_append, List.map_append] at hkinds
        have hfront := (List.append_inj' hkinds (by simp [hstate.common.length_eq])).1
        rw [Token.after_eq_of_kinds_eq hfront, hcount'] at hcount
        exact (Option.some.inj hcount).symm
      subst hsame
      have hlength : after.opened.length - s.opened.length = inner + 1 := by
        rw [hopened, List.length_append, Nat.add_sub_cancel, hgroups]
      have hlength' : after'.opened.length - s'.opened.length = inner + 1 := by
        rw [hopened', List.length_append, Nat.add_sub_cancel, hgroups']
      rw [hlength, hlength']
      rcases parallel_skipClosers (inner + 1) hstate with
        ⟨front, front', r, r', hskip, hskip', hr⟩ | ⟨hleft, hleft'⟩
      · have hpassed := (meets_skipClosers inner after.unread rfl).of_done hskip
        have hpassed' := (meets_skipClosers inner after'.unread rfl).of_done hskip'
        rw [hskip, hskip']
        exact .done ⟨hr.unread, hr.unread', hr.common, hr.unfinished, hr.stops, hr.stops', hr.depth,
          hr.source, hr.source'⟩ (errors_discard_of_faults (hfault _ rfl) hpassed.1 _ _)
          (errors_discard_of_faults (hfault' _ rfl) hpassed'.1 _ _)
      · refine .beyond ?_ ?_
        · cases hskip : skipClosers (inner + 1) after.unread after <;> rw [hskip] at hleft <;>
            exact hleft
        · cases hskip : skipClosers (inner + 1) after'.unread after' <;> rw [hskip] at hleft' <;>
            exact hleft'

end Literal

theorem parallel_objectKey {size : Nat} : Parallel o size 1 objectKey objectKey := by
  have hconsumes : Consumes 1 objectKey := fun s => (takes_objectKey 0 s).leaves <| by
    rintro name tokens ⟨token, rfl, -⟩
    exact Nat.le_refl 1
  have hname : Parallel o size 1 (do return (← expectName).1) (do return (← expectName).1) :=
    parallel_name id
  refine ⟨hconsumes, hconsumes, fun token rest token' rest' s s' hs hrest => ?_⟩
  have hkey := hname.common token rest token' rest' s s' hs hrest
  simp only [objectKey, Reading.next?_of_unread hs.unread_cons,
    Reading.next?_of_unread hs.unread_cons']
  rcases TokenKind.eq_or_error hs.next_alike.1.kind with hkind | ⟨message, notes, notes', hkind, hkind'⟩
  · rw [← hkind]
    cases token.kind with
    | string content =>
        have hcontent := (tokenless_stringLiteral token token' content).same hs.advance 1
        rwa [Reading.errors_advance, Reading.errors_advance] at hcontent
    | _ => exact hkey
  · rw [hkind, hkind']
    exact hkey

end Literals

/-! ### Groups of values -/

section Inside

variable {size : Nat}

/-- Rules that are given more than the number of tokens that are left. -/
theorem parallel_atSize {α : Type} {taken : Nat} {rule rule' : Nat → Rule α}
    (h : ∀ left ≤ size, ∀ limit limit', left < limit → left < limit' →
      Parallel o left taken (rule limit) (rule' limit')) :
    Parallel o size taken (fun s => rule (s.unread.length + 1) s)
      (fun s => rule' (s.unread.length + 1) s) where
  consumes s := (h 0 (Nat.zero_le _) _ 1 (Nat.succ_pos _) Nat.one_pos).consumes s
  consumes' s := (h 0 (Nat.zero_le _) 1 _ Nat.one_pos (Nat.succ_pos _)).consumes' s
  common token rest token' rest' s s' hs hrest := by
    refine (h (rest.length + 1) hrest _ _ ?_ ?_).common token rest token' rest' s s' hs
      (Nat.lt_succ_self _)
    · rw [hs.unread, List.length_append, List.length_cons]
      omega
    · rw [hs.unread', List.length_append, List.length_cons, hs.next_alike.2.1.length_eq]
      omega

theorem consumes_entries (closing : Punctuator) (delimiter : Delimiter) {key : Rule String}
    {inner : Rule ArgValue} (hkey : Consumes 1 key) (hinner : Consumes 1 inner) (limit : Nat)
    (before : Arguments) : Consumes 0 (entries closing delimiter key inner limit before) := by
  induction limit generalizing before with
  | zero => exact consumes_refuseUnclosed delimiter
  | succ limit ih =>
      have hentry : Consumes 0 (do
          let name ← key
          let _ ← expect .colon
          let found ← inner
          entries closing delimiter key inner limit (Dict.insert before name found)) :=
        .mono (hkey.bind fun name => (consumes_expect .colon).bind fun _ =>
          hinner.bind fun found => ih (Dict.insert before name found)) (Nat.zero_le _)
      rw [entries]
      refine .ask_bind fun closed => ?_
      cases closed with
      | true => exact consumes_pure before
      | false =>
          refine .ask_bind fun ended => ?_
          cases ended with
          | true => exact consumes_refuseUnclosed delimiter
          | false => exact hentry

theorem consumes_items {inner : Rule ArgValue} (hinner : Consumes 1 inner) (limit : Nat) :
    Consumes 0 (items inner limit) := by
  induction limit with
  | zero => exact consumes_refuseUnclosed .bracket
  | succ limit ih =>
      have hitem : Consumes 0 (do
          let first ← inner
          let more ← items inner limit
          return first :: more) :=
        .mono (hinner.bind fun first => ih.bind fun more => consumes_pure (first :: more))
          (Nat.zero_le _)
      rw [items]
      refine .ask_bind fun closed => ?_
      cases closed with
      | true => exact consumes_pure []
      | false =>
          refine .ask_bind fun ended => ?_
          cases ended with
          | true => exact consumes_refuseUnclosed .bracket
          | false => exact hitem

variable {inner inner' : Rule ArgValue} (hinner : Parallel o size 1 inner inner')

include hinner

theorem parallel_entries (closing : Punctuator) (delimiter : Delimiter) {key : Rule String}
    (hkey : ∀ size, Parallel o size 1 key key) {left limit limit' : Nat} (hleft : left ≤ size)
    (hlimit : left < limit) (hlimit' : left < limit') (before : Arguments) :
    Parallel o left 0 (entries closing delimiter key inner limit before)
      (entries closing delimiter key inner' limit' before) := by
  -- each entry takes tokens, so the limits are not reached before the tokens are spent
  induction limit generalizing left limit' before with
  | zero => omega
  | succ limit ih =>
      obtain ⟨limit', rfl⟩ := Nat.exists_eq_add_one_of_ne_zero (by omega : limit' ≠ 0)
      rcases Nat.eq_zero_or_pos left with rfl | hpos
      · exact .of_consumes
          (consumes_entries closing delimiter (hkey 0).consumes hinner.consumes _ _)
          (consumes_entries closing delimiter (hkey 0).consumes hinner.consumes' _ _)
      rw [entries, entries]
      refine .nextIs_bind closing fun closed => ?_
      cases closed with
      | true => exact (tokenless_pure before).parallel
      | false =>
          refine .atEnd_bind fun ended => ?_
          cases ended with
          | true => exact (tokenless_refuseUnclosed delimiter).parallel
          | false =>
              refine (hkey left).bind fun name => .expect_bind .colon ?_
              refine (hinner.anti (by omega)).bind fun found => ?_
              exact ih (by omega) (by omega) (by omega) _

theorem parallel_items {left limit limit' : Nat} (hleft : left ≤ size)
    (hlimit : left < limit) (hlimit' : left < limit') :
    Parallel o left 0 (items inner limit) (items inner' limit') := by
  induction limit generalizing left limit' with
  | zero => omega
  | succ limit ih =>
      obtain ⟨limit', rfl⟩ := Nat.exists_eq_add_one_of_ne_zero (by omega : limit' ≠ 0)
      rcases Nat.eq_zero_or_pos left with rfl | hpos
      · exact .of_consumes (consumes_items hinner.consumes _) (consumes_items hinner.consumes' _)
      rw [items, items]
      refine .nextIs_bind .closeBracket fun closed => ?_
      cases closed with
      | true => exact (tokenless_pure []).parallel
      | false =>
          refine .atEnd_bind fun ended => ?_
          cases ended with
          | true => exact (tokenless_refuseUnclosed .bracket).parallel
          | false =>
              refine (hinner.anti hleft).bind fun first => ?_
              exact (ih (by omega) (by omega) (by omega)).map (first :: ·)

end Inside

section Bodies

variable {size : Nat} {inner inner' : Rule ArgValue} (hinner : Parallel o size 1 inner inner')

include hinner

theorem parallel_objectBody : Parallel o (size + 1) 1 (objectBody inner) (objectBody inner') := by
  refine .openGroup_bind .openBrace .objectValue fun _ _ => ?_
  refine (parallel_atSize fun left hleft limit limit' hlimit hlimit' =>
    parallel_entries hinner .closeBrace .brace (fun _ => parallel_objectKey) hleft hlimit hlimit'
      []).bind fun found => ?_
  exact parallel_closeGroup_bind .closeBrace fun _ _ => tokenless_pure _

theorem parallel_listBody : Parallel o (size + 1) 1 (listBody inner) (listBody inner') := by
  refine .openGroup_bind .openBracket .listValue fun _ _ => ?_
  refine (parallel_atSize fun left hleft limit limit' hlimit hlimit' =>
    parallel_items hinner hleft hlimit hlimit').bind fun found => ?_
  exact parallel_closeGroup_bind .closeBracket fun _ _ => tokenless_pure _

end Bodies

/-! ### Values -/

/-- A value that begins with a common token. -/
theorem parallel_valueAt {token token' : Token} {rest rest' : List Token} {s s' : Reading}
    (hs : s.Parallel o (token :: rest) (token' :: rest') s') {inner inner' : Rule ArgValue}
    (hinner : Parallel o rest.length 1 inner inner')
    (htakes : ∀ s, inner.Takes s.depth s (Token.IsValue s.source))
    (htakes' : ∀ s, inner'.Takes s.depth s (Token.IsValue s.source)) :
    (valueAt inner token s).Parallel o s.errors s'.errors 1 (valueAt inner' token' s') := by
  have hnone : ((refuseNext ["value"] : Rule ArgValue) s).Parallel o s.errors s'.errors 1
      (refuseNext ["value"] s') := parallel_refuseNext_apply hs ["value"]
  have hadvance := hs.advance
  have herrors := s.errors_advance
  have herrors' := s'.errors_advance
  rw [valueAt, valueAt, Rule.ask_bind, Rule.ask_bind, ← hs.startsRun_eq]
  split
  · exact parallel_bareRun hs
  rcases TokenKind.eq_or_error hs.next_alike.1.kind with hsame | ⟨message, notes, notes', hkind, hkind'⟩
  · rw [← hsame]
    cases hkind : token.kind with
    | string content =>
        have hcontent := (tokenless_stringLiteral token token' content).same hadvance 1
        rw [herrors, herrors'] at hcontent
        have hvalue := parallel_bind_tokenless hcontent fun text =>
          tokenless_pure (ArgValue.string text)
        exact hvalue
    | int content | float content =>
        have hnumber := (tokenless_numberLiteral token token' content).same hadvance 1
        rwa [herrors, herrors'] at hnumber
    | bool _ | null | name _ => exact .done hadvance herrors herrors'
    | punctuator mark =>
        have hmark := (hs.kind_iff mark).1 hkind
        cases mark with
        | dollar =>
            have hname := (parallel_name ArgValue.variable).apply hadvance (Nat.le_refl _)
            rwa [herrors, herrors'] at hname
        | openBrace =>
            exact parallel_literal .object hs (meets_objectBody htakes hs.unread_cons hkind)
              (meets_objectBody htakes' hs.unread_cons' hmark)
              ((parallel_objectBody hinner).apply hs (Nat.le_refl _))
        | openBracket =>
            exact parallel_literal .list hs (meets_listBody htakes hs.unread_cons hkind)
              (meets_listBody htakes' hs.unread_cons' hmark)
              ((parallel_listBody hinner).apply hs (Nat.le_refl _))
        | _ => exact hnone
    | _ => exact hnone
  · rw [hkind, hkind']
    exact hnone

/-- One level deeper the rules do the same. -/
theorem parallel_nested {rule rule' : Rule ArgValue} {taken : Nat} {front front' : List Token}
    {s s' : Reading} (hs : s.Parallel o front front' s')
    (h : (rule { s with depth := s.depth + 1 }).Parallel o s.errors s'.errors taken
      (rule' { s' with depth := s'.depth + 1 })) :
    (nested rule s).Parallel o s.errors s'.errors taken (nested rule' s') := by
  rw [nested, nested, ← hs.depth]
  split
  · rw [← hs.depth] at h
    generalize rule _ = outcome at h
    generalize rule' _ = outcome' at h
    cases h with
    | done hstate herrors herrors' => exact .done (hstate.mapDepth (· - 1)) herrors herrors'
    | failed hstate hfatal => exact .failed (hstate.mapDepth (· - 1)) hfatal
    | beyond hleft hleft' =>
        refine .beyond ?_ ?_
        · cases outcome <;> exact hleft
        · cases outcome' <;> exact hleft'
  · exact parallel_refuse_apply hs rfl

theorem consumes_valueWithin (limit : Nat) : Consumes 1 (valueWithin limit) :=
  fun s => (takes_valueWithin limit s).leaves fun _ _ hvalue => List.length_pos_iff.2 hvalue.ne_nil

theorem parallel_valueWithin {left limit limit' : Nat} (hlimit : left < limit)
    (hlimit' : left < limit') :
    Parallel o left 1 (valueWithin limit) (valueWithin limit') := by
  -- the token that a value begins with is not among those that are left for its parts
  induction limit generalizing left limit' with
  | zero => omega
  | succ limit ih =>
      obtain ⟨limit', rfl⟩ := Nat.exists_eq_add_one_of_ne_zero (by omega : limit' ≠ 0)
      refine ⟨consumes_valueWithin _, consumes_valueWithin _,
        fun token rest token' rest' s s' hs hrest => ?_⟩
      rw [valueWithin_of_unread limit hs.unread_cons, valueWithin_of_unread limit' hs.unread_cons']
      exact parallel_nested hs (parallel_valueAt (hs.mapDepth (· + 1))
        (ih (by omega) (by omega)) (takes_valueWithin limit) (takes_valueWithin limit'))

theorem parallel_value {size : Nat} : Parallel o size 1 value value :=
  parallel_atSize fun _ _ _ _ hlimit hlimit' => parallel_valueWithin hlimit hlimit'

/-! ### Arguments -/

theorem parallel_argumentName {size : Nat} : Parallel o size 1 argumentName argumentName :=
  parallel_name id

theorem parallel_argumentEntries {left limit limit' : Nat} (hlimit : left < limit)
    (hlimit' : left < limit') (before : Arguments) :
    Parallel o left 0 (entries .closeParen .paren argumentName value limit before)
      (entries .closeParen .paren argumentName value limit' before) :=
  parallel_entries parallel_value .closeParen .paren (fun _ => parallel_argumentName)
    (Nat.le_refl _) hlimit hlimit' before

theorem parallel_argumentList {size : Nat} : Parallel o size 1 argumentList argumentList := by
  refine .openGroup_bind .openParen .fieldArguments fun _ _ => ?_
  refine (parallel_atSize fun left _ limit limit' hlimit hlimit' =>
    parallel_argumentEntries hlimit hlimit' []).bind fun found => ?_
  exact parallel_closeGroup_bind .closeParen fun _ _ => tokenless_pure found

end Rule

end CompletionGateway
