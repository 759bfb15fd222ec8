import CompletionGateway.Proofs.Operation.Limit
import CompletionGateway.Proofs.Operation.OperationTaking

/-!
# The bookkeeping of the reader

Beside the unread tokens the reader keeps the open groups, the depth and the recorded errors.  A rule
that is done leaves them as it found them, even if it emptied a literal on the way.  A rule that fails
leaves the depth, opens groups only on top of the ones it found, and records an error.
-/

namespace CompletionGateway

namespace Reading

/-- From the first state a rule has failed with the second one.  Of the groups that were open it may
have closed the innermost `own`. -/
structure Fails (own : Nat) (s s' : Reading) : Prop where
  depth : s'.depth = s.depth
  source : s'.source = s.source
  opened : s.opened.drop own <:+ s'.opened
  errors : ∃ faults, faults ≠ [] ∧ s'.errors = s.errors ++ faults
  unread : s'.unread <:+ s.unread

namespace Fails

variable {own own' : Nat} {s s' s'' : Reading} {taken : List Token}

theorem mono (h : s.Fails own s') (hown : own ≤ own') : s.Fails own' s' :=
  ⟨h.depth, h.source, (List.drop_suffix_drop_left s.opened hown).trans h.opened, h.errors, h.unread⟩

theorem of_passes (h : s.Passes taken s') (h' : s'.Fails own s'') : s.Fails own s'' := by
  obtain ⟨hagrees, hunread⟩ := h
  refine ⟨h'.depth.trans hagrees.depth, h'.source.trans hagrees.source, hagrees.opened ▸ h'.opened,
    hagrees.errors ▸ h'.errors, h'.unread.trans ⟨taken, hunread.symm⟩⟩

theorem record (s : Reading) (error : Diagnostic) : s.Fails own (s.record error) :=
  ⟨rfl, rfl, List.drop_suffix own s.opened, ⟨[error], by simp, rfl⟩, List.suffix_refl s.unread⟩

theorem recordUnclosed (s : Reading) (delimiter : Delimiter) :
    s.Fails 1 (s.recordUnclosed delimiter) :=
  ⟨rfl, rfl, by rw [List.drop_one]; exact List.suffix_refl _, ⟨_, List.cons_ne_nil _ [], rfl⟩,
    List.suffix_refl s.unread⟩

/-- A failure in which only a group can be closed that an earlier failure has left open. -/
theorem trans (h : s.Fails 0 s') (h' : s'.Fails 1 s'')
    (hlength : s.opened.length < s'.opened.length) : s.Fails 0 s'' := by
  obtain ⟨faults, hne, herrors⟩ := h.errors
  obtain ⟨more, -, hmore⟩ := h'.errors
  refine ⟨h'.depth.trans h.depth, h'.source.trans h.source, ?_, ⟨faults ++ more, ?_, ?_⟩,
    h'.unread.trans h.unread⟩
  · obtain ⟨groups, hgroups⟩ := h.opened
    cases groups with
    | nil =>
        rw [← hgroups] at hlength
        exact absurd hlength (Nat.lt_irrefl _)
    | cons group groups =>
        have htail := h'.opened
        rw [← hgroups] at htail
        exact (List.suffix_append groups s.opened).trans htail
  · exact List.append_ne_nil_of_left_ne_nil hne more
  · rw [hmore, herrors, List.append_assoc]

/-- A failure in a group that a token has just opened. -/
theorem of_push {token : Token} {rest : List Token} (hunread : s.unread = token :: rest)
    {enclosure : Enclosure} (h : (s.advance.push enclosure token.span).Fails 1 s') : s.Fails 0 s' := by
  have hadvance := Passes.advance hunread
  exact .of_passes hadvance ⟨h.depth, h.source, h.opened, h.errors, h.unread⟩

end Fails

end Reading

namespace Rule

variable {α β : Type} {own : Nat} {s : Reading}

/-- The rule only takes tokens if it is done, and if it fails it closes no groups but the innermost
`own`. -/
def Restores (own : Nat) (rule : Rule α) (s : Reading) : Prop :=
  rule.Meets s (fun _ s' => ∃ taken, s.Passes taken s') (s.Fails own)

section Restores

variable {rule : Rule α}

theorem Restores.congr {rule' : Rule α} (h : rule s = rule' s) (h' : rule'.Restores own s) :
    rule.Restores own s := Meets.congr h h'

theorem Restores.mono {own' : Nat} (h : rule.Restores own s) (hown : own ≤ own') :
    rule.Restores own' s :=
  Meets.mono h (fun _ _ hdone => hdone) fun _ hfails => hfails.mono hown

theorem Restores.of_yields {shape : α → List Token → Prop} (h : rule.Yields s shape)
    (h' : rule.Meets s (fun _ _ => True) (s.Fails own)) : rule.Restores own s := by
  cases hrule : rule s with
  | done value s' =>
      obtain ⟨taken, hpasses, -⟩ := Meets.of_done h hrule
      rw [Restores, Meets, hrule]
      exact ⟨taken, hpasses⟩
  | failed s' =>
      rw [Restores, Meets, hrule]
      exact h'.of_failed hrule

theorem restores_pure (value : α) : (pure value : Rule α).Restores own s := ⟨[], .refl s⟩

theorem restores_refuse (reason : Reading → Diagnostic) :
    (refuse reason : Rule α).Restores own s := .record s (reason s)

theorem restores_refuseUnclosed (delimiter : Delimiter) :
    (refuseUnclosed delimiter : Rule α).Restores 1 s := .recordUnclosed s delimiter

theorem Restores.bind {second : α → Rule β} (h : rule.Restores own s)
    (h' : ∀ value s', (second value).Restores own s') : (rule >>= second).Restores own s := by
  refine Meets.bind h fun value s' ⟨taken, hpasses⟩ => ?_
  refine Meets.mono (h' value s') ?_ fun s'' => .of_passes hpasses
  rintro value' s'' ⟨more, hmore⟩
  exact ⟨taken ++ more, hpasses.trans hmore⟩

theorem Restores.of_advance {rule' : Rule α} {token : Token} {rest : List Token}
    (hunread : s.unread = token :: rest) (h : rule s = rule' s.advance)
    (h' : rule'.Restores own s.advance) : rule.Restores own s := by
  have hpasses := Reading.Passes.advance hunread
  refine (Meets.congr h h').mono ?_ fun s' => .of_passes hpasses
  rintro value s' ⟨more, hmore⟩
  exact ⟨token :: more, hpasses.trans hmore⟩

/-- One level deeper the bookkeeping is restored one level deeper. -/
theorem restores_nested (h : rule.Restores own { s with depth := s.depth + 1 }) :
    (nested rule).Restores own s := by
  by_cases hroom : s.depth < deepestValue
  · cases hrule : rule { s with depth := s.depth + 1 } with
    | done value s' =>
        obtain ⟨taken, hagrees, hunread⟩ := Meets.of_done h hrule
        rw [Restores, Meets, nested, if_pos hroom, hrule]
        refine ⟨taken, ⟨hagrees.opened, ?_, hagrees.errors, hagrees.source⟩, hunread⟩
        simp only [hagrees.depth, Nat.add_sub_cancel]
    | failed s' =>
        have hfails := Meets.of_failed h hrule
        rw [Restores, Meets, nested, if_pos hroom, hrule]
        refine ⟨?_, hfails.source, hfails.opened, hfails.errors, hfails.unread⟩
        simp only [hfails.depth, Nat.add_sub_cancel]
  · rw [Restores, Meets, nested, if_neg hroom]
    exact .record s _

end Restores

/-! ### Marks, names and groups -/

/-- A mark is next and is taken, or the rule fails. -/
theorem meets_expect_fails (mark : Punctuator) (s : Reading) :
    (expect mark).Meets s (fun token s' => ∃ rest, s.unread = token :: rest ∧ s' = s.advance)
      (s.Fails own) := by
  cases hunread : s.unread with
  | nil =>
      rw [Meets, expect_of_nil hunread]
      exact .record s _
  | cons token rest =>
      by_cases hkind : token.kind = .punctuator mark
      · rw [Meets, expect_of_unread hunread hkind]
        exact ⟨rest, rfl, rfl⟩
      · rw [Meets, expect_of_ne hunread hkind]
        exact .record s _

theorem restores_expect (mark : Punctuator) (s : Reading) : (expect mark).Restores own s :=
  (meets_expect_fails mark s).mono (fun token _ ⟨_, hunread, hnext⟩ =>
    ⟨[token], hnext ▸ .advance hunread⟩) fun _ hfails => hfails

theorem restores_expectName (s : Reading) : expectName.Restores own s := by
  cases hunread : s.unread with
  | nil =>
      rw [Restores, Meets, expectName_of_nil hunread]
      exact .record s _
  | cons token rest =>
      cases hname : token.kind.asName? with
      | none =>
          rw [Restores, Meets, expectName_of_none hunread hname]
          exact .record s _
      | some name =>
          rw [Restores, Meets, expectName_of_unread hunread hname]
          exact ⟨[token], .advance hunread⟩

theorem restores_argumentName (s : Reading) : argumentName.Restores own s :=
  (restores_expectName s).bind fun found _ => restores_pure found.1

theorem restores_objectKey (s : Reading) : objectKey.Restores own s := by
  cases hunread : s.unread with
  | nil =>
      have hwrong : (refuseNext ["name"] : Rule String).Restores own s := restores_refuse _
      exact .congr (by rw [objectKey, Reading.next?_of_nil hunread]) hwrong
  | cons token rest =>
      cases hkey : token.kind.key? with
      | some name => exact .of_advance hunread (objectKey_of_key? hunread hkey) (restores_pure name)
      | none =>
          rcases objectKey_of_none hunread hkey with ⟨-, error, -, hrule⟩ | hrule
          · exact .of_advance hunread hrule (restores_refuse _)
          · exact .congr hrule (restores_refuse _)

theorem meets_openGroup_fails (mark : Punctuator) (enclosure : Enclosure) (s : Reading) :
    (openGroup mark enclosure).Meets s (fun token s' => ∃ rest, s.unread = token :: rest ∧
      s' = s.advance.push enclosure token.span) (s.Fails own) :=
  (meets_expect_fails mark s).bind fun _ _ ⟨rest, hunread, hnext⟩ => ⟨rest, hunread, hnext ▸ rfl⟩

theorem meets_closeGroup_fails (mark : Punctuator) (s : Reading) :
    (closeGroup mark).Meets s (fun token s' => ∃ rest, s.unread = token :: rest ∧
      s' = s.advance.pop) (s.Fails own) :=
  (meets_expect_fails mark s).bind fun _ _ ⟨rest, hunread, hnext⟩ => ⟨rest, hunread, hnext ▸ rfl⟩

/-- A group closes what it opens, and its body can close no more than that. -/
theorem restores_group {body : Rule α} (opening closing : Punctuator) (enclosure : Enclosure)
    (wrap : α → β) (hbody : ∀ s, body.Restores 1 s) (s : Reading) :
    (do
      let _ ← openGroup opening enclosure
      let found ← body
      let _ ← closeGroup closing
      return wrap found : Rule β).Restores 0 s := by
  refine (meets_openGroup_fails opening enclosure s).bind fun first s₁ ⟨rest, hunread, hs₁⟩ => ?_
  subst hs₁
  have hinside := Meets.mono (hbody (s.advance.push enclosure first.span))
    (fun _ _ hdone => hdone) fun _ => Reading.Fails.of_push hunread
  refine hinside.bind fun found s₂ ⟨taken, hpasses⟩ => ?_
  have hfails : ∀ s', s₂.Fails 1 s' → s.Fails 0 s' := fun s' hfails =>
    .of_push hunread (.of_passes hpasses hfails)
  have hclose := (meets_closeGroup_fails closing s₂).mono (fun _ _ hdone => hdone) hfails
  refine hclose.bind fun last s₃ ⟨rest', hunread', hs₃⟩ => ?_
  subst hs₃
  have hafter := hpasses.trans (Reading.Passes.advance hunread')
  have hbefore := Reading.Passes.advance hunread
  refine ⟨first :: (taken ++ [last]), ⟨?_, ?_, ?_, ?_⟩, ?_⟩
  · rw [Reading.pop, hafter.agrees.opened]
    exact hbefore.agrees.opened
  · exact hafter.agrees.depth.trans hbefore.agrees.depth
  · exact hafter.agrees.errors.trans hbefore.agrees.errors
  · exact hafter.agrees.source.trans hbefore.agrees.source
  · rw [hunread, ← Reading.unread_advance hunread, List.cons_append]
    exact congrArg _ hafter.unread

/-! ### Entries, items and literals -/

section Inside

variable {inner : Rule ArgValue} (hinner : ∀ s, inner.Restores 0 s)

include hinner

theorem restores_entries (closing : Punctuator) (delimiter : Delimiter) {key : Rule String}
    (hkey : ∀ s, key.Restores 1 s) (limit : Nat) (before : Arguments) (s : Reading) :
    (entries closing delimiter key inner limit before).Restores 1 s := by
  induction limit generalizing before s with
  | zero => exact restores_refuseUnclosed delimiter
  | succ limit ih =>
      rw [entries]
      refine .congr (nextIs_bind closing _ s) ?_
      split
      · exact restores_pure before
      refine .congr (atEnd_bind _ s) ?_
      split
      · exact restores_refuseUnclosed delimiter
      refine (hkey s).bind fun name s₁ => ?_
      refine (restores_expect .colon s₁).bind fun _ s₂ => ?_
      exact ((hinner s₂).mono (Nat.zero_le 1)).bind fun found s₃ => ih _ s₃

theorem restores_items (limit : Nat) (s : Reading) : (items inner limit).Restores 1 s := by
  induction limit generalizing s with
  | zero => exact restores_refuseUnclosed .bracket
  | succ limit ih =>
      rw [items]
      refine .congr (nextIs_bind .closeBracket _ s) ?_
      split
      · exact restores_pure []
      refine .congr (atEnd_bind _ s) ?_
      split
      · exact restores_refuseUnclosed .bracket
      refine ((hinner s).mono (Nat.zero_le 1)).bind fun first s₁ => ?_
      exact (ih s₁).bind fun more _ => restores_pure (first :: more)

theorem restores_body (kind : LiteralKind) (s : Reading) : (kind.body inner).Restores 0 s := by
  cases kind with
  | object =>
      exact restores_group .openBrace .closeBrace .objectValue ArgValue.object (fun s => .congr rfl
        (restores_entries hinner .closeBrace .brace restores_objectKey (s.unread.length + 1) [] s)) s
  | list =>
      exact restores_group .openBracket .closeBracket .listValue ArgValue.list
        (fun s => .congr rfl (restores_items hinner (s.unread.length + 1) s)) s

end Inside

theorem restores_skipClosers (depth : Nat) (tokens : List Token) {s : Reading}
    (hunread : s.unread = tokens) : (skipClosers depth tokens).Restores 1 s := by
  induction tokens generalizing depth s with
  | nil =>
      cases depth with
      | zero => exact restores_pure ()
      | succ depth => exact .recordUnclosed s _
  | cons token rest ih =>
      cases depth with
      | zero => exact restores_pure ()
      | succ depth =>
          have hmore : ∀ depth', skipClosers (depth + 1) (token :: rest) s =
              skipClosers depth' rest s.advance → (skipClosers (depth + 1) (token :: rest)).Restores 1 s :=
            fun depth' hskip => .of_advance hunread hskip (ih depth' (Reading.unread_advance hunread))
          by_cases hfinish : token.kind = .finish
          · rw [Restores, Meets, skipClosers]
            simp only [if_pos hfinish]
            exact .recordUnclosed s _
          by_cases hopening : token.kind.isOpening = true
          · exact hmore (depth + 2) (by rw [skipClosers]; simp only [if_neg hfinish, if_pos hopening])
          by_cases hclosing : token.kind.isClosing = true
          · refine hmore depth ?_
            rw [skipClosers]
            simp only [if_neg hfinish, if_neg hopening, if_pos hclosing]
          · refine hmore (depth + 1) ?_
            rw [skipClosers]
            simp only [if_neg hfinish, if_neg hopening, if_neg hclosing]

theorem restores_literal (kind : LiteralKind) {body : Rule ArgValue} (h : body.Restores 0 s) :
    (literal kind body).Restores 0 s := by
  cases hrule : body s with
  | done value after =>
      rw [Restores, Meets, literal_of_done hrule]
      exact Meets.of_done h hrule
  | failed after =>
      have hfails := Meets.of_failed h hrule
      cases hfatal : (after.errors.drop s.errors.length).any (·.cause.isFatal) with
      | true =>
          rw [Restores, Meets, literal_of_fatal hrule hfatal]
          exact hfails
      | false =>
          have hskip := restores_skipClosers (after.opened.length - s.opened.length) after.unread rfl
          obtain ⟨front, hfront⟩ := hfails.unread
          cases hskipped : skipClosers (after.opened.length - s.opened.length) after.unread after with
          | done _ s' =>
              obtain ⟨taken, hpasses⟩ := Meets.of_done hskip hskipped
              rw [Restores, Meets, literal_of_closed hrule hfatal hskipped]
              obtain ⟨groups, hgroups⟩ := hfails.opened
              obtain ⟨faults, -, herrors⟩ := hfails.errors
              refine ⟨front ++ taken, ⟨?_, hpasses.agrees.depth.trans hfails.depth, ?_,
                hpasses.agrees.source.trans hfails.source⟩, ?_⟩
              · exact Reading.opened_discard (hpasses.agrees.opened.trans hgroups.symm) _ _
              · exact Reading.errors_discard (hpasses.agrees.errors.trans herrors) _ _
              · rw [← hfront, hpasses.unread, List.append_assoc, Reading.unread_discard]
          | failed s' =>
              have hmissing := Meets.of_failed hskip hskipped
              rw [Restores, Meets, literal_of_unclosed hrule hfatal hskipped]
              -- passing fails only if there are groups to be closed
              refine hfails.trans hmissing (Nat.lt_of_sub_pos (Nat.pos_of_ne_zero fun hzero => ?_))
              rw [hzero] at hskipped
              rw [skipClosers] at hskipped
              cases hskipped

/-! ### Values -/

theorem restores_bareRun (s : Reading) : bareRun.Restores own s := by
  cases hunread : s.unread with
  | nil =>
      have hwrong : (refuseNext ["value"] : Rule ArgValue).Restores own s := restores_refuse _
      exact .congr (by rw [bareRun, hunread]) hwrong
  | cons first rest =>
      have hpasses : ∀ stop, s.Passes (first :: (takeRun first.span rest).1)
          { s with unread := (takeRun first.span rest).2, lastEnd := stop } := fun stop =>
        ⟨⟨rfl, rfl, rfl, rfl⟩, by rw [hunread, List.cons_append, takeRun_append]⟩
      rw [Restores, Meets, bareRun, hunread]
      dsimp only
      cases s.source.bind _ with
      | some text => exact ⟨_, hpasses _⟩
      | none =>
          cases lexicalError? (first :: (takeRun first.span rest).1) with
          | some error => exact .of_passes (hpasses _) (.record _ error)
          | none => exact ⟨_, hpasses _⟩

theorem restores_valueAt {inner : Rule ArgValue} (hinner : ∀ s, inner.Restores 0 s) {token : Token}
    {rest : List Token} (hunread : s.unread = token :: rest) :
    (valueAt inner token).Restores 0 s := by
  cases beginsValue inner token s with
  | run _ hrule => exact .congr hrule (restores_bareRun s)
  | word _ _ hrule => exact .of_advance hunread hrule (restores_pure _)
  | «variable» _ hrule =>
      refine .of_advance hunread hrule ?_
      exact (restores_expectName s.advance).bind fun found _ => restores_pure (ArgValue.variable found.1)
  | literal kind _ hrule => exact .congr hrule (restores_literal kind (restores_body hinner kind s))
  | faulty _ _ _ _ hrule => exact .of_advance hunread hrule (restores_refuse _)
  | refused _ _ _ hrule => exact .congr hrule (restores_refuse _)

theorem restores_valueWithin (limit : Nat) (s : Reading) : (valueWithin limit).Restores 0 s := by
  induction limit generalizing s with
  | zero => exact restores_nested (restores_refuse _)
  | succ limit ih =>
      cases hunread : s.unread with
      | nil =>
          exact .congr (valueWithin_of_nil hunread _) (restores_nested (restores_refuse _))
      | cons token rest =>
          exact .congr (valueWithin_of_unread limit hunread)
            (restores_nested (restores_valueAt ih hunread))

theorem restores_value (s : Reading) : value.Restores 0 s := by
  have hrule : value s = valueWithin (s.unread.length + 1) s := by rw [value]
  exact .congr hrule (restores_valueWithin (s.unread.length + 1) s)

/-! ### Arguments and fields -/

theorem restores_argumentList (s : Reading) : argumentList.Restores 0 s :=
  restores_group .openParen .closeParen .fieldArguments id (fun s => .congr rfl
    (restores_entries restores_value .closeParen .paren restores_argumentName
      (s.unread.length + 1) [] s)) s

theorem restores_noDirective (s : Reading) : noDirective.Restores own s := by
  rw [noDirective]
  refine .congr (nextIs_bind .at _ s) ?_
  split
  · exact restores_refuse _
  · exact restores_pure ()

theorem meets_skipGroup_fails {opening closing : Punctuator} (delimiter : Delimiter) (inner : Nat)
    (tokens : List Token) {s : Reading} (hunread : s.unread = tokens) :
    (skipGroup opening closing delimiter inner tokens).Meets s (fun _ _ => True) (s.Fails 1) := by
  induction tokens generalizing inner s with
  | nil => exact .recordUnclosed s delimiter
  | cons token rest ih =>
      have hadvance := Reading.Passes.advance hunread
      by_cases hstops : token.kind.isError = true ∨ token.kind = .finish
      · -- the rule fails behind a faulty token and behind the end
        rw [Meets, skipGroup.eq_def]
        simp only [update_bind]
        cases hkind : token.kind with
        | error message notes => exact .of_passes hadvance (.record _ _)
        | finish => exact .of_passes hadvance (.recordUnclosed _ delimiter)
        | _ => simp [hkind, TokenKind.isError] at hstops
      obtain ⟨herror, hfinish⟩ := not_or.1 hstops
      rw [Bool.not_eq_true] at herror
      cases hstep : (BracketCount.pair opening closing).step inner token.kind with
      | none =>
          obtain ⟨-, -, hskip⟩ := skipGroup_of_none delimiter rest s herror hfinish hstep
          rw [Meets, hskip]
          exact trivial
      | some inner' =>
          have hskip := skipGroup_of_step delimiter rest s herror hstep
          exact (Meets.congr hskip (ih inner' (Reading.unread_advance hunread))).mono
            (fun _ _ hdone => hdone) fun _ => .of_passes hadvance

theorem restores_passGroup (opening closing : Punctuator) (enclosure : Enclosure) (s : Reading) :
    (passGroup opening closing enclosure).Restores 0 s := by
  refine .of_yields (yields_passGroup opening closing enclosure) ?_
  refine (meets_openGroup_fails opening enclosure s).bind fun first s₁ ⟨rest, hunread, hs₁⟩ => ?_
  subst hs₁
  exact (Meets.congr rfl (meets_skipGroup_fails enclosure.delimiter 0 _ rfl)).mono
    (fun _ _ hdone => hdone) fun _ => .of_push hunread

theorem restores_field (s : Reading) : field.Restores 0 s := by
  rw [field]
  refine (restores_expectName s).bind fun found s₁ => ?_
  refine .congr (nextIs_bind .colon _ s₁) ?_
  split
  · exact restores_refuse _
  have harguments : (do if ← nextIs .openParen then argumentList else return [] :
      Rule Arguments).Restores 0 s₁ := by
    refine .congr (nextIs_bind .openParen _ s₁) ?_
    split
    · exact restores_argumentList s₁
    · exact restores_pure []
  refine harguments.bind fun arguments s₂ => ?_
  refine (restores_noDirective s₂).bind fun _ s₃ => ?_
  refine .congr (nextIs_bind .openBrace _ s₃) ?_
  split
  · exact (restores_passGroup .openBrace .closeBrace .selectionSet s₃).bind fun _ _ =>
      restores_pure _
  · exact restores_pure _

/-! ### What a call leaves behind -/

/-- A call that is done has taken tokens and left everything else alone; one that fails has left the
depth, kept the open groups and recorded an error. -/
def KeepsBooks (rule : Rule α) : Prop :=
  ∀ s, rule.Meets s (fun _ s' => ∃ taken, taken ≠ [] ∧ s.Passes taken s') (s.Fails 0)

theorem keepsBooks_of_yields {rule : Rule α} {shape : Reading → α → List Token → Prop}
    (hrestores : ∀ s, rule.Restores 0 s) (hyields : ∀ s, rule.Yields s (shape s))
    (hshape : ∀ s value taken, shape s value taken → taken ≠ []) : KeepsBooks rule := by
  intro s
  cases hrule : rule s with
  | done value s' =>
      obtain ⟨taken, hpasses, htaken⟩ := Meets.of_done (hyields s) hrule
      rw [Meets, hrule]
      exact ⟨taken, hshape s value taken htaken, hpasses⟩
  | failed s' =>
      rw [Meets, hrule]
      exact Meets.of_failed (hrestores s) hrule

/-- Values, arguments and fields leave the books as they found them, or keep them when they fail.  No
value is read below the deepest level, and every loop takes tokens, so its limit is never reached. -/
theorem keepsBooks_value_argumentList_field :
    (KeepsBooks value ∧ KeepsBooks argumentList ∧ KeepsBooks field) ∧
    IgnoresBelowDeepest ∧
    Unlimited valueWithin ∧ Unlimited (items value) ∧
    (∀ before, Unlimited fun limit => entries .closeBrace .brace objectKey value limit before) ∧
    (∀ before, Unlimited fun limit => entries .closeParen .paren argumentName value limit before) ∧
    (∀ before, Unlimited fun limit => looseArguments limit before) ∧ Unlimited fields := by
  refine ⟨⟨?_, ?_, ?_⟩, ignoresBelowDeepest, unlimited_valueWithin, unlimited_items,
    unlimited_entries .closeBrace .brace consumes_objectKey,
    unlimited_entries .closeParen .paren consumes_argumentName, unlimited_looseArguments,
    unlimited_fields⟩
  · exact keepsBooks_of_yields restores_value (fun s => (takes_value s).yields)
      fun _ _ _ hvalue => hvalue.ne_nil
  · refine keepsBooks_of_yields restores_argumentList (fun s => yields_argumentList) ?_
    rintro s value taken ⟨first, pairs, inside, last, rfl, -⟩
    exact List.cons_ne_nil _ _
  · refine keepsBooks_of_yields restores_field (fun s => yields_field) ?_
    rintro s value taken ⟨first, arguments, group, -, -, -, rfl⟩
    simp

end Rule

end CompletionGateway
