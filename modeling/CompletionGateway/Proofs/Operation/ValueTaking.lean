import CompletionGateway.Proofs.Operation.Meets
import CompletionGateway.Proofs.Operation.ValueStart

/-!
# What values take

Whatever the next tokens are, the rule for values takes the tokens of one value, or it fails; and if
it fails without a fatal error, what it left open is what the tokens it took opened.  So passing the
rest of a malformed literal ends at the bracket that closes it.
-/

namespace CompletionGateway

namespace Rule

variable {α : Type}

/-! ### Bare runs -/

theorem takeRun_append (last : Span) (tokens : List Token) :
    (takeRun last tokens).1 ++ (takeRun last tokens).2 = tokens := by
  induction tokens generalizing last with
  | nil => rfl
  | cons token rest ih =>
      rw [takeRun]
      split
      · exact congrArg (token :: ·) (ih token.span)
      · rfl

theorem inside_takeRun (last : Span) (tokens : List Token) :
    ∀ token ∈ (takeRun last tokens).1, token.kind.endsRun = false := by
  induction tokens generalizing last with
  | nil => simp [takeRun]
  | cons token rest ih =>
      rw [takeRun]
      split
      · rename_i hgoes
        simp only [Bool.and_eq_true, Bool.not_eq_true'] at hgoes
        simpa using ⟨hgoes.2, ih token.span⟩
      · simp

theorem touching_takeRun (first : Token) (tokens : List Token) :
    (first :: (takeRun first.span tokens).1).IsChain fun before token =>
      token.follows before.span = true := by
  induction tokens generalizing first with
  | nil => exact List.isChain_singleton _
  | cons token rest ih =>
      rw [takeRun]
      split
      · rename_i hgoes
        simp only [Bool.and_eq_true] at hgoes
        exact List.isChain_cons_cons.2 ⟨hgoes.1, ih token⟩
      · exact List.isChain_singleton _

/-- A token with which the reader begins a bare run can begin one and go on with one. -/
theorem beginsRun_of_startsRun {s : Reading} {token : Token} (h : s.startsRun token = true) :
    token.kind.endsRun = false ∧ token.beginsRun s.source = true := by
  unfold Reading.startsRun at h
  unfold Token.beginsRun
  cases hkind : token.kind with
  | punctuator mark =>
      simp only [hkind] at h ⊢
      refine ⟨?_, h⟩
      cases mark <;> first | rfl | exact absurd h (by decide)
  | string text | finish => simp [hkind] at h
  | error message notes =>
      simp only [hkind] at h
      exact ⟨rfl, h⟩
  | _ => exact ⟨rfl, rfl⟩

/-- A bare run by what it means. -/
theorem bareRun_of_unread {s : Reading} {first : Token} {rest : List Token}
    (hunread : s.unread = first :: rest) :
    bareRun s =
      let after := { s with
        unread := (takeRun first.span rest).2
        lastEnd := ((takeRun first.span rest).1.getLast?.getD first).span.stop }
      match Token.runText? s.source first (takeRun first.span rest).1 with
      | some text => .done (.string text) after
      | none =>
          match lexicalError? (first :: (takeRun first.span rest).1) with
          | some error => .failed (after.record error)
          | none => .failed after := by
  rw [bareRun, hunread, Token.runText?]
  simp only
  cases s.source.bind (Text.slice · first.span.start.offset
      ((takeRun first.span rest).1.getLast?.getD first).span.stop.offset) with
  | some text => rfl
  | none => cases lexicalError? (first :: (takeRun first.span rest).1) <;> rfl

/-- What is reported about a faulty token is not fatal. -/
theorem isFatal_of_lexicalError? {tokens : List Token} {error : Diagnostic}
    (h : lexicalError? tokens = some error) : error.cause.isFatal = false := by
  obtain ⟨token, -, message, notes, -, rfl⟩ := exists_of_lexicalError? h
  rfl

theorem takes_bareRun (outer : Nat) {s : Reading} {first : Token} {rest : List Token}
    (hunread : s.unread = first :: rest) (hstarts : s.startsRun first = true) :
    bareRun.Takes outer s (Token.IsValue s.source) := by
  obtain ⟨hends, hbegins⟩ := beginsRun_of_startsRun hstarts
  have hrun : Token.IsRun s.source first (takeRun first.span rest).1 := by
    refine ⟨?_, touching_takeRun first rest, hbegins⟩
    simpa using ⟨hends, inside_takeRun first.span rest⟩
  have hpasses : ∀ stop, s.Passes (first :: (takeRun first.span rest).1)
      { s with unread := (takeRun first.span rest).2, lastEnd := stop } := fun stop =>
    ⟨⟨rfl, rfl, rfl, rfl⟩, by rw [hunread, List.cons_append, takeRun_append]⟩
  rw [Takes, Meets, bareRun_of_unread hunread]
  cases htext : Token.runText? s.source first (takeRun first.span rest).1 with
  | some text => exact ⟨_, hpasses _, .run hrun htext⟩
  | none =>
      cases herror : lexicalError? (first :: (takeRun first.span rest).1) with
      | some error =>
          exact .of_passes (hpasses _) hrun.balanced
            (.record _ fun hfatal => by simp [isFatal_of_lexicalError? herror] at hfatal)
      | none =>
          unfold Token.runText? at htext
          simp only [herror] at htext
          split at htext <;> cases htext

/-! ### Literals -/

/-- From the first state to the second one the rest of `groups + 1` open groups has been passed. -/
def ClosersPassed (groups : Nat) (s s' : Reading) : Prop :=
  s.Agrees s' ∧ ∃ inside last, s.unread = inside ++ last :: s'.unread ∧
    BracketCount.all.after groups (inside.map (·.kind)) = some 0 ∧ last.kind.isClosing = true

/-- From the first state to the second one the document has ended and at least one of `groups + 1` open
groups has not been closed. -/
structure ClosersMissing (groups : Nat) (s s' : Reading) : Prop where
  depth : s'.depth = s.depth
  source : s'.source = s.source
  ended : s'.Ended
  recorded : ∃ error, s'.errors = s.errors ++ [error] ∧ error.cause.isFatal = true
  count : ∃ inside inner, s.unread = inside ++ s'.unread ∧
    BracketCount.all.after groups (inside.map (·.kind)) = some inner

section Closers

variable {depth depth' : Nat} {s s' : Reading} {token : Token} {rest : List Token}

theorem ClosersPassed.cons (hunread : s.unread = token :: rest)
    (hstep : BracketCount.all.step depth token.kind = some depth')
    (h : ClosersPassed depth' s.advance s') : ClosersPassed depth s s' := by
  obtain ⟨hagrees, inside, last, hsplit, hcount, hlast⟩ := h
  refine ⟨s.agrees_advance.trans hagrees, token :: inside, last, ?_, ?_, hlast⟩
  · rw [hunread, ← Reading.unread_advance hunread, hsplit, List.cons_append]
  · rw [List.map_cons, BracketCount.after_cons, hstep]
    exact hcount

theorem ClosersMissing.cons (hunread : s.unread = token :: rest)
    (hstep : BracketCount.all.step depth token.kind = some depth')
    (h : ClosersMissing depth' s.advance s') : ClosersMissing depth s s' := by
  have hadvance := s.agrees_advance
  obtain ⟨inside, inner, hsplit, hcount⟩ := h.count
  refine ⟨h.depth.trans hadvance.depth, h.source.trans hadvance.source, h.ended, ?_, token :: inside,
    inner, ?_, ?_⟩
  · rw [← hadvance.errors]
    exact h.recorded
  · rw [hunread, ← Reading.unread_advance hunread, hsplit, List.cons_append]
  · rw [List.map_cons, BracketCount.after_cons, hstep]
    exact hcount

theorem closersMissing_recordUnclosed (h : s.Ended) (delimiter : Delimiter) :
    ClosersMissing depth s (s.recordUnclosed delimiter) :=
  ⟨rfl, rfl, h, ⟨_, rfl, rfl⟩, [], depth, rfl, rfl⟩

end Closers

/-- Passing the rest of some open groups ends at the bracket that closes the last of them, or at the
end of the document. -/
theorem meets_skipClosers (depth : Nat) (tokens : List Token) {s : Reading}
    (hunread : s.unread = tokens) :
    (skipClosers (depth + 1) tokens).Meets s (fun _ => ClosersPassed depth s)
      (ClosersMissing depth s) := by
  induction tokens generalizing depth s with
  | nil => exact closersMissing_recordUnclosed (by simp [Reading.Ended, hunread]) _
  | cons token rest ih =>
      have hrest := Reading.unread_advance hunread
      by_cases hfinish : token.kind = .finish
      · rw [Meets, skipClosers]
        simp only [if_pos hfinish]
        exact closersMissing_recordUnclosed (by simp [Reading.Ended, hunread, hfinish]) _
      -- the rest of the tokens, with the count that this token leaves
      have hmore : ∀ depth', BracketCount.all.step depth token.kind = some depth' →
          skipClosers (depth + 1) (token :: rest) s = skipClosers (depth' + 1) rest s.advance →
            (skipClosers (depth + 1) (token :: rest)).Meets s (fun _ => ClosersPassed depth s)
              (ClosersMissing depth s) := by
        intro depth' hstep hskip
        exact (Meets.congr hskip (ih depth' hrest)).mono (fun _ _ => .cons hunread hstep)
          fun _ => .cons hunread hstep
      by_cases hopening : token.kind.isOpening = true
      · refine hmore (depth + 1) ?_ ?_
        · simp only [BracketCount.step, if_neg hfinish, BracketCount.all, hopening, if_true]
        · rw [skipClosers]
          simp only [if_neg hfinish, hopening, if_true]
      rw [Bool.not_eq_true] at hopening
      by_cases hclosing : token.kind.isClosing = true
      · have hskip : skipClosers (depth + 1) (token :: rest) s = skipClosers depth rest s.advance := by
          rw [skipClosers]
          simp only [if_neg hfinish, hopening, hclosing, if_true, Bool.false_eq_true, if_false]
        cases depth with
        | zero =>
            have hdone : skipClosers 1 (token :: rest) s = .done () s.advance := by
              rw [hskip, skipClosers]
              rfl
            rw [Meets, hdone]
            refine ⟨s.agrees_advance, [], token, ?_, rfl, hclosing⟩
            rw [hunread, ← hrest, List.nil_append]
        | succ depth =>
            refine hmore depth ?_ hskip
            simp only [BracketCount.step, if_neg hfinish, BracketCount.all, hopening, hclosing,
              if_true, Bool.false_eq_true, if_false]
      · rw [Bool.not_eq_true] at hclosing
        refine hmore depth ?_ ?_
        · simp only [BracketCount.step, if_neg hfinish, BracketCount.all, hopening, hclosing,
            Bool.false_eq_true, if_false]
        · rw [skipClosers]
          simp only [if_neg hfinish, hopening, hclosing, Bool.false_eq_true, if_false]

/-- What fails inside a literal without a fatal error leaves the literal open, and the groups that
the tokens before the failure opened in it. -/
theorem exists_groups_of_faults {s after : Reading} {first : Token} {rest : List Token}
    (hunread : s.unread = first :: rest) {enclosure : Enclosure} {outer : Nat}
    (h : (s.advance.push enclosure first.span).Faults outer after)
    (hmild : (after.errors.drop s.errors.length).any (·.cause.isFatal) = false) :
    ∃ taken groups inner, rest = taken ++ after.unread ∧
      BracketCount.all.after 0 (taken.map (·.kind)) = some inner ∧
        after.opened = groups ++ s.opened ∧ groups.length = inner + 1 := by
  obtain ⟨faults, taken, inner, -, herrors, hstops⟩ := h.recorded
  have herrors' : after.errors = s.errors ++ faults := by
    rw [herrors, Reading.errors_push, Reading.errors_advance]
  rw [herrors', List.drop_left] at hmild
  obtain ⟨groups, hopened, hgroups⟩ := hstops.mild hmild
  refine ⟨taken, groups ++ [⟨enclosure, first.span⟩], inner, ?_, hstops.count, ?_, ?_⟩
  · rw [← hstops.unread, Reading.unread_push, Reading.unread_advance hunread]
  · rw [hopened, Reading.push, s.agrees_advance.opened, List.append_assoc]
    rfl
  · rw [List.length_append, hgroups, List.length_singleton]

/-- What was recorded behind the opening bracket of a literal goes when the literal is discarded. -/
theorem errors_discard_of_faults {s after s' : Reading} {first : Token} {enclosure : Enclosure}
    {outer : Nat} (h : (s.advance.push enclosure first.span).Faults outer after)
    (hagrees : after.Agrees s') (start : Position) (groups : Nat) :
    (s'.discard start groups s.errors.length).errors = s.errors := by
  obtain ⟨faults, -, -, -, herrors, -⟩ := h.recorded
  rw [Reading.errors_push, Reading.errors_advance] at herrors
  exact Reading.errors_discard (hagrees.errors.trans herrors) start groups

section Literal

variable {body : Rule ArgValue} {s : Reading} {first : Token} {rest : List Token}
variable (hunread : s.unread = first :: rest) {enclosure : Enclosure}
variable {kind : LiteralKind} (hfirst : first.kind = .punctuator kind.shape.opening)

include hunread hfirst

/-- What fails behind the opening bracket of a literal fails in the literal. -/
theorem faults_of_push {outer : Nat} {s' : Reading}
    (h : (s.advance.push enclosure first.span).Faults (outer + 1) s') : s.Faults outer s' := by
  have hadvance := s.agrees_advance
  have hopen := BracketCount.all_step_of_isOpening (Token.isOpening_of_eq hfirst) 0
  obtain ⟨faults, taken, inner, hne, herrors, hstops⟩ := h.recorded
  refine ⟨h.depth.trans hadvance.depth, h.source.trans hadvance.source, faults, first :: taken,
    inner + 1, hne, ?_, ?_, ?_, fun hmild => ?_, fun hfatal => ?_⟩
  · rw [herrors, Reading.errors_push, Reading.errors_advance]
  · rw [hunread, List.cons_append, ← hstops.unread, Reading.unread_push,
      Reading.unread_advance hunread]
  · rw [List.map_cons, BracketCount.after_cons, hopen]
    simpa [Nat.add_comm] using BracketCount.after_add hstops.count 1
  · obtain ⟨groups, hopened, hgroups⟩ := hstops.mild hmild
    refine ⟨groups ++ [⟨enclosure, first.span⟩], ?_, by simp [hgroups]⟩
    rw [hopened, Reading.push, hadvance.opened]
    simp
  · have hwhy := hstops.fatal hfatal
    rwa [Nat.add_comm inner, ← Nat.add_assoc]

variable {shape : ArgValue → List Token → Prop}
variable (hbody : body.Meets s (fun value s' => ∃ taken, s.Passes taken s' ∧ shape value taken)
  ((s.advance.push enclosure first.span).Faults s.depth))

include hbody

/-- A literal takes what its body takes or, if it is emptied, balanced tokens between brackets.  It
fails only for a fatal error behind its opening bracket. -/
theorem meets_literal :
    (literal kind body).Meets s (fun value s' => ∃ taken, s.Passes taken s' ∧
        (shape value taken ∨ value = kind.empty ∧ Token.IsLiteral kind taken))
      fun s' => (s.advance.push enclosure first.span).Faults s.depth s' ∧
        (s'.errors.drop s.errors.length).any (·.cause.isFatal) = true := by
  cases hrule : body s with
  | done value after =>
      obtain ⟨taken, hpasses, hshape⟩ := hbody.of_done hrule
      rw [Meets, literal_of_done hrule]
      exact ⟨taken, hpasses, .inl hshape⟩
  | failed after =>
      have hfault := hbody.of_failed hrule
      have hadvance := s.agrees_advance
      by_cases hfatal : (after.errors.drop s.errors.length).any (·.cause.isFatal) = true
      · rw [Meets, literal_of_fatal hrule hfatal]
        exact ⟨hfault, hfatal⟩
      rw [Bool.not_eq_true] at hfatal
      -- what the body left open is passed, and then the bracket that closes the literal
      obtain ⟨taken, groups, inner, hsplit, hcount, hopened, hgroups⟩ :=
        exists_groups_of_faults hunread hfault hfatal
      have hlength : after.opened.length - s.opened.length = inner + 1 := by
        rw [hopened, List.length_append, Nat.add_sub_cancel, hgroups]
      have hskip := meets_skipClosers inner after.unread rfl
      rw [← hlength] at hskip
      cases hskipped : skipClosers (after.opened.length - s.opened.length) after.unread after with
      | done value s' =>
          obtain ⟨hagrees, inside, last, hinside, hclosed, hlast⟩ := hskip.of_done hskipped
          rw [Meets, literal_of_closed hrule hfatal hskipped]
          refine ⟨first :: ((taken ++ inside) ++ [last]), ⟨⟨?_, ?_, ?_, ?_⟩, ?_⟩, .inr ⟨rfl, first,
            _, last, rfl, hfirst, hlast, ?_⟩⟩
          · exact Reading.opened_discard (hagrees.opened.trans hopened) _ _
          · exact hagrees.depth.trans (hfault.depth.trans hadvance.depth)
          · exact errors_discard_of_faults hfault hagrees _ _
          · exact hagrees.source.trans (hfault.source.trans hadvance.source)
          · rw [hunread, hsplit, hinside]
            simp
          · rw [BracketCount.Balanced, List.map_append, BracketCount.after_append, hcount]
            exact hclosed
      | failed s' =>
          have hmissing := hskip.of_failed hskipped
          rw [Meets, literal_of_unclosed hrule hfatal hskipped]
          obtain ⟨error, hmore, hfatal'⟩ := hmissing.recorded
          obtain ⟨inside, inner', hinside, hopened'⟩ := hmissing.count
          obtain ⟨faults, -, -, -, herrors, -⟩ := hfault.recorded
          refine ⟨⟨hmissing.depth.trans hfault.depth, hmissing.source.trans hfault.source,
            faults ++ [error], taken ++ inside, inner', by simp, ?_, ?_, ?_,
              fun hmild => by simp [hfatal'] at hmild, fun _ => .inl hmissing.ended⟩, ?_⟩
          · rw [hmore, herrors, List.append_assoc]
          · rw [Reading.unread_push, Reading.unread_advance hunread, hsplit, hinside,
              List.append_assoc]
          · rw [List.map_append, BracketCount.after_append, hcount]
            exact hopened'
          · rw [hmore, herrors, Reading.errors_push, Reading.errors_advance, List.append_assoc,
              List.drop_left]
            simp [hfatal']

theorem takes_literal {outer : Nat} (hdepth : s.depth = outer + 1) :
    (literal kind body).Takes outer s fun value taken =>
      shape value taken ∨ value = kind.empty ∧ Token.IsLiteral kind taken :=
  (meets_literal hunread hfirst hbody).mono (fun _ _ h => h) fun _ ⟨hfault, _⟩ =>
    faults_of_push hunread hfirst (hdepth ▸ hfault)

end Literal

/-- The body of a literal takes brackets and what stands between them.  What goes wrong inside the
brackets is told apart from what was open before them. -/
theorem meets_literalBody {body : Rule α} (wrap : α → ArgValue) {opening closing : Punctuator}
    {enclosure : Enclosure} {s : Reading} {inside : α → List Token → Prop}
    (hbody : ∀ s', s'.source = s.source → body.Takes s'.depth s' inside)
    (hbalanced : ∀ value taken, inside value taken → BracketCount.all.Balanced taken)
    {first : Token} {rest : List Token} (hunread : s.unread = first :: rest)
    (hfirst : first.kind = .punctuator opening) :
    (do
      let _ ← openGroup opening enclosure
      let found ← body
      let _ ← closeGroup closing
      return wrap found : Rule ArgValue).Meets s
      (fun value s' => ∃ taken, s.Passes taken s' ∧ ∃ found middle last, value = wrap found ∧
        taken = first :: (middle ++ [last]) ∧ inside found middle ∧ last.kind = .punctuator closing)
      ((s.advance.push enclosure first.span).Faults s.depth) := by
  have hadvance := s.agrees_advance
  have hdepth : (s.advance.push enclosure first.span).depth = s.depth := hadvance.depth
  have hshifted := hbody (s.advance.push enclosure first.span) hadvance.source
  rw [hdepth] at hshifted
  refine meets_group s.depth inside ?_ ?_ ?_
  · intro s' hfailed
    rw [openGroup_of_unread hunread hfirst] at hfailed
    cases hfailed
  · intro first' rest' hunread' _
    obtain ⟨rfl, rfl⟩ := List.cons.inj (hunread.symm.trans hunread')
    refine Meets.mono hshifted ?_ fun _ hfault => hfault
    rintro value s' ⟨taken, hpasses, hinside⟩
    exact ⟨taken, hpasses, hinside, fun s'' => .of_passes hpasses (hbalanced value taken hinside)⟩
  · intro first' value taken last s' hpasses hfirst' hinside hlast
    have hsplit := hpasses.unread
    rw [hunread, List.cons_append] at hsplit
    obtain ⟨rfl, -⟩ := List.cons.inj hsplit
    exact ⟨_, hpasses, value, taken, last, rfl, rfl, hinside, hlast⟩

/-! ### Entries and items -/

theorem takes_argumentName (outer : Nat) (s : Reading) :
    argumentName.Takes outer s fun name taken =>
      ∃ token, taken = [token] ∧ token.kind.asName? = some name := by
  refine (takes_expectName outer).bind ?_ ?_
  · rintro found taken ⟨token, rfl, hname⟩
    exact Token.balanced_of_isPlain (Token.isPlain_of_asName? (by rw [hname]; rfl))
  · rintro found taken s' - ⟨token, rfl, hname⟩
    exact takes_pure ⟨token, rfl, hname⟩

theorem takes_objectKey (outer : Nat) (s : Reading) :
    objectKey.Takes outer s fun name taken =>
      ∃ token, taken = [token] ∧ token.kind.key? = some name := by
  cases hunread : s.unread with
  | nil => exact .congr (by rw [objectKey, Reading.next?, hunread]; rfl) (takes_refuseNext ["name"])
  | cons token rest =>
      cases hkey : token.kind.key? with
      | some name =>
          have hbalanced := Token.balanced_of_isPlain (Token.isPlain_of_key? (by rw [hkey]; rfl))
          exact .of_advance hunread hbalanced (objectKey_of_key? hunread hkey)
            (takes_pure ⟨token, rfl, hkey⟩)
      | none =>
          rcases objectKey_of_none hunread hkey with ⟨hliteral, error, hmild, hrule⟩ | hrule
          · have hbalanced := Token.balanced_of_isPlain (Token.isPlain_of_isLiteral hliteral)
            exact .of_advance hunread hbalanced hrule (takes_refuse hmild)
          · exact .congr hrule (takes_refuseNext ["name"])

/-- Entries take names, colons and values, up to a closing bracket that they leave. -/
theorem takes_entries {key : Rule String} {name? : TokenKind → Option String}
    (hkey : ∀ outer s, key.Takes outer s fun name taken =>
      ∃ token, taken = [token] ∧ name? token.kind = some name)
    (hbalanced : ∀ token : Token, (name? token.kind).isSome = true →
      BracketCount.all.Balanced [token])
    {value : Rule ArgValue} (hvalue : ∀ s, value.Takes s.depth s (Token.IsValue s.source))
    (closing : Punctuator) (delimiter : Delimiter) (limit : Nat) (before : Arguments) {s : Reading}
    (hlimit : s.unread.length < limit) :
    (entries closing delimiter key value limit before).Takes s.depth s fun found taken =>
      ∃ pairs, found = Dict.insertAll before pairs ∧
        Token.AreEntries s.source name? pairs taken := by
  induction limit generalizing before s with
  | zero => exact absurd hlimit (Nat.not_lt_zero _)
  | succ limit ih =>
      rw [entries]
      refine .congr (nextIs_bind closing _ s) ?_
      split
      · exact takes_pure ⟨[], rfl, rfl⟩
      refine .congr (atEnd_bind _ s) ?_
      split
      · rename_i hend
        exact takes_refuseUnclosed (Reading.ended_of_atEnd hend) delimiter
      -- a key, a colon and a value, and then the other entries
      refine (hkey s.depth s).bind ?_ ?_
      · rintro name taken ⟨token, rfl, hname⟩
        exact hbalanced token (by rw [hname]; rfl)
      rintro name taken s₁ hpasses₁ ⟨first, rfl, hfirst⟩
      refine (takes_expect s.depth .colon).bind ?_ ?_
      · rintro found taken ⟨token, rfl, hkind⟩
        exact Token.balanced_of_isPlain (Token.isPlain_of_mark hkind rfl rfl)
      rintro found taken s₂ hpasses₂ ⟨colon, rfl, hcolon⟩
      have hagrees₂ := hpasses₁.agrees.trans hpasses₂.agrees
      have hvalue₂ := hvalue s₂
      rw [hagrees₂.depth, hagrees₂.source] at hvalue₂
      refine hvalue₂.bind (fun _ _ => Token.IsValue.balanced) ?_
      intro value' taken s₃ hpasses₃ hvalue'
      have hagrees₃ := hagrees₂.trans hpasses₃.agrees
      have hshort : s₃.unread.length < limit := by
        have hlength := congrArg List.length (hpasses₁.trans (hpasses₂.trans hpasses₃)).unread
        simp only [List.length_append, List.length_singleton] at hlength
        omega
      have hmore := ih (Dict.insert before name value') hshort
      rw [hagrees₃.depth, hagrees₃.source] at hmore
      refine hmore.mono ?_
      rintro result more ⟨pairs, rfl, hmore⟩
      refine ⟨(name, value') :: pairs, rfl, first, colon, taken, more, hfirst, hcolon, hvalue', hmore,
        ?_⟩
      simp

/-- Items take values, up to a closing bracket that they leave. -/
theorem takes_items {value : Rule ArgValue}
    (hvalue : ∀ s, value.Takes s.depth s (Token.IsValue s.source)) (limit : Nat)
    {s : Reading} (hlimit : s.unread.length < limit) :
    (items value limit).Takes s.depth s (Token.AreItems s.source) := by
  induction limit generalizing s with
  | zero => exact absurd hlimit (Nat.not_lt_zero _)
  | succ limit ih =>
      rw [items]
      refine .congr (nextIs_bind .closeBracket _ s) ?_
      split
      · exact takes_pure .nil
      refine .congr (atEnd_bind _ s) ?_
      split
      · rename_i hend
        exact takes_refuseUnclosed (Reading.ended_of_atEnd hend) .bracket
      refine (hvalue s).bind (fun _ _ => Token.IsValue.balanced) ?_
      intro first taken s₁ hpasses hfirst
      have hshort : s₁.unread.length < limit := by
        have hlength := congrArg List.length hpasses.unread
        have hpos := List.length_pos_iff.2 hfirst.ne_nil
        simp only [List.length_append] at hlength
        omega
      have hmore := ih hshort
      rw [hpasses.agrees.depth, hpasses.agrees.source] at hmore
      refine hmore.bind (fun _ _ => Token.AreItems.balanced) ?_
      intro more taken' s₂ _ hmore
      exact takes_pure (by simpa using .cons hfirst hmore)

section Literals

variable {inner : Rule ArgValue}
variable (hinner : ∀ s, inner.Takes s.depth s (Token.IsValue s.source))
variable {s : Reading} {first : Token} {rest : List Token} (hunread : s.unread = first :: rest)

include hinner hunread

theorem meets_objectBody (hfirst : first.kind = .punctuator .openBrace) :
    (objectBody inner).Meets s
      (fun value s' => ∃ taken, s.Passes taken s' ∧ Token.IsValue s.source value taken)
      ((s.advance.push .objectValue first.span).Faults s.depth) := by
  have hentries : ∀ s' : Reading, s'.source = s.source →
      Takes (fun s => entries .closeBrace .brace objectKey inner (s.unread.length + 1) [] s) s'.depth s'
        fun found taken =>
          ∃ pairs, found = Dict.ofList pairs ∧ Token.AreMembers s.source pairs taken := by
    intro s' hsource
    have hbalanced : ∀ token : Token, token.kind.key?.isSome = true →
        BracketCount.all.Balanced [token] :=
      fun _ hkey => Token.balanced_of_isPlain (Token.isPlain_of_key? hkey)
    refine Takes.congr rfl ((takes_entries takes_objectKey hbalanced hinner .closeBrace .brace
      (s'.unread.length + 1) [] (Nat.lt_succ_self _)).mono ?_)
    rintro found taken ⟨pairs, rfl, hpairs⟩
    rw [hsource] at hpairs
    exact ⟨pairs, rfl, Token.areMembers_of_areEntries (fun _ _ h => h) hpairs⟩
  refine (meets_literalBody .object hentries ?_ hunread hfirst).mono ?_ fun _ hfault => hfault
  · rintro found taken ⟨pairs, -, hpairs⟩
    exact hpairs.balanced
  · rintro value s' ⟨taken, hpasses, found, middle, last, rfl, rfl, ⟨pairs, rfl, hpairs⟩, hlast⟩
    exact ⟨_, hpasses, .object hfirst hpairs hlast⟩

theorem meets_listBody (hfirst : first.kind = .punctuator .openBracket) :
    (listBody inner).Meets s
      (fun value s' => ∃ taken, s.Passes taken s' ∧ Token.IsValue s.source value taken)
      ((s.advance.push .listValue first.span).Faults s.depth) := by
  have hitems : ∀ s' : Reading, s'.source = s.source →
      Takes (fun s => items inner (s.unread.length + 1) s) s'.depth s'
        (Token.AreItems s.source) := by
    intro s' hsource
    rw [← hsource]
    exact .congr rfl (takes_items hinner (s'.unread.length + 1) (Nat.lt_succ_self _))
  refine (meets_literalBody .list hitems (fun _ _ => Token.AreItems.balanced) hunread hfirst).mono ?_
    fun _ hfault => hfault
  rintro value s' ⟨taken, hpasses, found, middle, last, rfl, rfl, hitems, hlast⟩
  exact ⟨_, hpasses, .list hfirst hitems hlast⟩

theorem meets_body {kind : LiteralKind} (hfirst : first.kind = .punctuator kind.shape.opening) :
    (kind.body inner).Meets s
      (fun value s' => ∃ taken, s.Passes taken s' ∧ Token.IsValue s.source value taken)
      ((s.advance.push kind.enclosure first.span).Faults s.depth) := by
  cases kind with
  | object => exact meets_objectBody hinner hunread hfirst
  | list => exact meets_listBody hinner hunread hfirst

end Literals

/-! ### Values -/

theorem takes_variableName (outer : Nat) (s : Reading) :
    variableName.Takes outer s fun value taken =>
      ∃ text token, value = .variable text ∧ taken = [token] ∧ token.kind.asName? = some text := by
  refine (takes_expectName outer).bind ?_ ?_
  · rintro found taken ⟨token, rfl, hname⟩
    exact Token.balanced_of_isPlain (Token.isPlain_of_asName? (by rw [hname]; rfl))
  · rintro found taken s' - ⟨token, rfl, hname⟩
    exact takes_pure ⟨found.1, token, rfl, rfl, hname⟩

/-- A value that begins with a given token. -/
theorem takes_valueAt {inner : Rule ArgValue}
    (hinner : ∀ s, inner.Takes s.depth s (Token.IsValue s.source)) {outer : Nat}
    {s : Reading} (hdepth : s.depth = outer + 1) {token : Token} {rest : List Token}
    (hunread : s.unread = token :: rest) :
    (valueAt inner token).Takes outer s (Token.IsValue s.source) := by
  cases beginsValue inner token s with
  | run hstarts hrule => exact .congr hrule (takes_bareRun outer hunread hstarts)
  | word hstarts hvalue hrule =>
      have hbalanced := Token.balanced_of_isPlain (Token.isPlain_of_value? (by rw [hvalue]; rfl))
      exact .of_advance hunread hbalanced hrule (takes_pure (.word hvalue))
  | «variable» hdollar hrule =>
      have hbalanced := Token.balanced_of_isPlain (Token.isPlain_of_mark hdollar rfl rfl)
      refine .of_advance hunread hbalanced hrule ((takes_variableName outer s.advance).mono ?_)
      rintro value taken ⟨text, name, rfl, rfl, hname⟩
      exact .variable hdollar hname
  | literal kind hopening hrule =>
      refine .congr hrule ((takes_literal hunread hopening (meets_body hinner hunread hopening)
        hdepth).mono ?_)
      rintro value taken (hvalue | ⟨rfl, hliteral⟩)
      · exact hvalue
      · exact .emptied hliteral
  | faulty hstarts hliteral hvalue hmild hrule =>
      have hbalanced := Token.balanced_of_isPlain (Token.isPlain_of_isLiteral hliteral)
      exact .of_advance hunread hbalanced hrule (takes_refuse hmild)
  | refused hstarts hvalue hdollar hrule => exact .congr hrule (takes_refuseNext ["value"])

/-- One level deeper a rule takes the same tokens. -/
theorem takes_nested {rule : Rule α} {s : Reading} {shape : α → List Token → Prop}
    (h : rule.Takes s.depth { s with depth := s.depth + 1 } shape) :
    (nested rule).Takes s.depth s shape := by
  by_cases hroom : s.depth < deepestValue
  · cases hrule : rule { s with depth := s.depth + 1 } with
    | done value s' =>
        obtain ⟨taken, hpasses, hshape⟩ := Meets.of_done h hrule
        have hagrees := hpasses.agrees
        rw [Takes, Meets, nested, if_pos hroom, hrule]
        refine ⟨taken, ⟨⟨hagrees.opened, ?_, hagrees.errors, hagrees.source⟩, hpasses.unread⟩, hshape⟩
        simp only [hagrees.depth, Nat.add_sub_cancel]
    | failed s' =>
        have hfault := Meets.of_failed h hrule
        obtain ⟨faults, taken, inner, hne, herrors, hstops⟩ := hfault.recorded
        rw [Takes, Meets, nested, if_pos hroom, hrule]
        refine ⟨?_, hfault.source, faults, taken, inner, hne, herrors, hstops.unread, hstops.count,
          hstops.mild, hstops.fatal⟩
        simp only [hfault.depth, Nat.add_sub_cancel]
  · have hdeep : deepestValue ≤ s.depth := Nat.le_of_not_lt hroom
    rw [Takes, Meets, nested, if_neg hroom]
    exact .record s fun _ => .inr hdeep

theorem takes_valueWithin (limit : Nat) (s : Reading) :
    (valueWithin limit).Takes s.depth s (Token.IsValue s.source) := by
  induction limit generalizing s with
  | zero =>
      rw [valueWithin]
      exact takes_nested (takes_refuseNext ["value"])
  | succ limit ih =>
      cases hunread : s.unread with
      | nil =>
          rw [valueWithin]
          refine takes_nested (.congr ?_ (takes_refuseNext ["value"]))
          rw [ask_bind, Reading.next?, hunread]
          rfl
      | cons token rest =>
          exact .congr (valueWithin_of_unread limit hunread)
            (takes_nested (takes_valueAt ih rfl hunread))

/-- A value takes the tokens of one value, or it fails. -/
theorem takes_value (s : Reading) : value.Takes s.depth s (Token.IsValue s.source) := by
  have hrule : value s = valueWithin (s.unread.length + 1) s := by rw [value]
  exact .congr hrule (takes_valueWithin (s.unread.length + 1) s)

end Rule

end CompletionGateway
