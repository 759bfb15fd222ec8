import CompletionGateway.Proofs.Operation.Answer
import CompletionGateway.Proofs.Operation.Brackets

/-!
# What a rule meets

A rule meets two conditions from a state if the first holds of its value and the state after it
whenever it is done, and the second holds of the state in which it fails.  A rule that is done has
passed the tokens that it took and changed nothing else.  A rule that fails has recorded why; unless
one of its errors is fatal, the groups that it left open are the ones that the tokens it took opened.
-/

namespace CompletionGateway

namespace Reading

/-- From one state to another some tokens have been taken and nothing else has changed. -/
structure Passes (s : Reading) (taken : List Token) (s' : Reading) : Prop where
  agrees : s.Agrees s'
  unread : s.unread = taken ++ s'.unread

namespace Passes

variable {s s' s'' : Reading} {front back taken : List Token}

theorem refl (s : Reading) : s.Passes [] s := ⟨.refl s, rfl⟩

theorem trans (h : s.Passes front s') (h' : s'.Passes back s'') : s.Passes (front ++ back) s'' :=
  ⟨h.agrees.trans h'.agrees, by rw [h.unread, h'.unread, List.append_assoc]⟩

theorem advance {token : Token} {rest : List Token} (h : s.unread = token :: rest) :
    s.Passes [token] s.advance :=
  ⟨s.agrees_advance, by rw [unread_advance h, h]; rfl⟩

end Passes

/-- Nothing is left to read but the end of the document. -/
def Ended (s : Reading) : Prop := ∀ next ∈ s.unread.head?, next.kind = .finish

/-- How far a rule came before it failed with some errors, and what the taken tokens left open:
groups that still are open, unless an error is fatal, and an error is fatal only if the document has
ended or too many values enclose the next token.  `outer` values enclose the first token. -/
structure Stops (s : Reading) (outer : Nat) (faults : List Diagnostic) (taken : List Token)
    (inner : Nat) (s' : Reading) : Prop where
  unread : s.unread = taken ++ s'.unread
  count : BracketCount.all.after 0 (taken.map (·.kind)) = some inner
  mild : faults.any (·.cause.isFatal) = false →
    ∃ groups, s'.opened = groups ++ s.opened ∧ groups.length = inner
  fatal : faults.any (·.cause.isFatal) = true → s'.Ended ∨ deepestValue ≤ outer + inner

/-- From the first state a rule failed with the second one. -/
structure Faults (s : Reading) (outer : Nat) (s' : Reading) : Prop where
  depth : s'.depth = s.depth
  source : s'.source = s.source
  recorded : ∃ faults taken inner, faults ≠ [] ∧ s'.errors = s.errors ++ faults ∧
    s.Stops outer faults taken inner s'

namespace Faults

variable {s s' s'' : Reading} {taken : List Token} {outer : Nat}

/-- What balanced tokens before a failure open is closed again. -/
theorem of_passes (h : s.Passes taken s') (hbalanced : BracketCount.all.Balanced taken)
    (h' : s'.Faults outer s'') : s.Faults outer s'' := by
  obtain ⟨faults, more, inner, hne, herrors, hstops⟩ := h'.recorded
  refine ⟨h'.depth.trans h.agrees.depth, h'.source.trans h.agrees.source, faults, taken ++ more, inner,
    hne, by rw [herrors, h.agrees.errors], ?_, ?_, ?_, hstops.fatal⟩
  · rw [h.unread, hstops.unread, List.append_assoc]
  · rw [List.map_append, hbalanced.after, hstops.count]
  · rw [← h.agrees.opened]
    exact hstops.mild

theorem record (s : Reading) {error : Diagnostic}
    (hfatal : error.cause.isFatal = true → s.Ended ∨ deepestValue ≤ outer) :
    s.Faults outer (s.record error) :=
  ⟨rfl, rfl, [error], [], 0, by simp, rfl, rfl, rfl, fun _ => ⟨[], rfl, rfl⟩,
    fun h => hfatal (by simpa using h)⟩

theorem recordUnclosed (h : s.Ended) (delimiter : Delimiter) :
    s.Faults outer (s.recordUnclosed delimiter) :=
  ⟨rfl, rfl, _, [], 0, List.cons_ne_nil _ [], rfl, rfl, rfl, fun hmild => absurd hmild (by simp [
    Cause.isFatal]), fun _ => .inl h⟩

end Faults

/-- What to say of the next token is fatal only if there is none. -/
theorem ended_of_wrongNext {s : Reading} {expected : List String}
    (h : (s.wrongNext expected).cause.isFatal = true) : s.Ended := by
  intro next hnext
  unfold wrongNext next? at h
  rw [Option.mem_def.1 hnext] at h
  cases hkind : next.kind <;> simp [hkind, Diagnostic.lexical, Diagnostic.unexpectedToken,
    Cause.isFatal] at h ⊢

theorem ended_of_atEnd {s : Reading} (h : s.toTokenStream.atEnd = true) : s.Ended := by
  intro next hnext
  cases hunread : s.unread with
  | nil => simp [hunread] at hnext
  | cons token rest =>
      obtain rfl : token = next := by simpa [hunread] using hnext
      rwa [atEnd_of_unread hunread, beq_iff_eq] at h

end Reading

namespace Rule

variable {α β : Type}

/-- The rule meets a condition if it is done, and another one if it fails. -/
def Meets (rule : Rule α) (s : Reading) (post : α → Reading → Prop) (fault : Reading → Prop) :
    Prop :=
  match rule s with
  | .done value s' => post value s'
  | .failed s' => fault s'

section Meets

variable {rule : Rule α} {s : Reading} {post post' : α → Reading → Prop}
variable {fault fault' : Reading → Prop}

theorem Meets.of_done (h : rule.Meets s post fault) {value : α} {s' : Reading}
    (hdone : rule s = .done value s') : post value s' := by
  rwa [Meets, hdone] at h

theorem Meets.of_failed (h : rule.Meets s post fault) {s' : Reading}
    (hfailed : rule s = .failed s') : fault s' := by
  rwa [Meets, hfailed] at h

theorem Meets.congr {rule' : Rule α} {s' : Reading} (h : rule s = rule' s')
    (h' : rule'.Meets s' post fault) : rule.Meets s post fault := by
  rwa [Meets, h]

theorem Meets.mono (h : rule.Meets s post fault) (hpost : ∀ value s', post value s' → post' value s')
    (hfault : ∀ s', fault s' → fault' s') : rule.Meets s post' fault' := by
  unfold Meets at h ⊢
  split
  · rename_i hdone
    rw [hdone] at h
    exact hpost _ _ h
  · rename_i hfailed
    rw [hfailed] at h
    exact hfault _ h

/-- The second rule takes over in the state that the first one leaves. -/
theorem Meets.bind {second : α → Rule β} {post' : β → Reading → Prop} (h : rule.Meets s post fault)
    (h' : ∀ value s', post value s' → (second value).Meets s' post' fault) :
    (rule >>= second).Meets s post' fault := by
  unfold Meets at h ⊢
  cases hrule : rule s with
  | done value s' =>
      rw [bind_of_done hrule]
      rw [hrule] at h
      exact h' value s' h
  | failed s' =>
      rw [bind_of_failed hrule]
      rwa [hrule] at h

theorem meets_refuse (outer : Nat) {reason : Reading → Diagnostic}
    (hmild : (reason s).cause.isFatal = false) : (refuse reason).Meets s post (s.Faults outer) :=
  .record s fun hfatal => by simp [hmild] at hfatal

theorem meets_refuseNext (outer : Nat) (expected : List String) :
    (refuseNext expected).Meets s post (s.Faults outer) :=
  .record s fun hfatal => .inl (Reading.ended_of_wrongNext hfatal)

theorem meets_refuseUnclosed (outer : Nat) (h : s.Ended) (delimiter : Delimiter) :
    (refuseUnclosed delimiter).Meets s post (s.Faults outer) := .recordUnclosed h delimiter

end Meets

variable {s : Reading} (outer : Nat)

theorem meets_expect (mark : Punctuator) :
    (expect mark).Meets s (fun token s' => ∃ rest, s.unread = token :: rest ∧
      token.kind = .punctuator mark ∧ s' = s.advance) (s.Faults outer) := by
  cases hunread : s.unread with
  | nil => exact .congr (by rw [expect, hunread]) (meets_refuseNext outer [mark.spelling])
  | cons token rest =>
      by_cases hkind : token.kind = .punctuator mark
      · rw [Meets, expect_of_unread hunread hkind]
        exact ⟨rest, rfl, hkind, rfl⟩
      · exact .congr (by rw [expect, hunread]; simp only [if_neg hkind])
          (meets_refuseNext outer [mark.spelling])

theorem meets_expectName :
    expectName.Meets s (fun found s' => ∃ token rest, s.unread = token :: rest ∧
      token.kind.asName? = some found.1 ∧ s' = s.advance) (s.Faults outer) := by
  cases hunread : s.unread with
  | nil =>
      exact .congr (by rw [expectName, Reading.next?, hunread]; rfl) (meets_refuseNext outer ["name"])
  | cons token rest =>
      cases hname : token.kind.asName? with
      | none =>
          refine .congr ?_ (meets_refuseNext outer ["name"])
          rw [expectName, Reading.next?_of_unread hunread]
          simp [hname]
      | some name =>
          rw [Meets, expectName_of_unread hunread hname]
          exact ⟨token, rest, rfl, hname, rfl⟩

theorem meets_openGroup (mark : Punctuator) (enclosure : Enclosure) :
    (openGroup mark enclosure).Meets s (fun token s' => ∃ rest, s.unread = token :: rest ∧
      token.kind = .punctuator mark ∧ s' = s.advance.push enclosure token.span) (s.Faults outer) :=
  (meets_expect outer mark).bind fun _ _ ⟨rest, hunread, hkind, hnext⟩ =>
    ⟨rest, hunread, hkind, hnext ▸ rfl⟩

theorem meets_closeGroup (mark : Punctuator) :
    (closeGroup mark).Meets s (fun token s' => ∃ rest, s.unread = token :: rest ∧
      token.kind = .punctuator mark ∧ s' = s.advance.pop) (s.Faults outer) :=
  (meets_expect outer mark).bind fun _ _ ⟨rest, hunread, hkind, hnext⟩ =>
    ⟨rest, hunread, hkind, hnext ▸ rfl⟩

section Group

variable {body : Rule α} {finish : Token → α → Token → Rule β} {opening closing : Punctuator}
variable {enclosure : Enclosure} (inside : α → List Token → Prop)
variable {post : β → Reading → Prop} {fault : Reading → Prop}

/-- A group takes its brackets and what stands inside them. -/
theorem meets_group (hopen : ∀ s', openGroup opening enclosure s = .failed s' → fault s')
    (hbody : ∀ first rest, s.unread = first :: rest → first.kind = .punctuator opening →
      body.Meets (s.advance.push enclosure first.span) (fun value s' => ∃ taken,
        (s.advance.push enclosure first.span).Passes taken s' ∧ inside value taken ∧
          ∀ s'', s'.Faults outer s'' → fault s'') fault)
    (hfinish : ∀ first value taken last s', s.Passes (first :: (taken ++ [last])) s' →
      first.kind = .punctuator opening → inside value taken → last.kind = .punctuator closing →
        (finish first value last).Meets s' post fault) :
    (do
      let opened ← openGroup opening enclosure
      let found ← body
      let closed ← closeGroup closing
      finish opened found closed : Rule β).Meets s post fault := by
  have hopened : (openGroup opening enclosure).Meets s (fun token s' => ∃ rest,
      s.unread = token :: rest ∧ token.kind = .punctuator opening ∧
        s' = s.advance.push enclosure token.span) fault := by
    have hmeets := meets_openGroup (s := s) outer opening enclosure
    unfold Meets at hmeets ⊢
    split
    · rename_i hdone
      rwa [hdone] at hmeets
    · rename_i hfailed
      exact hopen _ hfailed
  refine hopened.bind fun first s₁ ⟨rest, hunread, hfirst, hs₁⟩ => ?_
  subst hs₁
  refine (hbody first rest hunread hfirst).bind fun value s₂ ⟨taken, hpasses, hinside, hfaults⟩ => ?_
  refine ((meets_closeGroup outer closing).mono (fun _ _ h => h) hfaults).bind
    fun last s₃ ⟨rest', hunread', hlast, hs₃⟩ => ?_
  subst hs₃
  refine hfinish first value taken last _ ⟨?_, ?_⟩ hfirst hinside hlast
  · have hafter := s.agrees_advance
    have hmore := hpasses.agrees.trans s₂.agrees_advance
    refine ⟨?_, hmore.depth.trans hafter.depth, hmore.errors.trans hafter.errors,
      hmore.source.trans hafter.source⟩
    -- closing the group takes off the stack what opening it put there
    rw [Reading.pop, hmore.opened]
    exact hafter.opened
  · have hinner : rest = taken ++ last :: rest' := by
      have hsplit := hpasses.unread
      rwa [hunread', Reading.unread_push, Reading.unread_advance hunread] at hsplit
    have hrest : s₂.advance.pop.unread = rest' := Reading.unread_advance hunread'
    rw [hunread, hinner, hrest]
    simp

end Group

/-! ### Rules that take tokens -/

/-- The rule takes tokens of a given shape, or it fails. -/
def Takes (rule : Rule α) (outer : Nat) (s : Reading) (shape : α → List Token → Prop) : Prop :=
  rule.Meets s (fun value s' => ∃ taken, s.Passes taken s' ∧ shape value taken) (s.Faults outer)

section Takes

variable {outer} {rule : Rule α} {shape shape' : α → List Token → Prop}

theorem Takes.congr {rule' : Rule α} (h : rule s = rule' s) (h' : rule'.Takes outer s shape) :
    rule.Takes outer s shape := Meets.congr h h'

theorem Takes.mono (h : rule.Takes outer s shape)
    (hshape : ∀ value taken, shape value taken → shape' value taken) : rule.Takes outer s shape' :=
  Meets.mono h (fun _ _ ⟨taken, hpasses, htaken⟩ => ⟨taken, hpasses, hshape _ _ htaken⟩)
    fun _ hfault => hfault

theorem takes_pure {value : α} (h : shape value []) : (pure value : Rule α).Takes outer s shape :=
  ⟨[], .refl s, h⟩

theorem takes_refuse {reason : Reading → Diagnostic} (hmild : (reason s).cause.isFatal = false) :
    (refuse reason).Takes outer s shape := meets_refuse outer hmild

theorem takes_refuseNext (expected : List String) : (refuseNext expected).Takes outer s shape :=
  meets_refuseNext outer expected

theorem takes_refuseUnclosed (h : s.Ended) (delimiter : Delimiter) :
    (refuseUnclosed delimiter).Takes outer s shape := meets_refuseUnclosed outer h delimiter

/-- The second rule takes the tokens behind those of the first one, which close what they open. -/
theorem Takes.bind {second : α → Rule β} {shape' : β → List Token → Prop} (h : rule.Takes outer s shape)
    (hbalanced : ∀ value taken, shape value taken → BracketCount.all.Balanced taken)
    (h' : ∀ value taken s', s.Passes taken s' → shape value taken →
      (second value).Takes outer s' fun value' more => shape' value' (taken ++ more)) :
    (rule >>= second).Takes outer s shape' := by
  refine Meets.bind h fun value s' ⟨taken, hpasses, htaken⟩ => ?_
  refine Meets.mono (h' value taken s' hpasses htaken) ?_ fun s'' =>
    .of_passes hpasses (hbalanced value taken htaken)
  rintro value' s'' ⟨more, hmore, hshape⟩
  exact ⟨taken ++ more, hpasses.trans hmore, hshape⟩

/-- A token that closes what it opens is taken, and then a rule is applied. -/
theorem Takes.of_advance {rule' : Rule α} {token : Token} {rest : List Token}
    (hunread : s.unread = token :: rest) (hbalanced : BracketCount.all.Balanced [token])
    (h : rule s = rule' s.advance)
    (h' : rule'.Takes outer s.advance fun value more => shape value (token :: more)) :
    rule.Takes outer s shape := by
  have hpasses := Reading.Passes.advance hunread
  refine (Meets.congr h h').mono ?_ fun s' => .of_passes hpasses hbalanced
  rintro value s' ⟨more, hmore, hshape⟩
  exact ⟨token :: more, hpasses.trans hmore, hshape⟩

theorem takes_expect (outer : Nat) (mark : Punctuator) :
    (expect mark).Takes outer s fun _ taken =>
      ∃ token, taken = [token] ∧ token.kind = .punctuator mark := by
  refine (meets_expect outer mark).mono ?_ fun _ hfault => hfault
  rintro token s' ⟨rest, hunread, hkind, rfl⟩
  exact ⟨[token], .advance hunread, token, rfl, hkind⟩

theorem takes_expectName (outer : Nat) :
    expectName.Takes outer s fun found taken =>
      ∃ token, taken = [token] ∧ token.kind.asName? = some found.1 := by
  refine (meets_expectName outer).mono ?_ fun _ hfault => hfault
  rintro found s' ⟨token, rest, hunread, hname, rfl⟩
  exact ⟨[token], .advance hunread, token, rfl, hname⟩

end Takes

/-! ### Rules outside values -/

/-- If the rule is done, it has taken tokens of a given shape. -/
def Yields (rule : Rule α) (s : Reading) (shape : α → List Token → Prop) : Prop :=
  rule.Meets s (fun value s' => ∃ taken, s.Passes taken s' ∧ shape value taken) fun _ => True

section Yields

variable {rule : Rule α} {shape shape' : α → List Token → Prop}

theorem Takes.yields (h : rule.Takes outer s shape) : rule.Yields s shape :=
  Meets.mono h (fun _ _ hdone => hdone) fun _ _ => trivial

theorem Yields.congr {rule' : Rule α} (h : rule s = rule' s) (h' : rule'.Yields s shape) :
    rule.Yields s shape := Meets.congr h h'

theorem Yields.mono (h : rule.Yields s shape)
    (hshape : ∀ value taken, shape value taken → shape' value taken) : rule.Yields s shape' :=
  Meets.mono h (fun _ _ ⟨taken, hpasses, htaken⟩ => ⟨taken, hpasses, hshape _ _ htaken⟩)
    fun _ _ => trivial

theorem yields_pure {value : α} (h : shape value []) : (pure value : Rule α).Yields s shape :=
  ⟨[], .refl s, h⟩

theorem yields_refuse (reason : Reading → Diagnostic) : (refuse reason).Yields s shape := trivial

theorem Yields.bind {second : α → Rule β} {shape' : β → List Token → Prop}
    (h : rule.Yields s shape) (h' : ∀ value taken s', s.Passes taken s' → shape value taken →
      (second value).Yields s' fun value' more => shape' value' (taken ++ more)) :
    (rule >>= second).Yields s shape' := by
  refine Meets.bind h fun value s' ⟨taken, hpasses, htaken⟩ => ?_
  refine Meets.mono (h' value taken s' hpasses htaken) ?_ fun _ _ => trivial
  rintro value' s'' ⟨more, hmore, hshape⟩
  exact ⟨taken ++ more, hpasses.trans hmore, hshape⟩

theorem Yields.of_advance {rule' : Rule α} {token : Token} {rest : List Token}
    (hunread : s.unread = token :: rest) (h : rule s = rule' s.advance)
    (h' : rule'.Yields s.advance fun value more => shape value (token :: more)) :
    rule.Yields s shape := by
  refine Meets.mono (Meets.congr h h') ?_ fun _ _ => trivial
  rintro value s' ⟨more, hmore, hshape⟩
  exact ⟨token :: more, (Reading.Passes.advance hunread).trans hmore, hshape⟩

end Yields

end Rule

end CompletionGateway
