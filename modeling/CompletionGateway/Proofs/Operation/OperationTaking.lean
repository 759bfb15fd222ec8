import CompletionGateway.Proofs.Operation.ValueTaking

/-!
# What operations take

Whatever the tokens of a document are, if the rule for operations is done, it has taken the tokens of
the operation that it yields, as the grammar has them; and so for arguments.
-/

namespace CompletionGateway

namespace Rule

variable {s : Reading}

/-! ### Skipped groups -/

/-- From the first state to the second one the rest of a group has been passed in which `inner` groups
were open, and no token in it is faulty. -/
def GroupPassed (opening closing : Punctuator) (inner : Nat) (s s' : Reading) : Prop :=
  s.pop.Agrees s' ∧ ∃ inside last, s.unread = inside ++ last :: s'.unread ∧
    last.kind = .punctuator closing ∧
      (BracketCount.pair opening closing).after inner (inside.map (·.kind)) = some 0 ∧
        ∀ token ∈ inside, token.kind.isError = false

section Skipped

variable {opening closing : Punctuator} {inner inner' : Nat} {s' : Reading} {token : Token}
variable {rest : List Token} (hunread : s.unread = token :: rest) (herror : token.kind.isError = false)

include hunread in
theorem GroupPassed.closed (hkind : token.kind = .punctuator closing) :
    GroupPassed opening closing 0 s s.advance.pop := by
  refine ⟨s.agrees_pop_advance, [], token, ?_, hkind, rfl, by simp⟩
  rw [hunread, List.nil_append]
  exact congrArg (token :: ·) (Reading.unread_advance hunread).symm

include hunread herror in
theorem GroupPassed.cons
    (hstep : (BracketCount.pair opening closing).step inner token.kind = some inner')
    (h : GroupPassed opening closing inner' s.advance s') :
    GroupPassed opening closing inner s s' := by
  obtain ⟨hagrees, inside, last, hsplit, hlast, hcount, hclean⟩ := h
  refine ⟨s.agrees_pop_advance.trans hagrees, token :: inside, last, ?_, hlast, ?_, ?_⟩
  · rw [hunread, ← Reading.unread_advance hunread, hsplit, List.cons_append]
  · rw [List.map_cons, BracketCount.after_cons, hstep]
    exact hcount
  · simpa using ⟨herror, hclean⟩

end Skipped

/-- Passing a group ends at its closing bracket, behind tokens none of which is faulty. -/
theorem meets_skipGroup {opening closing : Punctuator} (delimiter : Delimiter) (inner : Nat)
    (tokens : List Token) {s : Reading} (hunread : s.unread = tokens) :
    (skipGroup opening closing delimiter inner tokens).Meets s
      (fun _ => GroupPassed opening closing inner s) fun _ => True := by
  induction tokens generalizing inner s with
  | nil => exact trivial
  | cons token rest ih =>
      by_cases hstops : token.kind.isError = true ∨ token.kind = .finish
      · -- the rule fails at a faulty token and at the end
        rw [Meets, skipGroup.eq_def]
        simp only [update_bind]
        cases hkind : token.kind with
        | error message notes | finish => exact trivial
        | _ => simp [hkind, TokenKind.isError] at hstops
      obtain ⟨herror, hfinish⟩ := not_or.1 hstops
      rw [Bool.not_eq_true] at herror
      cases hstep : (BracketCount.pair opening closing).step inner token.kind with
      | none =>
          obtain ⟨rfl, hkind, hskip⟩ := skipGroup_of_none delimiter rest s herror hfinish hstep
          rw [Meets, hskip]
          exact .closed hunread hkind
      | some inner' =>
          have hskip := skipGroup_of_step delimiter rest s herror hstep
          exact (Meets.congr hskip (ih inner' (Reading.unread_advance hunread))).mono
            (fun _ _ => .cons hunread herror hstep) fun _ _ => trivial

theorem yields_passGroup (opening closing : Punctuator) (enclosure : Enclosure) :
    (passGroup opening closing enclosure).Yields s fun _ => Token.IsGroup opening closing := by
  refine Meets.bind ((meets_openGroup s.depth opening enclosure).mono (fun _ _ h => h)
    fun _ _ => trivial) ?_
  rintro first s' ⟨rest, hunread, hfirst, rfl⟩
  refine (Meets.congr rfl (meets_skipGroup enclosure.delimiter 0 _ rfl)).mono ?_ fun _ _ => trivial
  rintro _ s'' ⟨hagrees, inside, last, hsplit, hlast, hcount, hclean⟩
  rw [Reading.unread_push, Reading.unread_advance hunread] at hsplit
  refine ⟨first :: (inside ++ [last]), ⟨?_, ?_⟩, first, inside, last, rfl, hfirst, hlast, hcount,
    hclean⟩
  · exact s.agrees_advance.trans hagrees
  · rw [hunread, hsplit]
    simp

/-! ### Arguments and fields -/

theorem yields_argumentList :
    argumentList.Yields s fun found => Token.AreArguments s.source found := by
  refine meets_group s.depth (fun found taken => ∃ pairs, found = Dict.ofList pairs ∧
    Token.AreEntries s.source TokenKind.asName? pairs taken) (fun _ _ => trivial) ?_ ?_
  · intro first rest _ _
    have hbalanced : ∀ token : Token, token.kind.asName?.isSome = true →
        BracketCount.all.Balanced [token] :=
      fun _ hname => Token.balanced_of_isPlain (Token.isPlain_of_asName? hname)
    have hentries := takes_entries takes_argumentName hbalanced takes_value .closeParen .paren
      ((s.advance.push .fieldArguments first.span).unread.length + 1) []
      (Nat.lt_succ_self (s.advance.push .fieldArguments first.span).unread.length)
    refine (Meets.congr rfl hentries).mono ?_ fun _ _ => trivial
    rintro found s' ⟨taken, hpasses, pairs, rfl, hpairs⟩
    have hsame : (s.advance.push .fieldArguments first.span).source = s.source :=
      s.agrees_advance.source
    rw [hsame] at hpairs
    exact ⟨taken, hpasses, ⟨pairs, rfl, hpairs⟩, fun _ _ => trivial⟩
  · rintro first found taken last s' hpasses hfirst ⟨pairs, rfl, hpairs⟩ hlast
    exact ⟨_, hpasses, first, pairs, taken, last, rfl, hfirst, hlast, hpairs, rfl⟩

/-- Arguments without parentheses. -/
theorem yields_looseArguments (limit : Nat) (before : Arguments) (s : Reading) :
    (looseArguments limit before).Yields s fun found taken => ∃ pairs,
      found = Dict.insertAll before pairs ∧
        Token.AreEntries s.source TokenKind.asName? pairs taken := by
  induction limit generalizing before s with
  | zero => exact yields_pure ⟨[], rfl, rfl⟩
  | succ limit ih =>
      rw [looseArguments]
      refine .congr (atEnd_bind _ s) ?_
      split
      · exact yields_pure ⟨[], rfl, rfl⟩
      refine (takes_argumentName s.depth s).yields.bind ?_
      rintro name taken s₁ hpasses₁ ⟨first, rfl, hfirst⟩
      refine (takes_expect s.depth .colon).yields.bind ?_
      rintro found taken s₂ hpasses₂ ⟨colon, rfl, hcolon⟩
      refine (takes_value s₂).yields.bind ?_
      intro value' taken s₃ hpasses₃ hvalue'
      refine (ih (Dict.insert before name value') s₃).mono ?_
      rintro result more ⟨pairs, rfl, hmore⟩
      -- all parts are judged by the same document
      have hsource₂ := hpasses₂.agrees.source.trans hpasses₁.agrees.source
      have hsource₃ := hpasses₃.agrees.source.trans hsource₂
      rw [hsource₂] at hvalue'
      rw [hsource₃] at hmore
      refine ⟨(name, value') :: pairs, rfl, first, colon, taken, more, hfirst, hcolon, hvalue', hmore,
        ?_⟩
      simp

theorem yields_argumentFragment :
    argumentFragment.Yields s fun found => Token.IsFragment s.source found := by
  cases hparen : s.nextKind? == some (.punctuator .openParen) with
  | true =>
      have hrule : argumentFragment s = argumentList s := by
        rw [argumentFragment, nextIs_bind, hparen]
        rfl
      exact .congr hrule (yields_argumentList.mono fun _ _ => .inl)
  | false =>
      have hrule : argumentFragment s = looseArguments (s.unread.length + 1) [] s := by
        rw [argumentFragment, nextIs_bind, hparen]
        rfl
      refine .congr hrule ((yields_looseArguments (s.unread.length + 1) [] s).mono ?_)
      rintro found taken ⟨pairs, rfl, hpairs⟩
      exact .inr ⟨pairs, hpairs, rfl⟩

theorem yields_noDirective : noDirective.Yields s fun _ taken => taken = [] := by
  rw [noDirective]
  refine .congr (nextIs_bind .at _ s) ?_
  split
  · exact yields_refuse _
  · exact yields_pure rfl

/-- A group that may be absent, and then another rule. -/
theorem yields_optionalGroup {α : Type} {opening closing : Punctuator} {enclosure : Enclosure}
    {next : Rule α} {shape : α → List Token → Prop}
    (h : ∀ taken s', s.Passes taken s' → taken = [] ∨ Token.IsGroup opening closing taken →
      next.Yields s' fun value more => shape value (taken ++ more)) :
    (do
      if ← nextIs opening then passGroup opening closing enclosure
      next : Rule α).Yields s shape := by
  refine .congr (nextIs_bind opening _ s) ?_
  split
  · exact (yields_passGroup opening closing enclosure).bind fun _ taken s' hpasses hgroup =>
      h taken s' hpasses (.inr hgroup)
  · exact h [] s (.refl s) (.inl rfl)

theorem yields_field : field.Yields s fun found => Token.IsField s.source found := by
  rw [field]
  refine (takes_expectName s.depth).yields.bind ?_
  rintro ⟨name, span⟩ taken s₁ hpasses₁ ⟨first, rfl, hname⟩
  refine .congr (nextIs_bind .colon _ s₁) ?_
  split
  · exact yields_refuse _
  have harguments : (do if ← nextIs .openParen then argumentList else return [] :
      Rule Arguments).Yields s₁ fun found taken =>
        taken = [] ∧ found = [] ∨ Token.AreArguments s₁.source found taken := by
    refine .congr (nextIs_bind .openParen _ s₁) ?_
    split
    · exact yields_argumentList.mono fun _ _ => .inr
    · exact yields_pure (.inl ⟨rfl, rfl⟩)
  refine harguments.bind fun arguments taken s₂ hpasses₂ htaken => ?_
  refine yields_noDirective.bind ?_
  rintro _ _ s₃ hpasses₃ rfl
  rw [hpasses₁.agrees.source] at htaken
  refine yields_optionalGroup fun group s₄ hpasses₄ hgroup => ?_
  refine yields_pure ⟨first, taken, group, hname, htaken, hgroup, ?_⟩
  simp

theorem yields_fields (limit : Nat) (s : Reading) :
    (fields limit).Yields s fun found => Token.AreFields s.source found := by
  induction limit generalizing s with
  | zero => exact trivial
  | succ limit ih =>
      rw [fields]
      refine .congr (ask_bind _ s) ?_
      split
      · exact yields_pure rfl
      · exact trivial
      · exact trivial
      · exact yields_refuse _
      · refine yields_field.bind fun first taken s₁ hpasses₁ hfirst => ?_
        refine (ih s₁).bind fun more taken' s₂ hpasses₂ hmore => ?_
        rw [hpasses₁.agrees.source] at hmore
        exact yields_pure ⟨taken, taken', hfirst, hmore, by simp⟩

/-! ### Operations -/

theorem yields_operationBody :
    operationBody.Yields s fun found taken => ∃ first inside last,
      taken = first :: (inside ++ [last]) ∧ first.kind = .punctuator .openBrace ∧
        Token.AreFields s.source found inside ∧ last.kind = .punctuator .closeBrace ∧
          found ≠ [] := by
  refine meets_group s.depth (Token.AreFields s.source) (fun _ _ => trivial) ?_ ?_
  · intro first rest _ _
    refine Meets.mono (.congr rfl (yields_fields
      ((s.advance.push .operationBody first.span).unread.length + 1)
      (s.advance.push .operationBody first.span))) ?_ fun _ _ => trivial
    rintro found s' ⟨taken, hpasses, hfields⟩
    have hsame : (s.advance.push .operationBody first.span).source = s.source :=
      s.agrees_advance.source
    rw [hsame] at hfields
    exact ⟨taken, hpasses, hfields, fun _ _ => trivial⟩
  · intro first found taken last s' hpasses hfirst hfields hlast
    split
    · exact trivial
    · rename_i hne
      exact ⟨_, hpasses, first, taken, last, rfl, hfirst, hfields, hlast, by simpa using hne⟩

/-- A name that may be absent. -/
theorem yields_operationName :
    (do
      if (← ask (·.nextKind?)).bind (·.asName?) |>.isSome then return some (← expectName).1
      else return none : Rule (Option String)).Yields s fun name taken =>
        taken.map (·.kind.asName?) = name.toList.map some := by
  refine .congr (ask_bind _ s) ?_
  split
  · refine (takes_expectName s.depth).yields.bind ?_
    rintro found taken s₁ - ⟨token, rfl, hname⟩
    exact yields_pure (by simp [hname])
  · exact yields_pure rfl

theorem yields_operationHead :
    operationHead.Yields s fun found => Token.IsHead found.1 found.2 := by
  rw [operationHead]
  refine .congr (ask_bind _ s) ?_
  split
  · rename_i word hnext
    split
    · rename_i type hkeyword
      obtain ⟨keyword, rest, hunread, hkind⟩ : ∃ keyword rest, s.unread = keyword :: rest ∧
          keyword.kind = .name word := by
        rw [Reading.nextKind?, Reading.next?, Option.map_eq_some_iff] at hnext
        obtain ⟨keyword, hhead, hkind⟩ := hnext
        obtain ⟨rest, hunread⟩ := List.head?_eq_some_iff.1 hhead
        exact ⟨keyword, rest, hunread, hkind⟩
      refine .of_advance hunread (update_bind _ _ s) ?_
      refine yields_operationName.bind fun name names s₁ _ hnames => ?_
      refine yields_optionalGroup fun group s₂ _ hgroup => ?_
      refine yields_noDirective.bind ?_
      rintro _ _ s₃ - rfl
      refine yields_pure (.inr ⟨keyword, word, names, group, hkind, hkeyword, hnames, hgroup, ?_⟩)
      simp
    · split
      · exact yields_refuse _
      · exact yields_refuse _
  · exact yields_pure (.inl ⟨rfl, rfl, rfl⟩)

theorem yields_operation :
    operation.Yields s fun found => Token.IsOperation s.source found := by
  rw [operation]
  refine yields_operationHead.bind ?_
  rintro ⟨type, name⟩ head s₁ hpasses₁ hhead
  refine yields_operationBody.bind ?_
  rintro found body s₂ hpasses₂ ⟨first, inside, last, rfl, hfirst, hfields, hlast, hne⟩
  rw [hpasses₁.agrees.source] at hfields
  refine ⟨[], ⟨⟨rfl, rfl, rfl, rfl⟩, rfl⟩, head, first, inside, last, hhead, hfirst, hfields, hlast, hne,
    by simp⟩

end Rule

end CompletionGateway
