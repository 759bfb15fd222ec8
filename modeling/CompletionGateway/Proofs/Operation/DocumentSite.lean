import CompletionGateway.Proofs.Operation.ValueSite

/-!
# Where errors in documents lie

The rules for operations leave the open groups as they are, and every error that they fail with lies
where an error lies.  So does the error that is reported for a document.
-/

namespace CompletionGateway

namespace Rule

variable {α : Type} {base : List Enclosure} {tokens : List Token} {size : Nat}
variable {opened : List OpenGroup}

/-! ### Groups that are passed -/

section Passed

variable (enclosure : Enclosure) (hpassed : enclosure.isPassed = true)
variable (hhold : ¬ Enclosure.HoldValues (OpenGroup.surroundings [] opened))

include hpassed hhold

/-- Passing a group ends behind its closing bracket, with the groups around it.  If there is none, the
mark of the end is passed as well. -/
theorem meets_skipGroup_fits (inner : Nat) (rest : List Token) {s : Reading} {before : List Token}
    {span : Span} (hbehind : s.Behind [] tokens before) (hunread : s.unread = rest)
    (haround : Enclosure.around [] before =
      List.replicate (inner + 1) enclosure ++ OpenGroup.surroundings [] opened)
    (hstack : s.opened = ⟨enclosure, span⟩ :: opened) (herrors : s.errors = []) :
    (skipGroup enclosure.delimiter.opening enclosure.delimiter.closing enclosure.delimiter inner
      rest).Meets s (fun _ s' => s'.Fits [] tokens opened) (·.Strands [] tokens opened) := by
  have hhead : s.opened.head? = some ⟨enclosure, span⟩ := by rw [hstack]; rfl
  have hstands := hbehind.stands _ (List.mem_of_head? hhead)
  induction rest generalizing inner s before with
  | nil =>
      have hsplit : tokens = before ++ [] := by rw [hbehind.unread, hunread]
      refine Reading.strands_recordUnclosed hhead herrors ?_
      rw [hbehind.lastEnd]
      exact .passed rfl hsplit hstands hpassed (.inl rfl)
  | cons token rest ih =>
      have hadvance := s.agrees_advance
      have hrest := Reading.unread_advance hunread
      have hend : s.advance.lastEnd = Token.lastStop (before ++ [token]) := by
        rw [Reading.advance_of_unread hunread, Token.lastStop_concat]
      by_cases hfinish : token.kind = .finish
      · rw [Meets, skipGroup.eq_def]
        simp only [update_bind, hfinish]
        have hhead' : s.advance.opened.head? = some ⟨enclosure, span⟩ := by
          rw [hadvance.opened, hhead]
        refine Reading.strands_recordUnclosed hhead' (hadvance.errors.trans herrors) ?_
        have hsplit : tokens = before ++ [token] ++ rest := by
          rw [hbehind.unread, hunread, List.append_assoc]
          rfl
        rw [hend]
        exact .passed rfl hsplit (hstands.append [token]) hpassed (.inr ⟨token, by simp, hfinish⟩)
      by_cases herror : token.kind.isError = true
      · obtain ⟨message, notes, hkind⟩ : ∃ message notes, token.kind = .error message notes := by
          cases hkind : token.kind <;> simp_all [TokenKind.isError]
        rw [Meets, skipGroup.eq_def]
        simp only [update_bind, hkind]
        have hsited : (Diagnostic.lexical message notes token.span).Sited [] tokens :=
          .lexical (hbehind.mem hunread) hkind
        have hrecorded : (s.advance.record (.lexical message notes token.span)).errors =
            [.lexical message notes token.span] := by simp [Reading.record, herrors]
        -- outside values a failure need not say where it leaves the reader
        exact ⟨by simp [hrecorded], by simpa [hrecorded] using hsited, fun h _ => absurd h hhold⟩
      rw [Bool.not_eq_true] at herror
      cases hstep : (BracketCount.pair enclosure.delimiter.opening
          enclosure.delimiter.closing).step inner token.kind with
      | none =>
          obtain ⟨rfl, hkind, hskip⟩ :=
            skipGroup_of_none enclosure.delimiter rest s herror hfinish hstep
          rw [Meets, hskip]
          have hplaced : s.Placed [] tokens (⟨enclosure, span⟩ :: opened) :=
            ⟨hstack, before, hbehind, haround⟩
          exact ⟨hplaced.pop hunread hkind, hadvance.errors.trans herrors⟩
      | some inner' =>
          refine .congr (skipGroup_of_step enclosure.delimiter rest s herror hstep) ?_
          refine ih inner' (hbehind.advance hunread hfinish) hrest ?_ (hadvance.opened.trans hstack)
            (hadvance.errors.trans herrors) (by rw [hadvance.opened, hhead]) (hstands.append [token])
          rw [Enclosure.around_concat, haround, Enclosure.behind_of_step hpassed hstep]

theorem keeps_passGroup
    (hcounts : Enclosure.counts (OpenGroup.surroundings [] opened) enclosure.delimiter.opening = true)
    (hopened : Enclosure.opened? (OpenGroup.surroundings [] opened) enclosure.delimiter.opening =
      some enclosure) :
    Keeps [] tokens size opened
      (passGroup enclosure.delimiter.opening enclosure.delimiter.closing enclosure) := by
  intro s hs _
  refine (meets_openGroup_fits hs hcounts hopened).bind ?_
  rintro first s' ⟨-, hs'⟩
  obtain ⟨before, hbehind, haround⟩ := hs'.placed.behind
  exact .congr rfl (meets_skipGroup_fits enclosure hpassed hhold 0 s'.unread hbehind rfl haround
    hs'.placed.stack hs'.errors)

end Passed

/-! ### Operations -/

theorem keeps_noDirective : Keeps base tokens size opened noDirective := by
  refine .nextIs_bind .at fun found => ?_
  cases found with
  | true => exact keeps_refuseConstruct .directives
  | false => exact keeps_pure ()

/-- A group that may be absent, and then another rule. -/
theorem keeps_optionalGroup {opening closing : Punctuator} {enclosure : Enclosure} {next : Rule α}
    (hgroup : ∀ size, Keeps base tokens size opened (passGroup opening closing enclosure))
    (hnext : ∀ size, Keeps base tokens size opened next) :
    Keeps base tokens size opened (do
      if ← nextIs opening then passGroup opening closing enclosure
      next : Rule α) := by
  refine .nextIs_bind opening fun found => ?_
  cases found with
  | true => exact (hgroup size).bind fun _ => hnext
  | false => exact hnext size

section Operation

variable {outer : List Enclosure}
variable (hsurroundings : OpenGroup.surroundings [] opened = .operationBody :: outer)

include hsurroundings

theorem keeps_field : Keeps [] tokens size opened field := by
  have hhold : ¬ Enclosure.HoldValues (OpenGroup.surroundings [] opened) := by
    rw [hsurroundings]
    rintro ⟨innermost, hhead, hvalues⟩
    obtain rfl := Option.some.inj hhead
    cases hvalues
  have harguments : ∀ size, Keeps [] tokens size opened
      (do if ← nextIs .openParen then argumentList else return [] : Rule Arguments) := by
    intro size
    refine .nextIs_bind .openParen fun parenthesized => ?_
    cases parenthesized with
    | true => exact keeps_argumentList (by rw [hsurroundings]; rfl) (by rw [hsurroundings]; rfl)
    | false => exact keeps_pure []
  have hselection : ∀ size, Keeps [] tokens size opened
      (passGroup .openBrace .closeBrace .selectionSet) := fun _ =>
    keeps_passGroup .selectionSet rfl hhold (by rw [hsurroundings]; rfl)
      (by rw [hsurroundings]; rfl)
  intro s hs _
  rw [field]
  refine (meets_expectName_fits hs).bind ?_
  rintro ⟨name, span⟩ s₁ ⟨hs₁, token, hmem, rfl⟩
  refine (?_ : Keeps [] tokens s₁.unread.length opened _) s₁ hs₁ (Nat.le_refl _)
  refine .nextIs_bind .colon fun aliased => ?_
  cases aliased with
  | true => exact keeps_refuse (.atToken hmem rfl (by simp))
  | false =>
      refine (harguments _).bind fun arguments size => ?_
      refine keeps_noDirective.bind fun _ size => ?_
      exact keeps_optionalGroup hselection fun _ => keeps_pure _

end Operation

theorem keeps_fields {span : Span} {left limit : Nat} (hlimit : left < limit) :
    Keeps [] tokens left (⟨.operationBody, span⟩ :: opened) (fields limit) := by
  induction limit generalizing left with
  | zero => omega
  | succ limit ih =>
      intro s hs hle
      rw [fields]
      refine .congr (ask_bind _ s) ?_
      cases hunread : s.unread with
      | nil =>
          rw [Reading.nextKind?_of_nil hunread]
          exact hs.recordUnclosed (by simp [Reading.Ended, hunread]) rfl
      | cons token rest =>
          rw [hunread, List.length_cons] at hle
          rw [Reading.nextKind?_of_unread hunread]
          split
          · exact hs
          · rename_i hnone
            cases hnone
          · rename_i hfinish
            have hkind : token.kind = .finish := Option.some.inj hfinish
            exact hs.recordUnclosed (by simp [Reading.Ended, hunread, hkind]) rfl
          · exact keeps_refuseConstruct .fragments s hs (Nat.le_refl _)
          · have hrule : Keeps [] tokens (rest.length + 1) (⟨.operationBody, span⟩ :: opened) (do
                let first ← field
                let more ← fields limit
                return first :: more : Rule (List Field)) :=
              (keeps_field rfl).bind_of_consumes consumes_field fun first =>
                (ih (by omega)).bind fun more _ => keeps_pure (first :: more)
            exact hrule s hs (by rw [hunread, List.length_cons])

theorem keeps_operationBody : Keeps [] tokens size [] operationBody := by
  refine keeps_group .operationBody rfl rfl ?_ (fun s => consumes_fields _ s)
    (fun span => keeps_atSize fun _ _ _ hlimit => keeps_fields hlimit) ?_
  · rintro ⟨innermost, hhead, -⟩
    cases hhead
  · intro before first found inside last behind hsplit
    split
    · exact keeps_refuse (.emptySelection hsplit)
    · exact keeps_pure found

theorem keeps_operationName : Keeps base tokens size opened
    (do
      if (← ask (·.nextKind?)).bind (·.asName?) |>.isSome then return some (← expectName).1
      else return none : Rule (Option String)) := by
  refine .ask_bind fun kind => ?_
  split
  · exact keeps_expectName.bind fun found _ => keeps_pure (some found.1)
  · exact keeps_pure none

theorem keeps_operationHead : Keeps [] tokens size [] operationHead := by
  have hhold : ¬ Enclosure.HoldValues (OpenGroup.surroundings [] []) := by
    rintro ⟨innermost, hhead, -⟩
    cases hhead
  intro s hs hle
  rw [operationHead]
  refine .congr (ask_bind _ s) ?_
  split
  · rename_i word hnext
    split
    · obtain ⟨keyword, rest, hunread, hkind⟩ : ∃ keyword rest, s.unread = keyword :: rest ∧
          keyword.kind = .name word := by
        cases hunread : s.unread with
        | nil => simp [Reading.nextKind?_of_nil hunread] at hnext
        | cons keyword rest =>
            rw [Reading.nextKind?_of_unread hunread] at hnext
            exact ⟨keyword, rest, rfl, Option.some.inj hnext⟩
      refine .congr (update_bind _ _ s) ?_
      refine (?_ : Keeps [] tokens s.advance.unread.length [] _) s.advance
        (hs.advance hunread (by rw [hkind]; rfl)) (Nat.le_refl _)
      refine keeps_operationName.bind fun name size => ?_
      refine keeps_optionalGroup (fun _ => keeps_passGroup .variableDefinitions rfl hhold
        rfl rfl) fun _ => ?_
      exact keeps_noDirective.bind fun _ _ => keeps_pure _
    · split
      · exact keeps_refuseConstruct .fragments s hs hle
      · exact keeps_refuseNext _ s hs hle
  · exact hs

theorem keeps_operation : Keeps [] tokens size [] operation := by
  refine keeps_operationHead.bind fun head _ => ?_
  refine keeps_operationBody.bind fun found _ => ?_
  intro s hs _
  obtain ⟨before, hbehind, haround⟩ := hs.placed.behind
  exact ⟨⟨hs.placed.stack, before,
    ⟨hbehind.unread, hbehind.sound, hbehind.lastEnd, hbehind.stands⟩, haround⟩, hs.errors⟩

/-! ### Whole documents -/

theorem keeps_endOfDocument : Keeps base tokens size opened endOfDocument := by
  intro s hs _
  cases hunread : s.unread with
  | nil =>
      rw [Meets, endOfDocument, Reading.next?_of_nil hunread]
      exact hs
  | cons token rest =>
      obtain ⟨before, hbehind, -⟩ := hs.placed.behind
      have hmem := hbehind.mem hunread
      simp only [Meets, endOfDocument, Reading.next?_of_unread hunread]
      cases hkind : token.kind with
      | finish => exact hs
      | error message notes => exact hs.record (.lexical hmem hkind)
      | _ => exact hs.record (.atToken hmem rfl (by simp [Note.advise]))

/-- The error that is reported for a document lies where an error lies. -/
theorem Keeps.sited_of_run {rule : Rule α} (h : ∀ size, Keeps base tokens size [] rule)
    {source : Option (List Char)} {error : Diagnostic}
    (hrun : ((whole rule).run (.start source tokens)).1 = .error error) :
    error.Sited base tokens := by
  have hwhole : Keeps base tokens tokens.length [] (whole rule) :=
    (h _).bind fun value _ => keeps_endOfDocument.bind fun _ _ => keeps_pure value
  have hmeets := hwhole (.start source tokens) (.start source) (Nat.le_refl _)
  rcases recorded_of_run_eq_error hrun with
    ⟨value, s, hdone, hmem⟩ | ⟨s, hfailed, hmem | ⟨hnone, -⟩⟩
  · rw [(hmeets.of_done hdone).errors] at hmem
    cases hmem
  · exact (hmeets.of_failed hfailed).sited error hmem
  · exact absurd hnone (hmeets.of_failed hfailed).recorded

end Rule

/-- Every error of a document lies where an error lies. -/
theorem Operation.sited_of_parse {text : List Char} {error : Diagnostic}
    (h : parse text = .error error) : error.Sited [] (Token.list text) :=
  Rule.Keeps.sited_of_run (fun _ => Rule.keeps_operation) h

/-- Every error of an argument fragment lies where an error inside arguments lies. -/
theorem Arguments.sited_of_parse {text : List Char} {error : Diagnostic}
    (h : parse text = .error error) : error.Sited [.fieldArguments] (Token.list text) :=
  Rule.Keeps.sited_of_run (fun _ => Rule.keeps_argumentFragment rfl) h

end CompletionGateway
