import CompletionGateway.Proofs.Operation.ArgumentReading
import CompletionGateway.Proofs.Operation.Rendering

/-!
# Parsing undoes rendering

The words of a form, laid out with trivia between them, parse as what the form means, as long as
its values fit under the limit of depth.  What stands in a skipped group does not matter: only the
group's own brackets are counted.
-/

namespace CompletionGateway

namespace Rule

/-! ### Skipped groups -/

/-- Passing a balanced group stops behind its closing bracket. -/
theorem skipGroup_of_balanced {opening closing : Punctuator} (hne : opening ≠ closing)
    (delimiter : Delimiter) (inner : Nat) {s : Reading} {inside rest : List Token} {last : Token}
    (hbalanced : (BracketCount.pair opening closing).after inner (inside.map (·.kind)) = some 0)
    (hinside : ∀ token ∈ inside, token.kind.isError = false)
    (hlast : last.kind = .punctuator closing) (hunread : s.unread = inside ++ last :: rest) :
    ∃ s', skipGroup opening closing delimiter inner (inside ++ last :: rest) s = .done () s' ∧
      s'.unread = rest ∧ s.pop.Agrees s' := by
  induction inside generalizing inner s with
  | nil =>
      obtain rfl : inner = 0 := Option.some.inj hbalanced
      have hstep : (BracketCount.pair opening closing).step 0 last.kind = none := by
        simp [BracketCount.step, BracketCount.pair, hlast, Ne.symm hne]
      have hskip := (skipGroup_of_none delimiter rest s (by rw [hlast]; rfl) (by simp [hlast])
        hstep).2.2
      exact ⟨s.advance.pop, hskip, Reading.unread_advance hunread, s.agrees_pop_advance⟩
  | cons token inside ih =>
      obtain ⟨inner', hstep, hbalanced'⟩ := Option.bind_eq_some_iff.1 hbalanced
      have hskip := skipGroup_of_step delimiter (inside ++ last :: rest) s (hinside token (by simp))
        hstep
      obtain ⟨s', hmore, hrest, hagrees⟩ := ih inner' hbalanced'
        (fun next hnext => hinside next (by simp [hnext])) (Reading.unread_advance hunread)
      exact ⟨s', hskip.trans hmore, hrest, s.agrees_pop_advance.trans hagrees⟩

section Groups

variable {opening closing : Punctuator} (hne : opening ≠ closing) (enclosure : Enclosure)

include hne in
/-- A group is passed, whatever stands in it. -/
theorem passGroup_reads {inside : List Word} (hinside : Word.IsInside opening closing inside)
    {s : Reading} {tokens rest : List Token}
    (hmake : Word.Make (Word.group opening closing inside) tokens)
    (hunread : s.unread = tokens ++ rest) : (passGroup opening closing enclosure).Reads s () rest := by
  obtain ⟨first, tokens, rfl, hfirst, hmake⟩ := hmake.cons
  obtain ⟨middle, last, rfl, hmiddle, hlast⟩ := hmake.concat
  have hassoc : s.unread = first :: (middle ++ last :: rest) := by simp [hunread]
  have hagrees := s.agrees_advance
  have hbalanced : (BracketCount.pair opening closing).after 0 (middle.map (·.kind)) = some 0 := by
    rw [hmiddle]
    exact hinside.balanced
  have hclean : ∀ token ∈ middle, token.kind.isError = false := by
    intro token htoken
    have hmem : token.kind ∈ inside.map (·.kind) := hmiddle ▸ List.mem_map_of_mem htoken
    obtain ⟨word, hword, hkind⟩ := List.mem_map.1 hmem
    rw [← hkind]
    exact (hinside.valid word hword).kind_ne.1
  obtain ⟨s', hskip, hrest, hagrees'⟩ := skipGroup_of_balanced hne enclosure.delimiter 0 hbalanced
    hclean hlast (show (s.advance.push enclosure first.span).unread = _ from
      Reading.unread_advance hassoc)
  refine ⟨s', (bind_of_done (openGroup_of_unread hassoc hfirst)).trans ?_, hrest,
    hagrees.trans hagrees'⟩
  change skipGroup _ _ _ _ s.advance.unread _ = _
  rw [Reading.unread_advance hassoc, hskip]

include hne in
/-- A group is passed if it is there. -/
theorem optionalGroup_reads {α : Type} {inside : Option (List Word)}
    (hinside : ∀ words ∈ inside, Word.IsInside opening closing words) {s : Reading}
    {tokens rest rest' : List Token}
    (hmake : Word.Make (Word.optionalGroup opening closing inside) tokens)
    (hunread : s.unread = tokens ++ rest) {marks : List Punctuator}
    (hnext : StartsOnlyWith marks rest) (hmark : opening ∉ marks) {next : Rule α} {value : α}
    (hafter : ∀ s', s'.unread = rest → s.Agrees s' → next.Reads s' value rest') :
    (do
      if ← nextIs opening then passGroup opening closing enclosure
      next : Rule α).Reads s value rest' := by
  cases inside with
  | none =>
      obtain rfl := hmake.nil
      rw [List.nil_append] at hunread
      exact .congr (nextIs_bind_of_startsOnlyWith _ (hunread ▸ hnext) hmark)
        (hafter s hunread (.refl s))
  | some words =>
      obtain ⟨first, more, hfirst, hkind, -⟩ := hmake.cons
      have hhead : s.unread = first :: (more ++ rest) := by rw [hunread, hfirst]; rfl
      refine .congr (nextIs_bind_of_eq _ hhead hkind) ?_
      exact (passGroup_reads hne enclosure (hinside words rfl) hmake hunread).bind hafter

end Groups

/-! ### Fields -/

/-- An optional group begins with its bracket, unless it is absent. -/
theorem startsOnlyWith_optionalGroup {opening closing : Punctuator} {inside : Option (List Word)}
    {tokens rest : List Token} {marks : List Punctuator}
    (hmake : Word.Make (Word.optionalGroup opening closing inside) tokens)
    (h : StartsOnlyWith marks rest) : StartsOnlyWith (opening :: marks) (tokens ++ rest) := by
  intro token htoken mark hmark
  cases inside with
  | none =>
      obtain rfl := hmake.nil
      exact List.mem_cons_of_mem _ (h token htoken mark hmark)
  | some words =>
      obtain ⟨first, more, rfl, hkind, -⟩ := hmake.cons
      obtain rfl : first = token := by simpa using htoken
      obtain rfl : mark = opening := TokenKind.punctuator.inj (hmark.symm.trans hkind)
      exact List.mem_cons_self

theorem startsOnlyWith_arguments {arguments : Option (List (String × ArgValue))}
    {words : List Word} {tokens rest : List Token} {marks : List Punctuator}
    (hwords : FieldForm.SpelledArguments arguments words) (hmake : Word.Make words tokens)
    (h : StartsOnlyWith marks rest) : StartsOnlyWith (.openParen :: marks) (tokens ++ rest) := by
  have hgroup : ∃ inside, words = Word.optionalGroup .openParen .closeParen inside := by
    cases arguments with
    | none => exact ⟨none, hwords⟩
    | some pairs =>
        obtain ⟨inside, -, hwords⟩ := hwords
        exact ⟨some inside, hwords⟩
  obtain ⟨inside, rfl⟩ := hgroup
  exact startsOnlyWith_optionalGroup hmake h

/-- The arguments of a field, if there is a list of them. -/
theorem arguments_reads {arguments : Option (List (String × ArgValue))} {words : List Word}
    (h : FieldForm.SpelledArguments arguments words)
    (hfits : ∀ pair ∈ arguments.getD [], pair.2.depth ≤ deepestValue) {s : Reading}
    {tokens rest : List Token} (hmake : Word.Make words tokens) (hunread : s.unread = tokens ++ rest)
    (hapart : Token.Apart s.unread) (hdepth : s.depth = 0) {marks : List Punctuator}
    (hnext : StartsOnlyWith marks rest) (hmark : .openParen ∉ marks) :
    (do if ← nextIs .openParen then argumentList else return [] : Rule Arguments).Reads s
      (Dict.ofList (arguments.getD [])) rest := by
  cases arguments with
  | none =>
      obtain rfl : words = [] := h
      obtain rfl := hmake.nil
      rw [List.nil_append] at hunread
      exact .congr (nextIs_bind_of_startsOnlyWith _ (hunread ▸ hnext) hmark)
        ⟨s, rfl, hunread, .refl s⟩
  | some pairs =>
      obtain ⟨inside, hinside, rfl⟩ := h
      obtain ⟨first, tokens, rfl, hfirst, hmake⟩ := hmake.cons
      obtain ⟨middle, last, rfl, hmiddle, hlast⟩ := hmake.concat
      have hassoc : s.unread = first :: (middle ++ last :: rest) := by simp [hunread]
      have hready : s.Ready (s.unread.length + 1) := ⟨hapart, Nat.lt_succ_self _, by omega⟩
      have hdeep : ArgValue.entriesDepth pairs ≤ deepestValue :=
        ArgValue.entriesDepth_le_iff.2 hfits
      refine .congr (nextIs_bind_of_eq _ hassoc hfirst) ?_
      exact (argumentList_answers hinside hmiddle hassoc hfirst hlast hready).1 (by omega)

theorem noDirective_reads {s : Reading} {marks : List Punctuator}
    (h : StartsOnlyWith marks s.unread) (hmark : .at ∉ marks) : noDirective.Reads s () s.unread :=
  ⟨s, nextIs_bind_of_startsOnlyWith _ h hmark, rfl, .refl s⟩

/-- A field.  What follows it is the name of the next one or the end of the fields. -/
theorem field_reads {form : FieldForm} {words : List Word} (h : form.Spelled words)
    (hfits : ∀ pair ∈ form.pairs, pair.2.depth ≤ deepestValue) {s : Reading}
    {tokens rest : List Token} (hmake : Word.Make words tokens) (hunread : s.unread = tokens ++ rest)
    (hapart : Token.Apart s.unread) (hdepth : s.depth = 0)
    (hnext : StartsOnlyWith [.closeBrace] rest) : field.Reads s form.field rest := by
  obtain ⟨-, hselection, arguments, harguments, rfl⟩ := h
  obtain ⟨nameToken, tokens, rfl, hname, hmake⟩ := hmake.cons
  obtain ⟨argumentTokens, selectionTokens, rfl, hargumentMake, hselectionMake⟩ := hmake.append
  rw [List.cons_append, List.append_assoc] at hunread
  have hasName : nameToken.kind.asName? = some form.name := by rw [hname, Word.asName?_name]
  have hselectionHead : StartsOnlyWith [.openBrace, .closeBrace] (selectionTokens ++ rest) :=
    startsOnlyWith_optionalGroup hselectionMake hnext
  have hargumentHead := startsOnlyWith_arguments harguments hargumentMake hselectionHead
  -- the name, no alias, the arguments, no directive, and then the selection set
  refine (reads_advance hunread (expectName_of_unread hunread hasName)).bind
    fun s₁ hunread₁ hagrees₁ => ?_
  have hapart₁ : Token.Apart s₁.unread := by
    rw [hunread] at hapart
    rw [hunread₁]
    exact hapart.tail
  refine .congr (nextIs_bind_of_startsOnlyWith _ (hunread₁ ▸ hargumentHead) (by decide)) ?_
  refine (arguments_reads harguments hfits hargumentMake hunread₁ hapart₁
    (hagrees₁.depth.trans hdepth) hselectionHead (by decide)).bind fun s₂ hunread₂ hagrees₂ => ?_
  refine (noDirective_reads (hunread₂ ▸ hselectionHead) (by decide)).bind
    fun s₃ hunread₃ hagrees₃ => ?_
  exact optionalGroup_reads (by decide) .selectionSet hselection hselectionMake
    (hunread₃.trans hunread₂) hnext (by decide) fun s₄ hunread₄ _ => ⟨s₄, rfl, hunread₄, .refl s₄⟩

/-- A field begins with its name. -/
theorem exists_name_of_spelled {form : FieldForm} {words : List Word} {tokens : List Token}
    (h : form.Spelled words) (hmake : Word.Make words tokens) :
    ∃ token more, tokens = token :: more ∧ token.kind.asName? = some form.name := by
  obtain ⟨-, -, arguments, -, rfl⟩ := h
  obtain ⟨token, more, rfl, hkind, -⟩ := hmake.cons
  exact ⟨token, more, rfl, by rw [hkind, Word.asName?_name]⟩

theorem startsOnlyWith_fields {forms : List FieldForm} {words : List Word} {tokens : List Token}
    {last : Token} (rest : List Token) (h : FieldForm.SpelledAll forms words)
    (hmake : Word.Make words tokens) (hlast : last.kind = .punctuator .closeBrace) :
    StartsOnlyWith [.closeBrace] (tokens ++ last :: rest) := by
  intro token htoken mark hmark
  cases forms with
  | nil =>
      obtain rfl : words = [] := h
      obtain rfl := hmake.nil
      obtain rfl : last = token := by simpa using htoken
      simpa using hmark.symm.trans hlast
  | cons form forms =>
      obtain ⟨first, more, hfirst, -, rfl⟩ := h
      obtain ⟨firstTokens, moreTokens, rfl, hfirstMake, -⟩ := hmake.append
      obtain ⟨name, others, rfl, hname⟩ := exists_name_of_spelled hfirst hfirstMake
      obtain rfl : name = token := by simpa using htoken
      exact absurd hmark ((kind_ne_of_asName? hname).1 mark)

/-- Where a name comes next, there is a field. -/
theorem fields_of_asName? {s : Reading} {kind : TokenKind} {name : String} (limit : Nat)
    (hnext : s.nextKind? = some kind) (hname : kind.asName? = some name) :
    fields (limit + 1) s =
      (do
        let first ← field
        let more ← fields limit
        return first :: more : Rule (List Field)) s := by
  rw [fields, ask_bind, hnext]
  cases kind <;> first | rfl | cases hname

/-- The fields of an operation up to its closing brace. -/
theorem fields_reads {forms : List FieldForm} {words : List Word}
    (h : FieldForm.SpelledAll forms words)
    (hfits : ∀ form ∈ forms, ∀ pair ∈ form.pairs, pair.2.depth ≤ deepestValue) (limit : Nat)
    {s : Reading} {tokens rest : List Token} {last : Token} (hmake : Word.Make words tokens)
    (hunread : s.unread = tokens ++ last :: rest) (hlast : last.kind = .punctuator .closeBrace)
    (hapart : Token.Apart s.unread) (hdepth : s.depth = 0) (hlimit : s.unread.length ≤ limit) :
    (fields limit).Reads s (forms.map (·.field)) (last :: rest) := by
  induction forms generalizing words limit s tokens with
  | nil =>
      obtain rfl : words = [] := h
      obtain rfl := hmake.nil
      cases limit with
      | zero => simp [hunread] at hlimit
      | succ limit =>
          refine ⟨s, ?_, hunread, .refl s⟩
          rw [fields, ask_bind, Reading.nextKind?_of_unread hunread, hlast]
          rfl
  | cons form forms ih =>
      obtain ⟨first, more, hfirst, hmore, rfl⟩ := h
      obtain ⟨firstTokens, moreTokens, rfl, hfirstMake, hmoreMake⟩ := hmake.append
      obtain ⟨name, others, rfl, hname⟩ := exists_name_of_spelled hfirst hfirstMake
      have hends := startsOnlyWith_fields rest hmore hmoreMake hlast
      rw [List.append_assoc] at hunread
      cases limit with
      | zero => simp [hunread] at hlimit
      | succ limit =>
          refine .congr (fields_of_asName? limit (Reading.nextKind?_of_unread hunread) hname) ?_
          refine (field_reads hfirst (hfits form (by simp)) hfirstMake hunread hapart hdepth
            hends).bind fun s' hunread' hagrees => ?_
          have hapart' : Token.Apart s'.unread := by
            rw [hunread] at hapart
            rw [hunread']
            exact hapart.of_append
          have hlimit' : s'.unread.length ≤ limit := by
            rw [hunread] at hlimit
            rw [hunread']
            simp only [List.length_cons, List.length_append] at hlimit ⊢
            omega
          have hmoreReads := ih hmore (fun next hnext => hfits next (by simp [hnext])) limit hmoreMake
            hunread' hapart' (hagrees.depth.trans hdepth) hlimit'
          exact hmoreReads.bind fun s'' hunread'' _ => ⟨s'', rfl, hunread'', .refl s''⟩

/-- The fields of an operation in their braces. -/
theorem operationBody_reads {forms : List FieldForm} {words : List Word} (hne : forms ≠ [])
    (h : FieldForm.SpelledAll forms words)
    (hfits : ∀ form ∈ forms, ∀ pair ∈ form.pairs, pair.2.depth ≤ deepestValue) {s : Reading}
    {tokens rest : List Token} (hmake : Word.Make (Word.group .openBrace .closeBrace words) tokens)
    (hunread : s.unread = tokens ++ rest) (hapart : Token.Apart s.unread) (hdepth : s.depth = 0) :
    operationBody.Reads s (forms.map (·.field)) rest := by
  obtain ⟨first, tokens, rfl, hfirst, hmake⟩ := hmake.cons
  obtain ⟨middle, last, rfl, hmiddle, hlast⟩ := hmake.concat
  have hassoc : s.unread = first :: (middle ++ last :: rest) := by simp [hunread]
  have hunread' : (s.advance.push .operationBody first.span).unread = middle ++ last :: rest :=
    Reading.unread_advance hassoc
  have hapart' : Token.Apart (s.advance.push .operationBody first.span).unread := by
    rw [hassoc] at hapart
    rw [hunread']
    exact hapart.tail
  have hfields := fields_reads h hfits
    ((s.advance.push .operationBody first.span).unread.length + 1) hmiddle hunread' hlast hapart'
    (s.agrees_advance.depth.trans hdepth) (Nat.le_succ _)
  refine .group hassoc hfirst hlast ?_ (.congr rfl hfields)
  have hempty : (forms.map (·.field)).isEmpty = false := by simpa using hne
  simp only [hempty, Bool.false_eq_true, if_false]

/-- The name of an operation, if it has one. -/
theorem operationName_reads {name : Option String} {s : Reading} {tokens rest : List Token}
    (hmake : Word.Make (name.toList.map Word.name) tokens) (hunread : s.unread = tokens ++ rest)
    (hnext : ∀ token ∈ rest.head?, token.kind.asName? = none) :
    (do
      if (← ask (·.nextKind?)).bind (·.asName?) |>.isSome then return some (← expectName).1
      else return none : Rule (Option String)).Reads s name rest := by
  cases name with
  | none =>
      obtain rfl := hmake.nil
      rw [List.nil_append] at hunread
      have hnone : (s.nextKind?.bind (·.asName?)).isSome = false := by
        rw [Reading.nextKind?, Reading.next?, hunread]
        cases hhead : rest.head? with
        | none => rfl
        | some token => simp [hnext token (by simp [hhead])]
      refine ⟨s, ?_, hunread, .refl s⟩
      rw [ask_bind, hnone]
      rfl
  | some text =>
      obtain ⟨token, more, rfl, hkind, hnil⟩ := hmake.cons
      obtain rfl := hnil.nil
      have hname : token.kind.asName? = some text := by rw [hkind, Word.asName?_name]
      have hsome : (s.nextKind?.bind (·.asName?)).isSome = true := by
        rw [Reading.nextKind?_of_unread hunread, Option.bind_some, hname]
        rfl
      refine reads_advance hunread ?_
      rw [ask_bind, hsome, if_pos rfl, bind_of_done (expectName_of_unread hunread hname)]
      rfl

/-- What stands before the fields. -/
theorem operationHead_reads {form : HeadForm} {words : List Word} (h : form.Spelled words)
    {s : Reading} {tokens rest : List Token} {first : Token} (hmake : Word.Make words tokens)
    (hunread : s.unread = tokens ++ first :: rest) (hfirst : first.kind = .punctuator .openBrace) :
    operationHead.Reads s (form.type, form.name) (first :: rest) := by
  cases form with
  | short =>
      obtain rfl : words = [] := h
      obtain rfl := hmake.nil
      refine ⟨s, ?_, hunread, .refl s⟩
      rw [operationHead, ask_bind, Reading.nextKind?_of_unread hunread, hfirst]
      rfl
  | long type keyword name definitions =>
      obtain ⟨hkeyword, hname, hdefinitions, rfl⟩ := h
      obtain ⟨keywordToken, tokens, rfl, hkind, hmake⟩ := hmake.cons
      obtain ⟨nameTokens, groupTokens, rfl, hnameMake, hgroupMake⟩ := hmake.append
      rw [List.cons_append, List.append_assoc] at hunread
      rw [(OperationType.isName_of_ofKeyword? hkeyword).2] at hkind
      have hbrace : StartsOnlyWith [.openBrace] (first :: rest) := by
        intro token htoken mark hmark
        obtain rfl : first = token := by simpa using htoken
        simpa using hmark.symm.trans hfirst
      -- behind the name there is a bracket, so that no second name is taken for it
      have hnoName : ∀ token ∈ (groupTokens ++ first :: rest).head?, token.kind.asName? = none := by
        intro token htoken
        cases definitions with
        | none =>
            obtain rfl := hgroupMake.nil
            obtain rfl : first = token := by simpa using htoken
            rw [hfirst]
            rfl
        | some inside =>
            obtain ⟨paren, more, rfl, hparen, -⟩ := hgroupMake.cons
            obtain rfl : paren = token := by simpa using htoken
            rw [hparen]
            rfl
      -- the keyword decides how the rule goes on
      have hhead : operationHead s =
          (do
            let name ← (do
              if (← ask (·.nextKind?)).bind (·.asName?) |>.isSome then return some (← expectName).1
              else return none)
            if ← nextIs .openParen then passGroup .openParen .closeParen .variableDefinitions
            noDirective
            return (type, name) : Rule (OperationType × Option String)) s.advance := by
        rw [operationHead, ask_bind, Reading.nextKind?_of_unread hunread, hkind]
        simp only [hkeyword]
        rfl
      refine .of_advance hhead ?_
      refine (operationName_reads hnameMake (Reading.unread_advance hunread) hnoName).bind
        fun s₁ hunread₁ _ => ?_
      refine optionalGroup_reads (by decide) .variableDefinitions hdefinitions hgroupMake hunread₁
        hbrace (by decide) fun s₂ hunread₂ _ => ?_
      refine (noDirective_reads (hunread₂ ▸ hbrace) (by decide)).bind fun s₃ hunread₃ _ => ?_
      exact ⟨s₃, pure_apply (type, name) s₃, hunread₃.trans hunread₂, .refl s₃⟩

/-! ### The document -/

/-- An operation that fits. -/
theorem operation_reads {form : OperationForm} {words : List Word} (h : form.Spelled words)
    (hfits : form.Fits) {s : Reading} {tokens rest : List Token} (hmake : Word.Make words tokens)
    (hunread : s.unread = tokens ++ rest) (hapart : Token.Apart s.unread) (hdepth : s.depth = 0) :
    operation.Reads s form.operation rest := by
  obtain ⟨hne, head, body, hhead, hbody, rfl⟩ := h
  obtain ⟨headTokens, bodyTokens, rfl, hheadMake, hbodyMake⟩ := hmake.append
  obtain ⟨first, more, rfl, hfirst, -⟩ := id hbodyMake.cons
  rw [List.append_assoc] at hunread
  refine (operationHead_reads hhead hheadMake hunread hfirst).bind fun s₁ hunread₁ hagrees₁ => ?_
  have hapart₁ : Token.Apart s₁.unread := by
    rw [hunread] at hapart
    rw [hunread₁]
    exact hapart.of_append
  refine (operationBody_reads hne hbody hfits hbodyMake hunread₁ hapart₁
    (hagrees₁.depth.trans hdepth)).bind fun s₂ hunread₂ _ => ?_
  exact ⟨_, rfl, hunread₂, ⟨rfl, rfl, rfl, rfl⟩⟩

end Rule

/-- Parsing undoes rendering: the words of a form, laid out with any trivia between them, parse as
what the form means. -/
theorem Operation.parse_text {form : OperationForm} {last : List Char} {pieces : List SpacedWord}
    (hform : form.Spelled (pieces.map (·.word))) (hfits : form.Fits)
    (hlaid : SpacedWord.Laid last pieces) :
    Operation.parse (SpacedWord.text last pieces) = .ok form.operation := by
  have hvalid : ∀ piece ∈ pieces, piece.word.Valid := fun piece hpiece =>
    OperationForm.valid_of_spelled hform piece.word (List.mem_map_of_mem hpiece)
  obtain ⟨tokens, finish, htokens, hmake, hfinish, hapart⟩ := hlaid.list_text hvalid
  have hreads := Rule.operation_reads hform hfits hmake
    (s := .start (some (SpacedWord.text last pieces)) (Token.list (SpacedWord.text last pieces)))
    htokens hapart rfl
  exact Rule.run_whole_of_reads hreads hfinish rfl

/-- A mutation with all that a document can hold. -/
def sampleForm : OperationForm where
  head := .long .mutation "Mutation" (some "null") (some [.mark .closeBrace, .name "x"])
  fields :=
    [⟨"f", some [("a", .string "q"), ("b", .object [("k", .list [.variable "v", .null])]),
        ("a", .number (.ofNat true 2))], some [.name "g", .mark .closeParen]⟩,
      ⟨"h", none, none⟩]

theorem writable_sampleForm : sampleForm.Writable := by
  have hname : ∀ c : Char, Lexeme.isNameStart c = true → Word.IsName (String.ofList [c]) :=
    fun c hc => ⟨c, [], by simp, hc, by simp⟩
  have hword : ∀ c : Char, Lexeme.isNameStart c = true → (Word.name (String.ofList [c])).Valid :=
    fun c hc => Word.valid_name (hname c hc)
  have hnull : Word.IsName "null" := ⟨'n', _, rfl, by decide, List.all_eq_true.1 (by decide)⟩
  have hdefinitions : Word.IsInside .openParen .closeParen [.mark .closeBrace, .name "x"] :=
    ⟨by simpa using ⟨Word.valid_mark _, hword 'x' (by decide)⟩,
      by decide⟩
  have hselection : Word.IsInside .openBrace .closeBrace [.name "g", .mark .closeParen] :=
    ⟨by simpa using ⟨hword 'g' (by decide), Word.valid_mark _⟩,
      by decide⟩
  have hvalues : ArgValue.EntriesWritable [("a", .string "q"),
      ("b", .object [("k", .list [.variable "v", .null])]), ("a", .number (.ofNat true 2))] := by
    simp only [ArgValue.EntriesWritable, ArgValue.ItemsWritable, ArgValue.Writable, Dict.names]
    exact ⟨trivial, ⟨by simp, ⟨hname 'v' (by decide), trivial, trivial⟩, trivial⟩,
      Binary64.isFinite_ofNat true (by decide), trivial⟩
  refine ⟨⟨by decide, by simpa using hnull, by simpa using hdefinitions⟩, by simp [sampleForm], ?_⟩
  simp only [sampleForm, List.forall_mem_cons, List.not_mem_nil, false_implies, implies_true, and_true]
  refine ⟨⟨hname 'f' (by decide), ?_, hvalues, by simpa using hselection⟩,
    hname 'h' (by decide), by simp [FieldForm.pairs], trivial, by simp⟩
  simpa [FieldForm.pairs] using ⟨hname 'a' (by decide), hname 'b' (by decide), hname 'a' (by decide)⟩

/-- The sample with a space before each word. -/
theorem Operation.parse_sample :
    Operation.parse
      (" Mutation null ( \x7d x ) \x7b f ( a : \"q\" b : \x7b \"k\" : [ $ v null ] \x7d " ++
        "a : -2.0 ) \x7b g ) \x7d h \x7d").toList = .ok sampleForm.operation := by
  have hspelled := OperationForm.spelled_words writable_sampleForm
  have hlaid : SpacedWord.Laid [] (sampleForm.words.map fun word => ⟨[' '], word⟩) := by
    refine .of_forall (.inl .nil) fun piece hpiece => ?_
    obtain ⟨word, -, rfl⟩ := List.mem_map.1 hpiece
    exact ⟨.separator (by decide) .nil, by simp⟩
  have hfits : sampleForm.Fits := by
    simp only [sampleForm, OperationForm.Fits, FieldForm.pairs, Option.getD_some, Option.getD_none,
      List.forall_mem_cons, List.not_mem_nil, false_implies, implies_true, and_true]
    decide
  have htext : SpacedWord.text [] (sampleForm.words.map fun word => ⟨[' '], word⟩) =
      (" Mutation null ( \x7d x ) \x7b f ( a : \"q\" b : \x7b \"k\" : [ $ v null ] \x7d " ++
        "a : -2.0 ) \x7b g ) \x7d h \x7d").toList := by
    decide +kernel
  rw [← htext]
  exact Operation.parse_text (by simpa [Function.comp_def] using hspelled) hfits hlaid

end CompletionGateway
