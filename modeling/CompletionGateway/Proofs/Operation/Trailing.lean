import CompletionGateway.Proofs.Operation.Soundness
import CompletionGateway.Proofs.Operation.ValueParallel
import CompletionGateway.Proofs.Token.Prolongation

/-!
# One operation and nothing behind it

An operation is done only behind its closing brace, so it does not go beyond the tokens of an
accepted document.  So an accepted document is read in the same way when other text follows on a new
line.  The text behind it is refused, whatever it is, unless it is trivia.
-/

namespace CompletionGateway

variable {o : Overlap}

namespace Rule

variable {α : Type} {size : Nat}

/-! ### Skipped groups -/

section SkipGroup

variable (opening closing : Punctuator) (delimiter : Delimiter)

theorem leaves_skipGroup (inner : Nat) (tokens : List Token) {s : Reading}
    (hunread : s.unread = tokens) :
    (skipGroup opening closing delimiter inner tokens s).Leaves tokens.length 0 := by
  induction tokens generalizing inner s with
  | nil =>
      have hleft : (refuseUnclosed delimiter s : Outcome Unit).Leaves s.unread.length 0 :=
        consumes_refuseUnclosed delimiter s
      rwa [hunread] at hleft
  | cons token rest ih =>
      have hrest := Reading.unread_advance hunread
      have hmore := fun inner => (ih inner hrest).mono (Nat.le_succ _) (Nat.le_refl _)
      have hnext : s.advance.unread.length ≤ rest.length + 1 := by
        rw [hrest]
        exact Nat.le_succ _
      simp only [skipGroup.eq_def _ _ _ _ (token :: rest), update_bind]
      cases token.kind with
      | finish | error _ _ => exact hnext
      | punctuator mark =>
          dsimp only
          split
          · exact hmore (inner + 1)
          split
          · cases inner with
            | zero => exact hnext
            | succ inner => exact hmore inner
          · exact hmore inner
      | _ => exact hmore inner

/-- A group is passed up to its closing bracket, or beyond the common tokens. -/
theorem parallel_skipGroup (inner : Nat) {front front' : List Token} {s s' : Reading}
    (hs : s.Parallel o front front' s') :
    (skipGroup opening closing delimiter inner s.unread s).Parallel o s.errors s'.errors 0
      (skipGroup opening closing delimiter inner s'.unread s') := by
  -- by the common tokens, for every number of inner groups that are open
  induction front generalizing inner front' s s' with
  | nil =>
      obtain rfl : front' = [] := List.eq_nil_of_length_eq_zero hs.common.length_eq.symm
      have hleft := leaves_skipGroup opening closing delimiter inner s.unread rfl
      have hleft' := leaves_skipGroup opening closing delimiter inner s'.unread rfl
      rw [hs.unread] at hleft ⊢
      rw [hs.unread'] at hleft' ⊢
      exact .beyond hleft hleft'
  | cons token rest ih =>
      obtain ⟨token', rest', rfl⟩ : ∃ token' rest', front' = token' :: rest' :=
        List.exists_cons_of_length_eq_add_one hs.common.length_eq.symm
      have hmore := fun inner => ih inner hs.advance
      rw [Reading.unread_advance hs.unread_cons, Reading.unread_advance hs.unread_cons',
        Reading.errors_advance, Reading.errors_advance] at hmore
      have hfaulty : ∀ message notes notes', Outcome.Parallel o s.errors s'.errors 0
          ((refuse fun _ => .lexical message notes token.span : Rule Unit) s.advance)
          ((refuse fun _ => .lexical message notes' token'.span : Rule Unit) s'.advance) := by
        intro message notes notes'
        rw [← s.errors_advance, ← s'.errors_advance]
        exact parallel_refuse_apply hs.advance rfl
      simp only [hs.unread_cons, hs.unread_cons', skipGroup.eq_def _ _ _ _ (_ :: _), update_bind]
      rcases TokenKind.eq_or_error hs.next_alike.1.kind with
        hsame | ⟨message, notes, notes', hkind, hkind'⟩
      · rw [← hsame]
        cases hkind : token.kind with
        | finish => exact absurd hkind hs.kind_ne_finish
        | error message notes => exact hfaulty message notes notes
        | punctuator mark =>
            dsimp only
            split
            · exact hmore (inner + 1)
            split
            · cases inner with
              | zero => exact .done hs.advance.pop s.errors_advance s'.errors_advance
              | succ inner => exact hmore inner
            · exact hmore inner
        | _ => exact hmore inner
      · rw [hkind, hkind']
        exact hfaulty message notes notes'

theorem parallel_passGroup (enclosure : Enclosure) :
    Parallel o size 0 (passGroup opening closing enclosure)
      (passGroup opening closing enclosure) := by
  refine .openGroup_bind opening enclosure fun _ _ => ⟨fun s => ?_, fun s => ?_, ?_⟩
  · exact leaves_skipGroup opening closing enclosure.delimiter 0 s.unread rfl
  · exact leaves_skipGroup opening closing enclosure.delimiter 0 s.unread rfl
  · intro token rest token' rest' s s' hs _
    exact parallel_skipGroup opening closing enclosure.delimiter 0 hs

end SkipGroup

/-! ### Operations -/

theorem parallel_noDirective : Parallel o size 0 noDirective noDirective := by
  refine .nextIs_bind .at fun found => ?_
  cases found with
  | true => exact (tokenless_refuseConstruct .directives).parallel
  | false => exact (tokenless_pure ()).parallel

/-- A group that may be absent, and then rules that do the same. -/
theorem parallel_optionalGroup (opening closing : Punctuator) (enclosure : Enclosure)
    {next next' : Rule α} (h : Parallel o size 0 next next') :
    Parallel o size 0
      (do
        if ← nextIs opening then passGroup opening closing enclosure
        next : Rule α)
      (do
        if ← nextIs opening then passGroup opening closing enclosure
        next' : Rule α) := by
  refine .nextIs_bind opening fun found => ?_
  cases found with
  | true => exact (parallel_passGroup opening closing enclosure).bind fun _ => h
  | false => exact h

/-- What follows the name of a field. -/
def fieldBehind (name : String) (span : Span) : Rule Field := do
  if ← nextIs .colon then refuse fun _ => .unsupported .fieldAliases span
  else
    let arguments ← (do if ← nextIs .openParen then argumentList else return [])
    noDirective
    if ← nextIs .openBrace then passGroup .openBrace .closeBrace .selectionSet
    return ⟨name, arguments⟩

theorem field_eq : field = expectName >>= fun found => fieldBehind found.1 found.2 := rfl

theorem parallel_fieldBehind (name : String) (span span' : Span) :
    Parallel o size 0 (fieldBehind name span) (fieldBehind name span') := by
  refine .nextIs_bind .colon fun aliased => ?_
  cases aliased with
  | true =>
      have hrefused : Tokenless o (refuse fun _ => .unsupported .fieldAliases span : Rule Field)
          (refuse fun _ => .unsupported .fieldAliases span') := tokenless_refuse fun _ _ => rfl
      exact hrefused.parallel
  | false =>
      have harguments : Parallel o size 0
          (do if ← nextIs .openParen then argumentList else return [] : Rule Arguments)
          (do if ← nextIs .openParen then argumentList else return []) := by
        refine .nextIs_bind .openParen fun opened => ?_
        cases opened with
        | true => exact parallel_argumentList.mono (Nat.zero_le 1)
        | false => exact (tokenless_pure []).parallel
      refine harguments.bind fun arguments => parallel_noDirective.bind fun _ => ?_
      exact parallel_optionalGroup .openBrace .closeBrace .selectionSet (tokenless_pure _).parallel

theorem parallel_field : Parallel o size 0 field field := by
  rw [field_eq]
  exact .expectName_bind parallel_fieldBehind

theorem consumes_field : Consumes 1 field := by
  rw [field_eq]
  refine consumes_expectName.bind (k := 0) fun found => ?_
  have hbehind : Parallel ⟨[], [], [], []⟩ 0 0 (fieldBehind found.1 found.2) _ :=
    parallel_fieldBehind found.1 found.2 found.2
  exact hbehind.consumes

theorem consumes_fields (limit : Nat) : Consumes 0 (fields limit) := by
  induction limit with
  | zero => exact consumes_refuseUnclosed .brace
  | succ limit ih =>
      have hmore : Consumes 0 (do
          let first ← field
          let more ← fields limit
          return first :: more) :=
        .mono (consumes_field.bind fun first => ih.bind fun more => consumes_pure (first :: more))
          (Nat.zero_le _)
      rw [fields]
      refine .ask_bind fun next => ?_
      split
      · exact consumes_pure []
      · exact consumes_refuseUnclosed .brace
      · exact consumes_refuseUnclosed .brace
      · exact consumes_refuse _
      · exact hmore

theorem parallel_fields {left limit limit' : Nat} (hlimit : left < limit)
    (hlimit' : left < limit') : Parallel o left 0 (fields limit) (fields limit') := by
  -- each field takes a token
  induction limit generalizing left limit' with
  | zero => omega
  | succ limit ih =>
      obtain ⟨limit', rfl⟩ := Nat.exists_eq_add_one_of_ne_zero (by omega : limit' ≠ 0)
      rcases Nat.eq_zero_or_pos left with rfl | hpos
      · exact .of_consumes (consumes_fields _) (consumes_fields _)
      rw [fields, fields]
      refine .nextKind_bind (fun _ _ _ => rfl) fun next => ?_
      split
      · exact (tokenless_pure []).parallel
      · exact (tokenless_refuseUnclosed .brace).parallel
      · exact (tokenless_refuseUnclosed .brace).parallel
      · exact (tokenless_refuseConstruct .fragments).parallel
      · refine parallel_field.bind_of_consumes consumes_field fun first => ?_
        exact (ih (by omega) (by omega)).map (first :: ·)

theorem parallel_operationBody : Parallel o size 1 operationBody operationBody := by
  refine .openGroup_bind .openBrace .operationBody fun opening opening' => ?_
  refine (parallel_atSize fun _ _ _ _ hlimit hlimit' =>
    parallel_fields hlimit hlimit').bind fun found => ?_
  refine parallel_closeGroup_bind .closeBrace fun closing closing' => ?_
  split
  · exact tokenless_refuse fun _ _ => rfl
  · exact tokenless_pure found

theorem parallel_optionalName : Parallel o size 0
    (do
      if (← ask (·.nextKind?)).bind (·.asName?) |>.isSome then return some (← expectName).1
      else return none : Rule (Option String))
    (do
      if (← ask (·.nextKind?)).bind (·.asName?) |>.isSome then return some (← expectName).1
      else return none : Rule (Option String)) := by
  refine .nextKind_bind (fun _ _ _ => rfl) fun next => ?_
  split
  · exact (parallel_name some).mono (Nat.zero_le 1)
  · exact (tokenless_pure none).parallel

theorem parallel_operationHead : Parallel o size 0 operationHead operationHead := by
  refine .nextKind_bind (fun _ _ _ => rfl) fun next => ?_
  split
  · rename_i word
    cases OperationType.ofKeyword? word with
    | some type =>
        refine .advance_bind (parallel_optionalName.bind fun name => ?_)
        exact parallel_optionalGroup .openParen .closeParen .variableDefinitions
          (parallel_noDirective.bind fun _ => (tokenless_pure (type, name)).parallel)
    | none =>
        dsimp only
        split
        · exact (tokenless_refuseConstruct .fragments).parallel
        · exact parallel_refuseNext _
  · exact (tokenless_pure _).parallel

theorem parallel_operation : Parallel o size 1 operation operation := by
  refine parallel_operationHead.bind fun ⟨type, name⟩ => ?_
  exact parallel_operationBody.bind_tokenless fun found => tokenless_observe _ _ _

end Rule

namespace Token

/-- An operation ends with its closing brace. -/
theorem IsOperation.closed {source : Option (List Char)} {operation : Operation}
    {tokens : List Token} (h : IsOperation source operation tokens) :
    ∀ last ∈ tokens.getLast?, last.kind.isOpenString = false := by
  obtain ⟨head, first, inside, last, -, -, -, hlast, -, rfl⟩ := h
  intro token htoken
  obtain rfl : last = token := by simpa [List.getLast?_append, List.getLast?_cons] using htoken
  rw [hlast]
  rfl

end Token

namespace Operation

/-- Up to its end an accepted document is read in the same way if it goes on behind a line end. -/
theorem exists_done_append {source : List Char} {operation : Operation}
    (h : parse source = .ok operation) (more : List Char) : ∃ first after r,
      Rule.operation (.start (some (source ++ '\n' :: more))
        (Token.list (source ++ '\n' :: more))) = .done operation r ∧
      r.errors = [] ∧ r.unread = first :: after ∧
        ∀ first' ∈ (Token.list more).head?, first.kind.withoutNotes = first'.kind.withoutNotes := by
  obtain ⟨tokens, place, hlist, hoperation⟩ := exists_tokens h
  obtain ⟨behind, hlexed, hkinds, hapart⟩ :=
    (hlist ▸ Token.lexed_list source).exists_prolonged hoperation.closed more
  have hlist' : Token.list (source ++ '\n' :: more) = tokens ++ behind :=
    hlexed.listFrom_eq (Nat.le_refl _)
  -- what is put behind has a first token, at least its end
  obtain ⟨front, finish, hmore, -⟩ := Token.exists_finish_list more
  obtain ⟨first, after, rfl⟩ : ∃ first after, behind = first :: after := by
    refine List.exists_cons_of_ne_nil fun hnil => ?_
    simp [hnil, hmore] at hkinds
  have hkind : ∀ first' ∈ (Token.list more).head?,
      first.kind.withoutNotes = first'.kind.withoutNotes := by
    intro first' hfirst'
    obtain ⟨others, hothers⟩ := List.head?_eq_some_iff.1 hfirst'
    rw [hothers] at hkinds
    exact (List.cons.inj hkinds).1
  let o : Overlap :=
    ⟨source, source ++ '\n' :: more, [Token.finishAt place], first :: after⟩
  have hstart : (Reading.start (some source) (Token.list source)).Parallel o tokens tokens
      (.start (some (source ++ '\n' :: more)) (Token.list (source ++ '\n' :: more))) := by
    refine ⟨hlist, hlist', ?_, hoperation.ne_finish, ?_, ?_, rfl, rfl, rfl⟩
    · exact (Token.allAlike_self fun token htoken => hlist ▸ List.mem_append_left _ htoken).append _
    · intro last hlast next hnext
      obtain rfl : Token.finishAt place = next := by simpa [o] using hnext
      exact Bool.and_false _
    · intro last hlast next hnext
      rw [hapart last hlast next (List.mem_of_mem_head? hnext), Bool.false_and]
  -- the operation is done on the first document, so it does not go beyond it
  obtain ⟨place', r, hdone, hunread, -⟩ :=
    Rule.reads_of_run Rule.yields_operation (fun _ _ => Token.IsOperation.ne_finish) h
  have hboth := Rule.parallel_operation.apply hstart (Nat.le_refl _)
  rw [hdone] at hboth
  generalize Rule.operation _ = outcome' at hboth ⊢
  cases hboth with
  | beyond hleft _ => simp [Outcome.Leaves, hunread, o] at hleft
  | @done _ front front' _ r' hstate _ herrors =>
      -- nothing but the end is left on the first one
      obtain rfl : front' = [] := by
        have hlength := congrArg List.length (hstate.unread.symm.trans hunread)
        refine List.eq_nil_of_length_eq_zero ?_
        rw [← hstate.common.length_eq]
        simpa [o] using hlength
      exact ⟨first, after, r', rfl, herrors, hstate.unread', hkind⟩

/-- A document holds one operation.  Behind an accepted document trivia change nothing, and any
other text is refused at its first token. -/
theorem parse_append {source more : List Char} {operation : Operation}
    (h : parse source = .ok operation) :
    (IsFinalTrivia more → parse (source ++ '\n' :: more) = .ok operation) ∧
      ((∃ token ∈ Token.list more, token.kind ≠ .finish) →
        ∃ first rest error, Token.list more = first :: rest ∧
          parse (source ++ '\n' :: more) = .error error ∧
            error.cause = if first.kind.isError then .lexical else .trailingContent) := by
  obtain ⟨first, after, r, hdone, herrors, hunread, hkind⟩ := exists_done_append h more
  obtain ⟨haccepted, hrefused⟩ := Rule.run_whole_of_done hdone herrors hunread
  have hfinish : ∀ first' ∈ (Token.list more).head?,
      (first.kind = .finish ↔ first'.kind = .finish) := fun first' hfirst' =>
    iff_of_eq (TokenKind.congr_of_withoutNotes (hkind first' hfirst') (· = .finish) (by simp))
  constructor
  · intro htrivia
    have hmore : Token.list more = _ :=
      (Token.Lexed.finish .start htrivia).listFrom_eq (Nat.le_refl _)
    exact haccepted ((hfinish _ (by rw [hmore]; rfl)).2 rfl)
  · rintro ⟨token, htoken, hne⟩
    obtain ⟨front, place, hmore, -, hfront⟩ := Token.exists_finish_list more
    cases front with
    | nil =>
        rw [hmore] at htoken
        obtain rfl := List.mem_singleton.1 htoken
        exact absurd rfl hne
    | cons first' rest =>
        have hfirst' : first' ∈ (Token.list more).head? := by rw [hmore]; rfl
        have hfault : first.kind.isError = first'.kind.isError :=
          TokenKind.congr_of_withoutNotes (hkind first' hfirst') _ fun _ _ _ => rfl
        obtain ⟨error, herror, hcause⟩ :=
          hrefused fun heq => hfront first' (by simp) ((hfinish first' hfirst').1 heq)
        exact ⟨first', _, error, hmore, herror, hfault ▸ hcause⟩

/-- A document that ends in a comment. -/
def commentedDocument : List Char :=
  ['{', 'f', '(', 'x', ':', 'a', '-', 'b', ')', '}', '#', '}']

/-- A comma and a comment may follow the comment, a brace and a lone quote may not. -/
theorem parse_append_comment :
    parse commentedDocument = .ok ⟨.query, none, [⟨"f", [("x", .string "a-b")]⟩]⟩ ∧
      IsFinalTrivia [',', '#', '\''] ∧
      parse (commentedDocument ++ ['\n', ',', '#', '\'']) =
        .ok ⟨.query, none, [⟨"f", [("x", .string "a-b")]⟩]⟩ ∧
      (∃ token ∈ Token.list ['}', '\''], token.kind ≠ .finish) ∧
      (∃ first rest error, Token.list ['}', '\''] = first :: rest ∧
        parse (commentedDocument ++ ['\n', '}', '\'']) = .error error ∧
          error.cause = if first.kind.isError then .lexical else .trailingContent) ∧
      (∃ token ∈ Token.list ['\'', '}'], token.kind ≠ .finish) ∧
      ∃ first rest error, Token.list ['\'', '}'] = first :: rest ∧
        parse (commentedDocument ++ ['\n', '\'', '}']) = .error error ∧
          error.cause = if first.kind.isError then .lexical else .trailingContent := by
  have hparse : parse commentedDocument =
      .ok ⟨.query, none, [⟨"f", [("x", .string "a-b")]⟩]⟩ := by rfl
  have htrivia : IsFinalTrivia [',', '#', '\''] :=
    .inr ⟨[','], ['\''], .separator rfl .nil, List.forall_mem_singleton.2 (by decide), rfl⟩
  have hbrace : ∃ token ∈ Token.list ['}', '\''], token.kind ≠ .finish := by decide +kernel
  have hquote : ∃ token ∈ Token.list ['\'', '}'], token.kind ≠ .finish := by decide +kernel
  exact ⟨hparse, htrivia, (parse_append hparse).1 htrivia, hbrace, (parse_append hparse).2 hbrace,
    hquote, (parse_append hparse).2 hquote⟩

end Operation

end CompletionGateway
