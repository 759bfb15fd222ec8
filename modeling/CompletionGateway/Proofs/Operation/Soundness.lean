import CompletionGateway.Proofs.Operation.OperationTaking
import CompletionGateway.Proofs.Token.Tiling

/-!
# What is accepted

A document that is accepted consists of the tokens of the operation that it is read as, and then its
end.  So the grammar says all that can stand in it.  Outside the values of arguments no token is
faulty, and there each argument list is nested by shape and holds strings that end, with two
exceptions.  A malformed literal counts as empty up to the bracket that closes it by count, whatever
its shape, and what stands in it is lost.  A bare run goes on over a string without its end, as long
as it does not begin with one, and takes it as text.
-/

namespace CompletionGateway

namespace Token

/-! ### Values inside values -/

/-- The value has a property together with its tokens, or a value somewhere inside it has. -/
inductive Contains (property : ArgValue → List Token → Prop) : ArgValue → List Token → Prop
  | self {value : ArgValue} {tokens : List Token} (h : property value tokens) :
      Contains property value tokens
  | entry {first last : Token} {inside tokens : List Token} {pairs : List (String × ArgValue)}
      {value : ArgValue} (hvalue : value ∈ pairs.map Prod.snd) (htokens : tokens <:+: inside)
      (h : Contains property value tokens) :
      Contains property (.object (Dict.ofList pairs)) (first :: (inside ++ [last]))
  | item {first last : Token} {inside tokens : List Token} {values : List ArgValue}
      {value : ArgValue} (hvalue : value ∈ values) (htokens : tokens <:+: inside)
      (h : Contains property value tokens) :
      Contains property (.list values) (first :: (inside ++ [last]))

/-- One of some values contains a value with the property, among some tokens. -/
def AmongContains (property : ArgValue → List Token → Prop) (values : List ArgValue)
    (tokens : List Token) : Prop :=
  ∃ value inside, value ∈ values ∧ inside <:+: tokens ∧ Contains property value inside

section Among

variable {property : ArgValue → List Token → Prop} {value : ArgValue} {values : List ArgValue}
variable {inside tokens : List Token} {pairs : List (String × ArgValue)} {first last : Token}

theorem isInfix_entry (key colon : Token) (inside more : List Token) :
    inside <:+: key :: colon :: (inside ++ more) := ⟨[key, colon], more, by simp⟩

theorem isInfix_entries (key colon : Token) (inside more : List Token) :
    more <:+: key :: colon :: (inside ++ more) := ⟨key :: colon :: inside, [], by simp⟩

theorem AmongContains.head (h : Contains property value inside) (hinside : inside <:+: tokens) :
    AmongContains property (value :: values) tokens :=
  ⟨value, inside, List.mem_cons_self, hinside, h⟩

theorem AmongContains.tail (h : AmongContains property values inside) (hinside : inside <:+: tokens) :
    AmongContains property (value :: values) tokens := by
  obtain ⟨found, more, hfound, hmore, hcontains⟩ := h
  exact ⟨found, more, List.mem_cons_of_mem _ hfound, hmore.trans hinside, hcontains⟩

theorem AmongContains.mono (h : AmongContains property values inside) (hinside : inside <:+: tokens) :
    AmongContains property values tokens := by
  obtain ⟨found, more, hfound, hmore, hcontains⟩ := h
  exact ⟨found, more, hfound, hmore.trans hinside, hcontains⟩

theorem AmongContains.object (h : AmongContains property (pairs.map Prod.snd) inside) :
    Contains property (.object (Dict.ofList pairs)) (first :: (inside ++ [last])) := by
  obtain ⟨found, more, hfound, hmore, hcontains⟩ := h
  exact .entry hfound hmore hcontains

theorem AmongContains.list (h : AmongContains property values inside) :
    Contains property (.list values) (first :: (inside ++ [last])) := by
  obtain ⟨found, more, hfound, hmore, hcontains⟩ := h
  exact .item hfound hmore hcontains

end Among

/-! ### Strings without an end -/

/-- The token is lost in a value: it stands behind the first token of a bare run and is text there,
or it stands in a literal that counts as empty. -/
def IsLost (source : Option (List Char)) (token : Token) (value : ArgValue) (tokens : List Token) :
    Prop :=
  (∃ first more text, tokens = first :: more ∧ token ∈ more ∧ IsRun source first more ∧
      runText? source first more = some text ∧ value = .string text) ∨
    ∃ kind : LiteralKind, IsLiteral kind tokens ∧ token ∈ tokens ∧ value = kind.empty

section Lost

variable {source : Option (List Char)} {token : Token}

/-- A faulty token has no meaning by itself. -/
theorem eq_none_of_isError (h : token.kind.isError = true) :
    token.kind.value? = none ∧ token.kind.key? = none ∧ token.kind.asName? = none ∧
      ∀ mark, token.kind ≠ .punctuator mark := by
  cases hkind : token.kind with
  | error message notes => simp [TokenKind.value?, TokenKind.key?, TokenKind.asName?]
  | _ => simp [hkind, TokenKind.isError] at h

mutual

/-- A faulty token at a quote is lost somewhere in the value to which it belongs. -/
theorem IsValue.contains_lost {value : ArgValue} {tokens : List Token} :
    IsValue source value tokens → token.kind.isError = true → token.standsAtQuote source = true →
      token ∈ tokens → Contains (IsLost source token) value tokens
  | .word hkind, herror, _, htoken => by
      obtain rfl := List.mem_singleton.1 htoken
      rw [(eq_none_of_isError herror).1] at hkind
      cases hkind
  | .variable hdollar hname, herror, _, htoken => by
      rcases List.mem_cons.1 htoken with rfl | htoken
      · exact absurd hdollar ((eq_none_of_isError herror).2.2.2 _)
      · obtain rfl := List.mem_singleton.1 htoken
        rw [(eq_none_of_isError herror).2.2.1] at hname
        cases hname
  | .run hrun htext, herror, hquote, htoken => by
      rcases List.mem_cons.1 htoken with rfl | hmore
      · -- a run does not begin at a quote
        have hstarts := hrun.starts
        unfold beginsRun at hstarts
        split at hstarts <;> simp_all [TokenKind.isError]
      · exact .self (.inl ⟨_, _, _, rfl, hmore, hrun, htext, rfl⟩)
  | .object hfirst hinside hlast, herror, hquote, htoken => by
      have hbracket := (eq_none_of_isError herror).2.2.2
      rcases List.mem_cons.1 htoken with rfl | htoken
      · exact absurd hfirst (hbracket _)
      rcases List.mem_append.1 htoken with htoken | htoken
      · exact (hinside.contains_lost herror hquote htoken).object
      · obtain rfl := List.mem_singleton.1 htoken
        exact absurd hlast (hbracket _)
  | .list hfirst hinside hlast, herror, hquote, htoken => by
      have hbracket := (eq_none_of_isError herror).2.2.2
      rcases List.mem_cons.1 htoken with rfl | htoken
      · exact absurd hfirst (hbracket _)
      rcases List.mem_append.1 htoken with htoken | htoken
      · exact (hinside.contains_lost herror hquote htoken).list
      · obtain rfl := List.mem_singleton.1 htoken
        exact absurd hlast (hbracket _)
  | .emptied hliteral, _, _, htoken => .self (.inr ⟨_, hliteral, htoken, rfl⟩)

theorem AreMembers.contains_lost {pairs : List (String × ArgValue)} {tokens : List Token} :
    AreMembers source pairs tokens → token.kind.isError = true → token.standsAtQuote source = true →
      token ∈ tokens → AmongContains (IsLost source token) (pairs.map Prod.snd) tokens
  | .nil, _, _, htoken => by cases htoken
  | .cons hkey hcolon hvalue hmore, herror, hquote, htoken => by
      rcases List.mem_cons.1 htoken with rfl | htoken
      · rw [(eq_none_of_isError herror).2.1] at hkey
        cases hkey
      rcases List.mem_cons.1 htoken with rfl | htoken
      · exact absurd hcolon ((eq_none_of_isError herror).2.2.2 _)
      rcases List.mem_append.1 htoken with htoken | htoken
      · exact .head (hvalue.contains_lost herror hquote htoken) (isInfix_entry _ _ _ _)
      · exact (hmore.contains_lost herror hquote htoken).tail (isInfix_entries _ _ _ _)

theorem AreItems.contains_lost {values : List ArgValue} {tokens : List Token} :
    AreItems source values tokens → token.kind.isError = true → token.standsAtQuote source = true →
      token ∈ tokens → AmongContains (IsLost source token) values tokens
  | .nil, _, _, htoken => by cases htoken
  | .cons hvalue hmore, herror, hquote, htoken => by
      rcases List.mem_append.1 htoken with htoken | htoken
      · exact .head (hvalue.contains_lost herror hquote htoken) (List.prefix_append _ _).isInfix
      · exact (hmore.contains_lost herror hquote htoken).tail (List.suffix_append _ _).isInfix

end

end Lost

/-! ### Brackets of the wrong shape -/

/-- The value is a literal that counts as empty and in which brackets of different shapes close each
other. -/
def IsMisclosed (value : ArgValue) (tokens : List Token) : Prop :=
  ∃ kind : LiteralKind, IsLiteral kind tokens ∧ value = kind.empty ∧ nested [] tokens = false

section Misclosed

variable {source : Option (List Char)}

theorem nested_single {token : Token} (h : token.kind.isPlain = true) : nested [] [token] = true := by
  rw [nested_of_isPlain _ _ h]
  rfl

theorem IsLiteral.nested_or {kind : LiteralKind} {tokens : List Token} (h : IsLiteral kind tokens) :
    nested [] tokens = true ∨ Contains IsMisclosed kind.empty tokens := by
  cases hnested : nested [] tokens with
  | true => exact .inl rfl
  | false => exact .inr (.self ⟨kind, h, rfl, hnested⟩)

mutual

/-- A value is nested by shape unless there is a literal in it that counts as empty. -/
theorem IsValue.nested_or {value : ArgValue} {tokens : List Token} :
    IsValue source value tokens → nested [] tokens = true ∨ Contains IsMisclosed value tokens
  | .word hkind => .inl (nested_single (isPlain_of_value? (by rw [hkind]; rfl)))
  | .variable hdollar hname => .inl (nested_append (nested_single (isPlain_of_mark hdollar rfl rfl))
      (nested_single (isPlain_of_asName? (by rw [hname]; rfl))))
  | .run hrun _ => .inl (nested_of_forall hrun.isPlain)
  | .object hfirst hinside hlast => by
      rcases hinside.nested_or with hnested | hcontains
      · exact .inl (nested_group .brace hfirst hlast hnested)
      · exact .inr hcontains.object
  | .list hfirst hinside hlast => by
      rcases hinside.nested_or with hnested | hcontains
      · exact .inl (nested_group .bracket hfirst hlast hnested)
      · exact .inr hcontains.list
  | .emptied hliteral => hliteral.nested_or

theorem AreMembers.nested_or {pairs : List (String × ArgValue)} {tokens : List Token} :
    AreMembers source pairs tokens →
      nested [] tokens = true ∨ AmongContains IsMisclosed (pairs.map Prod.snd) tokens
  | .nil => .inl rfl
  | .cons hkey hcolon hvalue hmore => by
      rcases hvalue.nested_or with hfirst | hcontains
      · rcases hmore.nested_or with hrest | hcontains
        · refine .inl ?_
          rw [nested_of_isPlain _ _ (isPlain_of_key? (by rw [hkey]; rfl)),
            nested_of_isPlain _ _ (isPlain_of_mark hcolon rfl rfl)]
          exact nested_append hfirst hrest
        · exact .inr (hcontains.tail (isInfix_entries _ _ _ _))
      · exact .inr (.head hcontains (isInfix_entry _ _ _ _))

theorem AreItems.nested_or {values : List ArgValue} {tokens : List Token} :
    AreItems source values tokens → nested [] tokens = true ∨ AmongContains IsMisclosed values tokens
  | .nil => .inl rfl
  | .cons hvalue hmore => by
      rcases hvalue.nested_or with hfirst | hcontains
      · rcases hmore.nested_or with hrest | hcontains
        · exact .inl (nested_append hfirst hrest)
        · exact .inr (hcontains.tail (List.suffix_append _ _).isInfix)
      · exact .inr (.head hcontains (List.prefix_append _ _).isInfix)

end

end Misclosed

/-! ### Arguments -/

/-- A value with the property is among the values of arguments or inside one of them. -/
def ArgumentsContain (property : ArgValue → List Token → Prop) (arguments : Arguments)
    (tokens : List Token) : Prop :=
  ∃ pairs, arguments = Dict.ofList pairs ∧ AmongContains property (pairs.map Prod.snd) tokens

section Arguments

variable {source : Option (List Char)} {token : Token} {arguments : Arguments} {tokens : List Token}

theorem isInfix_group (first : Token) (inside : List Token) (last : Token) :
    inside <:+: first :: (inside ++ [last]) := ⟨[first], [last], by simp⟩

theorem AreArguments.contain_lost (h : AreArguments source arguments tokens)
    (herror : token.kind.isError = true) (hquote : token.standsAtQuote source = true)
    (htoken : token ∈ tokens) : ArgumentsContain (IsLost source token) arguments tokens := by
  obtain ⟨first, pairs, inside, last, rfl, hfirst, hlast, hpairs, rfl⟩ := h.exists_members
  have hbracket := (eq_none_of_isError herror).2.2.2
  rcases List.mem_cons.1 htoken with rfl | htoken
  · exact absurd hfirst (hbracket _)
  rcases List.mem_append.1 htoken with htoken | htoken
  · exact ⟨pairs, rfl, (hpairs.contains_lost herror hquote htoken).mono (isInfix_group _ _ _)⟩
  · obtain rfl := List.mem_singleton.1 htoken
    exact absurd hlast (hbracket _)

theorem AreArguments.nested_or (h : AreArguments source arguments tokens) :
    nested [] tokens = true ∨ ArgumentsContain IsMisclosed arguments tokens := by
  obtain ⟨first, pairs, inside, last, rfl, hfirst, hlast, hpairs, rfl⟩ := h.exists_members
  rcases hpairs.nested_or with hnested | hcontains
  · exact .inl (nested_group .paren hfirst hlast hnested)
  · exact .inr ⟨pairs, rfl, hcontains.mono (isInfix_group _ _ _)⟩

theorem IsFragment.balanced (h : IsFragment source arguments tokens) :
    BracketCount.all.Balanced tokens := by
  rcases h with harguments | ⟨pairs, hpairs, -⟩
  · exact harguments.balanced
  · exact (areMembers_of_areEntries (fun _ _ => key?_of_asName?) hpairs).balanced

theorem IsFragment.contain_lost (h : IsFragment source arguments tokens)
    (herror : token.kind.isError = true) (hquote : token.standsAtQuote source = true)
    (htoken : token ∈ tokens) : ArgumentsContain (IsLost source token) arguments tokens := by
  rcases h with harguments | ⟨pairs, hpairs, rfl⟩
  · exact harguments.contain_lost herror hquote htoken
  · have hmembers := areMembers_of_areEntries (fun _ _ => key?_of_asName?) hpairs
    exact ⟨pairs, rfl, hmembers.contains_lost herror hquote htoken⟩

end Arguments

/-! ### Operations -/

/-- The token is neither faulty nor the end. -/
def IsSound (token : Token) : Prop := token.kind.isError = false ∧ token.kind ≠ .finish

/-- The token belongs to the arguments of one of some fields, which are among some tokens. -/
def InArguments (source : Option (List Char)) (fields : List Field) (tokens : List Token)
    (token : Token) : Prop :=
  ∃ field ∈ fields, ∃ inside, AreArguments source field.arguments inside ∧ inside <:+: tokens ∧
    token ∈ inside

section Operations

variable {source : Option (List Char)} {token : Token} {tokens : List Token}

theorem isSound_of_mark {mark : Punctuator} (h : token.kind = .punctuator mark) : token.IsSound := by
  rw [IsSound, h]
  exact ⟨rfl, by simp⟩

theorem isSound_of_asName? {name : String} (h : token.kind.asName? = some name) :
    token.IsSound := by
  cases hkind : token.kind <;> simp_all [IsSound, TokenKind.isError, TokenKind.asName?]

theorem IsGroup.isSound {opening closing : Punctuator} (h : IsGroup opening closing tokens) :
    ∀ token ∈ tokens, token.IsSound := by
  obtain ⟨first, inside, last, rfl, hfirst, hlast, hinside, hsound⟩ := h
  intro token htoken
  rcases List.mem_cons.1 htoken with rfl | htoken
  · exact isSound_of_mark hfirst
  rcases List.mem_append.1 htoken with htoken | htoken
  · exact ⟨hsound token htoken, BracketCount.ne_finish_of_after hinside token htoken⟩
  · obtain rfl := List.mem_singleton.1 htoken
    exact isSound_of_mark hlast

theorem IsField.sound_or {field : Field} (h : IsField source field tokens) :
    ∀ token ∈ tokens, token.IsSound ∨ InArguments source [field] tokens token := by
  obtain ⟨name, arguments, selection, hname, harguments, hselection, rfl⟩ := h
  intro token htoken
  rcases List.mem_cons.1 htoken with rfl | htoken
  · exact .inl (isSound_of_asName? hname)
  rcases List.mem_append.1 htoken with htoken | htoken
  · rcases harguments with ⟨rfl, -⟩ | harguments
    · cases htoken
    · exact .inr ⟨field, List.mem_singleton_self field, arguments, harguments,
        ⟨[name], selection, by simp⟩, htoken⟩
  · rcases hselection with rfl | hgroup
    · cases htoken
    · exact .inl (hgroup.isSound token htoken)

theorem AreFields.sound_or {fields : List Field} (h : AreFields source fields tokens) :
    ∀ token ∈ tokens, token.IsSound ∨ InArguments source fields tokens token := by
  induction fields generalizing tokens with
  | nil =>
      obtain rfl : tokens = [] := h
      simp
  | cons field rest ih =>
      obtain ⟨first, more, hfirst, hmore, rfl⟩ := h
      intro token htoken
      rcases List.mem_append.1 htoken with htoken | htoken
      · rcases hfirst.sound_or token htoken with hsound | ⟨found, hfound, inside, harguments, hinside,
          hmem⟩
        · exact .inl hsound
        · obtain rfl := List.mem_singleton.1 hfound
          exact .inr ⟨found, List.mem_cons_self, inside, harguments,
            hinside.trans (List.prefix_append _ _).isInfix, hmem⟩
      · rcases ih hmore token htoken with hsound | ⟨found, hfound, inside, harguments, hinside, hmem⟩
        · exact .inl hsound
        · exact .inr ⟨found, List.mem_cons_of_mem _ hfound, inside, harguments,
            hinside.trans (List.suffix_append _ _).isInfix, hmem⟩

theorem AreFields.exists_field {fields : List Field} (h : AreFields source fields tokens) :
    ∀ field ∈ fields, ∃ inside, inside <:+: tokens ∧ IsField source field inside := by
  induction fields generalizing tokens with
  | nil => simp
  | cons first rest ih =>
      obtain ⟨front, more, hfirst, hmore, rfl⟩ := h
      intro field hfield
      rcases List.mem_cons.1 hfield with rfl | hfield
      · exact ⟨front, (List.prefix_append _ _).isInfix, hfirst⟩
      · obtain ⟨inside, hinside, hshape⟩ := ih hmore field hfield
        exact ⟨inside, hinside.trans (List.suffix_append _ _).isInfix, hshape⟩

theorem IsHead.isSound {type : OperationType} {name : Option String} (h : IsHead type name tokens) :
    ∀ token ∈ tokens, token.IsSound := by
  rcases h with ⟨rfl, -, -⟩ | ⟨keyword, word, names, definitions, hkeyword, -, hnames, hgroup, rfl⟩
  · simp
  intro token htoken
  rcases List.mem_cons.1 htoken with rfl | htoken
  · rw [IsSound, hkeyword]
    exact ⟨rfl, by simp⟩
  rcases List.mem_append.1 htoken with htoken | htoken
  · have hname : token.kind.asName? ∈ names.map (·.kind.asName?) := List.mem_map_of_mem htoken
    rw [hnames] at hname
    obtain ⟨text, -, htext⟩ := List.mem_map.1 hname
    exact isSound_of_asName? htext.symm
  · rcases hgroup with rfl | hgroup
    · cases htoken
    · exact hgroup.isSound token htoken

/-- The fields of an operation stand among its tokens. -/
theorem IsOperation.exists_fields {operation : Operation} (h : IsOperation source operation tokens) :
    ∃ inside, inside <:+: tokens ∧ AreFields source operation.fields inside ∧
      ∀ token ∈ tokens, token.IsSound ∨ token ∈ inside := by
  obtain ⟨head, first, inside, last, hhead, hfirst, hfields, hlast, -, rfl⟩ := h
  refine ⟨inside, (isInfix_group _ _ _).trans (List.suffix_append _ _).isInfix, hfields, ?_⟩
  intro token htoken
  rcases List.mem_append.1 htoken with htoken | htoken
  · exact .inl (hhead.isSound token htoken)
  rcases List.mem_cons.1 htoken with rfl | htoken
  · exact .inl (isSound_of_mark hfirst)
  rcases List.mem_append.1 htoken with htoken | htoken
  · exact .inr htoken
  · obtain rfl := List.mem_singleton.1 htoken
    exact .inl (isSound_of_mark hlast)

/-- What is not sound in an operation stands in the arguments of a field. -/
theorem IsOperation.sound_or {operation : Operation} (h : IsOperation source operation tokens) :
    ∀ token ∈ tokens, token.IsSound ∨ InArguments source operation.fields tokens token := by
  obtain ⟨inside, hinside, hfields, hmem⟩ := h.exists_fields
  intro token htoken
  rcases hmem token htoken with hsound | htoken
  · exact .inl hsound
  rcases hfields.sound_or token htoken with hsound | ⟨field, hfield, more, harguments, hmore, htoken⟩
  · exact .inl hsound
  · exact .inr ⟨field, hfield, more, harguments, hmore.trans hinside, htoken⟩

/-- No token of an operation is the end. -/
theorem IsOperation.ne_finish {operation : Operation} (h : IsOperation source operation tokens) :
    ∀ token ∈ tokens, token.kind ≠ .finish := by
  intro token htoken
  rcases h.sound_or token htoken with hsound | ⟨field, -, inside, harguments, -, hinside⟩
  · exact hsound.2
  · exact BracketCount.ne_finish_of_after harguments.balanced token hinside

end Operations

/-- A string without its end stands at a quote. -/
theorem standsAtQuote_of_isOpenString {source : List Char} {token : Token}
    (htoken : token ∈ list source) (hopen : token.kind.isOpenString = true) :
    token.standsAtQuote (some source) = true := by
  obtain ⟨c, rest, hrest, hquote⟩ := exists_quote htoken hopen
  rw [standsAtQuote, Option.bind_some, hrest]
  rcases hquote with rfl | rfl <;> rfl

end Token

/-! ### Whole documents -/

/-- A document is read only if the rule reads all but its end. -/
theorem Rule.reads_of_run {α : Type} {rule : Rule α} {shape : α → List Token → Prop}
    {source : List Char} (h : rule.Yields (.start (some source) (Token.list source)) shape)
    (hfinish : ∀ value taken, shape value taken → ∀ token ∈ taken, token.kind ≠ .finish) {value : α}
    (hrun : ((whole rule).run (.start (some source) (Token.list source))).1 = .ok value) :
    ∃ place, rule.Reads (.start (some source) (Token.list source)) value [Token.finishAt place] := by
  obtain ⟨r, hdone⟩ := done_of_run_whole hrun
  obtain ⟨taken, hpasses, hshape⟩ := h.of_done hdone
  obtain ⟨tokens, place, hlist, -, hall⟩ := Token.exists_finish_list source
  have hsplit : taken ++ r.unread = tokens ++ [Token.finishAt place] :=
    hpasses.unread.symm.trans hlist
  refine ⟨place, r, hdone, ?_, hpasses.agrees⟩
  -- the end is the only token of its kind, so nothing was taken behind it and nothing left before
  cases hunread : r.unread with
  | nil =>
      rw [hunread, List.append_nil] at hsplit
      exact absurd rfl (hfinish value taken hshape (Token.finishAt place) (by simp [hsplit]))
  | cons next rest =>
      rw [hunread] at hsplit
      rcases List.eq_nil_or_concat rest with rfl | ⟨more, last, rfl⟩
      · exact (List.append_inj' hsplit rfl).2
      · have htokens : taken ++ next :: more = tokens := by
          rw [List.concat_eq_append, ← List.cons_append, ← List.append_assoc] at hsplit
          exact (List.append_inj' hsplit rfl).1
        have hnext : next.kind ≠ .finish := hall next (by simp [← htokens])
        obtain ⟨error, herror, -⟩ := (run_whole_of_done hdone hpasses.agrees.errors hunread).2 hnext
        cases hrun.symm.trans herror

/-- A document that is read consists of the tokens that were taken and of its end. -/
theorem Rule.exists_tokens_of_run {α : Type} {rule : Rule α} {shape : α → List Token → Prop}
    {source : List Char} (h : rule.Yields (.start (some source) (Token.list source)) shape)
    (hfinish : ∀ value taken, shape value taken → ∀ token ∈ taken, token.kind ≠ .finish) {value : α}
    (hrun : ((whole rule).run (.start (some source) (Token.list source))).1 = .ok value) :
    ∃ tokens place, Token.list source = tokens ++ [Token.finishAt place] ∧ shape value tokens := by
  obtain ⟨place, r, hdone, hunread, -⟩ := reads_of_run h hfinish hrun
  obtain ⟨taken, hpasses, hshape⟩ := h.of_done hdone
  exact ⟨taken, place, hunread ▸ hpasses.unread, hshape⟩

/-- A document that is accepted consists of the tokens of its operation. -/
theorem Operation.exists_tokens {source : List Char} {operation : Operation}
    (h : parse source = .ok operation) : ∃ tokens place,
      Token.list source = tokens ++ [Token.finishAt place] ∧
        Token.IsOperation (some source) operation tokens :=
  Rule.exists_tokens_of_run Rule.yields_operation (fun _ _ => Token.IsOperation.ne_finish) h

/-- A fragment that is accepted consists of the tokens of its arguments. -/
theorem Arguments.exists_tokens {source : List Char} {arguments : Arguments}
    (h : parse source = .ok arguments) : ∃ tokens place,
      Token.list source = tokens ++ [Token.finishAt place] ∧
        Token.IsFragment (some source) arguments tokens :=
  Rule.exists_tokens_of_run Rule.yields_argumentFragment
    (fun _ _ hfragment => BracketCount.ne_finish_of_after hfragment.balanced) h

/-- Every argument list of an accepted document closes what it opens, and it is nested by shape
unless a literal in it counts as empty. -/
theorem Operation.arguments_nested_or {source : List Char} {operation : Operation}
    (h : parse source = .ok operation) : ∃ tokens place,
      Token.list source = tokens ++ [Token.finishAt place] ∧
        Token.IsOperation (some source) operation tokens ∧
          ∀ field ∈ operation.fields, ∃ name arguments selection,
            name :: (arguments ++ selection) <:+: tokens ∧ name.kind.asName? = some field.name ∧
              (selection = [] ∨ Token.IsGroup .openBrace .closeBrace selection) ∧
                (arguments = [] ∧ field.arguments = [] ∨
                  Token.AreArguments (some source) field.arguments arguments ∧
                    BracketCount.all.Balanced arguments ∧
                      (Token.nested [] arguments = true ∨
                        Token.ArgumentsContain Token.IsMisclosed field.arguments arguments)) := by
  obtain ⟨tokens, place, hlist, hoperation⟩ := exists_tokens h
  refine ⟨tokens, place, hlist, hoperation, ?_⟩
  intro field hfield
  obtain ⟨inside, hinside, hfields, -⟩ := hoperation.exists_fields
  obtain ⟨more, hmore, name, arguments, selection, hname, harguments, hselection, rfl⟩ :=
    hfields.exists_field field hfield
  refine ⟨name, arguments, selection, hmore.trans hinside, hname, hselection, ?_⟩
  rcases harguments with hnone | harguments
  · exact .inl hnone
  · exact .inr ⟨harguments, harguments.balanced, harguments.nested_or⟩

/-- A list that is closed by its own bracket. -/
def closedList : List Char :=
  ['{', ' ', 'f', '(', 'x', ':', ' ', '[', 'a', ']', ')', ' ', '}']

/-- Its argument list stands among its tokens. -/
theorem Operation.arguments_of_closedList : ∃ arguments,
    arguments <:+: Token.list closedList ∧ BracketCount.all.Balanced arguments ∧
      Token.AreArguments (some closedList) [("x", .list [.string "a"])] arguments := by
  have hparse : parse closedList = .ok ⟨.query, none, [⟨"f", [("x", .list [.string "a"])]⟩]⟩ := by rfl
  obtain ⟨tokens, place, hlist, -, hfields⟩ := Operation.arguments_nested_or hparse
  obtain ⟨name, arguments, selection, hinfix, -, -, hcase⟩ := hfields _ (List.mem_singleton_self _)
  rcases hcase with ⟨-, hnone⟩ | ⟨harguments, hbalanced, -⟩
  · cases hnone
  · refine ⟨arguments, ?_, hbalanced, harguments⟩
    have hinside : arguments <:+: name :: (arguments ++ selection) := ⟨[name], selection, by simp⟩
    rw [hlist]
    exact (hinside.trans hinfix).trans (List.prefix_append _ _).isInfix

/-- A list that is closed by the bracket of an object. -/
def misclosedList : List Char :=
  ['{', ' ', 'f', '(', 'x', ':', ' ', '[', 'a', '}', ')', ' ', '}']

/-- It is accepted, although its argument list is not nested by shape. -/
theorem Operation.parse_misclosedList : (parse misclosedList).isOk = true ∧
    ((Token.list misclosedList).drop 2).take 7 <:+: Token.list misclosedList ∧
      (((Token.list misclosedList).drop 2).take 7).map (·.kind) =
        [.punctuator .openParen, .name "x", .punctuator .colon, .punctuator .openBracket, .name "a",
          .punctuator .closeBrace, .punctuator .closeParen] ∧
        Token.nested [] (((Token.list misclosedList).drop 2).take 7) = false := by
  refine ⟨by decide +kernel, ?_, by rfl, by rfl⟩
  exact (List.take_prefix _ _).isInfix.trans (List.drop_suffix _ _).isInfix

/-- A string without its end is lost where it is accepted: it is taken as text by a bare run that does
not begin with it, or it stands in a literal that counts as empty. -/
theorem Token.lost_of_parse {source : List Char} {token : Token} (htoken : token ∈ list source)
    (hopen : token.kind.isOpenString = true) :
    (∀ operation, Operation.parse source = .ok operation → ∃ field ∈ operation.fields, ∃ inside,
      AreArguments (some source) field.arguments inside ∧ inside <:+: list source ∧ token ∈ inside ∧
        ArgumentsContain (IsLost (some source) token) field.arguments inside) ∧
      ∀ arguments, Arguments.parse source = .ok arguments →
        ArgumentsContain (IsLost (some source) token) arguments (list source) := by
  have herror : token.kind.isError = true := by
    cases hkind : token.kind <;> simp_all [TokenKind.isOpenString, TokenKind.isError]
  have hquote := standsAtQuote_of_isOpenString htoken hopen
  -- the token is not the end, so it is among the tokens before it
  have hbefore : ∀ tokens place, list source = tokens ++ [finishAt place] → token ∈ tokens := by
    intro tokens place hlist
    rw [hlist] at htoken
    rcases List.mem_append.1 htoken with htoken | htoken
    · exact htoken
    · obtain rfl := List.mem_singleton.1 htoken
      cases hopen
  constructor
  · intro operation hparse
    obtain ⟨tokens, place, hlist, hoperation⟩ := Operation.exists_tokens hparse
    rcases hoperation.sound_or token (hbefore tokens place hlist) with
      hsound | ⟨field, hfield, inside, harguments, hinside, hmem⟩
    · rw [hsound.1] at herror
      cases herror
    · refine ⟨field, hfield, inside, harguments, ?_, hmem,
        harguments.contain_lost herror hquote hmem⟩
      rw [hlist]
      exact hinside.trans (List.prefix_append _ _).isInfix
  · intro arguments hparse
    obtain ⟨tokens, place, hlist, hfragment⟩ := Arguments.exists_tokens hparse
    obtain ⟨pairs, hpairs, hamong⟩ :=
      hfragment.contain_lost herror hquote (hbefore tokens place hlist)
    refine ⟨pairs, hpairs, hamong.mono ?_⟩
    rw [hlist]
    exact (List.prefix_append _ _).isInfix

/-- A string without its end that touches a name in front of it. -/
def openString : List Char :=
  ['{', ' ', 'f', '(', 'x', ':', ' ', 'a', '"', 'b', '\n', ')', ' ', '}']

/-- It is lost in the run that the name begins. -/
theorem Token.lost_in_openString : (Token.list openString)[6].kind.isOpenString = true ∧
    ∃ inside, AreArguments (some openString) [("x", .string "a\"b\n")] inside ∧
      ArgumentsContain (IsLost (some openString) (Token.list openString)[6])
        [("x", .string "a\"b\n")] inside := by
  have hparse : Operation.parse openString =
      .ok ⟨.query, none, [⟨"f", [("x", .string "a\"b\n")]⟩]⟩ := by rfl
  have hopen : (Token.list openString)[6].kind.isOpenString = true := by rfl
  obtain ⟨field, hfield, inside, harguments, -, -, hlost⟩ :=
    (Token.lost_of_parse (List.getElem_mem _) hopen).1 _ hparse
  obtain rfl := List.mem_singleton.1 hfield
  exact ⟨hopen, inside, harguments, hlost⟩

/-- It is accepted, as text behind the name. -/
theorem Operation.parse_openString : (Token.list openString)[6].kind.isOpenString = true ∧
    parse openString = .ok ⟨.query, none, [⟨"f", [("x", .string "a\"b\n")]⟩]⟩ :=
  ⟨by rfl, by rfl⟩

end CompletionGateway
