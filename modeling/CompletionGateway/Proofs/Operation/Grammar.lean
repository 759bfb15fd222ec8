import CompletionGateway.Proofs.Operation.Apart
import CompletionGateway.Proofs.Operation.Nesting

/-!
# What values and operations are made of

The tokens of a value, of arguments, of a field and of an operation, with what they mean.  An object
or list is closed by its own bracket and holds entries or items; but it may also have been emptied,
and then what stood in it counts only by its brackets, whatever their shape.  A skipped group counts
only by its own brackets, and a bare run only by what touches.  Faulty tokens can stand in emptied
literals and in bare runs, and nowhere else.
-/

namespace CompletionGateway

/-- The value of a token that is a value by itself. -/
def TokenKind.value? : TokenKind → Option ArgValue
  | string text =>
      match Literal.readString text.toList with
      | .ok value => some (.string (String.ofList value))
      | .error _ => none
  | int text | float text =>
      match Decimal.readNumber text.toList with
      | .ok value => if value.isFinite then some (.number value) else none
      | .error _ => none
  | bool value => some (.bool value)
  | null => some .null
  | name text => some (.string text)
  | _ => none

/-- The key of an object's entry that a token stands for. -/
def TokenKind.key? : TokenKind → Option String
  | string text =>
      match Literal.readString text.toList with
      | .ok value => some (String.ofList value)
      | .error _ => none
  | kind => kind.asName?

/-- The shape of the brackets around a literal. -/
def LiteralKind.shape : LiteralKind → Delimiter
  | object => .brace
  | list => .bracket

namespace Token

/-- Whether a quote stands at the place of the token in the document, if the document is known. -/
def standsAtQuote (source : Option (List Char)) (token : Token) : Bool :=
  match source.bind (Text.dropBytes token.span.start.offset) with
  | some (c :: _) => c == '"' || c == '\''
  | _ => false

/-- Whether a bare run can begin with the token.  A string without its end does not begin one. -/
def beginsRun (source : Option (List Char)) (token : Token) : Bool :=
  match token.kind with
  | .error _ _ => !token.standsAtQuote source
  | .punctuator mark =>
      mark == .at || mark == .bang || mark == .ellipsis || mark == .equals
  | .string _ | .finish => false
  | _ => true

/-- What a bare run means: the text that it covers, or, where the document is not known, what its
tokens spell if none of them is faulty. -/
def runText? (source : Option (List Char)) (first : Token) (more : List Token) : Option String :=
  let stop := (more.getLast?.getD first).span.stop
  match source.bind (Text.slice · first.span.start.offset stop.offset) with
  | some text => some (String.ofList text)
  | none =>
      match lexicalError? (first :: more) with
      | some _ => none
      | none => some (String.join ((first :: more).map (·.kind.shown)))

/-- A literal of which only the brackets count: its opening bracket, balanced tokens, and a closing
bracket of any shape. -/
def IsLiteral (kind : LiteralKind) (tokens : List Token) : Prop :=
  ∃ first inside last, tokens = first :: (inside ++ [last]) ∧
    first.kind = .punctuator kind.shape.opening ∧ last.kind.isClosing = true ∧
      BracketCount.all.Balanced inside

/-- A group that is passed: only its own brackets count, and no token in it is faulty. -/
def IsGroup (opening closing : Punctuator) (tokens : List Token) : Prop :=
  ∃ first inside last, tokens = first :: (inside ++ [last]) ∧
    first.kind = .punctuator opening ∧ last.kind = .punctuator closing ∧
      (BracketCount.pair opening closing).Balanced inside ∧
        ∀ token ∈ inside, token.kind.isError = false

section Grammar

variable (source : Option (List Char))

/-- A bare run: tokens that touch each other. -/
structure IsRun (first : Token) (more : List Token) : Prop where
  inside : ∀ token ∈ first :: more, token.kind.endsRun = false
  touching : (first :: more).IsChain fun before token => token.follows before.span = true
  starts : first.beginsRun source = true

mutual

/-- The tokens of one value. -/
inductive IsValue : ArgValue → List Token → Prop
  | word {token : Token} {value : ArgValue} (hkind : token.kind.value? = some value) :
      IsValue value [token]
  | variable {dollar name : Token} {text : String} (hdollar : dollar.kind = .punctuator .dollar)
      (hname : name.kind.asName? = some text) : IsValue (.variable text) [dollar, name]
  | run {first : Token} {more : List Token} {text : String} (hrun : IsRun source first more)
      (htext : runText? source first more = some text) : IsValue (.string text) (first :: more)
  | object {first last : Token} {inside : List Token} {pairs : List (String × ArgValue)}
      (hfirst : first.kind = .punctuator .openBrace) (hinside : AreMembers pairs inside)
      (hlast : last.kind = .punctuator .closeBrace) :
      IsValue (.object (Dict.ofList pairs)) (first :: (inside ++ [last]))
  | list {first last : Token} {inside : List Token} {values : List ArgValue}
      (hfirst : first.kind = .punctuator .openBracket) (hinside : AreItems values inside)
      (hlast : last.kind = .punctuator .closeBracket) :
      IsValue (.list values) (first :: (inside ++ [last]))
  /-- The literal was malformed. -/
  | emptied {kind : LiteralKind} {tokens : List Token} (hliteral : IsLiteral kind tokens) :
      IsValue kind.empty tokens

/-- The tokens of the entries of an object. -/
inductive AreMembers : List (String × ArgValue) → List Token → Prop
  | nil : AreMembers [] []
  | cons {key colon : Token} {name : String} {value : ArgValue} {tokens more : List Token}
      {rest : List (String × ArgValue)} (hkey : key.kind.key? = some name)
      (hcolon : colon.kind = .punctuator .colon) (hvalue : IsValue value tokens)
      (hmore : AreMembers rest more) :
      AreMembers ((name, value) :: rest) (key :: colon :: (tokens ++ more))

/-- The tokens of the items of a list. -/
inductive AreItems : List ArgValue → List Token → Prop
  | nil : AreItems [] []
  | cons {value : ArgValue} {tokens more : List Token} {rest : List ArgValue}
      (hvalue : IsValue value tokens) (hmore : AreItems rest more) :
      AreItems (value :: rest) (tokens ++ more)

end

/-- The tokens of entries whose names stand for themselves in a given way. -/
def AreEntries (key : TokenKind → Option String) : List (String × ArgValue) → List Token → Prop
  | [], tokens => tokens = []
  | (name, value) :: rest, tokens =>
      ∃ first colon inside more, key first.kind = some name ∧ colon.kind = .punctuator .colon ∧
        IsValue source value inside ∧ AreEntries key rest more ∧
          tokens = first :: colon :: (inside ++ more)

/-- The tokens of arguments in parentheses. -/
def AreArguments (arguments : Arguments) (tokens : List Token) : Prop :=
  ∃ first pairs inside last, tokens = first :: (inside ++ [last]) ∧
    first.kind = .punctuator .openParen ∧ last.kind = .punctuator .closeParen ∧
      AreEntries source TokenKind.asName? pairs inside ∧ arguments = Dict.ofList pairs

/-- The tokens of an argument fragment, with or without parentheses. -/
def IsFragment (arguments : Arguments) (tokens : List Token) : Prop :=
  AreArguments source arguments tokens ∨
    ∃ pairs, AreEntries source TokenKind.asName? pairs tokens ∧ arguments = Dict.ofList pairs

/-- The tokens of a field. -/
def IsField (field : Field) (tokens : List Token) : Prop :=
  ∃ name arguments selection, name.kind.asName? = some field.name ∧
    (arguments = [] ∧ field.arguments = [] ∨ AreArguments source field.arguments arguments) ∧
      (selection = [] ∨ IsGroup .openBrace .closeBrace selection) ∧
        tokens = name :: (arguments ++ selection)

/-- The tokens of fields. -/
def AreFields : List Field → List Token → Prop
  | [], tokens => tokens = []
  | field :: rest, tokens =>
      ∃ first more, IsField source field first ∧ AreFields rest more ∧ tokens = first ++ more

end Grammar

/-- The tokens before the fields of an operation. -/
def IsHead (type : OperationType) (name : Option String) (tokens : List Token) : Prop :=
  tokens = [] ∧ type = .query ∧ name = none ∨
    ∃ keyword word names definitions, keyword.kind = .name word ∧
      OperationType.ofKeyword? word = some type ∧
        names.map (·.kind.asName?) = name.toList.map some ∧
          (definitions = [] ∨ IsGroup .openParen .closeParen definitions) ∧
            tokens = keyword :: (names ++ definitions)

/-- The tokens of an operation. -/
def IsOperation (source : Option (List Char)) (operation : Operation) (tokens : List Token) : Prop :=
  ∃ head first inside last, IsHead operation.type operation.name head ∧
    first.kind = .punctuator .openBrace ∧ AreFields source operation.fields inside ∧
      last.kind = .punctuator .closeBrace ∧ operation.fields ≠ [] ∧
        tokens = head ++ first :: (inside ++ [last])

/-! ### Values close what they open -/

section Balanced

variable {source : Option (List Char)} {tokens : List Token} {kind : LiteralKind}

theorem IsRun.isPlain {first : Token} {more : List Token} (h : IsRun source first more) :
    ∀ token ∈ first :: more, token.kind.isPlain = true := by
  intro token htoken
  have hends := h.inside token htoken
  cases hkind : token.kind <;>
    simp_all [TokenKind.isPlain, TokenKind.endsRun, TokenKind.isOpening, TokenKind.isClosing]

theorem IsRun.balanced {first : Token} {more : List Token} (h : IsRun source first more) :
    BracketCount.all.Balanced (first :: more) := by
  refine .of_forall fun token htoken => ?_
  have hplain := h.isPlain token htoken
  simp only [TokenKind.isPlain, Bool.and_eq_true, Bool.not_eq_true', bne_iff_ne] at hplain
  exact ⟨hplain.1.1, hplain.1.2, hplain.2⟩

theorem isOpening_of_eq {token : Token} (h : token.kind = .punctuator kind.shape.opening) :
    token.kind.isOpening = true := by
  rw [h]
  exact kind.shape.isOpening_opening

theorem IsLiteral.balanced (h : IsLiteral kind tokens) : BracketCount.all.Balanced tokens := by
  obtain ⟨first, inside, last, rfl, hfirst, hlast, hinside⟩ := h
  exact .brackets (isOpening_of_eq hfirst) hinside hlast

/-- Where a literal ends is settled by its tokens. -/
theorem IsLiteral.eq_of_append_eq {kind' : LiteralKind} {tokens' back back' : List Token}
    (h : IsLiteral kind tokens) (h' : IsLiteral kind' tokens')
    (heq : tokens ++ back = tokens' ++ back') : tokens = tokens' := by
  obtain ⟨first, inside, last, rfl, -, hlast, hinside⟩ := h
  obtain ⟨first', inside', last', rfl, -, hlast', hinside'⟩ := h'
  simp only [List.cons_append, List.append_assoc, List.nil_append] at heq
  obtain ⟨rfl, hrest⟩ := List.cons.inj heq
  obtain ⟨more, hsplit, hback, -⟩ := BracketCount.exists_more_of_append_eq hinside'
    (BracketCount.all_step_of_isClosing hlast').1 hinside hrest
  -- the other way round too: neither goes on behind the end of the other
  obtain ⟨more', hsplit', -, -⟩ := BracketCount.exists_more_of_append_eq hinside
    (BracketCount.all_step_of_isClosing hlast).1 hinside' hrest.symm
  have hnil : more = [] := by
    have hlength := congrArg List.length hsplit
    rw [hsplit', List.length_append, List.length_append] at hlength
    exact List.length_eq_zero_iff.1 (by omega)
  subst hnil
  obtain ⟨rfl, -⟩ := List.cons.inj hback
  rw [hsplit, List.append_nil]

/-- Tokens that are no brackets are balanced. -/
theorem balanced_of_isPlain {token : Token} (h : token.kind.isPlain = true) :
    BracketCount.all.Balanced [token] := by
  simp only [TokenKind.isPlain, Bool.and_eq_true, Bool.not_eq_true', bne_iff_ne] at h
  exact .single h.1.1 h.1.2 h.2

theorem isPlain_of_asName? {token : Token} (h : token.kind.asName?.isSome = true) :
    token.kind.isPlain = true := by
  cases hkind : token.kind <;>
    simp_all [TokenKind.asName?, TokenKind.isPlain, TokenKind.isOpening, TokenKind.isClosing]

theorem isPlain_of_mark {token : Token} {mark : Punctuator} (h : token.kind = .punctuator mark)
    (hopening : mark.isOpening = false) (hclosing : mark.isClosing = false) :
    token.kind.isPlain = true := by
  rw [h]
  simp [TokenKind.isPlain, TokenKind.isOpening, TokenKind.isClosing, hopening, hclosing]

theorem isPlain_of_key? {token : Token} (h : token.kind.key?.isSome = true) :
    token.kind.isPlain = true := by
  cases hkind : token.kind with
  | string text => rfl
  | _ =>
      rw [← hkind]
      exact isPlain_of_asName? (by simpa [hkind, TokenKind.key?] using h)

theorem isPlain_of_value? {token : Token} (h : token.kind.value?.isSome = true) :
    token.kind.isPlain = true := by
  cases hkind : token.kind <;>
    simp_all [TokenKind.value?, TokenKind.isPlain, TokenKind.isOpening, TokenKind.isClosing]

mutual

/-- A value closes all that it opens. -/
theorem IsValue.balanced {value : ArgValue} {tokens : List Token} :
    IsValue source value tokens → BracketCount.all.Balanced tokens
  | .word hkind => balanced_of_isPlain (isPlain_of_value? (by rw [hkind]; rfl))
  | .variable hdollar hname =>
      (balanced_of_isPlain (isPlain_of_mark hdollar rfl rfl)).append
        (balanced_of_isPlain (isPlain_of_asName? (by rw [hname]; rfl)))
  | .run hrun _ => hrun.balanced
  | .object hfirst hinside hlast =>
      .brackets (by rw [hfirst]; rfl) hinside.balanced (by rw [hlast]; rfl)
  | .list hfirst hinside hlast =>
      .brackets (by rw [hfirst]; rfl) hinside.balanced (by rw [hlast]; rfl)
  | .emptied hliteral => hliteral.balanced

theorem AreMembers.balanced {pairs : List (String × ArgValue)} {tokens : List Token} :
    AreMembers source pairs tokens → BracketCount.all.Balanced tokens
  | .nil => .nil
  | .cons hkey hcolon hvalue hmore =>
      (balanced_of_isPlain (isPlain_of_key? (by rw [hkey]; rfl))).append
        ((balanced_of_isPlain (isPlain_of_mark hcolon rfl rfl)).append
          (hvalue.balanced.append hmore.balanced))

theorem AreItems.balanced {values : List ArgValue} {tokens : List Token} :
    AreItems source values tokens → BracketCount.all.Balanced tokens
  | .nil => .nil
  | .cons hvalue hmore => hvalue.balanced.append hmore.balanced

end

theorem IsValue.ne_nil {value : ArgValue} (h : IsValue source value tokens) : tokens ≠ [] := by
  cases h with
  | word | «variable» | run | object | list => simp
  | emptied hliteral =>
      obtain ⟨first, inside, last, rfl, -⟩ := hliteral
      simp

theorem key?_of_asName? {kind : TokenKind} {name : String} (h : kind.asName? = some name) :
    kind.key? = some name := by
  cases kind with
  | string text => cases h
  | _ => exact h

/-- Entries under names are entries as an object has them. -/
theorem areMembers_of_areEntries {key : TokenKind → Option String}
    (hkey : ∀ kind name, key kind = some name → kind.key? = some name)
    {pairs : List (String × ArgValue)} (h : AreEntries source key pairs tokens) :
    AreMembers source pairs tokens := by
  induction pairs generalizing tokens with
  | nil =>
      obtain rfl : tokens = [] := h
      exact .nil
  | cons pair rest ih =>
      obtain ⟨first, colon, inside, more, hfirst, hcolon, hinside, hmore, rfl⟩ := h
      exact .cons (hkey _ _ hfirst) hcolon hinside (ih hmore)

theorem AreArguments.exists_members {arguments : Arguments}
    (h : AreArguments source arguments tokens) :
    ∃ first pairs inside last, tokens = first :: (inside ++ [last]) ∧
      first.kind = .punctuator .openParen ∧ last.kind = .punctuator .closeParen ∧
        AreMembers source pairs inside ∧ arguments = Dict.ofList pairs := by
  obtain ⟨first, pairs, inside, last, htokens, hfirst, hlast, hpairs, hall⟩ := h
  exact ⟨first, pairs, inside, last, htokens, hfirst, hlast,
    areMembers_of_areEntries (fun _ _ => key?_of_asName?) hpairs, hall⟩

theorem AreArguments.balanced {arguments : Arguments} (h : AreArguments source arguments tokens) :
    BracketCount.all.Balanced tokens := by
  obtain ⟨first, pairs, inside, last, rfl, hfirst, hlast, hpairs, -⟩ := h.exists_members
  exact .brackets (by rw [hfirst]; rfl) hpairs.balanced (by rw [hlast]; rfl)

end Balanced

end Token

end CompletionGateway
