import CompletionGateway.Proofs.Operation.RoundTrip
import CompletionGateway.Proofs.Operation.Soundness
import CompletionGateway.Proofs.Operation.ValueParallel

/-!
# Arguments with and without parentheses

Arguments without parentheses end with the document, arguments in parentheses end with the closing
one.  Put in parentheses, arguments read the same, for both readings end where the common tokens do:
if one of them went beyond these, as for the bracket of a malformed literal, the end that it needs
would be gone.
-/

namespace CompletionGateway

variable {o : Overlap}

namespace Outcome

variable {α : Type}

/-- The rule is done with a value and leaves so many tokens. -/
def DoneAt (length : Nat) (value : α) (outcome : Outcome α) : Prop :=
  ∃ s, outcome = .done value s ∧ s.unread.length = length

theorem doneAt_done (s : Reading) (value value' : α) :
    (done value s).DoneAt s.unread.length value' ↔ value = value' := by
  constructor
  · rintro ⟨_, hdone, -⟩
    cases hdone
    rfl
  · rintro rfl
    exact ⟨s, rfl, rfl⟩

theorem not_doneAt_failed (s : Reading) (length : Nat) (value : α) :
    ¬ (failed s).DoneAt length value := by
  rintro ⟨_, hdone, -⟩
  cases hdone

theorem Leaves.not_doneAt {outcome : Outcome α} {length taken : Nat}
    (h : outcome.Leaves length taken) (hpos : 0 < taken) (value : α) :
    ¬ outcome.DoneAt length value := by
  rintro ⟨s, rfl, hlength⟩
  simp only [Leaves] at h
  omega

end Outcome

namespace Rule

variable {α β : Type} {size taken : Nat}

/-! ### Rules that end with the common tokens -/

/-- The one rule is done at the end of the common tokens exactly if the other one is, and with the
same value. -/
def EndAlike (o : Overlap) (size : Nat) (rule rule' : Rule α) : Prop :=
  ∀ {front front' : List Token} {s s' : Reading}, s.Parallel o front front' s' →
    front.length ≤ size → ∀ value,
      (rule s).DoneAt o.back.length value ↔ (rule' s').DoneAt o.back'.length value

/-- A rule that goes beyond the common tokens does not come back to their end. -/
theorem EndAlike.bind {first first' : Rule α} {second second' : α → Rule β}
    (hfirst : Parallel o size taken first first') (hpos : 0 < taken)
    (hsecond : ∀ value, Consumes 0 (second value)) (hsecond' : ∀ value, Consumes 0 (second' value))
    (h : ∀ value, EndAlike o (size - taken) (second value) (second' value)) :
    EndAlike o size (first >>= second) (first' >>= second') := by
  intro front front' s s' hs hfront value
  have hboth := hfirst.apply hs hfront
  have hleaves := hfirst.consumes s
  rw [bind_apply, bind_apply]
  generalize first s = outcome at hboth hleaves
  generalize first' s' = outcome' at hboth
  cases hboth with
  | @done found after after' r r' hstate _ _ =>
      rw [Outcome.Leaves, hstate.length_unread, hs.length_unread] at hleaves
      exact h found hstate (by omega) value
  | failed => exact iff_of_false (Outcome.not_doneAt_failed _ _ _) (Outcome.not_doneAt_failed _ _ _)
  | beyond hleft hleft' =>
      exact iff_of_false ((leaves_then hleft hsecond).not_doneAt hpos value)
        ((leaves_then hleft' hsecond').not_doneAt hpos value)

/-- A rule that is done has taken what it has not left. -/
theorem doneAt_iff_reads {rule : Rule α} {s : Reading} {shape : α → List Token → Prop}
    (h : rule.Yields s shape) {front back : List Token} (hunread : s.unread = front ++ back)
    (value : α) : (rule s).DoneAt back.length value ↔ rule.Reads s value back := by
  constructor
  · rintro ⟨r, hdone, hlength⟩
    obtain ⟨taken, hpasses, -⟩ := h.of_done hdone
    have hsplit := hpasses.unread.symm.trans hunread
    exact ⟨r, hdone, (List.append_inj' hsplit hlength).2, hpasses.agrees⟩
  · rintro ⟨r, hdone, hback, -⟩
    exact ⟨r, hdone, congrArg List.length hback⟩

/-! ### Arguments -/

/-- One argument. -/
def argument : Rule (String × ArgValue) := do
  let name ← argumentName
  let _ ← expect .colon
  let found ← value
  return (name, found)

theorem argument_bind (second : String × ArgValue → Rule α) (s : Reading) :
    (argument >>= second) s =
      (do
        let name ← argumentName
        let _ ← expect .colon
        let found ← value
        second (name, found)) s := by
  simp only [argument, bind_apply]
  cases argumentName s with
  | failed => rfl
  | done name r =>
      dsimp only
      cases expect .colon r with
      | failed => rfl
      | done _ r =>
          dsimp only
          cases value r <;> rfl

theorem parallel_argument : Parallel o size 1 argument argument :=
  parallel_argumentName.bind fun name => .expect_bind .colon (parallel_value.map (name, ·))

theorem consumes_argument : Consumes 1 argument :=
  (parallel_argument : Parallel ⟨[], [], [], []⟩ 0 1 argument argument).consumes

theorem looseArguments_succ (limit : Nat) (before : Arguments) {s : Reading}
    (h : s.toTokenStream.atEnd = false) : looseArguments (limit + 1) before s =
      (argument >>= fun pair => looseArguments limit (Dict.insert before pair.1 pair.2)) s := by
  rw [looseArguments_of_more limit before h, argument_bind]

theorem argumentEntries_succ (limit : Nat) (before : Arguments) {s : Reading}
    (h : s.toTokenStream.atEnd = false) (hclosing : s.nextKind? ≠ some (.punctuator .closeParen)) :
    entries .closeParen .paren argumentName value (limit + 1) before s =
      (argument >>= fun pair =>
        entries .closeParen .paren argumentName value limit (Dict.insert before pair.1 pair.2)) s := by
  rw [entries_of_entry .paren argumentName value limit before hclosing h, argument_bind]

/-- A closing parenthesis is no argument. -/
theorem argument_of_close {s : Reading} {close : Token} {behind : List Token}
    (hunread : s.unread = close :: behind) (hclose : close.kind = .punctuator .closeParen) :
    argument s = .failed (s.record (s.wrongNext ["name"])) := by
  have hname : close.kind.asName? = none := by
    rw [hclose]
    rfl
  exact bind_of_failed (bind_of_failed (expectName_of_none hunread hname))

theorem consumes_looseArguments (limit : Nat) (before : Arguments) :
    Consumes 0 (looseArguments limit before) := by
  induction limit generalizing before with
  | zero => exact consumes_pure before
  | succ limit ih =>
      intro s
      cases hend : s.toTokenStream.atEnd with
      | true =>
          rw [looseArguments_of_end (limit + 1) before hend]
          exact consumes_pure before s
      | false =>
          rw [looseArguments_succ limit before hend]
          exact (consumes_argument.bind fun pair => ih (Dict.insert before pair.1 pair.2)).mono
            (Nat.zero_le _) s

/-- Where the one document ends and in the other one the parentheses do, both readings are done. -/
theorem endAlike_arguments {finish close : Token} {behind : List Token} (hback : o.back = [finish])
    (hfinish : finish.kind = .finish) (hback' : o.back' = close :: behind)
    (hclose : close.kind = .punctuator .closeParen) {left limit limit' : Nat}
    (hlimit : left < limit) (hlimit' : left < limit') (before : Arguments) :
    EndAlike o left (looseArguments limit before)
      (entries .closeParen .paren argumentName value limit' before) := by
  -- each argument takes tokens, so the limits are not reached before the tokens are spent
  induction limit generalizing left limit' before with
  | zero => omega
  | succ limit ih =>
      obtain ⟨limit', rfl⟩ := Nat.exists_eq_add_one_of_ne_zero (by omega : limit' ≠ 0)
      intro front front' s s' hs hfront result
      have hcommon := hs.common
      cases hcommon with
      | nil =>
          have hunread : s.unread = finish :: [] := by rw [hs.unread, hback, List.nil_append]
          have hunread' : s'.unread = close :: behind := by rw [hs.unread', hback', List.nil_append]
          have hend : s.toTokenStream.atEnd = true := by
            rw [Reading.atEnd_of_unread hunread, hfinish, beq_self_eq_true]
          have hclosing : s'.nextKind? = some (.punctuator .closeParen) := by
            rw [Reading.nextKind?_of_unread hunread', hclose]
          rw [looseArguments_of_end (limit + 1) before hend,
            entries_of_closing .paren argumentName value limit' before hclosing, hback, hback',
            ← hunread, ← hunread', Outcome.doneAt_done, Outcome.doneAt_done]
      | @cons token token' rest rest' first touch others =>
          have hend : s.toTokenStream.atEnd = false := by
            rw [Reading.atEnd_of_unread hs.unread_cons]
            exact beq_false_of_ne hs.kind_ne_finish
          have hend' : s'.toTokenStream.atEnd = false := by
            rw [Reading.atEnd_of_unread hs.unread_cons']
            exact beq_false_of_ne hs.kind_ne_finish'
          by_cases hclosing : s'.nextKind? = some (.punctuator .closeParen)
          · -- a closing parenthesis among the common tokens stops both readings too early
            have hclose' := hclosing
            rw [Reading.nextKind?_of_unread hs.unread_cons', Option.some.injEq] at hclose'
            have hargument := argument_of_close hs.unread_cons ((hs.kind_iff _).2 hclose')
            rw [looseArguments_succ limit before hend, bind_of_failed hargument,
              entries_of_closing .paren argumentName value limit' before hclosing]
            refine iff_of_false (Outcome.not_doneAt_failed _ _ _) ?_
            rintro ⟨r, hdone, hlength⟩
            cases hdone
            rw [hs.unread', List.length_append, List.length_cons] at hlength
            omega
          · have hpos : 0 < left := Nat.lt_of_lt_of_le (Nat.succ_pos _) hfront
            have hmore : EndAlike o left _ _ := EndAlike.bind parallel_argument Nat.one_pos
              (fun pair => consumes_looseArguments limit (Dict.insert before pair.1 pair.2))
              (fun pair => consumes_entries .closeParen .paren
                (parallel_argumentName : Parallel o 0 1 argumentName argumentName).consumes
                (parallel_value : Parallel o 0 1 value value).consumes limit'
                (Dict.insert before pair.1 pair.2))
              fun pair => ih (by omega) (by omega) (Dict.insert before pair.1 pair.2)
            rw [looseArguments_succ limit before hend, argumentEntries_succ limit' before hend' hclosing]
            exact hmore hs hfront result

/-- A group is done if what stands in its brackets is done at the closing one. -/
theorem group_doneAt_iff {body : Rule α} {shape : α → List Token → Prop} {mark mark' : Punctuator}
    {enclosure : Enclosure} {s : Reading} {opening close : Token} {front behind : List Token}
    (hunread : s.unread = opening :: (front ++ close :: behind))
    (hopening : opening.kind = .punctuator mark) (hclose : close.kind = .punctuator mark')
    (hbody : body.Yields (s.advance.push enclosure opening.span) shape) (result : α) :
    ((do
      let _ ← openGroup mark enclosure
      let found ← body
      let _ ← closeGroup mark'
      return found : Rule α) s).DoneAt behind.length result ↔
        (body (s.advance.push enclosure opening.span)).DoneAt (close :: behind).length result := by
  have hinside : (s.advance.push enclosure opening.span).unread = front ++ close :: behind :=
    Reading.unread_advance hunread
  have hreads := doneAt_iff_reads hbody hinside result
  rw [bind_of_done (openGroup_of_unread hunread hopening)]
  cases hrule : body (s.advance.push enclosure opening.span) with
  | failed r =>
      rw [bind_of_failed hrule]
      exact iff_of_false (Outcome.not_doneAt_failed _ _ _) (Outcome.not_doneAt_failed _ _ _)
  | done found r =>
      rw [bind_of_done hrule]
      rw [hrule] at hreads
      constructor
      · rintro ⟨s', hdone, hlength⟩
        cases hclosed : closeGroup mark' r with
        | failed r' =>
            rw [bind_of_failed hclosed] at hdone
            cases hdone
        | done token r' =>
            rw [bind_of_done hclosed] at hdone
            cases hdone
            obtain ⟨rest, hrest, -, rfl⟩ := (meets_closeGroup 0 mark').of_done hclosed
            have hleft : r.advance.pop.unread = rest := Reading.unread_advance hrest
            refine ⟨r, rfl, ?_⟩
            rw [hrest, List.length_cons, List.length_cons, ← hleft, hlength]
      · intro hdone
        obtain ⟨r', hsame, hback, -⟩ := hreads.1 hdone
        cases hrule.symm.trans hsame
        rw [bind_of_done (closeGroup_of_unread hback hclose)]
        exact ⟨r.advance.pop, rfl, congrArg List.length (Reading.unread_advance hback)⟩

/-- What stands in the parentheses of arguments. -/
def argumentEntries : Rule Arguments := fun s =>
  entries .closeParen .paren argumentName value (s.unread.length + 1) [] s

theorem yields_argumentEntries (s : Reading) :
    argumentEntries.Yields s fun found taken => ∃ pairs, found = Dict.insertAll [] pairs ∧
      Token.AreEntries s.source TokenKind.asName? pairs taken :=
  .congr rfl (takes_entries takes_argumentName
    (fun _ hname => Token.balanced_of_isPlain (Token.isPlain_of_asName? hname)) takes_value
    .closeParen .paren (s.unread.length + 1) [] (Nat.lt_succ_self _)).yields

/-- A rule reads a whole document if it is done at its end. -/
theorem run_whole_eq_ok_iff {rule : Rule α} {shape : α → List Token → Prop} {source : List Char}
    (h : rule.Yields (.start (some source) (Token.list source)) shape)
    (hfinish : ∀ value taken, shape value taken → ∀ token ∈ taken, token.kind ≠ .finish) (value : α) :
    ((whole rule).run (.start (some source) (Token.list source))).1 = .ok value ↔
      (rule (.start (some source) (Token.list source))).DoneAt 1 value := by
  constructor
  · intro hrun
    obtain ⟨place, r, hdone, hunread, -⟩ := reads_of_run h hfinish hrun
    exact ⟨r, hdone, congrArg List.length hunread⟩
  · intro hdone
    obtain ⟨front, place, hlist, -⟩ := Token.exists_finish_list source
    exact run_whole_of_reads ((doneAt_iff_reads h hlist value).1 hdone) rfl rfl

/-- Arguments without parentheses end as they do where they recur in parentheses. -/
theorem looseArguments_doneAt_iff {source text : List Char} {front front' behind : List Token}
    {close : Token} (h : Token.Recurs source text front front' (close :: behind))
    (hclose : close.kind = .punctuator .closeParen) {s' : Reading}
    (hunread' : s'.unread = front' ++ close :: behind) (hdepth' : s'.depth = 0)
    (hsource' : s'.source = some text) (result : Arguments) :
    (looseArguments ((Token.list source).length + 1) []
      (.start (some source) (Token.list source))).DoneAt 1 result ↔
        (argumentEntries s').DoneAt (close :: behind).length result := by
  obtain ⟨place, hlist⟩ := h.list
  let o : Overlap := ⟨source, text, [Token.finishAt place], close :: behind⟩
  have hs : (Reading.start (some source) (Token.list source)).Parallel o front front' s' := by
    refine ⟨hlist, hunread', h.alike, h.unfinished, ?_, ?_, hdepth'.symm, rfl, hsource'⟩
    · intro last _ next hnext
      obtain rfl : Token.finishAt place = next := by simpa [o] using hnext
      exact Bool.and_false _
    · intro last hlast next hnext
      rw [h.apart last hlast next (List.mem_of_mem_head? hnext), Bool.false_and]
  have hlimit : front.length < (Token.list source).length + 1 := by
    rw [hlist, List.length_append]
    omega
  have hlimit' : front.length < s'.unread.length + 1 := by
    rw [hunread', List.length_append, h.alike.length_eq]
    omega
  exact endAlike_arguments rfl rfl rfl hclose hlimit hlimit' [] hs (Nat.le_refl _) result

/-! ### Documents around arguments -/

section Document

variable {s : Reading} {name opening last : Token} {inside rest : List Token} {field : String}
variable {arguments : Arguments}

/-- A field with arguments and nothing else. -/
theorem field_reads_arguments (hunread : s.unread = name :: opening :: inside)
    (hname : name.kind.asName? = some field) (hopening : opening.kind = .punctuator .openParen)
    (harguments : ∀ s', s'.unread = opening :: inside → s.Agrees s' →
      argumentList.Reads s' arguments rest)
    (hrest : StartsOnlyWith [.closeBrace] rest) : Rule.field.Reads s ⟨field, arguments⟩ rest := by
  refine (reads_advance hunread (expectName_of_unread hunread hname)).bind
    fun s₁ hunread₁ hagrees₁ => ?_
  have hcolon : StartsOnlyWith [.openParen] s₁.unread := by
    rw [hunread₁]
    intro token htoken mark hmark
    obtain rfl : opening = token := by simpa using htoken
    simpa using hmark.symm.trans hopening
  refine .congr (nextIs_bind_of_startsOnlyWith _ hcolon (by decide)) ?_
  have hgroup := harguments s₁ hunread₁ hagrees₁
  refine (Reads.congr (nextIs_bind_of_eq _ hunread₁ hopening) hgroup).bind
    fun s₂ hunread₂ _ => ?_
  refine (noDirective_reads (hunread₂ ▸ hrest) (by decide)).bind fun s₃ hunread₃ _ => ?_
  rw [hunread₂] at hunread₃
  exact .congr (nextIs_bind_of_startsOnlyWith _ (hunread₃ ▸ hrest) (by decide))
    ⟨s₃, rfl, hunread₃, .refl s₃⟩

/-- A query without a name that has one such field. -/
theorem operation_reads_arguments {brace : Token}
    (hunread : s.unread = brace :: name :: opening :: (inside ++ last :: rest))
    (hbrace : brace.kind = .punctuator .openBrace) (hname : name.kind.asName? = some field)
    (hopening : opening.kind = .punctuator .openParen)
    (hlast : last.kind = .punctuator .closeBrace)
    (harguments : ∀ s', s'.unread = opening :: (inside ++ last :: rest) → s'.depth = s.depth →
      s'.source = s.source → argumentList.Reads s' arguments (last :: rest)) :
    operation.Reads s ⟨.query, none, [⟨field, arguments⟩]⟩ rest := by
  have hhead : operationHead.Reads s (.query, none) s.unread := by
    refine ⟨s, ?_, rfl, .refl s⟩
    rw [operationHead, ask_bind, Reading.nextKind?_of_unread hunread, hbrace]
    rfl
  have hends : StartsOnlyWith [.closeBrace] (last :: rest) := by
    intro token htoken mark hmark
    obtain rfl : last = token := by simpa using htoken
    simpa using hmark.symm.trans hlast
  refine hhead.bind fun s₁ hunread₁ hagrees₁ => ?_
  rw [hunread] at hunread₁
  have hfields : ∀ s₂ : Reading, s₂.unread = name :: opening :: (inside ++ last :: rest) →
      s₂.depth = s.depth → s₂.source = s.source →
        (fields (s₂.unread.length + 1)).Reads s₂ [⟨field, arguments⟩] (last :: rest) := by
    intro s₂ hunread₂ hdepth₂ hsource₂
    refine .congr (fields_of_asName? _ (Reading.nextKind?_of_unread hunread₂) hname) ?_
    refine (field_reads_arguments hunread₂ hname hopening (fun s' hunread' hagrees' =>
      harguments s' hunread' (hagrees'.depth.trans hdepth₂) (hagrees'.source.trans hsource₂))
        hends).bind fun s₃ hunread₃ _ => ?_
    rw [hunread₂, List.length_cons]
    refine ⟨s₃, ?_, hunread₃, .refl s₃⟩
    rw [fields, bind_apply, ask_bind, Reading.nextKind?_of_unread hunread₃, hlast]
    rfl
  have hbody : operationBody.Reads s₁ [⟨field, arguments⟩] rest := by
    have hagrees₂ := s₁.agrees_advance
    have hbraces : s₁.unread = brace :: ((name :: opening :: inside) ++ last :: rest) := hunread₁
    have hinside := hfields (s₁.advance.push .operationBody brace.span)
      (Reading.unread_advance hunread₁) (hagrees₂.depth.trans hagrees₁.depth)
      (hagrees₂.source.trans hagrees₁.source)
    refine .group hbraces hbrace hlast ?_ (.congr rfl hinside)
    rfl
  exact hbody.bind fun s₂ hunread₂ _ => ⟨_, rfl, hunread₂, ⟨rfl, rfl, rfl, rfl⟩⟩

end Document

end Rule

/-! ### Fragments -/

theorem TokenKind.eq_punctuator_of_withoutNotes {kind : TokenKind} {mark : Punctuator}
    (h : kind.withoutNotes = .punctuator mark) : kind = .punctuator mark := by
  cases kind <;> first | exact h | cases h

/-- A lexeme that is no fault comes before the tokens behind it. -/
theorem Token.exists_lexed_cons (cursor : Cursor) {gap taken rest text : List Char} {c : Char}
    {kind : TokenKind} {tokens : List Token} (hgap : IsTrivia gap) (hc : opensTrivia c = false)
    (hscan : Lexeme.scan c text = ⟨.ok kind, taken, rest⟩)
    (h : Lexed ((cursor.walk gap).walk taken) rest tokens) :
    ∃ token, token.kind = kind ∧ Lexed cursor (gap ++ c :: text) (token :: tokens) := by
  have hmore : Lexed ((cursor.walk gap).walk (Lexeme.scan c text).taken)
      (Lexeme.scan c text).rest tokens := by
    rwa [hscan]
  refine ⟨_, ?_, .lexeme hgap hc rfl rfl hmore⟩
  simp only [Lexeme.kindAt, hscan]

namespace Arguments

/-- A fragment in parentheses, the closing one on a line of its own. -/
def inParentheses (source : List Char) : List Char := '(' :: (source ++ ['\n', ')'])

/-- A document whose only field has a fragment as its arguments. -/
def asDocument (source : List Char) : List Char :=
  ['{', ' ', 'f', '('] ++ (source ++ ['\n', ')', ' ', '}'])

variable {source : List Char}

/-- In parentheses a fragment has its own tokens between those of the parentheses. -/
theorem exists_list_inParentheses
    (hstrings : ∀ token ∈ Token.list source, token.kind.isOpenString = false) :
    ∃ front front' opening close finish,
      Token.Recurs source (inParentheses source) front front' [close, finish] ∧
        Token.list (inParentheses source) = opening :: (front' ++ [close, finish]) ∧
          opening.kind = .punctuator .openParen ∧ close.kind = .punctuator .closeParen := by
  obtain ⟨front, front', behind, hrecurs, hlexed, hkinds⟩ :=
    Token.exists_recurs hstrings ['('] [')']
  have hmarks : (Token.list [')']).map (·.kind.withoutNotes) =
      [.punctuator .closeParen, .finish] := by rfl
  rw [hmarks] at hkinds
  obtain ⟨close, behind, rfl, hclose, hkinds⟩ := List.map_eq_cons_iff.1 hkinds
  obtain ⟨finish, behind, rfl, -, hnil⟩ := List.map_eq_cons_iff.1 hkinds
  obtain rfl := List.map_eq_nil_iff.1 hnil
  obtain ⟨opening, hopening, hlist⟩ :=
    Token.exists_lexed_cons (c := '(') .start .nil rfl rfl hlexed
  exact ⟨front, front', opening, close, finish, hrecurs, hlist.listFrom_eq (Nat.le_refl _), hopening,
    TokenKind.eq_punctuator_of_withoutNotes hclose⟩

/-- As the arguments of a field a fragment has its own tokens between those of the document. -/
theorem exists_list_asDocument
    (hstrings : ∀ token ∈ Token.list source, token.kind.isOpenString = false) :
    ∃ front front' brace name opening close last finish,
      Token.Recurs source (asDocument source) front front' [close, last, finish] ∧
        Token.list (asDocument source) =
          brace :: name :: opening :: (front' ++ [close, last, finish]) ∧
            brace.kind = .punctuator .openBrace ∧ name.kind = .name "f" ∧
              opening.kind = .punctuator .openParen ∧ close.kind = .punctuator .closeParen ∧
                last.kind = .punctuator .closeBrace := by
  obtain ⟨front, front', behind, hrecurs, hlexed, hkinds⟩ :=
    Token.exists_recurs hstrings ['{', ' ', 'f', '('] [')', ' ', '}']
  have hmarks : (Token.list [')', ' ', '}']).map (·.kind.withoutNotes) =
      [.punctuator .closeParen, .punctuator .closeBrace, .finish] := by rfl
  rw [hmarks] at hkinds
  obtain ⟨close, behind, rfl, hclose, hkinds⟩ := List.map_eq_cons_iff.1 hkinds
  obtain ⟨last, behind, rfl, hlast, hkinds⟩ := List.map_eq_cons_iff.1 hkinds
  obtain ⟨finish, behind, rfl, -, hnil⟩ := List.map_eq_cons_iff.1 hkinds
  obtain rfl := List.map_eq_nil_iff.1 hnil
  -- the tokens in front of the fragment, from the last one to the first one
  obtain ⟨opening, hopening, hlist⟩ :=
    Token.exists_lexed_cons (c := '(') (Cursor.start.walk ['{', ' ', 'f']) .nil rfl rfl hlexed
  have hscan : ∀ behind, Lexeme.scan 'f' ('(' :: behind) = ⟨.ok (.name "f"), ['f'], '(' :: behind⟩ :=
    fun _ => rfl
  obtain ⟨name, hname, hlist⟩ := Token.exists_lexed_cons (Cursor.start.walk ['{'])
    (.separator (c := ' ') rfl .nil) rfl (hscan _) hlist
  obtain ⟨brace, hbrace, hlist⟩ :=
    Token.exists_lexed_cons (c := '{') .start .nil rfl rfl hlist
  exact ⟨front, front', brace, name, opening, close, last, finish, hrecurs,
    hlist.listFrom_eq (Nat.le_refl _), hbrace, hname, hopening,
    TokenKind.eq_punctuator_of_withoutNotes hclose, TokenKind.eq_punctuator_of_withoutNotes hlast⟩

/-- A fragment that does not begin with a parenthesis is read if arguments without parentheses end at
its end. -/
theorem parse_eq_ok_iff_loose {arguments : Arguments}
    (hfirst : ∀ first ∈ (Token.list source).head?, first.kind ≠ .punctuator .openParen) :
    parse source = .ok arguments ↔
      (Rule.looseArguments ((Token.list source).length + 1) []
        (.start (some source) (Token.list source))).DoneAt 1 arguments := by
  have hrule : Rule.argumentFragment (.start (some source) (Token.list source)) =
      Rule.looseArguments ((Token.list source).length + 1) []
        (.start (some source) (Token.list source)) := by
    have hnext : (Reading.start (some source) (Token.list source)).nextKind? ≠
        some (.punctuator .openParen) := by
      intro hopening
      obtain ⟨first, hmem, hkind⟩ := Option.map_eq_some_iff.1 hopening
      exact hfirst first hmem hkind
    rw [Rule.argumentFragment, Rule.nextIs_bind, beq_false_of_ne hnext]
    rfl
  rw [← hrule]
  exact Rule.run_whole_eq_ok_iff Rule.yields_argumentFragment
    (fun _ _ hfragment => BracketCount.ne_finish_of_after hfragment.balanced) arguments

theorem parse_eq_ok_iff_entries {text : List Char} {arguments : Arguments}
    {opening close finish : Token} {front : List Token}
    (hlist : Token.list text = opening :: (front ++ [close, finish]))
    (hopening : opening.kind = .punctuator .openParen)
    (hclose : close.kind = .punctuator .closeParen) :
    parse text = .ok arguments ↔ (Rule.argumentEntries ((Reading.start (some text)
      (Token.list text)).advance.push .fieldArguments opening.span)).DoneAt 2 arguments := by
  have hunread : (Reading.start (some text) (Token.list text)).unread =
      opening :: (front ++ [close, finish]) := hlist
  have hrule : Rule.argumentFragment (.start (some text) (Token.list text)) =
      Rule.argumentList (.start (some text) (Token.list text)) :=
    Rule.nextIs_bind_of_eq _ hunread hopening
  have hgroup : (Rule.argumentList (.start (some text) (Token.list text))).DoneAt 1 arguments ↔ _ :=
    Rule.group_doneAt_iff hunread hopening hclose (Rule.yields_argumentEntries _) arguments
  refine Iff.trans ?_ hgroup
  rw [← hrule]
  exact Rule.run_whole_eq_ok_iff Rule.yields_argumentFragment
    (fun _ _ hfragment => BracketCount.ne_finish_of_after hfragment.balanced) arguments

theorem loose_iff_parse_inParentheses {arguments : Arguments}
    (hstrings : ∀ token ∈ Token.list source, token.kind.isOpenString = false) :
    (Rule.looseArguments ((Token.list source).length + 1) []
      (.start (some source) (Token.list source))).DoneAt 1 arguments ↔
        parse (inParentheses source) = .ok arguments := by
  obtain ⟨front, front', opening, close, finish, hrecurs, hlist, hopening, hclose⟩ :=
    exists_list_inParentheses hstrings
  let s : Reading := .start (some (inParentheses source)) (Token.list (inParentheses source))
  have hunread : (s.advance.push .fieldArguments opening.span).unread = front' ++ [close, finish] :=
    Reading.unread_advance hlist
  rw [parse_eq_ok_iff_entries hlist hopening hclose]
  exact Rule.looseArguments_doneAt_iff hrecurs hclose hunread s.agrees_advance.depth
    s.agrees_advance.source arguments

theorem parse_asDocument_of_loose {arguments : Arguments}
    (hstrings : ∀ token ∈ Token.list source, token.kind.isOpenString = false)
    (hloose : (Rule.looseArguments ((Token.list source).length + 1) []
      (.start (some source) (Token.list source))).DoneAt 1 arguments) :
    Operation.parse (asDocument source) = .ok ⟨.query, none, [⟨"f", arguments⟩]⟩ := by
  obtain ⟨front, front', brace, name, opening, close, last, finish, hrecurs, hlist, hbrace, hname,
    hopening, hclose, hlast⟩ := exists_list_asDocument hstrings
  let s : Reading := .start (some (asDocument source)) (Token.list (asDocument source))
  have hunread : s.unread = brace :: name :: opening :: ((front' ++ [close]) ++ last :: [finish]) := by
    rw [List.append_assoc]
    exact hlist
  have harguments : ∀ s', s'.unread = opening :: ((front' ++ [close]) ++ last :: [finish]) →
      s'.depth = s.depth → s'.source = s.source →
        Rule.argumentList.Reads s' arguments (last :: [finish]) := by
    intro s' hunread' hdepth' hsource'
    have hsplit : s'.unread = (opening :: (front' ++ [close])) ++ [last, finish] := hunread'
    rw [List.append_assoc] at hunread'
    have hinside : (s'.advance.push .fieldArguments opening.span).unread =
        front' ++ [close, last, finish] := Reading.unread_advance hunread'
    have hagrees := s'.agrees_advance
    have hentries := (Rule.looseArguments_doneAt_iff hrecurs hclose hinside
      (hagrees.depth.trans hdepth') (hagrees.source.trans hsource') arguments).1 hloose
    have hgroup : (Rule.argumentList s').DoneAt [last, finish].length arguments :=
      (Rule.group_doneAt_iff hunread' hopening hclose (Rule.yields_argumentEntries _) arguments).2
        hentries
    exact (Rule.doneAt_iff_reads Rule.yields_argumentList hsplit arguments).1 hgroup
  have hfield : name.kind.asName? = some "f" := by
    rw [hname]
    rfl
  obtain ⟨r, hdone, hleft, -⟩ :=
    Rule.operation_reads_arguments hunread hbrace hfield hopening hlast harguments
  exact (Rule.run_whole_eq_ok_iff Rule.yields_operation (fun _ _ => Token.IsOperation.ne_finish) _).2
    ⟨r, hdone, congrArg List.length hleft⟩

/-- A fragment that does not begin with a parenthesis and has no string without its end means the
same in parentheses, and as the arguments of a field. -/
theorem parse_inParentheses_iff {arguments : Arguments}
    (hfirst : ∀ first ∈ (Token.list source).head?, first.kind ≠ .punctuator .openParen)
    (hstrings : ∀ token ∈ Token.list source, token.kind.isOpenString = false) :
    (parse source = .ok arguments ↔ parse (inParentheses source) = .ok arguments) ∧
      (parse source = .ok arguments →
        Operation.parse (asDocument source) = .ok ⟨.query, none, [⟨"f", arguments⟩]⟩) := by
  rw [parse_eq_ok_iff_loose hfirst]
  exact ⟨loose_iff_parse_inParentheses hstrings, parse_asDocument_of_loose hstrings⟩

/-- A fragment with a literal that another bracket closes, and with a comment at its end. -/
def mendedFragment : List Char := ['x', ':', '{', 'a', ')', '#']

theorem parse_mendedFragment :
    (∀ first ∈ (Token.list mendedFragment).head?, first.kind ≠ .punctuator .openParen) ∧
      (∀ token ∈ Token.list mendedFragment, token.kind.isOpenString = false) ∧
      parse mendedFragment = .ok [("x", .object [])] ∧
      parse (inParentheses mendedFragment) = .ok [("x", .object [])] ∧
      Operation.parse (asDocument mendedFragment) =
        .ok ⟨.query, none, [⟨"f", [("x", .object [])]⟩]⟩ := by
  have hfirst : ∀ first ∈ (Token.list mendedFragment).head?,
      first.kind ≠ .punctuator .openParen := by decide +kernel
  have hstrings : ∀ token ∈ Token.list mendedFragment, token.kind.isOpenString = false := by
    decide +kernel
  have hparse : parse mendedFragment = .ok [("x", .object [])] := by rfl
  obtain ⟨hparentheses, hdocument⟩ := parse_inParentheses_iff hfirst hstrings
  exact ⟨hfirst, hstrings, hparse, hparentheses.1 hparse, hdocument hparse⟩

end Arguments

end CompletionGateway
