import CompletionGateway.Proofs.Operation.EndMark
import CompletionGateway.Proofs.Operation.Site

/-!
# Where errors in values lie

The rules for values and arguments leave the open groups as they are, and every error that they fail
with lies where an error lies.  A literal that is emptied is the one place where the stack and the
groups that enclose the next token come apart: the rest of the literal is passed with the stack that
the failure left, and then the stack is what it was before the literal.
-/

namespace CompletionGateway

theorem Token.lastStop_append_cons (front more : List Token) (first : Token) :
    Token.lastStop (front ++ first :: more) = (more.getLast?.getD first).span.stop := by
  cases hlast : more.getLast? with
  | none =>
      obtain rfl := List.getLast?_eq_none_iff.1 hlast
      exact Token.lastStop_concat front first
  | some last =>
      simp [Token.lastStop, List.getLast?_append, List.getLast?_cons, hlast]

namespace Rule

variable {base : List Enclosure} {tokens : List Token} {size : Nat} {opened : List OpenGroup}

/-! ### Bare runs -/

theorem sited_of_lexicalError? {run : List Token} {error : Diagnostic}
    (h : lexicalError? run = some error) (hmem : ∀ token ∈ run, token ∈ tokens) :
    error.Sited base tokens := by
  obtain ⟨token, htoken, message, notes, hkind, rfl⟩ := exists_of_lexicalError? h
  exact .lexical (hmem token htoken) hkind

/-- Behind a bare run the same groups are open as before it. -/
theorem fits_takeRun {s : Reading} (hs : s.Fits base tokens opened) {first : Token} {rest : List Token}
    (hunread : s.unread = first :: rest) (hstarts : s.startsRun first = true) :
    Reading.Fits { s with
      unread := (takeRun first.span rest).2
      lastEnd := ((takeRun first.span rest).1.getLast?.getD first).span.stop } base tokens opened := by
  obtain ⟨before, hbehind, haround⟩ := hs.placed.behind
  have hends : ∀ token ∈ first :: (takeRun first.span rest).1, token.kind.endsRun = false := by
    simpa using ⟨(beginsRun_of_startsRun hstarts).1, inside_takeRun first.span rest⟩
  have hplain : ∀ token ∈ first :: (takeRun first.span rest).1, token.kind ≠ .finish ∧
      token.kind.isOpening = false ∧ token.kind.isClosing = false := by
    intro token htoken
    have htoken := hends token htoken
    cases hkind : token.kind <;> simp_all [TokenKind.endsRun, TokenKind.isOpening,
      TokenKind.isClosing]
  refine ⟨⟨hs.placed.stack, before ++ first :: (takeRun first.span rest).1, ⟨?_, ?_, ?_, ?_⟩, ?_⟩,
    hs.errors⟩
  · rw [hbehind.unread, hunread, List.append_assoc, List.cons_append, takeRun_append]
  · intro token htoken
    rcases List.mem_append.1 htoken with htoken | htoken
    · exact hbehind.sound token htoken
    · exact (hplain token htoken).1
  · exact (Token.lastStop_append_cons before _ first).symm
  · exact fun group hgroup => (hbehind.stands group hgroup).append _
  · rw [Enclosure.around_append, haround]
    exact Enclosure.around_of_plain fun token htoken => (hplain token htoken).2

theorem meets_bareRun_fits {s : Reading} (hs : s.Fits base tokens opened) {first : Token}
    {rest : List Token} (hunread : s.unread = first :: rest) (hstarts : s.startsRun first = true) :
    bareRun.Meets s (fun _ s' => s'.Fits base tokens opened) (·.Strands base tokens opened) := by
  have hafter := fits_takeRun hs hunread hstarts
  obtain ⟨before, hbehind, -⟩ := hs.placed.behind
  have hmem : ∀ token ∈ first :: (takeRun first.span rest).1, token ∈ tokens := by
    intro token htoken
    rw [hbehind.unread, hunread, ← takeRun_append first.span rest]
    exact List.mem_append_right before (List.mem_append_left (takeRun first.span rest).2 htoken)
  simp only [Meets, bareRun, hunread]
  cases s.source.bind (Text.slice · first.span.start.offset
      ((takeRun first.span rest).1.getLast?.getD first).span.stop.offset) with
  | some text => exact hafter
  | none =>
      cases herror : lexicalError? (first :: (takeRun first.span rest).1) with
      | some error => exact hafter.record (sited_of_lexicalError? herror hmem)
      | none => exact hafter

/-! ### Literals -/

theorem keeps_stringLiteral {token : Token} (hmem : token ∈ tokens) (content : String) :
    Keeps base tokens size opened (stringLiteral token content) := by
  unfold stringLiteral
  split
  · exact keeps_pure _
  · exact keeps_refuse (.atToken hmem rfl (by simp))

theorem keeps_numberLiteral {token : Token} (hmem : token ∈ tokens) (content : String) :
    Keeps base tokens size opened (numberLiteral token content) := by
  unfold numberLiteral
  split
  · split
    · exact keeps_pure _
    · exact keeps_refuse (.atToken hmem rfl (by simp))
  · exact keeps_refuse (.atToken hmem rfl (by simp))

/-- The second state has one more error, which is fatal and lies where an error lies. -/
def AddsFatal (base : List Enclosure) (tokens : List Token) (s s' : Reading) : Prop :=
  ∃ error, s'.errors = s.errors ++ [error] ∧ error.Sited base tokens ∧ error.cause.isFatal = true

/-- The second state stands inside given groups, with the stack and the errors of the first one. -/
structure ComesBehind (base : List Enclosure) (tokens : List Token) (outer : List Enclosure)
    (s s' : Reading) : Prop where
  stack : s'.opened = s.opened
  errors : s'.errors = s.errors
  behind : ∃ before, s'.Behind base tokens before ∧ Enclosure.around base before = outer

/-- What one token does to the groups that hold values. -/
theorem skipClosers_cons {innermost : Enclosure} {inner : List Enclosure} (outer : List Enclosure)
    {token : Token} (rest : List Token)
    (hinner : ∀ enclosure ∈ innermost :: inner, enclosure.holdsValues = true)
    (hfinish : token.kind ≠ .finish) :
    ∃ inner', Enclosure.behind (innermost :: inner ++ outer) token.kind = inner' ++ outer ∧
      (∀ enclosure ∈ inner', enclosure.holdsValues = true) ∧ ∀ s,
        skipClosers (inner.length + 1) (token :: rest) s =
          skipClosers inner'.length rest s.advance := by
  have hhold : Enclosure.HoldValues (innermost :: inner ++ outer) :=
    ⟨innermost, rfl, hinner innermost List.mem_cons_self⟩
  cases hkind : token.kind with
  | finish => exact absurd hkind hfinish
  | punctuator mark =>
      cases hopening : mark.isOpening with
      | true =>
          obtain ⟨enclosure, hbegins, hvalues⟩ := hhold.opened? hopening
          refine ⟨enclosure :: innermost :: inner, ?_, List.forall_mem_cons.2 ⟨hvalues, hinner⟩,
            fun s => ?_⟩
          · rw [Enclosure.behind_of_opened (hhold.counts mark) hbegins]
            rfl
          · simp [skipClosers, hkind, TokenKind.isOpening, hopening]
      | false =>
          cases hclosing : mark.isClosing with
          | true =>
              refine ⟨inner, Enclosure.behind_of_isClosing (hhold.counts mark) hclosing,
                (List.forall_mem_cons.1 hinner).2, fun s => ?_⟩
              simp [skipClosers, hkind, TokenKind.isOpening, hopening, TokenKind.isClosing, hclosing]
          | false =>
              refine ⟨innermost :: inner, Enclosure.behind_of_plain hopening hclosing, hinner,
                fun s => ?_⟩
              simp [skipClosers, hkind, TokenKind.isOpening, hopening, TokenKind.isClosing, hclosing]
  | _ =>
      refine ⟨innermost :: inner, rfl, hinner, fun s => ?_⟩
      simp [skipClosers, hkind, TokenKind.isOpening, TokenKind.isClosing]

/-- The document ends inside the group on top of the stack. -/
theorem addsFatal_recordUnclosed {s : Reading} {before : List Token}
    (hbehind : s.Behind base tokens before) (hended : s.Ended) {group : OpenGroup}
    (hhead : s.opened.head? = some group) (hpassed : group.enclosure.isPassed = false) :
    AddsFatal base tokens s
      (s.recordUnclosed ((s.opened.head?.map (·.enclosure.delimiter)).getD .brace)) := by
  have hsited := hbehind.sited_unclosed hended (List.mem_of_head? hhead) hpassed
  rw [hhead, Option.map_some, Option.getD_some, Reading.recordUnclosed_eq hhead]
  exact ⟨_, rfl, hsited, rfl⟩

/-- Passing the rest of some groups that hold values leaves the groups around them open.  The stack
stays as it is, and the bracket that an error points at is the one on top of it. -/
theorem meets_skipClosers_behind {inner : List Enclosure} (outer : List Enclosure)
    (rest : List Token) {s : Reading} {before : List Token}
    (hbehind : s.Behind base tokens before) (hunread : s.unread = rest)
    (haround : Enclosure.around base before = inner ++ outer)
    (hinner : ∀ enclosure ∈ inner, enclosure.holdsValues = true)
    (hopened : inner ≠ [] → ∃ group, s.opened.head? = some group ∧
      group.enclosure.isPassed = false) :
    (skipClosers inner.length rest).Meets s (fun _ => ComesBehind base tokens outer s)
      (AddsFatal base tokens s) := by
  induction rest generalizing inner s before with
  | nil =>
      cases inner with
      | nil => exact ⟨rfl, rfl, before, hbehind, haround⟩
      | cons innermost inner =>
          obtain ⟨group, hhead, hpassed⟩ := hopened (List.cons_ne_nil _ _)
          exact addsFatal_recordUnclosed hbehind (by simp [Reading.Ended, hunread]) hhead hpassed
  | cons token rest ih =>
      cases inner with
      | nil => exact ⟨rfl, rfl, before, hbehind, haround⟩
      | cons innermost inner =>
          obtain ⟨group, hhead, hpassed⟩ := hopened (List.cons_ne_nil _ _)
          by_cases hfinish : token.kind = .finish
          · have hrule : skipClosers (innermost :: inner).length (token :: rest) s =
                refuseUnclosed ((s.opened.head?.map (·.enclosure.delimiter)).getD .brace) s := by
              rw [List.length_cons, skipClosers]
              simp only [if_pos hfinish]
            exact .congr hrule (addsFatal_recordUnclosed hbehind
              (by simp [Reading.Ended, hunread, hfinish]) hhead hpassed)
          · obtain ⟨inner', hafter, hinner', hrule⟩ := skipClosers_cons outer rest hinner hfinish
            have hadvance := s.agrees_advance
            refine Meets.congr (hrule s) ((ih (hbehind.advance hunread hfinish)
              (Reading.unread_advance hunread) (by rw [Enclosure.around_concat, haround, hafter]) hinner'
              fun _ => ⟨group, by rw [hadvance.opened, hhead], hpassed⟩).mono ?_ ?_)
            · rintro _ s' ⟨hstack, herrors, hcomes⟩
              exact ⟨hstack.trans hadvance.opened, herrors.trans hadvance.errors, hcomes⟩
            · rintro s' ⟨error, herrors, herror⟩
              exact ⟨error, by rw [herrors, hadvance.errors], herror⟩

/-- Behind a mild failure the groups that were opened in the literal are passed, and with the stack
that was there before the literal the state is one between two rules. -/
theorem meets_skipClosers_of_strands {s : Reading}
    (hhold : Enclosure.HoldValues (OpenGroup.surroundings base opened))
    (h : s.Strands base tokens opened) (hmild : s.errors.any (·.cause.isFatal) = false) :
    (skipClosers (s.opened.length - opened.length) s.unread).Meets s
      (fun _ s' => ∀ start, (s'.discard start opened.length 0).Fits base tokens opened)
      (·.Strands base tokens opened) := by
  obtain ⟨inner, hinner, hstack, before, hbehind, haround⟩ := h.mild hhold hmild
  have hdepth : s.opened.length - opened.length = (inner.map (·.enclosure)).length := by
    rw [hstack, List.length_append, List.length_map, Nat.add_sub_cancel]
  have htop : inner.map (·.enclosure) ≠ [] → ∃ group, s.opened.head? = some group ∧
      group.enclosure.isPassed = false := by
    intro hne
    obtain ⟨group, more, rfl⟩ := List.exists_cons_of_ne_nil (List.map_eq_nil_iff.not.1 hne)
    exact ⟨group, by rw [hstack]; rfl,
      Enclosure.isPassed_of_holdsValues (hinner group List.mem_cons_self)⟩
  rw [hdepth]
  refine (meets_skipClosers_behind (OpenGroup.surroundings base opened) s.unread hbehind rfl
    (by simpa [OpenGroup.surroundings] using haround) (by simpa using hinner) htop).mono ?_ ?_
  · rintro _ s' ⟨hstack', -, before', hbehind', haround'⟩ start
    have hopened := hstack'.trans hstack
    have hdiscard := Reading.opened_discard hopened start 0
    refine ⟨⟨hdiscard, before', ⟨hbehind'.unread, hbehind'.sound, hbehind'.lastEnd,
      fun group hgroup => hbehind'.stands group ?_⟩, haround'⟩, rfl⟩
    rw [hdiscard] at hgroup
    rw [hopened]
    exact List.mem_append_right inner hgroup
  · rintro s' ⟨error, herrors, hsited, hfatal⟩
    refine ⟨by simp [herrors], fun reason hreason => ?_, fun _ hmild => ?_⟩
    · rw [herrors] at hreason
      rcases List.mem_append.1 hreason with hreason | hreason
      · exact h.sited reason hreason
      · exact List.mem_singleton.1 hreason ▸ hsited
    · simp [herrors, hfatal] at hmild

/-- A literal that fails mildly is passed, and then the stack is what it was before. -/
theorem keeps_literal (kind : LiteralKind) {body : Rule ArgValue}
    (hhold : Enclosure.HoldValues (OpenGroup.surroundings base opened))
    (hbody : Keeps base tokens size opened body) :
    Keeps base tokens size opened (literal kind body) := by
  intro s hs hle
  have hmeets := hbody s hs hle
  cases hrule : body s with
  | done value after =>
      rw [Meets, literal_of_done hrule]
      exact hmeets.of_done hrule
  | failed after =>
      have hstrands := hmeets.of_failed hrule
      have hreasons : after.errors.drop s.errors.length = after.errors := by rw [hs.errors]; rfl
      cases hfatal : after.errors.any (·.cause.isFatal) with
      | true =>
          rw [Meets, literal_of_fatal hrule (by rw [hreasons, hfatal])]
          exact hstrands
      | false =>
          have hskip := meets_skipClosers_of_strands hhold hstrands hfatal
          rw [← hs.placed.stack] at hskip
          rw [← hreasons] at hfatal
          cases hpassed : skipClosers (after.opened.length - s.opened.length) after.unread after with
          | done _ s' =>
              rw [Meets, literal_of_closed hrule hfatal hpassed, hs.errors, ← hs.placed.stack]
              exact hskip.of_done hpassed _
          | failed s' =>
              rw [Meets, literal_of_unclosed hrule hfatal hpassed, ← hs.placed.stack]
              exact hskip.of_failed hpassed

/-! ### Entries and items -/

theorem keeps_argumentName : Keeps base tokens size opened argumentName :=
  keeps_expectName.bind fun found _ => keeps_pure found.1

theorem keeps_objectKey : Keeps base tokens size opened objectKey := by
  intro s hs hle
  cases hunread : s.unread with
  | nil =>
      refine .congr ?_ (keeps_refuseNext ["name"] s hs hle)
      rw [objectKey, Reading.next?_of_nil hunread]
  | cons token rest =>
      obtain ⟨before, hbehind, -⟩ := hs.placed.behind
      have hmem := hbehind.mem hunread
      by_cases hstring : ∃ text, token.kind = .string text
      · obtain ⟨text, hkind⟩ := hstring
        have hplain : token.kind.isPlain = true := by rw [hkind]; rfl
        exact .congr (objectKey_of_string hunread hkind)
          (keeps_stringLiteral hmem text _ (hs.advance hunread hplain) (Nat.le_refl _))
      · exact .congr (objectKey_of_ne_string hunread (not_exists.1 hstring))
          (keeps_argumentName s hs hle)

section Inside

variable {group : OpenGroup} {inner : Rule ArgValue}
variable (hinner : Keeps base tokens size (group :: opened) inner) (htaken : Consumes 1 inner)
variable (hgroup : group.enclosure.holdsValues = true)

include hinner htaken hgroup

theorem keeps_entries (closing : Punctuator) {key : Rule String}
    (hkey : ∀ size, Keeps base tokens size (group :: opened) key) (hkeyTaken : Consumes 1 key)
    {left limit : Nat} (hleft : left ≤ size) (hlimit : left < limit) (before : Arguments) :
    Keeps base tokens left (group :: opened)
      (entries closing group.enclosure.delimiter key inner limit before) := by
  -- each entry takes tokens, so the tokens are spent before the limit is
  induction limit generalizing left before with
  | zero => omega
  | succ limit ih =>
      rw [entries]
      refine .nextIs_bind closing fun closed => ?_
      cases closed with
      | true => exact keeps_pure before
      | false =>
          refine .atEnd_bind (fun s hs hended => hs.recordUnclosed hended
            (Enclosure.isPassed_of_holdsValues hgroup)) fun hpos => ?_
          refine (hkey left).bind_of_consumes hkeyTaken fun name => ?_
          refine (keeps_expect rfl rfl).bind_of_consumes (consumes_expect .colon) fun _ => ?_
          refine (hinner.anti (by omega)).bind_of_consumes htaken fun found => ?_
          exact ih (by omega) (by omega) _

theorem keeps_items (hlist : group.enclosure.delimiter = .bracket) {left limit : Nat}
    (hleft : left ≤ size) (hlimit : left < limit) :
    Keeps base tokens left (group :: opened) (items inner limit) := by
  induction limit generalizing left with
  | zero => omega
  | succ limit ih =>
      rw [items]
      refine .nextIs_bind .closeBracket fun closed => ?_
      cases closed with
      | true => exact keeps_pure []
      | false =>
          refine .atEnd_bind (fun s hs hended => ?_) fun hpos => ?_
          · have hunclosed := hs.recordUnclosed hended (Enclosure.isPassed_of_holdsValues hgroup)
            rwa [hlist] at hunclosed
          · refine (hinner.anti hleft).bind_of_consumes htaken fun first => ?_
            exact (ih (by omega) (by omega)).bind fun more _ => keeps_pure (first :: more)

end Inside

/-! ### Values -/

section Value

variable {inner : Rule ArgValue} (htaken : Consumes 1 inner)
variable (hhold : Enclosure.HoldValues (OpenGroup.surroundings base opened))

include htaken hhold

theorem keeps_literalBody (kind : LiteralKind)
    (hinner : ∀ span, Keeps base tokens (size - 1) (⟨kind.enclosure, span⟩ :: opened) inner) :
    Keeps base tokens size opened (kind.body inner) := by
  have hcounts := hhold.counts kind.shape.opening
  have hopened := hhold.opened?_shape kind
  cases kind with
  | object =>
      exact keeps_group .objectValue hcounts hopened (fun _ => rfl)
        (fun s => consumes_entries .closeBrace .brace consumes_objectKey htaken _ _ s)
        (fun span => keeps_atSize fun left hleft limit hlimit =>
          keeps_entries (hinner span) htaken rfl .closeBrace (fun _ => keeps_objectKey)
            consumes_objectKey hleft hlimit [])
        fun _ _ found _ _ _ _ => keeps_pure _
  | list =>
      exact keeps_group .listValue hcounts hopened (fun _ => rfl)
        (fun s => consumes_items htaken _ s)
        (fun span => keeps_atSize fun left hleft limit hlimit =>
          keeps_items (hinner span) htaken rfl rfl hleft hlimit)
        fun _ _ found _ _ _ _ => keeps_pure _

/-- A value that begins with a given token. -/
theorem meets_valueAt_fits
    (hinner : ∀ enclosure span, enclosure.holdsValues = true →
      Keeps base tokens size (⟨enclosure, span⟩ :: opened) inner)
    {s : Reading} (hs : s.Fits base tokens opened) {token : Token} {rest : List Token}
    (hunread : s.unread = token :: rest) (hsize : rest.length ≤ size) :
    (valueAt inner token).Meets s (fun _ s' => s'.Fits base tokens opened)
      (·.Strands base tokens opened) := by
  have hle : s.unread.length ≤ size + 1 := by
    rw [hunread, List.length_cons]
    omega
  obtain ⟨before, hbehind, -⟩ := hs.placed.behind
  have hmem := hbehind.mem hunread
  -- a token that is taken, and then a rule
  have htaking : ∀ rule : Rule ArgValue, token.kind.isPlain = true →
      (∀ size, Keeps base tokens size opened rule) →
        (do update (·.advance); rule).Meets s (fun _ s' => s'.Fits base tokens opened)
          (·.Strands base tokens opened) := fun rule hplain hrule =>
    .congr (update_bind _ _ s) (hrule _ _ (hs.advance hunread hplain) (Nat.le_refl _))
  cases hstarts : s.startsRun token with
  | true => exact .congr (valueAt_of_startsRun inner hstarts) (meets_bareRun_fits hs hunread hstarts)
  | false =>
      have hrefuse := keeps_refuseNext (α := ArgValue) ["value"] s hs hle
      rw [valueAt]
      refine .congr (ask_bind _ s) ?_
      rw [hstarts, if_neg Bool.false_ne_true]
      cases hkind : token.kind with
      | string content =>
          exact htaking _ (by rw [hkind]; rfl) fun _ =>
            (keeps_stringLiteral hmem content).bind fun text _ => keeps_pure _
      | int content | float content =>
          exact htaking _ (by rw [hkind]; rfl) fun _ => keeps_numberLiteral hmem content
      | bool _ | null | name _ => exact htaking _ (by rw [hkind]; rfl) fun _ => keeps_pure _
      | punctuator mark =>
          cases mark with
          | dollar =>
              exact htaking _ (by rw [hkind]; rfl) fun _ =>
                keeps_expectName.bind fun found _ => keeps_pure _
          | openBrace =>
              exact keeps_literal .object hhold (keeps_literalBody htaken hhold .object fun span =>
                hinner .objectValue span rfl) s hs hle
          | openBracket =>
              exact keeps_literal .list hhold (keeps_literalBody htaken hhold .list fun span =>
                hinner .listValue span rfl) s hs hle
          | _ => exact hrefuse
      | _ => exact hrefuse

end Value

theorem meets_nested_fits {rule : Rule ArgValue} {s : Reading} (hs : s.Fits base tokens opened)
    (h : rule.Meets { s with depth := s.depth + 1 } (fun _ s' => s'.Fits base tokens opened)
      (·.Strands base tokens opened)) :
    (nested rule).Meets s (fun _ s' => s'.Fits base tokens opened) (·.Strands base tokens opened) := by
  by_cases hroom : s.depth < deepestValue
  · cases hrule : rule { s with depth := s.depth + 1 } with
    | done value s' =>
        rw [Meets, nested, if_pos hroom, hrule]
        exact (h.of_done hrule).depth _
    | failed s' =>
        rw [Meets, nested, if_pos hroom, hrule]
        exact (h.of_failed hrule).depth _
  · obtain ⟨before, hbehind, -⟩ := hs.placed.behind
    rw [Meets, nested, if_neg hroom]
    exact hs.record (hbehind.sited_nextSpan rfl)

theorem keeps_valueWithin {left limit : Nat} (hlimit : left < limit)
    (hhold : Enclosure.HoldValues (OpenGroup.surroundings base opened)) :
    Keeps base tokens left opened (valueWithin limit) := by
  -- the token that a value begins with is not among those that are left for its parts
  induction limit generalizing left opened with
  | zero => omega
  | succ limit ih =>
      intro s hs hle
      have hdeeper := hs.depth (s.depth + 1)
      cases hunread : s.unread with
      | nil =>
          exact .congr (valueWithin_of_nil hunread _)
            (meets_nested_fits hs (keeps_refuseNext ["value"] _ hdeeper (Nat.le_refl _)))
      | cons token rest =>
          rw [hunread, List.length_cons] at hle
          exact .congr (valueWithin_of_unread limit hunread)
            (meets_nested_fits hs (meets_valueAt_fits (consumes_valueWithin limit) hhold
              (fun enclosure span hvalues => ih (by omega) ⟨enclosure, rfl, hvalues⟩) hdeeper hunread
              (Nat.le_refl _)))

theorem keeps_value (hhold : Enclosure.HoldValues (OpenGroup.surroundings base opened)) :
    Keeps base tokens size opened value :=
  keeps_atSize fun _ _ _ hlimit => keeps_valueWithin hlimit hhold

/-! ### Arguments -/

/-- Arguments in parentheses stand in an operation or in other arguments. -/
theorem keeps_argumentList
    (hcounts : Enclosure.counts (OpenGroup.surroundings base opened) .openParen = true)
    (hopened : Enclosure.opened? (OpenGroup.surroundings base opened) .openParen =
      some .fieldArguments) : Keeps base tokens size opened argumentList :=
  keeps_group .fieldArguments hcounts hopened (fun _ => rfl)
    (fun s => consumes_entries .closeParen .paren consumes_argumentName consumes_value _ _ s)
    (fun _ => keeps_atSize fun _ hleft _ hlimit =>
      keeps_entries (keeps_value ⟨.fieldArguments, rfl, rfl⟩) consumes_value rfl .closeParen
        (fun _ => keeps_argumentName) consumes_argumentName hleft hlimit [])
    fun _ _ found _ _ _ _ => keeps_pure found

theorem keeps_looseArguments (hhold : Enclosure.HoldValues (OpenGroup.surroundings base opened))
    (limit : Nat) (before : Arguments) :
    Keeps base tokens size opened (looseArguments limit before) := by
  induction limit generalizing size before with
  | zero => exact keeps_pure before
  | succ limit ih =>
      rw [looseArguments]
      refine .ask_bind fun ended => ?_
      cases ended with
      | true => exact keeps_pure before
      | false =>
          refine keeps_argumentName.bind fun name size => ?_
          refine (keeps_expect rfl rfl).bind fun _ size => ?_
          exact (keeps_value hhold).bind fun found size => ih _

theorem keeps_argumentFragment {outer : List Enclosure}
    (hsurroundings : OpenGroup.surroundings base opened = .fieldArguments :: outer) :
    Keeps base tokens size opened argumentFragment := by
  have hhold : Enclosure.HoldValues (OpenGroup.surroundings base opened) := by
    rw [hsurroundings]
    exact ⟨.fieldArguments, rfl, rfl⟩
  refine .nextIs_bind .openParen fun parenthesized => ?_
  cases parenthesized with
  | true => exact keeps_argumentList (hhold.counts _) (by rw [hsurroundings]; rfl)
  | false =>
      exact fun s hs hle => keeps_looseArguments hhold (s.unread.length + 1) [] s hs hle

end Rule

end CompletionGateway
