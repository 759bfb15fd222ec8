import CompletionGateway.Proofs.Operation.Alike
import CompletionGateway.Proofs.Operation.Meets

/-!
# Rules on common tokens

Two documents can have tokens in common, wherever these stand, and other tokens behind them.  A rule
does the same on both as long as the common tokens last, or on both it goes beyond them.  Which of
the two happens is settled by the common tokens, not by what follows them.  That a rule goes beyond
some tokens shows in how many tokens it leaves, so there is a second property here: how many tokens
a rule takes at least.
-/

namespace CompletionGateway

/-- Two documents, and in each of them the tokens behind those that both have in common. -/
structure Overlap where
  text : List Char
  text' : List Char
  back : List Token
  back' : List Token

/-- No bare run goes on from the first tokens into the second ones. -/
def Token.RunStops (front back : List Token) : Prop :=
  ∀ last ∈ front.getLast?, ∀ next ∈ back.head?,
    (next.follows last.span && !next.kind.endsRun) = false

theorem Token.RunStops.of_append (before : List Token) {front back : List Token}
    (h : RunStops (before ++ front) back) : RunStops front back :=
  fun last hlast => h last (List.mem_getLast?_append_of_mem_getLast? hlast)

variable {o : Overlap}

namespace Reading

/-- Two states in the two documents, each at the beginning of the same common tokens. -/
structure Parallel (o : Overlap) (front front' : List Token) (s s' : Reading) : Prop where
  unread : s.unread = front ++ o.back
  unread' : s'.unread = front' ++ o.back'
  common : Token.AllAlike o.text o.text' front front'
  unfinished : ∀ token ∈ front, token.kind ≠ .finish
  stops : Token.RunStops front o.back
  stops' : Token.RunStops front' o.back'
  depth : s.depth = s'.depth
  source : s.source = some o.text
  source' : s'.source = some o.text'

namespace Parallel

variable {front front' rest rest' : List Token} {token token' : Token} {s s' : Reading}

section Any

variable (h : s.Parallel o front front' s')

include h

theorem push (enclosure : Enclosure) (span span' : Span) :
    (s.push enclosure span).Parallel o front front' (s'.push enclosure span') :=
  ⟨h.unread, h.unread', h.common, h.unfinished, h.stops, h.stops', h.depth, h.source, h.source'⟩

theorem pop : s.pop.Parallel o front front' s'.pop :=
  ⟨h.unread, h.unread', h.common, h.unfinished, h.stops, h.stops', h.depth, h.source, h.source'⟩

theorem record (error error' : Diagnostic) :
    (s.record error).Parallel o front front' (s'.record error') :=
  ⟨h.unread, h.unread', h.common, h.unfinished, h.stops, h.stops', h.depth, h.source, h.source'⟩

theorem observe (event event' : ReadingEvent) :
    (s.observe event).Parallel o front front' (s'.observe event') :=
  ⟨h.unread, h.unread', h.common, h.unfinished, h.stops, h.stops', h.depth, h.source, h.source'⟩

/-- Both states change to a depth that depends on the depth alone. -/
theorem mapDepth (change : Nat → Nat) :
    ({ s with depth := change s.depth } : Reading).Parallel o front front'
      { s' with depth := change s'.depth } :=
  ⟨h.unread, h.unread', h.common, h.unfinished, h.stops, h.stops', congrArg change h.depth, h.source,
    h.source'⟩

theorem length_unread : s.unread.length = front.length + o.back.length := by
  rw [h.unread, List.length_append]

end Any

section Next

variable (h : s.Parallel o (token :: rest) (token' :: rest') s')

include h

theorem next_alike : token.Alike o.text o.text' token' ∧ Token.AllAlike o.text o.text' rest rest' ∧
    ∀ second ∈ rest.head?, ∀ second' ∈ rest'.head?,
      second.follows token.span = second'.follows token'.span := by
  cases h.common with
  | cons first touch others => exact ⟨first, others, touch⟩

theorem unread_cons : s.unread = token :: (rest ++ o.back) := h.unread

theorem unread_cons' : s'.unread = token' :: (rest' ++ o.back') := h.unread'

theorem kind_ne_finish : token.kind ≠ .finish := h.unfinished token (by simp)

/-- What does not depend on remarks is the same of both tokens. -/
theorem congr_kind {α : Type} (f : TokenKind → α)
    (hf : ∀ message notes notes', f (.error message notes) = f (.error message notes')) :
    f token.kind = f token'.kind := TokenKind.congr_of_withoutNotes h.next_alike.1.kind f hf

theorem kind_iff (mark : Punctuator) :
    token.kind = .punctuator mark ↔ token'.kind = .punctuator mark :=
  iff_of_eq (h.congr_kind (· = .punctuator mark) (by simp))

theorem kind_ne_finish' : token'.kind ≠ .finish := by
  have hfinish := h.congr_kind (· = .finish) (by simp)
  rw [Ne, ← hfinish]
  exact h.kind_ne_finish

theorem advance : s.advance.Parallel o rest rest' s'.advance := by
  rw [advance_of_unread h.unread_cons, advance_of_unread h.unread_cons']
  exact ⟨rfl, rfl, h.next_alike.2.1, fun other hother => h.unfinished other (by simp [hother]),
    .of_append [token] h.stops, .of_append [token'] h.stops', h.depth,
    h.source, h.source'⟩

end Next

end Parallel

theorem length_unread_advance_le (s : Reading) : s.advance.unread.length ≤ s.unread.length := by
  cases hunread : s.unread with
  | nil => simp [advance, hunread]
  | cons token rest =>
      rw [unread_advance hunread]
      exact Nat.le_succ _

/-- What is said of a next token that is not the end is not fatal. -/
theorem isFatal_wrongNext {s : Reading} {token : Token} {rest : List Token}
    (hunread : s.unread = token :: rest) (hkind : token.kind ≠ .finish) (expected : List String) :
    (s.wrongNext expected).cause.isFatal = false := by
  rw [Bool.eq_false_iff]
  intro hfatal
  exact hkind (ended_of_wrongNext hfatal token (by simp [hunread]))

end Reading

namespace Outcome

variable {α : Type}

/-- A rule leaves at most so many tokens of some number of them, and `taken` fewer if it is done. -/
def Leaves (length taken : Nat) : Outcome α → Prop
  | .done _ s => s.unread.length + taken ≤ length
  | .failed s => s.unread.length ≤ length

/-- Outcomes in the two documents: the same value in front of the same common tokens, two failures
there that are both fatal or both mild, or two outcomes beyond the common tokens. -/
inductive Parallel (o : Overlap) (errors errors' : List Diagnostic) (taken : Nat) :
    Outcome α → Outcome α → Prop
  | done {value : α} {front front' : List Token} {s s' : Reading}
      (hstate : s.Parallel o front front' s') (herrors : s.errors = errors)
      (herrors' : s'.errors = errors') :
      Parallel o errors errors' taken (.done value s) (.done value s')
  | failed {front front' : List Token} {s s' : Reading} (hstate : s.Parallel o front front' s')
      (hfatal : (s.errors.drop errors.length).any (·.cause.isFatal) =
        (s'.errors.drop errors'.length).any (·.cause.isFatal)) :
      Parallel o errors errors' taken (.failed s) (.failed s')
  | beyond {outcome outcome' : Outcome α} (h : outcome.Leaves o.back.length taken)
      (h' : outcome'.Leaves o.back'.length taken) :
      Parallel o errors errors' taken outcome outcome'

theorem Leaves.mono {length length' taken taken' : Nat} {outcome : Outcome α}
    (h : outcome.Leaves length taken) (hlength : length ≤ length') (htaken : taken' ≤ taken) :
    outcome.Leaves length' taken' := by
  cases outcome <;> simp only [Leaves] at h ⊢ <;> omega

theorem Parallel.mono {errors errors' : List Diagnostic} {taken taken' : Nat}
    {outcome outcome' : Outcome α} (h : Parallel o errors errors' taken outcome outcome')
    (htaken : taken' ≤ taken) : Parallel o errors errors' taken' outcome outcome' := by
  cases h with
  | done hstate herrors herrors' => exact .done hstate herrors herrors'
  | failed hstate hfatal => exact .failed hstate hfatal
  | beyond h h' =>
      exact .beyond (h.mono (Nat.le_refl _) htaken) (h'.mono (Nat.le_refl _) htaken)

end Outcome

namespace Rule

variable {α β : Type}

/-! ### Tokens that are taken -/

/-- The rule takes at least so many tokens if it is done. -/
def Consumes (taken : Nat) (rule : Rule α) : Prop :=
  ∀ s : Reading, (rule s).Leaves s.unread.length taken

section Consumes

variable {taken : Nat}

theorem Consumes.mono {rule : Rule α} {taken' : Nat} (h : Consumes taken rule)
    (htaken : taken' ≤ taken) : Consumes taken' rule :=
  fun s => (h s).mono (Nat.le_refl _) htaken

/-- What is left after one rule is left to the next. -/
theorem leaves_then {outcome : Outcome α} {second : α → Rule β} {length k : Nat}
    (h : outcome.Leaves length taken) (h' : ∀ value, Consumes k (second value)) :
    Outcome.Leaves length (taken + k) (match outcome with
      | .done value s => second value s
      | .failed s => .failed s) := by
  cases outcome with
  | done value r =>
      have hsecond := h' value r
      simp only
      cases hrest : second value r <;> simp only [hrest, Outcome.Leaves] at h hsecond ⊢ <;> omega
  | failed r => exact h

theorem Consumes.bind {first : Rule α} {second : α → Rule β} {k : Nat} (h : Consumes taken first)
    (h' : ∀ value, Consumes k (second value)) : Consumes (taken + k) (first >>= second) :=
  fun s => leaves_then (h s) h'

theorem Consumes.ask_bind {question : Reading → α} {second : α → Rule β}
    (h : ∀ answer, Consumes taken (second answer)) : Consumes taken (ask question >>= second) :=
  fun s => h (question s) s

theorem consumes_pure (value : α) : Consumes 0 (pure value : Rule α) := fun _ => Nat.le_refl _

theorem consumes_refuse (reason : Reading → Diagnostic) :
    Consumes taken (refuse reason : Rule α) := fun _ => Nat.le_refl _

theorem consumes_refuseUnclosed (delimiter : Delimiter) :
    Consumes taken (refuseUnclosed delimiter : Rule α) := fun _ => Nat.le_refl _

/-- A rule that takes tokens of a given shape takes as many as the shape has. -/
theorem Takes.leaves {rule : Rule α} {outer : Nat} {s : Reading} {shape : α → List Token → Prop}
    (h : rule.Takes outer s shape)
    (hshape : ∀ value tokens, shape value tokens → taken ≤ tokens.length) :
    (rule s).Leaves s.unread.length taken := by
  cases hrule : rule s with
  | done value s' =>
      obtain ⟨tokens, hpasses, htokens⟩ := Meets.of_done h hrule
      have hlength := congrArg List.length hpasses.unread
      rw [List.length_append] at hlength
      have hmany := hshape value tokens htokens
      simp only [Outcome.Leaves]
      omega
  | failed s' =>
      obtain ⟨faults, tokens, inner, -, -, hstops⟩ := (Meets.of_failed h hrule).recorded
      have hlength := congrArg List.length hstops.unread
      rw [List.length_append] at hlength
      simp only [Outcome.Leaves]
      omega

theorem consumes_expect (mark : Punctuator) : Consumes 1 (expect mark) := by
  intro s
  refine (takes_expect 0 mark).leaves ?_
  rintro value tokens ⟨token, rfl, -⟩
  exact Nat.le_refl 1

theorem consumes_expectName : Consumes 1 expectName := by
  intro s
  refine (takes_expectName 0).leaves ?_
  rintro value tokens ⟨token, rfl, -⟩
  exact Nat.le_refl 1

theorem consumes_openGroup (mark : Punctuator) (enclosure : Enclosure) :
    Consumes 1 (openGroup mark enclosure) :=
  (consumes_expect mark).bind (k := 0) fun _ _ => Nat.le_refl _

theorem consumes_closeGroup (mark : Punctuator) : Consumes 1 (closeGroup mark) :=
  (consumes_expect mark).bind (k := 0) fun _ _ => Nat.le_refl _

end Consumes

/-! ### Rules that do the same -/

/-- The rules do the same on the common tokens, of which there are at most `size`, or they go beyond
them.  If they are done, they have taken at least `taken` tokens. -/
structure Parallel (o : Overlap) (size taken : Nat) (rule rule' : Rule α) : Prop where
  consumes : Consumes taken rule
  consumes' : Consumes taken rule'
  common : ∀ (token : Token) (rest : List Token) (token' : Token) (rest' : List Token)
    (s s' : Reading), s.Parallel o (token :: rest) (token' :: rest') s' → rest.length < size →
      (rule s).Parallel o s.errors s'.errors taken (rule' s')

section Calculus

variable {size taken : Nat} {rule rule' : Rule α}

/-- Without common tokens every rule goes beyond them. -/
theorem Parallel.apply (h : Parallel o size taken rule rule') {front front' : List Token}
    {s s' : Reading} (hs : s.Parallel o front front' s') (hsize : front.length ≤ size) :
    (rule s).Parallel o s.errors s'.errors taken (rule' s') := by
  have hcommon := hs.common
  cases hcommon with
  | nil =>
      have hleft := h.consumes s
      have hleft' := h.consumes' s'
      rw [hs.unread, List.nil_append] at hleft
      rw [hs.unread', List.nil_append] at hleft'
      exact .beyond hleft hleft'
  | cons _ _ _ => exact h.common _ _ _ _ s s' hs hsize

/-- Of no common tokens nothing more is asked. -/
theorem Parallel.of_consumes (h : Consumes taken rule) (h' : Consumes taken rule') :
    Parallel o 0 taken rule rule' :=
  ⟨h, h', fun _ _ _ _ _ _ _ hrest => absurd hrest (Nat.not_lt_zero _)⟩

theorem Parallel.anti {size' : Nat} (h : Parallel o size taken rule rule') (hsize : size' ≤ size) :
    Parallel o size' taken rule rule' :=
  ⟨h.consumes, h.consumes', fun token rest token' rest' s s' hs hrest =>
    h.common token rest token' rest' s s' hs (hrest.trans_le hsize)⟩

theorem Parallel.mono {taken' : Nat} (h : Parallel o size taken rule rule')
    (htaken : taken' ≤ taken) : Parallel o size taken' rule rule' where
  consumes := h.consumes.mono htaken
  consumes' := h.consumes'.mono htaken
  common token rest token' rest' s s' hs hrest :=
    (h.common token rest token' rest' s s' hs hrest).mono htaken

/-- What comes behind a rule that does the same does the same as well.  The rule may take more tokens
than it is sure to take beyond the common ones. -/
theorem parallel_bind_apply {first first' : Rule α} {second second' : α → Rule β} {least k : Nat}
    {s s' : Reading} {errors errors' : List Diagnostic}
    (hfirst : (first s).Parallel o errors errors' least (first' s'))
    (hleaves : (first s).Leaves (size + o.back.length) taken)
    (h : ∀ value, Parallel o (size - taken) k (second value) (second' value)) :
    ((first >>= second) s).Parallel o errors errors' k ((first' >>= second') s') := by
  rw [bind_apply, bind_apply]
  generalize first s = outcome at hfirst hleaves
  generalize first' s' = outcome' at hfirst
  cases hfirst with
  | @done value front front' r r' hstate herrors herrors' =>
      -- a rule that is done has recorded nothing
      subst herrors herrors'
      rw [Outcome.Leaves, hstate.length_unread] at hleaves
      exact (h value).apply hstate (by omega)
  | failed hstate hfatal => exact .failed hstate hfatal
  | beyond hleft hleft' =>
      exact .beyond ((leaves_then hleft fun value => (h value).consumes).mono (Nat.le_refl _)
        (Nat.le_add_left _ _)) ((leaves_then hleft' fun value => (h value).consumes').mono
          (Nat.le_refl _) (Nat.le_add_left _ _))

theorem Parallel.bind_of_consumes {second second' : α → Rule β} {least k : Nat}
    (h : Parallel o size least rule rule') (hconsumes : Consumes taken rule)
    (h' : ∀ value, Parallel o (size - taken) k (second value) (second' value)) :
    Parallel o size k (rule >>= second) (rule' >>= second') where
  consumes := (h.consumes.bind fun value => (h' value).consumes).mono (Nat.le_add_left _ _)
  consumes' := (h.consumes'.bind fun value => (h' value).consumes').mono (Nat.le_add_left _ _)
  common token rest token' rest' s s' hs hrest := by
    refine parallel_bind_apply (h.common token rest token' rest' s s' hs hrest) ?_ h'
    refine (hconsumes s).mono ?_ (Nat.le_refl _)
    rw [hs.length_unread, List.length_cons]
    omega

theorem Parallel.bind {second second' : α → Rule β} {k : Nat}
    (h : Parallel o size taken rule rule')
    (h' : ∀ value, Parallel o (size - taken) k (second value) (second' value)) :
    Parallel o size k (rule >>= second) (rule' >>= second') := h.bind_of_consumes h.consumes h'

/-- A question with one answer on both sides, and then rules that do the same. -/
theorem Parallel.ask_bind {question : Reading → α} {second second' : α → Rule β}
    (h : ∀ {token : Token} {rest : List Token} {token' : Token} {rest' : List Token}
      {s s' : Reading}, s.Parallel o (token :: rest) (token' :: rest') s' → question s = question s')
    (h' : ∀ answer, Parallel o size taken (second answer) (second' answer)) :
    Parallel o size taken (ask question >>= second) (ask question >>= second') where
  consumes s := (h' (question s)).consumes s
  consumes' s := (h' (question s)).consumes' s
  common token rest token' rest' s s' hs hrest := by
    rw [Rule.ask_bind, Rule.ask_bind, ← h hs]
    exact (h' _).common token rest token' rest' s s' hs hrest

theorem Parallel.nextIs_bind {second second' : Bool → Rule α} (mark : Punctuator)
    (h : ∀ answer, Parallel o size taken (second answer) (second' answer)) :
    Parallel o size taken (nextIs mark >>= second) (nextIs mark >>= second') :=
  .ask_bind (fun hs => by
    rw [Reading.nextKind?_of_unread hs.unread_cons, Reading.nextKind?_of_unread hs.unread_cons']
    exact hs.congr_kind (some · == some (.punctuator mark)) fun _ _ _ => rfl) h

theorem Parallel.atEnd_bind {second second' : Bool → Rule α}
    (h : ∀ answer, Parallel o size taken (second answer) (second' answer)) :
    Parallel o size taken (atEnd >>= second) (atEnd >>= second') :=
  .ask_bind (fun hs => by
    rw [Reading.atEnd_of_unread hs.unread_cons, Reading.atEnd_of_unread hs.unread_cons']
    exact hs.congr_kind (· == .finish) fun _ _ _ => rfl) h

/-- The same for the kind of the next token, if remarks on a fault do not matter. -/
theorem Parallel.nextKind_bind {second second' : Option TokenKind → Rule α}
    (hnotes : ∀ message notes notes',
      second' (some (.error message notes)) = second' (some (.error message notes')))
    (h : ∀ next, Parallel o size taken (second next) (second' next)) :
    Parallel o size taken (ask (·.nextKind?) >>= second) (ask (·.nextKind?) >>= second') where
  consumes s := (h s.nextKind?).consumes s
  consumes' s := (h s.nextKind?).consumes' s
  common token rest token' rest' s s' hs hrest := by
    rw [Rule.ask_bind, Rule.ask_bind, Reading.nextKind?_of_unread hs.unread_cons,
      Reading.nextKind?_of_unread hs.unread_cons',
      ← hs.congr_kind (fun kind => second' (some kind)) hnotes]
    exact (h _).common token rest token' rest' s s' hs hrest

end Calculus

/-! ### Rules that look at no token -/

/-- The rules look at no token and do the same. -/
structure Tokenless (o : Overlap) (rule rule' : Rule α) : Prop where
  consumes : Consumes 0 rule
  consumes' : Consumes 0 rule'
  same : ∀ {front front' : List Token} {s s' : Reading}, s.Parallel o front front' s' →
    ∀ taken, (rule s).Parallel o s.errors s'.errors taken (rule' s')

section Tokenless

variable {size taken : Nat} {rule rule' : Rule α}

theorem Tokenless.parallel (h : Tokenless o rule rule') : Parallel o size 0 rule rule' :=
  ⟨h.consumes, h.consumes', fun _ _ _ _ _ _ hs _ => h.same hs 0⟩

theorem tokenless_pure (value : α) : Tokenless o (pure value : Rule α) (pure value : Rule α) :=
  ⟨consumes_pure value, consumes_pure value, fun hs _ => .done hs rfl rfl⟩

/-- Two failures at the same place. -/
theorem parallel_refuse_apply {front front' : List Token} {s s' : Reading}
    (hs : s.Parallel o front front' s') {reason reason' : Reading → Diagnostic}
    (h : (reason s).cause.isFatal = (reason' s').cause.isFatal) :
    (refuse reason s : Outcome α).Parallel o s.errors s'.errors taken (refuse reason' s') :=
  .failed (hs.record _ _) (by simp [Reading.record, h])

/-- Two failures for the same reason, whatever its place. -/
theorem tokenless_refuse {reason reason' : Reading → Diagnostic}
    (h : ∀ s s', (reason s).cause.isFatal = (reason' s').cause.isFatal) :
    Tokenless o (refuse reason : Rule α) (refuse reason') :=
  ⟨consumes_refuse _, consumes_refuse _, fun hs _ => parallel_refuse_apply hs (h _ _)⟩

theorem tokenless_refuseConstruct (construct : Construct) :
    Tokenless o (refuseConstruct construct : Rule α) (refuseConstruct construct) :=
  tokenless_refuse fun _ _ => rfl

theorem tokenless_refuseUnclosed (delimiter : Delimiter) :
    Tokenless o (refuseUnclosed delimiter : Rule α) (refuseUnclosed delimiter) :=
  ⟨consumes_refuseUnclosed delimiter, consumes_refuseUnclosed delimiter,
    fun hs _ => .failed (hs.pop.record _ _) <| by
      simp [Reading.recordUnclosed, Reading.record, Reading.pop, Cause.isFatal]⟩

theorem tokenless_observe (event event' : ReadingEvent) (value : α) :
    Tokenless o (do update (·.observe event); return value)
      (do update (·.observe event'); return value) :=
  ⟨fun _ => Nat.le_refl _, fun _ => Nat.le_refl _, fun hs _ => .done (hs.observe event event') rfl rfl⟩

/-- What looks at no token does not go beyond the tokens that a rule before it has taken. -/
theorem parallel_bind_tokenless {second second' : α → Rule β} {s s' : Reading}
    {errors errors' : List Diagnostic} (h : (rule s).Parallel o errors errors' taken (rule' s'))
    (h' : ∀ value, Tokenless o (second value) (second' value)) :
    ((rule >>= second) s).Parallel o errors errors' taken ((rule' >>= second') s') := by
  rw [bind_apply, bind_apply]
  generalize rule s = outcome at h
  generalize rule' s' = outcome' at h
  cases h with
  | @done value front front' r r' hstate herrors herrors' =>
      subst herrors herrors'
      exact (h' value).same hstate taken
  | failed hstate hfatal => exact .failed hstate hfatal
  | beyond hleft hleft' =>
      exact .beyond (leaves_then hleft fun value => (h' value).consumes)
        (leaves_then hleft' fun value => (h' value).consumes')

theorem Parallel.bind_tokenless {second second' : α → Rule β}
    (h : Parallel o size taken rule rule')
    (h' : ∀ value, Tokenless o (second value) (second' value)) :
    Parallel o size taken (rule >>= second) (rule' >>= second') where
  consumes := h.consumes.bind fun value => (h' value).consumes
  consumes' := h.consumes'.bind fun value => (h' value).consumes'
  common token rest token' rest' s s' hs hrest :=
    parallel_bind_tokenless (h.common token rest token' rest' s s' hs hrest) h'

/-- What is made of the value afterwards does not matter. -/
theorem Parallel.map (h : Parallel o size taken rule rule') (f : α → β) :
    Parallel o size taken (do return f (← rule)) (do return f (← rule')) :=
  h.bind_tokenless fun value => tokenless_pure (f value)

end Tokenless

/-! ### Single tokens -/

section Tokens

variable {size taken : Nat}

theorem parallel_refuseNext_apply {token token' : Token} {rest rest' : List Token}
    {s s' : Reading} (hs : s.Parallel o (token :: rest) (token' :: rest') s')
    (expected : List String) :
    (refuseNext expected s : Outcome α).Parallel o s.errors s'.errors taken
      (refuseNext expected s') :=
  parallel_refuse_apply hs <| by
    rw [Reading.isFatal_wrongNext hs.unread_cons hs.kind_ne_finish,
      Reading.isFatal_wrongNext hs.unread_cons' hs.kind_ne_finish']

theorem parallel_refuseNext (expected : List String) :
    Parallel o size taken (refuseNext expected : Rule α) (refuseNext expected) :=
  ⟨consumes_refuse _, consumes_refuse _, fun _ _ _ _ _ _ hs _ => parallel_refuseNext_apply hs expected⟩

/-- A token that is taken, and then rules that do the same. -/
theorem Parallel.advance_bind {rule rule' : Rule α} (h : Parallel o (size - 1) taken rule rule') :
    Parallel o size taken (do update (·.advance); rule) (do update (·.advance); rule') where
  consumes s := (h.consumes s.advance).mono s.length_unread_advance_le (Nat.le_refl _)
  consumes' s := (h.consumes' s.advance).mono s.length_unread_advance_le (Nat.le_refl _)
  common token rest token' rest' s s' hs hrest := by
    have hrule := h.apply hs.advance (by omega)
    rwa [Reading.errors_advance, Reading.errors_advance] at hrule

/-- A mark, and then rules that do the same. -/
theorem Parallel.expect_bind (mark : Punctuator) {rule rule' : Rule α}
    (h : Parallel o (size - 1) taken rule rule') :
    Parallel o size taken (do let _ ← expect mark; rule) (do let _ ← expect mark; rule') where
  consumes := ((consumes_expect mark).bind fun _ => h.consumes).mono (Nat.le_add_left _ _)
  consumes' := ((consumes_expect mark).bind fun _ => h.consumes').mono (Nat.le_add_left _ _)
  common token rest token' rest' s s' hs hrest := by
    by_cases hmark : token.kind = .punctuator mark
    · rw [bind_of_done (expect_of_unread hs.unread_cons hmark),
        bind_of_done (expect_of_unread hs.unread_cons' ((hs.kind_iff mark).1 hmark))]
      have hrule := h.apply hs.advance (by omega)
      rwa [Reading.errors_advance, Reading.errors_advance] at hrule
    · rw [bind_of_failed (expect_of_ne hs.unread_cons hmark),
        bind_of_failed (expect_of_ne hs.unread_cons' (mt (hs.kind_iff mark).2 hmark))]
      exact parallel_refuseNext_apply hs _

theorem Parallel.openGroup_bind (mark : Punctuator) (enclosure : Enclosure)
    {second second' : Token → Rule α}
    (h : ∀ opening opening', Parallel o (size - 1) taken (second opening) (second' opening')) :
    Parallel o size taken (openGroup mark enclosure >>= second)
      (openGroup mark enclosure >>= second') where
  consumes := ((consumes_openGroup mark enclosure).bind fun opening =>
    (h opening opening).consumes).mono (Nat.le_add_left _ _)
  consumes' := ((consumes_openGroup mark enclosure).bind fun opening =>
    (h opening opening).consumes').mono (Nat.le_add_left _ _)
  common token rest token' rest' s s' hs hrest := by
    by_cases hmark : token.kind = .punctuator mark
    · rw [bind_of_done (openGroup_of_unread hs.unread_cons hmark),
        bind_of_done (openGroup_of_unread hs.unread_cons' ((hs.kind_iff mark).1 hmark))]
      have hrule := (h token token').apply (hs.advance.push enclosure token.span token'.span)
        (by omega)
      rwa [Reading.errors_push, Reading.errors_advance, Reading.errors_push,
        Reading.errors_advance] at hrule
    · have hopen : openGroup mark enclosure s = _ :=
        bind_of_failed (expect_of_ne hs.unread_cons hmark)
      have hopen' : openGroup mark enclosure s' = _ :=
        bind_of_failed (expect_of_ne hs.unread_cons' (mt (hs.kind_iff mark).2 hmark))
      rw [bind_of_failed hopen, bind_of_failed hopen']
      exact parallel_refuseNext_apply hs _

/-- The closing bracket of a group, and then something that looks at no token. -/
theorem parallel_closeGroup_bind (mark : Punctuator) {second second' : Token → Rule α}
    (h : ∀ closing closing', Tokenless o (second closing) (second' closing')) :
    Parallel o size 1 (closeGroup mark >>= second) (closeGroup mark >>= second') where
  consumes := (consumes_closeGroup mark).bind fun closing => (h closing closing).consumes
  consumes' := (consumes_closeGroup mark).bind fun closing => (h closing closing).consumes'
  common token rest token' rest' s s' hs _ := by
    by_cases hmark : token.kind = .punctuator mark
    · rw [bind_of_done (closeGroup_of_unread hs.unread_cons hmark),
        bind_of_done (closeGroup_of_unread hs.unread_cons' ((hs.kind_iff mark).1 hmark))]
      have hrule := (h token token').same hs.advance.pop 1
      have herrors : s.advance.pop.errors = s.errors := s.errors_advance
      have herrors' : s'.advance.pop.errors = s'.errors := s'.errors_advance
      rwa [herrors, herrors'] at hrule
    · have hclose : closeGroup mark s = _ :=
        bind_of_failed (expect_of_ne hs.unread_cons hmark)
      have hclose' : closeGroup mark s' = _ :=
        bind_of_failed (expect_of_ne hs.unread_cons' (mt (hs.kind_iff mark).2 hmark))
      rw [bind_of_failed hclose, bind_of_failed hclose']
      exact parallel_refuseNext_apply hs _

/-- A name, and then rules that do the same whatever its place. -/
theorem Parallel.expectName_bind {second second' : String × Span → Rule α}
    (h : ∀ name span span',
      Parallel o (size - 1) taken (second (name, span)) (second' (name, span'))) :
    Parallel o size taken (expectName >>= second) (expectName >>= second') where
  consumes := (consumes_expectName.bind fun found => (h found.1 found.2 found.2).consumes).mono
    (Nat.le_add_left _ _)
  consumes' := (consumes_expectName.bind fun found => (h found.1 found.2 found.2).consumes').mono
    (Nat.le_add_left _ _)
  common token rest token' rest' s s' hs hrest := by
    have hname : token.kind.asName? = token'.kind.asName? := hs.congr_kind _ fun _ _ _ => rfl
    cases hfound : token.kind.asName? with
    | some name =>
        rw [bind_of_done (expectName_of_unread hs.unread_cons hfound),
          bind_of_done (expectName_of_unread hs.unread_cons' (hname ▸ hfound))]
        have hrule := (h name token.span token'.span).apply hs.advance (by omega)
        rwa [Reading.errors_advance, Reading.errors_advance] at hrule
    | none =>
        rw [bind_of_failed (expectName_of_none hs.unread_cons hfound),
          bind_of_failed (expectName_of_none hs.unread_cons' (hname ▸ hfound))]
        exact parallel_refuseNext_apply hs _

/-- A name, and what is made of it. -/
theorem parallel_name (f : String → α) :
    Parallel o size 1 (do return f (← expectName).1) (do return f (← expectName).1) where
  consumes := consumes_expectName.bind fun _ => consumes_pure _
  consumes' := consumes_expectName.bind fun _ => consumes_pure _
  common token rest token' rest' s s' hs _ := by
    have hname : token.kind.asName? = token'.kind.asName? := hs.congr_kind _ fun _ _ _ => rfl
    cases hfound : token.kind.asName? with
    | some name =>
        rw [bind_of_done (expectName_of_unread hs.unread_cons hfound),
          bind_of_done (expectName_of_unread hs.unread_cons' (hname ▸ hfound))]
        exact .done hs.advance s.errors_advance s'.errors_advance
    | none =>
        rw [bind_of_failed (expectName_of_none hs.unread_cons hfound),
          bind_of_failed (expectName_of_none hs.unread_cons' (hname ▸ hfound))]
        exact parallel_refuseNext_apply hs _

end Tokens

end Rule

end CompletionGateway
