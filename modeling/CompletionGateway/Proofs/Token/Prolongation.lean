import CompletionGateway.Proofs.Token.Respacing

/-!
# Texts that go on

A text has the same tokens when it goes on behind a line end, up to its own end, unless it ends in a
string without an end.  Any other lexeme is settled where it ends, and trivia go on into the line
that is put behind them.  From there on the tokens are of the same kinds as those of the text that
was put behind.
-/

namespace CompletionGateway

namespace Lexeme

/-! ### Lexemes that are settled -/

section Strings

variable {quote : Char} {text : List Char}

/-- A string that ends, or that breaks off before the end of the text, does so in a text that goes
on. -/
theorem scanQuoted_prolonged
    (h : (scanQuoted quote text).rest = [] → (scanQuoted quote text).fault = none)
    (more : List Char) :
    scanQuoted quote (text ++ more) = (scanQuoted quote text).followedBy more := by
  fun_induction scanQuoted quote text with
  | case1 | case5 => cases h rfl
  | case2 | case3 => rfl
  | case4 rest hfeed => exact scanQuoted_return quote hfeed fun hnil => by cases h hnil
  | case6 c rest hc ih =>
      simp only [List.cons_append, scanQuoted, if_pos hc]
      exact congrArg (StringEnd.after '\\') (ih h)
  | case7 c rest hc ih =>
      simp only [List.cons_append, scanQuoted, if_neg hc]
      exact congrArg (fun tail => StringEnd.after '\\' (StringEnd.after c tail)) (ih h)
  | case8 rest hfeed _ hreturn hempty hcons =>
      have hplain := scanQuoted_plain hfeed hreturn (ne_slash hempty hcons) quote
      simp only [if_true] at hplain
      exact hplain _
  | case9 c rest hfeed _ hreturn hempty hcons hquote ih =>
      have hplain := scanQuoted_plain hfeed hreturn (ne_slash hempty hcons) quote
      simp only [if_neg hquote] at hplain
      rw [List.cons_append, hplain]
      exact congrArg (StringEnd.after c) (ih h)

/-- A block string that ends does so in a text that goes on behind a gap. -/
theorem scanBlock_prolonged {gap : List Char} (hgap : StartsGap gap)
    (h : (scanBlock text).rest = [] → (scanBlock text).fault = none) :
    scanBlock (text ++ gap) = (scanBlock text).followedBy gap := by
  fun_induction scanBlock text with
  | case1 => cases h rfl
  | case2 rest ih =>
      simp only [List.cons_append, scanBlock]
      rw [ih h]
      rfl
  | case3 => rfl
  | case4 c rest hhidden hclose ih =>
      have hquotes : ['"', '"', '"'].any opensTrivia = false := by decide
      have hpair : ['"', '"'].any opensTrivia = false := by decide
      have hhidden' : ∀ tail, c = '\\' → rest ++ gap = '"' :: '"' :: '"' :: tail → False :=
        fun tail hc => append_gap_ne hgap hquotes (fun tail => hhidden tail hc) tail
      have hclose' : ∀ tail, c = '"' → rest ++ gap = '"' :: '"' :: tail → False :=
        fun tail hc => append_gap_ne hgap hpair (fun tail => hclose tail hc) tail
      rw [List.cons_append, scanBlock.eq_4 c (rest ++ gap) hhidden' hclose', ih h]
      rfl

end Strings

/-- The lexeme at the front of a text does not change when the text goes on behind a gap: it is no
string, or a string that ends, or it breaks off before the end of the text. -/
def Settled (c : Char) (rest : List Char) : Prop :=
  c = '"' ∨ c = '\'' → (scan c rest).rest = [] → ∃ kind, (scan c rest).content = .ok kind

theorem fault_eq_none {quotes : List Char} {tail : StringEnd} {kind : TokenKind}
    (h : (ofStringEnd quotes tail).content = .ok kind) : tail.fault = none := by
  unfold ofStringEnd at h
  split at h
  · assumption
  · cases h

/-- A settled lexeme is the same lexeme in a text that goes on behind a gap. -/
theorem Settled.scan_eq {c : Char} {rest gap : List Char} (h : Settled c rest)
    (hgap : StartsGap gap) : scan c (rest ++ gap) = (scan c rest).followedBy gap := by
  have hends {quotes : List Char} {tail : StringEnd} (hquote : c = '"' ∨ c = '\'')
      (hscan : scan c rest = ofStringEnd quotes tail) : tail.rest = [] → tail.fault = none := by
    intro hrest
    have hsettled := h hquote
    rw [hscan, rest_ofStringEnd] at hsettled
    obtain ⟨kind, hkind⟩ := hsettled hrest
    exact fault_eq_none hkind
  by_cases hdouble : c = '"'
  · subst hdouble
    by_cases hblock : ∃ more, rest = ['"', '"'] ++ more
    · obtain ⟨more, rfl⟩ := hblock
      have hscan : ∀ more, scan '"' ('"' :: '"' :: more) =
          ofStringEnd ['"', '"', '"'] (scanBlock more) := fun _ => rfl
      have hend := hends (.inl rfl) (hscan more)
      simp only [List.cons_append, List.nil_append, hscan]
      rw [scanBlock_prolonged hgap hend, ofStringEnd_followedBy]
    · have hquotes : ∀ more, rest ≠ ['"', '"'] ++ more := fun more heq => hblock ⟨more, heq⟩
      have hend := hends (.inl rfl) (scan_double hquotes)
      rw [scan_double hquotes, scan_double (append_gap_ne hgap (by decide) hquotes),
        scanQuoted_prolonged hend, ofStringEnd_followedBy]
  by_cases hsingle : c = '\''
  · subst hsingle
    have hscan : ∀ more, scan '\'' more = ofStringEnd ['\''] (scanQuoted '\'' more) := fun _ => rfl
    have hend := hends (.inr rfl) (hscan rest)
    rw [hscan, hscan, scanQuoted_prolonged hend, ofStringEnd_followedBy]
  · exact scan_append_gap_of_plain hgap hdouble hsingle rest

/-- A lexeme that makes no string without its end is settled. -/
theorem settled_of_isOpenString {c : Char} {rest : List Char} {place : Position}
    (h : ((scan c rest).kindAt place).isOpenString = false) : Settled c rest := by
  intro hquote _
  obtain ⟨quotes, tail, hscan, -, hfaults⟩ := exists_ofStringEnd rest hquote
  rw [hscan, kindAt, ofStringEnd] at h
  rw [hscan, ofStringEnd]
  cases hfault : tail.fault with
  | none => exact ⟨_, rfl⟩
  | some fault =>
      have hopen := LexicalFault.message_isOpenString (hfaults fault hfault)
      simp only [hfault, hopen] at h
      cases h

end Lexeme

/-! ### Trivia that go on -/

theorem IsTrivia.append {front back : List Char} (h : IsTrivia front) (h' : IsTrivia back) :
    IsTrivia (front ++ back) := by
  induction h with
  | nil => exact h'
  | separator hc _ ih => exact .separator hc ih
  | @comment body rest lineEnd hbody hend _ ih =>
      rw [List.cons_append, List.append_assoc, List.cons_append]
      exact .comment hbody hend ih

theorem IsTrivia.append_final {front back : List Char} (h : IsTrivia front)
    (h' : IsFinalTrivia back) : IsFinalTrivia (front ++ back) := by
  rcases h' with hback | ⟨more, body, hmore, hbody, rfl⟩
  · exact .inl (h.append hback)
  · exact .inr ⟨front ++ more, body, h.append hmore, hbody, by rw [List.append_assoc]⟩

/-- A line end closes the last comment. -/
theorem IsFinalTrivia.concat_lineEnd {gap : List Char} (h : IsFinalTrivia gap) :
    IsTrivia (gap ++ ['\n']) := by
  rcases h with hgap | ⟨front, body, hfront, hbody, rfl⟩
  · exact hgap.append (.separator (by decide) .nil)
  · rw [List.append_assoc]
    exact hfront.append (.comment hbody (.inl rfl) .nil)

namespace Token

/-! ### Tokens that stay the same -/

/-- What a text covers does not change when the text goes on. -/
theorem textIn?_append {text piece : List Char} {span : Span} (h : span.textIn? text = some piece)
    (more : List Char) : span.textIn? (text ++ more) = some piece := by
  obtain ⟨front, back, rfl, hstart, hstop⟩ := Text.exists_of_slice h
  rw [Span.textIn?, ← hstart, hstop, ← hstart, List.append_assoc _ back]
  exact Text.slice_append front piece (back ++ more)

section AllAlike

variable {text text' : List Char} {tokens tokens' : List Token}

theorem allAlike_self (h : ∀ token ∈ tokens, token ∈ list text) : AllAlike text text tokens tokens :=
  allAlike_of_eq rfl rfl rfl fun token htoken => exists_piece (h token htoken)

/-- Tokens that are alike stay so when the second text goes on. -/
theorem AllAlike.append (h : AllAlike text text' tokens tokens') (more : List Char) :
    AllAlike text (text' ++ more) tokens tokens' := by
  induction h with
  | nil => exact .nil
  | cons first touch _ ih =>
      obtain ⟨hkind, piece, hpiece, hpiece', hne⟩ := first
      exact .cons ⟨hkind, piece, hpiece, textIn?_append hpiece' more, hne⟩ touch ih

theorem AllAlike.kinds_eq (h : AllAlike text text' tokens tokens') :
    tokens.map (·.kind.withoutNotes) = tokens'.map (·.kind.withoutNotes) := by
  induction h with
  | nil => rfl
  | cons first _ _ ih => rw [List.map_cons, List.map_cons, first.kind, ih]

/-- Of lists that are alike the first parts are. -/
theorem AllAlike.of_concat {last last' : Token}
    (h : AllAlike text text' (tokens ++ [last]) (tokens' ++ [last'])) :
    AllAlike text text' tokens tokens' := by
  induction tokens generalizing tokens' with
  | nil =>
      have hlength := h.length_eq
      obtain rfl : tokens' = [] := List.eq_nil_of_length_eq_zero (by simpa using hlength.symm)
      exact .nil
  | cons token rest ih =>
      cases tokens' with
      | nil => simpa using h.length_eq
      | cons token' rest' =>
          cases h with
          | cons first touch others =>
              exact .cons first (fun second hsecond second' hsecond' =>
                touch second (List.mem_head?_append_of_mem_head? hsecond) second'
                  (List.mem_head?_append_of_mem_head? hsecond')) (ih others)

end AllAlike

/-! ### Tokens of a text that goes on -/

/-- A text that has more tokens than its end is not empty. -/
theorem Lexed.text_ne_nil {cursor : Cursor} {text : List Char} {tokens : List Token}
    (h : Lexed cursor text tokens) (hlength : 1 < tokens.length) : text ≠ [] := by
  cases h with
  | finish => simp at hlength
  | lexeme => simp

/-- Up to its end a text is read to the same tokens in a text that goes on.  What is read behind
them begins with the trivia at the end. -/
theorem Lexed.prolonged {cursor : Cursor} {text more : List Char} {tokens front : List Token}
    {finish : Token} (h : Lexed cursor text tokens) (hmore : StartsGap more)
    (hsplit : tokens = front ++ [finish])
    (hlast : ∀ token ∈ front.getLast?, token.kind.isOpenString = false) :
    ∃ stop gap, IsFinalTrivia gap ∧
      stop.position = (front.getLast?.map (·.span.stop)).getD cursor.position ∧
      ∀ behind, Lexed stop (gap ++ more) behind →
        Lexed cursor (text ++ more) (front ++ behind) := by
  induction h generalizing front with
  | @finish cursor gap hgap =>
      obtain rfl : front = [] := by simpa using congrArg List.length hsplit
      exact ⟨cursor, gap, hgap, rfl, fun _ hbehind => hbehind⟩
  | @lexeme cursor start stop gap rest c tokens hgap hc hstart hstop hrest ih =>
      cases front with
      | nil =>
          obtain ⟨-, rfl⟩ := List.cons.inj hsplit
          obtain ⟨before, place, hbefore, -⟩ := hrest.exists_finish
          simp at hbefore
      | cons first others =>
          obtain ⟨rfl, rfl⟩ := List.cons.inj hsplit
          -- only the last lexeme can end with the text
          have hsettled : Lexeme.Settled c rest := by
            cases others with
            | nil => exact Lexeme.settled_of_isOpenString (hlast _ rfl)
            | cons second others =>
                exact fun _ hend => absurd hend (hrest.text_ne_nil (by simp))
          have hscan := hsettled.scan_eq hmore
          obtain ⟨stop', gap', hgap', hstop', hbehind⟩ := ih rfl fun token htoken =>
            hlast token (by rw [List.getLast?_cons, htoken]; rfl)
          refine ⟨stop', gap', hgap', ?_, fun behind h => ?_⟩
          · rw [hstop', List.getLast?_cons]
            cases others.getLast? <;> rfl
          · have hrest' : Lexed ((cursor.walk gap).walk (Lexeme.scan c (rest ++ more)).taken)
                (Lexeme.scan c (rest ++ more)).rest (others ++ behind) := by
              rw [hscan, ← hstart]
              simp only [Lexeme.followedBy, ← hstop]
              exact hbehind behind h
            have hlexed := Lexed.lexeme hgap hc rfl rfl hrest'
            rw [hscan, ← hstart] at hlexed
            simp only [Lexeme.followedBy, ← hstop] at hlexed
            rw [List.append_assoc]
            exact hlexed

/-- Trivia before a text do not change its tokens. -/
theorem Lexed.behind {cursor : Cursor} {gap text : List Char} {tokens : List Token}
    (hgap : IsTrivia gap) (h : Lexed (cursor.walk gap) text tokens) :
    Lexed cursor (gap ++ text) tokens := by
  cases h with
  | finish _ hfinal =>
      rw [← Cursor.walk_append]
      exact .finish cursor (hgap.append_final hfinal)
  | @lexeme _ start stop gap' rest c tokens hgap' hc hstart hstop hmore =>
      rw [← Cursor.walk_append] at hstart
      rw [← List.append_assoc]
      exact .lexeme (hgap.append hgap') hc hstart hstop hmore

/-- A text is read to tokens of the same kinds wherever it begins. -/
theorem Lexed.exists_kinds {cursor : Cursor} {text : List Char} {tokens : List Token}
    (h : Lexed cursor text tokens) (cursor' : Cursor) : ∃ tokens', Lexed cursor' text tokens' ∧
      tokens'.map (·.kind.withoutNotes) = tokens.map (·.kind.withoutNotes) := by
  induction h generalizing cursor' with
  | finish cursor hgap => exact ⟨_, .finish cursor' hgap, rfl⟩
  | @lexeme cursor start stop gap rest c tokens hgap hc hstart hstop hmore ih =>
      obtain ⟨tokens', hlexed, hkinds⟩ :=
        ih ((cursor'.walk gap).walk (Lexeme.scan c rest).taken)
      refine ⟨_, .lexeme hgap hc rfl rfl hlexed, ?_⟩
      rw [List.map_cons, List.map_cons, hkinds, withoutNotes_kindAt rfl]

/-- Behind trivia a text is read to tokens of the same kinds, wherever the trivia begin. -/
theorem exists_lexed_behind (cursor : Cursor) {gap : List Char} (hgap : IsTrivia gap)
    (text : List Char) : ∃ tokens, Lexed cursor (gap ++ text) tokens ∧
      tokens.map (·.kind.withoutNotes) = (list text).map (·.kind.withoutNotes) ∧
        ∀ token ∈ tokens,
          cursor.position.offset + Text.byteLength gap ≤ token.span.start.offset := by
  obtain ⟨tokens, hlexed, hkinds⟩ := (lexed_list text).exists_kinds (cursor.walk gap)
  refine ⟨tokens, hlexed.behind hgap, hkinds, fun token htoken => ?_⟩
  rw [← Cursor.offset_walk]
  exact hlexed.ordered.1 token htoken

/-- A text goes on behind a line end as the text that is put there, unless it ends in a string
without an end.  The tokens that are put there do not touch the ones before. -/
theorem Lexed.exists_prolonged {cursor : Cursor} {source : List Char} {front : List Token}
    {finish : Token} (h : Lexed cursor source (front ++ [finish]))
    (hlast : ∀ token ∈ front.getLast?, token.kind.isOpenString = false) (more : List Char) :
    ∃ behind, Lexed cursor (source ++ '\n' :: more) (front ++ behind) ∧
      behind.map (·.kind.withoutNotes) = (list more).map (·.kind.withoutNotes) ∧
        ∀ token ∈ front.getLast?, ∀ next ∈ behind, next.follows token.span = false := by
  have hgoes : StartsGap ('\n' :: more) := ⟨'\n', more, rfl, by decide⟩
  obtain ⟨stop, gap, hgap, hstop, hbehind⟩ := h.prolonged hgoes rfl hlast
  -- the line end closes the trivia, so the text behind is read as if they were not there
  obtain ⟨behind, hlexed, hkinds, hplace⟩ := exists_lexed_behind stop hgap.concat_lineEnd more
  rw [List.append_assoc, List.singleton_append] at hlexed
  refine ⟨behind, hbehind _ hlexed, hkinds, ?_⟩
  intro token htoken next hnext
  rw [htoken, Option.map_some, Option.getD_some] at hstop
  have hsize : Text.byteLength ['\n'] = 1 := rfl
  have hfar := hplace next hnext
  rw [Text.byteLength_append, hsize] at hfar
  -- at least the line end stands between the last token and the next one
  rw [follows, beq_eq_false_iff_ne, ← hstop]
  omega

/-- A text has the same tokens before its end, but for where they stand, in another text, where
tokens follow that do not touch them. -/
structure Recurs (text text' : List Char) (front front' behind : List Token) : Prop where
  list : ∃ place, list text = front ++ [finishAt place]
  unfinished : ∀ token ∈ front, token.kind ≠ .finish
  alike : AllAlike text text' front front'
  apart : ∀ last ∈ front'.getLast?, ∀ next ∈ behind, next.follows last.span = false

/-- A text without open strings recurs between another text and a line end.  Behind it come tokens
of the same kinds as those of the text behind the line end. -/
theorem exists_recurs {source : List Char}
    (hstrings : ∀ token ∈ list source, token.kind.isOpenString = false) (before more : List Char) :
    ∃ front front' behind, Recurs source (before ++ (source ++ '\n' :: more)) front front' behind ∧
      Lexed (Cursor.start.walk before) (source ++ '\n' :: more) (front' ++ behind) ∧
        behind.map (·.kind.withoutNotes) = (list more).map (·.kind.withoutNotes) := by
  obtain ⟨front, place, hlist, -, hunfinished⟩ := exists_finish_list source
  obtain ⟨tokens', hlexed, halike⟩ := (lexed_list source).alikeBehind [] rfl before
  obtain ⟨front', place', rfl, -⟩ := hlexed.exists_finish
  have hall := halike.all
  rw [hlist, List.nil_append] at hall
  have hfront := hall.of_concat
  have hlast : ∀ token ∈ front'.getLast?, token.kind.isOpenString = false := by
    intro token htoken
    have hmem : token.kind.withoutNotes ∈ front.map (·.kind.withoutNotes) := by
      rw [hfront.kinds_eq]
      exact List.mem_map_of_mem (List.mem_of_mem_getLast? htoken)
    obtain ⟨other, hother, hkind⟩ := List.mem_map.1 hmem
    rw [← TokenKind.congr_of_withoutNotes hkind TokenKind.isOpenString fun _ _ _ => rfl]
    exact hstrings other (hlist ▸ List.mem_append_left _ hother)
  obtain ⟨behind, hbehind, hkinds, hapart⟩ := hlexed.exists_prolonged hlast more
  refine ⟨front, front', behind, ⟨⟨place, hlist⟩, hunfinished, ?_, hapart⟩, hbehind, hkinds⟩
  rw [← List.append_assoc]
  exact hfront.append _

end Token

end CompletionGateway
