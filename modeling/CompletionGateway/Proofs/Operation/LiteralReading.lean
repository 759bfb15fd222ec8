import CompletionGateway.Proofs.Operation.PieceReading

/-!
# Reading a literal that is closed

A literal whose brackets are nested by shape is read, whatever else is wrong in it: its tokens are
taken and no others, nothing that was recorded on the way is left, and its value is what it means.
The rules follow the pieces of the literal step by step.  Where the pieces are no entries or items,
the body of the literal fails, and the literal counts as empty; where a piece is a literal, the rule
for values has the meaning of that literal, whether it was well formed or not.
-/

namespace CompletionGateway

/-! ### Pieces in a row -/

/-- The state stands in front of pieces, behind which a bracket closes the group.  Fewer than
`bound` tokens are unread, and there is room for values that enclose `room` others. -/
structure Reading.FacesPieces (s : Reading) (source : Option (List Char)) (room bound : Nat)
    (pieces : List Piece) (last : Token) (rest : List Token) : Prop where
  sound : ∀ piece ∈ pieces, piece.Sound source room
  document : s.source = source
  unread : s.unread = Piece.flat pieces ++ last :: rest
  closes : last.kind.isClosing = true
  short : s.unread.length < bound
  fits : s.depth + room + 1 ≤ deepestValue

namespace Reading.FacesPieces

variable {s s' : Reading} {source : Option (List Char)} {room bound : Nat}
variable {pieces pieces' : List Piece} {last : Token} {rest : List Token}

/-- Behind the first pieces the state stands in front of the others. -/
theorem behind (h : s.FacesPieces source room bound pieces last rest)
    (front : List Piece) (hpieces : pieces = front ++ pieces')
    (hunread : s'.unread = Piece.flat pieces' ++ last :: rest)
    (hagrees : s.Agrees s') : s'.FacesPieces source room bound pieces' last rest where
  sound piece hpiece := h.sound piece (by rw [hpieces]; exact List.mem_append_right _ hpiece)
  document := hagrees.source.trans h.document
  unread := hunread
  closes := h.closes
  short := by
    have hshort := h.short
    rw [h.unread, hpieces, Piece.flat_append] at hshort
    rw [hunread]
    simp only [List.length_append] at hshort ⊢
    omega
  fits := by
    rw [hagrees.depth]
    exact h.fits

theorem tokens_ne_nil (h : s.FacesPieces source room bound pieces last rest) :
    ∀ piece ∈ pieces, piece.tokens ≠ [] := by
  intro piece hpiece
  have hsound := h.sound piece hpiece
  cases piece with
  | token t => exact List.cons_ne_nil _ _
  | group tokens value? =>
      obtain ⟨⟨first, more, rfl, -⟩, -⟩ := hsound
      exact List.cons_ne_nil _ _

/-- As long as there are pieces, the group is not closed, and the document does not end. -/
theorem goes_on {α : Type} (h : s.FacesPieces source room bound pieces last rest) (hne : pieces ≠ [])
    {mark : Punctuator} (hmark : mark.isClosing = true) (closed ended more : Rule α) :
    (do
      if ← Rule.nextIs mark then closed
      else if ← Rule.atEnd then ended
      else more : Rule α) s = more s := by
  obtain ⟨token, after, hnext, hcase⟩ := Piece.exists_front h.sound last rest
  have hunread := h.unread.trans hnext
  -- the next token is a piece or opens one
  have hopen : token.kind.isClosing = false ∧ token.kind ≠ .finish := by
    rcases hcase with ⟨pieces', -, -, hplain⟩ | ⟨tokens, value?, pieces', -, hopening⟩ | ⟨hnil, -, -⟩
    · simp only [TokenKind.isPlain, Bool.and_eq_true, Bool.not_eq_true', bne_iff_ne] at hplain
      exact ⟨hplain.1.2, hplain.2⟩
    · refine ⟨?_, (Rule.of_isBracket (.inl hopening)).2.2.2.2⟩
      cases hkind : token.kind with
      | punctuator mark => cases mark <;> simp_all [TokenKind.isOpening, TokenKind.isClosing,
          Punctuator.isOpening, Punctuator.isClosing]
      | _ => rfl
    · exact absurd hnil hne
  have hkind : token.kind ≠ .punctuator mark := by
    intro heq
    rw [heq] at hopen
    rw [TokenKind.isClosing, hmark] at hopen
    exact absurd hopen.1 (by decide)
  rw [Rule.nextIs_bind, Reading.nextKind?_of_unread hunread]
  have hmark' : (some token.kind == some (.punctuator mark)) = false := by simpa using hkind
  rw [hmark', if_neg Bool.false_ne_true, Rule.atEnd_bind, Reading.atEnd_of_unread hunread]
  have hend : (token.kind == .finish) = false := by simpa using hopen.2
  rw [hend, if_neg Bool.false_ne_true]

end Reading.FacesPieces

namespace Rule

variable {s : Reading} {source : Option (List Char)} {room bound : Nat}
variable {pieces : List Piece} {last : Token} {rest : List Token}

/-- The rule for values has the value of the next piece or pieces, or it fails. -/
theorem valueWithin_follows (h : s.FacesPieces source room bound pieces last rest) :
    (valueWithin bound).Follows s (Piece.value? source pieces) (last :: rest) := by
  have hfits := h.fits
  have hshort := h.short
  obtain ⟨limit, rfl⟩ : ∃ limit, bound = limit + 1 := ⟨bound - 1, by omega⟩
  have hroom : s.depth < deepestValue := by omega
  cases pieces with
  -- without pieces the closing bracket is next, which begins no value
  | nil =>
      refine .congr (valueWithin_of_unread limit h.unread) (.nested hroom (follows_failed
        (valueAt_of_isBracket (valueWithin limit) (.inr h.closes) (fun kind hkind => ?_) _)))
      have hcloses := h.closes
      rw [hkind] at hcloses
      cases kind <;> cases hcloses
  | cons piece pieces =>
      have hpiece := h.sound piece List.mem_cons_self
      have hmore : ∀ piece ∈ pieces, piece.Sound source room := fun piece hpiece =>
        h.sound piece (List.mem_cons_of_mem _ hpiece)
      have hunread := h.unread
      rw [Piece.flat_cons, List.append_assoc] at hunread
      cases piece with
      | token t =>
          rw [← h.document] at hmore ⊢
          exact .congr (valueWithin_of_unread limit hunread) (.nested hroom
            (valueAt_follows (s := { s with depth := s.depth + 1 }) hmore h.closes
              (valueWithin limit) hpiece hunread))
      | group tokens value? =>
          have hgroup := hpiece.2 (limit + 1) s _ h.document hunread hshort hfits
          rw [Piece.value?]
          cases value? with
          | none => exact hgroup
          | some value => exact hgroup

theorem entries_follow {limit : Nat} (hlimit : s.unread.length < limit)
    (h : s.FacesPieces source room bound pieces last rest)
    (hlast : last.kind = .punctuator .closeBrace) (count : Nat) (hcount : pieces.length ≤ count)
    (before : Arguments) :
    (entries .closeBrace .brace objectKey (valueWithin bound) limit before).Follows s
      ((Piece.entries? source count pieces).map fun pairs => (Dict.insertAll before pairs, []))
      (last :: rest) := by
  induction limit generalizing s pieces count before with
  | zero => exact absurd hlimit (Nat.not_lt_zero _)
  | succ limit ih =>
      rw [entries]
      cases pieces with
      | nil =>
          rw [Piece.entries?_nil]
          refine .congr (nextIs_bind_of_eq _ h.unread hlast) ?_
          exact follows_pure before [] h.unread
      | cons piece pieces =>
          obtain ⟨count, rfl⟩ : ∃ count', count = count' + 1 :=
            ⟨count - 1, by rw [List.length_cons] at hcount; omega⟩
          refine .congr (h.goes_on (List.cons_ne_nil _ _) rfl _ _ _) ?_
          rw [Piece.entries?_cons]
          simp only [Option.map_bind, Option.map_map, Function.comp_def]
          refine (objectKey_follows h.sound h.closes h.unread).bind
            fun name pieces₁ s₁ hkey hunread₁ hagrees₁ => ?_
          obtain ⟨key, hpieces₁, -⟩ := Piece.eq_cons_of_key? hkey
          have h₁ := h.behind [.token key] hpieces₁ hunread₁ hagrees₁
          refine (colon_follows h₁.sound h₁.closes h₁.unread).bind
            fun colon pieces₂ s₂ hcolon hunread₂ hagrees₂ => ?_
          obtain ⟨hpieces₂, -⟩ := Piece.eq_cons_of_colon? hcolon
          have h₂ := h₁.behind [.token colon] hpieces₂ hunread₂ hagrees₂
          refine (valueWithin_follows h₂).bind fun value pieces₃ s₃ hvalue hunread₃ hagrees₃ => ?_
          obtain ⟨first, front, hpieces₃⟩ := Piece.append_of_value? hvalue
          have h₃ := h₂.behind (first :: front) hpieces₃ hunread₃ hagrees₃
          have hpieces : piece :: pieces =
              .token key :: .token colon :: first :: (front ++ pieces₃) := by
            rw [hpieces₁, hpieces₂, hpieces₃]
          -- both bounds count what is left: the limit its tokens, and `count` its pieces
          refine ih ?_ h₃ count ?_ (Dict.insert before name value)
          · rw [h.unread, hpieces] at hlimit
            rw [h₃.unread]
            simp only [Piece.flat_cons, Piece.flat_append, Piece.tokens, List.length_append,
              List.length_cons, List.length_nil] at hlimit ⊢
            omega
          · rw [hpieces] at hcount
            simp only [List.length_cons, List.length_append] at hcount
            omega

theorem items_follow {limit : Nat} (hlimit : s.unread.length < limit)
    (h : s.FacesPieces source room bound pieces last rest)
    (hlast : last.kind = .punctuator .closeBracket) (count : Nat)
    (hcount : pieces.length ≤ count) :
    (items (valueWithin bound) limit).Follows s
      ((Piece.items? source count pieces).map fun values => (values, [])) (last :: rest) := by
  induction limit generalizing s pieces count with
  | zero => exact absurd hlimit (Nat.not_lt_zero _)
  | succ limit ih =>
      rw [items]
      cases pieces with
      | nil =>
          rw [Piece.items?_nil]
          refine .congr (nextIs_bind_of_eq _ h.unread hlast) ?_
          exact follows_pure [] [] h.unread
      | cons piece pieces =>
          obtain ⟨count, rfl⟩ : ∃ count', count = count' + 1 :=
            ⟨count - 1, by rw [List.length_cons] at hcount; omega⟩
          refine .congr (h.goes_on (List.cons_ne_nil _ _) rfl _ _ _) ?_
          rw [Piece.items?_cons]
          simp only [Option.map_bind, Option.map_map, Function.comp_def]
          refine (valueWithin_follows h).bind fun value pieces₁ s₁ hvalue hunread₁ hagrees₁ => ?_
          obtain ⟨first, front, hpieces⟩ := Piece.append_of_value? hvalue
          have h₁ := h.behind (first :: front) hpieces hunread₁ hagrees₁
          -- a piece holds at least one token, so that both bounds go down
          have hmore := ih ?_ h₁ count ?_
          · have hcons := hmore.map (value :: ·)
            rwa [Option.map_map] at hcons
          · have hnonempty := List.length_pos_iff.2 (h.tokens_ne_nil first (by rw [hpieces]; simp))
            rw [h.unread, hpieces] at hlimit
            rw [h₁.unread]
            simp only [Piece.flat_cons, Piece.flat_append, List.length_append] at hlimit ⊢
            omega
          · rw [hpieces] at hcount
            simp only [List.length_cons, List.length_append] at hcount
            omega

/-! ### Literals -/

section Literal

variable {s : Reading} {kind : LiteralKind} {first last : Token} {rest : List Token} {bound : Nat}

/-- The body of a literal has what its pieces hold, or it fails if they are malformed. -/
theorem body_follows {pieces : List Piece} {room : Nat}
    (hsound : ∀ piece ∈ pieces, piece.Sound s.source room)
    (hunread : s.unread = first :: (Piece.flat pieces ++ last :: rest))
    (hfirst : first.kind = .punctuator kind.shape.opening)
    (hlast : last.kind = .punctuator kind.shape.closing) (hshort : s.unread.length ≤ bound)
    (hfits : s.depth + room + 1 ≤ deepestValue) :
    (kind.body (valueWithin bound)).Follows s
      ((kind.wellFormed? s.source pieces).map fun value => (value, [])) rest := by
  have hagrees := s.agrees_advance
  have hfaces : (s.advance.push kind.enclosure first.span).FacesPieces s.source room bound pieces last
      rest := by
    refine ⟨hsound, hagrees.source, Reading.unread_advance hunread, ?_, ?_, ?_⟩
    · rw [hlast]
      exact kind.shape.isClosing_closing
    · rw [Reading.unread_push, Reading.unread_advance hunread]
      rw [hunread, List.length_cons] at hshort
      omega
    · show s.advance.depth + room + 1 ≤ deepestValue
      rwa [hagrees.depth]
  cases kind with
  | object =>
      have hentries : Follows (fun s => entries .closeBrace .brace objectKey (valueWithin bound)
          (s.unread.length + 1) [] s) (s.advance.push .objectValue first.span)
          (((Piece.entries? s.source pieces.length pieces).map Dict.ofList).map fun value =>
            (value, [])) (last :: rest) := by
        rw [Option.map_map]
        exact .congr rfl (entries_follow (Nat.lt_succ_self _) hfaces hlast pieces.length
          (Nat.le_refl _) [])
      have hgroup : (objectBody (valueWithin bound)).Follows s
          (((Piece.entries? s.source pieces.length pieces).map Dict.ofList).map fun found =>
            (.object found, [])) rest := .group hunread hfirst hlast hentries
      rw [Option.map_map] at hgroup
      rw [LiteralKind.wellFormed?, Option.map_map]
      exact hgroup
  | list =>
      have hitems : Follows (fun s => items (valueWithin bound) (s.unread.length + 1) s)
          (s.advance.push .listValue first.span)
          ((Piece.items? s.source pieces.length pieces).map fun values => (values, []))
          (last :: rest) :=
        .congr rfl (items_follow (Nat.lt_succ_self _) hfaces hlast pieces.length (Nat.le_refl _))
      have hgroup : (listBody (valueWithin bound)).Follows s
          ((Piece.items? s.source pieces.length pieces).map fun found => (.list found, [])) rest :=
        .group hunread hfirst hlast hitems
      rw [LiteralKind.wellFormed?, Option.map_map]
      exact hgroup

/-- Where a literal is closed, its body does not fail for good: behind the opening bracket neither
does the document end nor are there too many groups. -/
theorem not_fatal {inside : Forest} {s' : Reading}
    (hunread : s.unread = first :: (inside.tokens ++ last :: rest))
    (hlast : last.kind = .punctuator kind.shape.closing)
    (hfits : s.depth + inside.depth + 1 ≤ deepestValue)
    (hfault : (s.advance.push kind.enclosure first.span).Faults s.depth s') :
    (s'.errors.drop s.errors.length).any (·.cause.isFatal) = false := by
  obtain ⟨faults, taken, inner, -, herrors, hstops⟩ := hfault.recorded
  have hdrop : s'.errors.drop s.errors.length = faults := by
    rw [herrors, Reading.errors_push, Reading.errors_advance, List.drop_left]
  have hclosing : last.kind.isClosing = true := by
    rw [hlast]
    exact kind.shape.isClosing_closing
  rw [hdrop, Bool.eq_false_iff]
  intro hfatal
  -- the rule stopped in front of the closing bracket
  have hsplit := hstops.unread
  rw [Reading.unread_push, Reading.unread_advance hunread] at hsplit
  obtain ⟨more, htokens, hleft, -⟩ := BracketCount.exists_more_of_append_eq inside.balanced
    (BracketCount.all_step_of_isClosing hclosing).1 hstops.count hsplit.symm
  rcases hstops.fatal hfatal with hended | hdeep
  · cases more with
    | nil =>
        have hfinish := hended last (by rw [hleft]; rfl)
        rw [hfinish] at hclosing
        cases hclosing
    | cons next more =>
        have hfinish := hended next (by rw [hleft]; rfl)
        exact BracketCount.ne_finish_of_after inside.balanced next (by rw [htokens]; simp) hfinish
  · have hopen := inside.open_le_depth htokens hstops.count
    omega

/-- A closed literal is read as what it means. -/
theorem literal_reads {inside : Forest}
    (hsound : ∀ piece ∈ inside.pieces s.source, piece.Sound s.source inside.depth)
    (hunread : s.unread = first :: (inside.tokens ++ last :: rest))
    (hfirst : first.kind = .punctuator kind.shape.opening)
    (hlast : last.kind = .punctuator kind.shape.closing) (hshort : s.unread.length ≤ bound)
    (hfits : s.depth + inside.depth + 1 ≤ deepestValue) :
    (literal kind (kind.body (valueWithin bound))).Reads s
      (kind.meaning s.source (inside.pieces s.source)) rest := by
  have hunread' := hunread
  rw [← Piece.flat_pieces s.source] at hunread'
  have hbody := body_follows hsound hunread' hfirst hlast hshort hfits
  unfold LiteralKind.meaning
  cases hformed : kind.wellFormed? s.source (inside.pieces s.source) with
  | some value =>
      rw [hformed] at hbody
      obtain ⟨s', hdone, hrest, hagrees⟩ := hbody
      exact ⟨s', literal_of_done hdone, hrest, hagrees⟩
  | none =>
      rw [hformed] at hbody
      obtain ⟨s', hfailed⟩ := hbody
      have hfault := (meets_body (takes_valueWithin bound) hunread hfirst).of_failed hfailed
      -- the body is not done, so whatever is said of what it takes then holds
      have hmeets : (kind.body (valueWithin bound)).Meets s
          (fun _ s' => ∃ taken, s.Passes taken s' ∧ False)
          ((s.advance.push kind.enclosure first.span).Faults s.depth) := by
        rw [Meets, hfailed]
        exact hfault
      have hliteral := meets_literal hunread hfirst hmeets
      cases hrule : literal kind (kind.body (valueWithin bound)) s with
      | failed s'' =>
          obtain ⟨hfault', hfatal⟩ := hliteral.of_failed hrule
          rw [not_fatal hunread hlast hfits hfault'] at hfatal
          cases hfatal
      | done value s'' =>
          obtain ⟨taken, hpasses, hcontra | ⟨rfl, htaken⟩⟩ := hliteral.of_done hrule
          · exact hcontra.elim
          have hclosing : last.kind.isClosing = true := by
            rw [hlast]
            exact kind.shape.isClosing_closing
          have hwhole : Token.IsLiteral kind (first :: (inside.tokens ++ [last])) :=
            ⟨first, inside.tokens, last, rfl, hfirst, hclosing, inside.balanced⟩
          have hsame : taken ++ s''.unread = first :: (inside.tokens ++ [last]) ++ rest := by
            rw [← hpasses.unread, hunread]
            simp
          have htokens := htaken.eq_of_append_eq hwhole hsame
          rw [htokens] at hsame
          exact ⟨s'', hrule, List.append_cancel_left hsame, hpasses.agrees⟩

/-- A closed literal is a value. -/
theorem valueWithin_reads {inside : Forest}
    (hsound : ∀ piece ∈ inside.pieces s.source, piece.Sound s.source inside.depth)
    (hunread : s.unread = first :: (inside.tokens ++ last :: rest))
    (hfirst : first.kind = .punctuator kind.shape.opening)
    (hlast : last.kind = .punctuator kind.shape.closing) (hshort : s.unread.length < bound)
    (hfits : s.depth + (inside.depth + 1) + 1 ≤ deepestValue) :
    (valueWithin bound).Reads s (kind.meaning s.source (inside.pieces s.source)) rest := by
  obtain ⟨limit, rfl⟩ : ∃ limit, bound = limit + 1 := ⟨bound - 1, by omega⟩
  have hroom : s.depth < deepestValue := by omega
  have hliteral : (literal kind (kind.body (valueWithin limit))).Reads { s with depth := s.depth + 1 }
      (kind.meaning s.source (inside.pieces s.source)) rest := by
    refine literal_reads hsound hunread hfirst hlast (Nat.le_of_lt_succ hshort) ?_
    show s.depth + 1 + inside.depth + 1 ≤ deepestValue
    omega
  have hfollows : (valueWithin (limit + 1)).Follows s
      (some (kind.meaning s.source (inside.pieces s.source), [])) rest := by
    exact .congr (valueWithin_of_unread limit hunread) (.nested hroom
      (.congr (valueAt_of_opening (valueWithin limit) hfirst) hliteral))
  exact hfollows

/-- Parentheses are no value. -/
theorem valueWithin_of_paren {tokens : List Token} (hunread : s.unread = first :: tokens)
    (hfirst : first.kind = .punctuator .openParen) (hshort : s.unread.length < bound)
    (hroom : s.depth < deepestValue) : (valueWithin bound).Follows s none rest := by
  obtain ⟨limit, rfl⟩ : ∃ limit, bound = limit + 1 := ⟨bound - 1, by omega⟩
  have hopening : first.kind.isOpening = true := by
    rw [hfirst]
    rfl
  refine .congr (valueWithin_of_unread limit hunread) (.nested hroom (follows_failed
    (valueAt_of_isBracket (valueWithin limit) (.inl hopening) (fun kind hkind => ?_) _)))
  rw [hfirst] at hkind
  cases kind <;> cases hkind

end Literal

end Rule

/-- Every piece of nested tokens is what it is taken for. -/
theorem Forest.sound_pieces (source : Option (List Char)) (forest : Forest) :
    ∀ piece ∈ forest.pieces source, piece.Sound source forest.depth := by
  induction forest with
  | nil => simp [pieces]
  | token t plain rest ih =>
      intro piece hpiece
      rcases List.mem_cons.1 hpiece with rfl | hrest
      · exact plain
      · exact ih piece hrest
  | group shape first last opens closes inside rest ihInside ihRest =>
      intro piece hpiece
      rcases List.mem_cons.1 hpiece with rfl | hrest
      · have hgroup : (Piece.group (first :: (inside.tokens ++ [last]))
            (shape.literal?.map fun kind => kind.meaning source (inside.pieces source))).Sound source
            (inside.depth + 1) := by
          refine ⟨⟨first, inside.tokens ++ [last], rfl, ?_⟩, ?_⟩
          · rw [opens]
            exact shape.isOpening_opening
          intro limit s tail hsource hunread hshort hfits
          rw [List.cons_append, List.append_assoc, List.singleton_append] at hunread
          cases hliteral : shape.literal? with
          | none =>
              have hparen : shape = .paren := by
                cases shape with
                | paren => rfl
                | brace | bracket => cases hliteral
              rw [hparen] at opens
              exact Rule.valueWithin_of_paren hunread opens hshort (by omega)
          | some kind =>
              obtain rfl := Delimiter.literal?_eq_some.1 hliteral
              rw [← hsource] at ihInside ⊢
              exact Rule.valueWithin_reads ihInside hunread opens closes hshort hfits
        exact hgroup.mono (Nat.le_max_left _ _)
      · exact (ihRest piece hrest).mono (Nat.le_max_right _ _)

/-! ### Closed literals -/

/-- What the value of a literal owes to the nested tokens inside its brackets.  If they are malformed
on their own level, the literal is empty.  Otherwise each literal among them stands with its own
meaning between siblings that would be the same around any other value. -/
structure LiteralKind.Means (kind : LiteralKind) (source : Option (List Char)) (inside : Forest)
    (value : ArgValue) : Prop where
  malformed : kind.wellFormed? source (inside.pieces source) = none → value = kind.empty
  formed : ∀ whole, kind.wellFormed? source (inside.pieces source) = some whole → value = whole
  literals : ∀ front tokens found back,
    inside.pieces source = front ++ .group tokens (some found) :: back →
      kind.wellFormed? source (inside.pieces source) ≠ none →
        ∃ (inner : LiteralKind) (first last : Token) (more : Forest) (siblings : Siblings),
          tokens = first :: (more.tokens ++ [last]) ∧
            first.kind = .punctuator inner.shape.opening ∧
              last.kind = .punctuator inner.shape.closing ∧
                found = inner.meaning source (more.pieces source) ∧ value = siblings.around found ∧
                  ∀ tokens' found',
                    kind.wellFormed? source (front ++ .group tokens' (some found') :: back) =
                      some (siblings.around found')

theorem LiteralKind.means_meaning (kind : LiteralKind) (source : Option (List Char))
    (inside : Forest) : kind.Means source inside (kind.meaning source (inside.pieces source)) := by
  constructor
  · intro hnone
    rw [meaning, hnone]
    rfl
  · intro whole hwhole
    rw [meaning, hwhole]
    rfl
  · intro front tokens found back hpieces hformed
    obtain ⟨whole, hwhole⟩ := Option.ne_none_iff_exists'.1 hformed
    have hmem : .group tokens (some found) ∈ inside.pieces source := by
      rw [hpieces]
      simp
    obtain ⟨shape, first, last, more, htokens, hfirst, hlast, hfound⟩ := Forest.exists_group hmem
    obtain ⟨inner, hinner, heq⟩ := Option.map_eq_some_iff.1 hfound.symm
    obtain rfl := Delimiter.literal?_eq_some.1 hinner
    rw [hpieces] at hwhole
    obtain ⟨siblings, hsiblings⟩ := wellFormed?_append_group hwhole
    refine ⟨inner, first, last, more, siblings, htokens, hfirst, hlast, heq.symm, ?_, hsiblings⟩
    rw [meaning, hpieces, hsiblings]
    rfl

/-- A closed literal that has the room is a value, whatever is wrong inside its brackets, as long as
they are nested.  Its tokens are taken and no others, no error is left and no group is open that was
not open before, and its value is what the tokens inside it mean. -/
theorem Rule.value_of_closed {s : Reading} {kind : LiteralKind} {first last : Token}
    {inside rest : List Token} (hunread : s.unread = first :: (inside ++ last :: rest))
    (hfirst : first.kind = .punctuator kind.shape.opening)
    (hlast : last.kind = .punctuator kind.shape.closing) (hinside : Token.nested [] inside = true)
    (hfits : s.depth + (Token.deepest 0 inside + 1) + 1 ≤ deepestValue) :
    (∃ forest : Forest, forest.tokens = inside) ∧
      ∃ value s', Rule.value s = .done value s' ∧ s'.unread = rest ∧ s'.errors = s.errors ∧
        s'.opened = s.opened ∧ kind.Makes value ∧
          ∀ forest : Forest, forest.tokens = inside → kind.Means s.source forest value := by
  have hreads : ∀ forest : Forest, forest.tokens = inside →
      Rule.value.Reads s (kind.meaning s.source (forest.pieces s.source)) rest := by
    rintro forest rfl
    rw [Forest.deepest_tokens] at hfits
    have hrule : Rule.value s = Rule.valueWithin (s.unread.length + 1) s := by
      rw [Rule.value]
    exact .congr hrule (Rule.valueWithin_reads (forest.sound_pieces s.source) hunread hfirst hlast
      (Nat.lt_succ_self _) hfits)
  obtain ⟨forest, hforest⟩ := Forest.exists_tokens_eq hinside
  obtain ⟨s', hdone, hrest, hagrees⟩ := hreads forest hforest
  refine ⟨⟨forest, hforest⟩, _, s', hdone, hrest, hagrees.errors, hagrees.opened,
    kind.makes_meaning s.source _, fun forest' hforest' => ?_⟩
  -- the rule is done in one way only
  obtain ⟨s'', hdone', -, -⟩ := hreads forest' hforest'
  rw [hdone] at hdone'
  obtain ⟨hvalue, -⟩ := Outcome.done.inj hdone'
  rw [hvalue]
  exact kind.means_meaning s.source forest'

/-- A list of two objects, the first of which is malformed, and a name behind the list. -/
def sampleLiteral : List Char := "[{a} {b: true}] c".toList

/-- Only the malformed object is emptied. -/
theorem Rule.value_of_sampleLiteral :
    ∃ s', Rule.value (.start (some sampleLiteral) (Token.list sampleLiteral)) =
        .done (.list [.object [], .object [("b", .bool true)]]) s' ∧
      s'.unread = (Token.list sampleLiteral).drop 10 ∧ s'.errors = [] ∧ s'.opened = [] := by
  have hunread : (Reading.start (some sampleLiteral) (Token.list sampleLiteral)).unread =
      (Token.list sampleLiteral)[0] :: (((Token.list sampleLiteral).drop 1).take 8 ++
        (Token.list sampleLiteral)[9] :: (Token.list sampleLiteral).drop 10) := rfl
  have hfirst : (Token.list sampleLiteral)[0].kind = .punctuator LiteralKind.list.shape.opening := rfl
  have hlast : (Token.list sampleLiteral)[9].kind = .punctuator LiteralKind.list.shape.closing := rfl
  obtain ⟨-, value, s', hdone, hrest, herrors, hopened, -, hmeans⟩ :=
    Rule.value_of_closed hunread hfirst hlast rfl (by decide)
  let forest : Forest :=
    .group .brace (Token.list sampleLiteral)[1] (Token.list sampleLiteral)[3] rfl rfl
      (.token (Token.list sampleLiteral)[2] rfl .nil)
      (.group .brace (Token.list sampleLiteral)[4] (Token.list sampleLiteral)[8] rfl rfl
        (.token (Token.list sampleLiteral)[5] rfl (.token (Token.list sampleLiteral)[6] rfl
          (.token (Token.list sampleLiteral)[7] rfl .nil))) .nil)
  have hvalue := (hmeans forest rfl).formed (.list [.object [], .object [("b", .bool true)]]) rfl
  subst hvalue
  exact ⟨s', hdone, hrest, herrors, hopened⟩

end CompletionGateway
