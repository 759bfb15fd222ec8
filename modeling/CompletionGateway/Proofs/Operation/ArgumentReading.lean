import CompletionGateway.Proofs.Operation.ValueReading

/-!
# Reading arguments

Arguments that are spelled in parentheses, or as a whole document, are read as the dictionary that
results from writing them one after the other.
-/

namespace CompletionGateway.Rule

theorem argumentName_of_isNamed {text : String} {word : Word} (h : Word.IsNamed text word)
    {s : Reading} {token : Token} {rest : List Token} (hunread : s.unread = token :: rest)
    (hkind : token.kind = word.kind) : argumentName s = .done text s.advance := by
  obtain ⟨-, rfl⟩ := h
  have hname : token.kind.asName? = some text := by rw [hkind, Word.asName?_name]
  rw [argumentName, bind_of_done (expectName_of_unread hunread hname)]
  rfl

/-- A token that can serve as a name neither is a mark nor ends a document. -/
theorem kind_ne_of_asName? {kind : TokenKind} {text : String} (h : kind.asName? = some text) :
    (∀ mark, kind ≠ .punctuator mark) ∧ kind ≠ .finish := by
  constructor
  · rintro mark rfl
    exact absurd h (by simp [TokenKind.asName?])
  · rintro rfl
    exact absurd h (by simp [TokenKind.asName?])

theorem kind_ne_of_isNamed {text : String} {word : Word} (h : Word.IsNamed text word) :
    (∀ mark, word.kind ≠ .punctuator mark) ∧ word.kind ≠ .finish := by
  obtain ⟨-, rfl⟩ := h
  exact kind_ne_of_asName? (Word.asName?_name text)

variable {pairs : List (String × ArgValue)} {words : List Word}

/-- Arguments in parentheses. -/
theorem argumentList_answers (hwords : ArgValue.SpelledEntries Word.IsNamed pairs words)
    {s : Reading} {first last : Token} {inside rest : List Token}
    (hmake : Word.Make words inside) (hunread : s.unread = first :: (inside ++ last :: rest))
    (hfirst : first.kind = .punctuator .openParen) (hlast : last.kind = .punctuator .closeParen)
    {bound : Nat} (hready : s.Ready (bound + 1)) :
    argumentList.Answers s (ArgValue.entriesDepth pairs) (Dict.ofList pairs) rest := by
  refine .group hunread hfirst hlast rfl fun s' hunread' hdepth' => ?_
  have hready' := hready.inside hunread hunread' hdepth'
  have hentries : (entries .closeParen .paren argumentName value (s'.unread.length + 1)
      []).Answers s' (ArgValue.entriesDepth pairs) (Dict.insertAll [] pairs) (last :: rest) :=
    entries_answers (value_handles bound)
      (fun name word hword s token rest hs hkind => argumentName_of_isNamed hword hs hkind)
      (fun name word hword => ⟨(kind_ne_of_isNamed hword).1 _, (kind_ne_of_isNamed hword).1 _,
        (kind_ne_of_isNamed hword).2⟩)
      (by decide) .paren pairs hwords (s'.unread.length + 1) [] hmake hunread' hlast hready' (by omega)
  exact .congr rfl hentries

/-- Arguments without parentheses, up to the end of the document. -/
theorem looseArguments_answers (hwords : ArgValue.SpelledEntries Word.IsNamed pairs words)
    (limit : Nat) (before : Arguments) {s : Reading} {tokens : List Token} {last : Token}
    (hmake : Word.Make words tokens) (hunread : s.unread = tokens ++ [last])
    (hlast : last.kind = .finish) {bound : Nat} (hready : s.Ready bound)
    (hlimit : s.unread.length ≤ limit) :
    (looseArguments limit before).Answers s (ArgValue.entriesDepth pairs)
      (Dict.insertAll before pairs) [last] := by
  induction pairs generalizing words limit before s tokens with
  | nil =>
      obtain rfl : words = [] := hwords
      obtain rfl : tokens = [] := hmake.nil
      have hend : s.toTokenStream.atEnd = true := by
        rw [Reading.atEnd_of_unread hunread, hlast, beq_self_eq_true]
      exact .of_reads hready.fits ⟨s, looseArguments_of_end limit before hend, hunread, .refl s⟩
  | cons pair pairs ih =>
      obtain ⟨name, value⟩ := pair
      obtain ⟨first, words, more, hfirst, hvalue, hmore, rfl⟩ := hwords
      obtain ⟨keyToken, tokens, rfl, hkeyToken, hmake⟩ := hmake.cons
      obtain ⟨colon, tokens, rfl, hcolon, hmake⟩ := hmake.cons
      obtain ⟨tokens, moreTokens, rfl, hmake, hmoreMake⟩ := hmake.append
      have hnotFinish := (kind_ne_of_isNamed hfirst).2
      have hlastKind : Token.NoColon [last] := Token.noColon_cons (by simp [hlast])
      have hnoColon := noColon_entries (fun name word hword => (kind_ne_of_isNamed hword).1 .colon)
        hmore hmoreMake hlastKind
      simp only [List.cons_append, List.append_assoc] at hunread
      cases limit with
      | zero => simp [hunread] at hlimit
      | succ limit =>
          have hend : s.toTokenStream.atEnd = false := by
            rw [Reading.atEnd_of_unread hunread, hkeyToken, beq_eq_false_iff_ne.2 hnotFinish]
          refine .congr (looseArguments_of_more limit before hend) (entry_answers (value_handles bound)
            (fun name word hword s token rest hs hkind => argumentName_of_isNamed hword hs hkind)
            hfirst hvalue hunread hkeyToken hcolon hmake hnoColon hready fun s' hunread' hagrees => ?_)
          have hready' : s'.Ready bound :=
            hready.behind (keyToken :: colon :: tokens) hunread hunread' hagrees.depth
          -- the entry takes at least its key and colon
          refine ih hmore limit (Dict.insert before name value) hmoreMake hunread' hready' ?_
          rw [hunread] at hlimit
          rw [hunread']
          simp only [List.length_cons, List.length_append] at hlimit ⊢
          omega

/-- Arguments that are a whole fragment, without parentheses. -/
theorem argumentFragment_answers (hwords : ArgValue.SpelledEntries Word.IsNamed pairs words)
    {s : Reading} {tokens : List Token} {last : Token} (hmake : Word.Make words tokens)
    (hunread : s.unread = tokens ++ [last]) (hlast : last.kind = .finish) {bound : Nat}
    (hready : s.Ready bound) :
    argumentFragment.Answers s (ArgValue.entriesDepth pairs) (Dict.ofList pairs) [last] := by
  have hnoMark : StartsOnlyWith [] s.unread := by
    intro token htoken mark hmark
    rw [hunread] at htoken
    cases pairs with
    | nil =>
        obtain rfl : words = [] := hwords
        obtain rfl := hmake.nil
        obtain rfl : last = token := by simpa using htoken
        exact absurd (hlast.symm.trans hmark) (by simp)
    | cons pair pairs =>
        obtain ⟨first, inner, more, hfirst, -, -, rfl⟩ := hwords
        obtain ⟨name, others, rfl, hname, -⟩ := hmake.cons
        obtain rfl : name = token := by simpa using htoken
        exact absurd (hname.symm.trans hmark) ((kind_ne_of_isNamed hfirst).1 mark)
  refine .congr (nextIs_bind_of_startsOnlyWith _ hnoMark (by simp)) ?_
  exact .congr rfl (looseArguments_answers hwords (s.unread.length + 1) [] hmake hunread hlast hready
    (Nat.le_succ _))

end CompletionGateway.Rule
