import CompletionGateway.Proofs.Operation.Answer
import CompletionGateway.Proofs.Operation.Spelling
import CompletionGateway.Proofs.Operation.ValueStart

/-!
# Reading what was spelled

A value that is spelled by the next tokens is read as that value, and nothing else of the state
changes, as long as its depth fits under the limit.  If it does not fit, reading fails with the
error that says so: the values before the one that is too deep are read, and no literal around it
is emptied.  The only condition on the tokens is that they are apart: no token that touches a word
goes on with it as a bare run.
-/

namespace CompletionGateway

namespace Reading

/-- A state in which a value can be read: the tokens are apart, fewer than `bound` of them are
unread, and the values around the next one fit. -/
structure Ready (s : Reading) (bound : Nat) : Prop where
  apart : Token.Apart s.unread
  short : s.unread.length < bound
  fits : s.depth ≤ deepestValue

/-- What has been read does not matter. -/
theorem Ready.behind {s s' : Reading} {bound : Nat} (h : s.Ready bound) (taken : List Token)
    {rest : List Token} (hunread : s.unread = taken ++ rest) (hunread' : s'.unread = rest)
    (hdepth : s'.depth = s.depth) : s'.Ready bound where
  apart := by
    rw [hunread']
    exact Token.Apart.of_append (hunread ▸ h.apart)
  short := by
    have hshort := h.short
    rw [hunread, List.length_append] at hshort
    rw [hunread']
    omega
  fits := hdepth ▸ h.fits

/-- Inside a bracket one token less is unread. -/
theorem Ready.inside {s s' : Reading} {bound : Nat} {first : Token} {rest : List Token}
    (h : s.Ready (bound + 1)) (hunread : s.unread = first :: rest) (hunread' : s'.unread = rest)
    (hdepth : s'.depth = s.depth) : s'.Ready bound where
  apart := hunread' ▸ (hunread ▸ h.apart).tail
  short := by
    have hshort := h.short
    rw [hunread, List.length_cons] at hshort
    rw [hunread']
    omega
  fits := hdepth ▸ h.fits

end Reading

namespace Rule

/-- The rule answers for a value whenever the next tokens spell it and the state is ready for fewer
than `bound` tokens. -/
def Handles (rule : Rule ArgValue) (bound : Nat) (value : ArgValue) : Prop :=
  ∀ words s tokens rest, value.Spelled words → Word.Make words tokens →
    s.unread = tokens ++ rest → Token.NoColon rest → s.Ready bound →
      rule.Answers s value.depth value rest

/-- A word that is apart from what follows is no bare run. -/
theorem startsRun_of_isWord {s : Reading} {token : Token} {rest : List Token}
    (h : s.unread = token :: rest) (hapart : Token.Apart s.unread) (hcolon : Token.NoColon rest)
    (hword : token.kind.isWord = true) : s.startsRun token = false := by
  rw [h] at hapart
  have hpeek : s.toTokenStream.peek 1 = rest.head? := by
    rw [TokenStream.peek, h]
    cases rest <;> rfl
  have hnext : ∀ after ∈ rest.head?, (after.follows token.span && !after.kind.endsRun) = false := by
    intro after hafter
    cases rest with
    | nil => simp at hafter
    | cons second rest =>
        obtain rfl : second = after := by simpa using hafter
        have hjoins := (List.isChain_cons_cons.1 hapart).1 hword
        simpa [Token.joins, hcolon second (by simp)] using hjoins
  unfold Reading.startsRun
  rw [hpeek]
  cases hkind : token.kind <;> simp_all [TokenKind.isWord] <;>
    cases hrest : rest.head? <;> simp_all

section Entries

variable {inner : Rule ArgValue} {bound : Nat} (hinner : ∀ value, Handles inner bound value)
variable {key : Rule String} {spelledKey : String → Word → Prop}
variable (hkey : ∀ name word, spelledKey name word → ∀ s token rest, s.unread = token :: rest →
  token.kind = word.kind → key s = .done name s.advance)

include hinner hkey in
/-- One entry, and then whatever is made of it. -/
theorem entry_answers {β : Type} {name : String} {value : ArgValue} {first : Word}
    {words : List Word} (hfirst : spelledKey name first) (hvalue : value.Spelled words)
    {s : Reading} {keyToken colon : Token} {tokens rest rest' : List Token}
    (hunread : s.unread = keyToken :: colon :: (tokens ++ rest))
    (hkeyToken : keyToken.kind = first.kind) (hcolon : colon.kind = .punctuator .colon)
    (hmake : Word.Make words tokens) (hnoColon : Token.NoColon rest) (hready : s.Ready bound)
    {next : String → ArgValue → Rule β}
    {depth : Nat} {result : β}
    (hnext : ∀ s', s'.unread = rest → s.Agrees s' → (next name value).Answers s' depth result rest') :
    (do
      let name ← key
      let _ ← expect .colon
      let value ← inner
      next name value : Rule β).Answers s (max value.depth depth) result rest' := by
  refine (reads_advance hunread (hkey name first hfirst s keyToken _ hunread hkeyToken)).bind_answers
    fun s₁ hunread₁ hagrees₁ => ?_
  refine (reads_advance hunread₁ (expect_of_unread hunread₁ hcolon)).bind_answers
    fun s₂ hunread₂ hagrees₂ => ?_
  have hagrees := hagrees₁.trans hagrees₂
  have hready₂ : s₂.Ready bound :=
    hready.behind [keyToken, colon] hunread hunread₂ hagrees.depth
  exact (hinner value words s₂ tokens rest hvalue hmake hunread₂ hnoColon hready₂).bind
    fun s₃ hunread₃ hagrees₃ => hnext s₃ hunread₃ (hagrees.trans hagrees₃)

/-- Entries are followed by a name or by what follows them all. -/
theorem noColon_entries {pairs : List (String × ArgValue)} {words : List Word}
    {tokens rest : List Token} (hkind : ∀ name word, spelledKey name word →
      word.kind ≠ .punctuator .colon)
    (hwords : ArgValue.SpelledEntries spelledKey pairs words) (hmake : Word.Make words tokens)
    (h : Token.NoColon rest) : Token.NoColon (tokens ++ rest) := by
  cases pairs with
  | nil =>
      obtain rfl : words = [] := hwords
      obtain rfl := hmake.nil
      exact h
  | cons pair pairs =>
      obtain ⟨first, inner, more, hfirst, -, -, rfl⟩ := hwords
      obtain ⟨token, others, rfl, htoken, -⟩ := hmake.cons
      exact Token.noColon_cons (htoken ▸ hkind _ first hfirst)

include hinner hkey in
/-- Entries that are spelled up to a closing bracket. -/
theorem entries_answers {closing : Punctuator} (hkind : ∀ name word, spelledKey name word →
      word.kind ≠ .punctuator closing ∧ word.kind ≠ .punctuator .colon ∧ word.kind ≠ .finish)
    (hclosing : closing ≠ .colon)
    (delimiter : Delimiter) (pairs : List (String × ArgValue)) {words : List Word}
    (hwords : ArgValue.SpelledEntries spelledKey pairs words) (limit : Nat)
    (before : Arguments) {s : Reading} {tokens : List Token} {close : Token} {rest : List Token}
    (hmake : Word.Make words tokens) (hunread : s.unread = tokens ++ close :: rest)
    (hclose : close.kind = .punctuator closing) (hready : s.Ready bound)
    (hlimit : s.unread.length < limit) :
    (entries closing delimiter key inner limit before).Answers s (ArgValue.entriesDepth pairs)
      (Dict.insertAll before pairs) (close :: rest) := by
  induction pairs generalizing words limit before s tokens with
  | nil =>
      obtain rfl : words = [] := hwords
      obtain rfl : tokens = [] := hmake.nil
      cases limit with
      | zero => omega
      | succ limit =>
          have hnext : s.nextKind? = some (.punctuator closing) := by
            rw [Reading.nextKind?_of_unread hunread, hclose]
          exact .of_reads hready.fits
            ⟨s, entries_of_closing delimiter key inner limit before hnext, hunread, .refl s⟩
  | cons pair pairs ih =>
      obtain ⟨name, value⟩ := pair
      obtain ⟨first, words, more, hfirst, hvalue, hmore, rfl⟩ := hwords
      obtain ⟨keyToken, tokens, rfl, hkeyToken, hmake⟩ := hmake.cons
      obtain ⟨colon, tokens, rfl, hcolon, hmake⟩ := hmake.cons
      obtain ⟨tokens, moreTokens, rfl, hmake, hmoreMake⟩ := hmake.append
      obtain ⟨hnotClosing, -, hnotFinish⟩ := hkind name first hfirst
      have hcloseKind : Token.NoColon (close :: rest) := Token.noColon_cons (by simpa [hclose])
      have hnoColon := noColon_entries (fun name word hword => (hkind name word hword).2.1) hmore
        hmoreMake hcloseKind
      simp only [List.cons_append, List.append_assoc] at hunread
      cases limit with
      | zero => omega
      | succ limit =>
          have hnext : s.nextKind? ≠ some (.punctuator closing) := by
            rw [Reading.nextKind?_of_unread hunread, hkeyToken]
            exact fun h => hnotClosing (Option.some.inj h)
          have hend : s.toTokenStream.atEnd = false := by
            rw [Reading.atEnd_of_unread hunread, hkeyToken, beq_eq_false_iff_ne.2 hnotFinish]
          -- the entry takes at least its key and colon, so that the limit suffices for the others
          refine .congr (entries_of_entry delimiter key inner limit before hnext hend)
            (entry_answers hinner hkey hfirst hvalue hunread hkeyToken hcolon hmake hnoColon hready
              fun s' hunread' hagrees => ?_)
          have hready' : s'.Ready bound :=
            hready.behind (keyToken :: colon :: tokens) hunread hunread' hagrees.depth
          refine ih hmore limit (Dict.insert before name value) hmoreMake hunread' hready' ?_
          rw [hunread] at hlimit
          rw [hunread']
          simp only [List.length_cons, List.length_append] at hlimit ⊢
          omega

end Entries

/-- A spelled value begins with a token that neither closes a list nor ends a document. -/
theorem exists_first {value : ArgValue} {words : List Word} {tokens : List Token}
    (h : value.Spelled words) (hmake : Word.Make words tokens) :
    ∃ token more, tokens = token :: more ∧ token.kind ≠ .punctuator .closeBracket ∧
      token.kind ≠ .punctuator .colon ∧ token.kind ≠ .finish := by
  have hhead : ∃ word more, words = word :: more ∧ word.kind ≠ .punctuator .closeBracket ∧
      word.kind ≠ .punctuator .colon ∧ word.kind ≠ .finish := by
    cases value with
    | string text =>
        obtain ⟨word, ⟨literal, -, rfl⟩, rfl⟩ := h
        exact ⟨_, _, rfl, nofun, nofun, nofun⟩
    | number x =>
        obtain ⟨word, hword, -, rfl⟩ := h
        obtain ⟨text, hkind, -⟩ := hword.kind_eq
        refine ⟨_, _, rfl, ?_⟩
        rcases hkind with hkind | hkind <;> rw [hkind] <;> exact ⟨nofun, nofun, nofun⟩
    | bool b => cases b <;> cases h <;> exact ⟨_, _, rfl, by decide, by decide, by decide⟩
    | null => cases h; exact ⟨_, _, rfl, by decide, by decide, by decide⟩
    | «variable» name =>
        obtain ⟨-, rfl⟩ := h
        exact ⟨_, _, rfl, by decide, by decide, by decide⟩
    | object pairs =>
        obtain ⟨inner, -, -, rfl⟩ := h
        exact ⟨_, _, rfl, by decide, by decide, by decide⟩
    | list values =>
        obtain ⟨inner, -, rfl⟩ := h
        exact ⟨_, _, rfl, by decide, by decide, by decide⟩
  -- a token has the kind of its word
  obtain ⟨word, more, rfl, hclosing, hcolon, hfinish⟩ := hhead
  obtain ⟨token, others, rfl, hkind, -⟩ := hmake.cons
  exact ⟨token, others, rfl, hkind ▸ hclosing, hkind ▸ hcolon, hkind ▸ hfinish⟩

/-- Items are followed by an item or by what follows them all. -/
theorem noColon_items {values : List ArgValue} {words : List Word} {tokens rest : List Token}
    (hwords : ArgValue.SpelledItems values words) (hmake : Word.Make words tokens)
    (h : Token.NoColon rest) : Token.NoColon (tokens ++ rest) := by
  cases values with
  | nil =>
      obtain rfl : words = [] := hwords
      obtain rfl := hmake.nil
      exact h
  | cons value values =>
      obtain ⟨first, more, hvalue, -, rfl⟩ := hwords
      obtain ⟨firstTokens, moreTokens, rfl, hfirst, -⟩ := hmake.append
      obtain ⟨token, others, rfl, -, hcolon, -⟩ := exists_first hvalue hfirst
      exact Token.noColon_cons hcolon

/-- Items that are spelled up to a closing bracket. -/
theorem items_answers {inner : Rule ArgValue} {bound : Nat}
    (hinner : ∀ value, Handles inner bound value) (values : List ArgValue) {words : List Word}
    (hwords : ArgValue.SpelledItems values words) (limit : Nat) {s : Reading}
    {tokens : List Token} {close : Token} {rest : List Token} (hmake : Word.Make words tokens)
    (hunread : s.unread = tokens ++ close :: rest)
    (hclose : close.kind = .punctuator .closeBracket) (hready : s.Ready bound)
    (hlimit : s.unread.length < limit) :
    (items inner limit).Answers s (ArgValue.itemsDepth values) values (close :: rest) := by
  induction values generalizing words limit s tokens with
  | nil =>
      obtain rfl : words = [] := hwords
      obtain rfl : tokens = [] := hmake.nil
      cases limit with
      | zero => omega
      | succ limit =>
          have hnext : s.nextKind? = some (.punctuator .closeBracket) := by
            rw [Reading.nextKind?_of_unread hunread, hclose]
          exact .of_reads hready.fits ⟨s, items_of_closing inner limit hnext, hunread, .refl s⟩
  | cons value values ih =>
      obtain ⟨first, more, hvalue, hmore, rfl⟩ := hwords
      obtain ⟨tokens, moreTokens, rfl, hmake, hmoreMake⟩ := hmake.append
      obtain ⟨token, others, rfl, hnotClosing, -, hnotFinish⟩ := exists_first hvalue hmake
      have hcloseKind : Token.NoColon (close :: rest) := Token.noColon_cons (by simp [hclose])
      have hnoColon := noColon_items hmore hmoreMake hcloseKind
      rw [List.append_assoc] at hunread
      cases limit with
      | zero => omega
      | succ limit =>
          have hnext : s.nextKind? ≠ some (.punctuator .closeBracket) := by
            rw [Reading.nextKind?_of_unread hunread]
            exact fun h => hnotClosing (Option.some.inj h)
          have hend : s.toTokenStream.atEnd = false := by
            rw [Reading.atEnd_of_unread hunread, beq_eq_false_iff_ne.2 hnotFinish]
          refine .congr (items_of_item inner limit hnext hend)
            ((hinner value first s _ _ hvalue hmake hunread hnoColon hready).bind
              fun s' hunread' hagrees => ?_)
          -- behind the first item the tokens are still apart, and fewer of them are unread
          have hready' : s'.Ready bound := hready.behind (token :: others) hunread hunread' hagrees.depth
          refine .map (value :: ·) (ih hmore limit hmoreMake hunread' hready' ?_)
          rw [hunread] at hlimit
          rw [hunread']
          simp only [List.length_cons, List.length_append] at hlimit ⊢
          omega

/-- A string, as the name of an entry. -/
theorem objectKey_of_isString {text : String} {word : Word} (h : Word.IsString text word)
    {s : Reading} {token : Token} {rest : List Token} (hunread : s.unread = token :: rest)
    (hkind : token.kind = word.kind) : objectKey s = .done text s.advance := by
  obtain ⟨literal, hliteral, hread⟩ := h.kind_eq
  refine objectKey_of_key? hunread ?_
  rw [hkind, hliteral]
  simp only [TokenKind.key?, hread, String.ofList_toList]

section Inner

variable {inner : Rule ArgValue} {bound : Nat} (hinner : ∀ value, Handles inner bound value)

include hinner in
theorem objectBody_answers {pairs : List (String × ArgValue)} {words : List Word}
    (hwords : ArgValue.SpelledEntries Word.IsString pairs words)
    (hnames : (Dict.names pairs).Nodup) {s : Reading} {first last : Token}
    {inside rest : List Token} (hmake : Word.Make words inside)
    (hunread : s.unread = first :: (inside ++ last :: rest))
    (hfirst : first.kind = .punctuator .openBrace) (hlast : last.kind = .punctuator .closeBrace)
    (hready : s.Ready (bound + 1)) :
    (objectBody inner).Answers s (ArgValue.entriesDepth pairs) (.object pairs) rest := by
  refine .group hunread hfirst hlast rfl fun s' hunread' hdepth' => ?_
  have hready' := hready.inside hunread hunread' hdepth'
  have hkind : ∀ name word, Word.IsString name word →
      word.kind ≠ .punctuator .closeBrace ∧ word.kind ≠ .punctuator .colon ∧
        word.kind ≠ .finish := by
    intro name word hword
    obtain ⟨literal, hliteral, -⟩ := hword.kind_eq
    rw [hliteral]
    exact ⟨nofun, nofun, nofun⟩
  have hentries : (entries .closeBrace .brace objectKey inner (s'.unread.length + 1) []).Answers
      s' (ArgValue.entriesDepth pairs) (Dict.insertAll [] pairs) (last :: rest) :=
    entries_answers hinner
      (fun name word hword s token rest hs hkind => objectKey_of_isString hword hs hkind) hkind
      (by decide) .brace pairs hwords (s'.unread.length + 1) [] hmake hunread' hlast hready' (by omega)
  rw [← Dict.ofList, Dict.ofList_of_nodup hnames] at hentries
  exact .congr rfl hentries

include hinner in
theorem listBody_answers {values : List ArgValue} {words : List Word}
    (hwords : ArgValue.SpelledItems values words) {s : Reading} {first last : Token}
    {inside rest : List Token} (hmake : Word.Make words inside)
    (hunread : s.unread = first :: (inside ++ last :: rest))
    (hfirst : first.kind = .punctuator .openBracket)
    (hlast : last.kind = .punctuator .closeBracket) (hready : s.Ready (bound + 1)) :
    (listBody inner).Answers s (ArgValue.itemsDepth values) (.list values) rest := by
  refine .group hunread hfirst hlast rfl fun s' hunread' hdepth' => ?_
  have hready' := hready.inside hunread hunread' hdepth'
  exact .congr rfl (items_answers hinner values hwords (s'.unread.length + 1) hmake hunread' hlast
    hready' (by omega))

/-- A value that is the next token and nothing more. -/
theorem valueAt_answers_of_value? {s : Reading} {token : Token} {rest : List Token}
    {value : ArgValue} (hunread : s.unread = token :: rest) (hnoColon : Token.NoColon rest)
    (hready : s.Ready (bound + 1))
    (hkind : token.kind.isWord = true ∨ ∃ text, token.kind = .string text)
    (hvalue : token.kind.value? = some value) : (valueAt inner token).Answers s 0 value rest := by
  have hrun : s.startsRun token = false := by
    rcases hkind with hword | ⟨text, hstring⟩
    · exact startsRun_of_isWord hunread hready.apart hnoColon hword
    · simp [Reading.startsRun, hstring]
  exact .of_reads hready.fits (reads_advance hunread (valueAt_of_value? inner hrun hvalue))

include hinner in
/-- The rule for the values inside carries over to the value itself. -/
theorem valueAt_answers {value : ArgValue} {words : List Word} (hwords : value.Spelled words)
    {s : Reading} {token : Token} {tokens rest : List Token}
    (hmake : Word.Make words (token :: tokens)) (hunread : s.unread = token :: (tokens ++ rest))
    (hnoColon : Token.NoColon rest) (hready : s.Ready (bound + 1)) :
    ∃ depth, value.depth = depth + 1 ∧ (valueAt inner token).Answers s depth value rest := by
  cases value with
  | string text =>
      obtain ⟨word, hword, rfl⟩ := hwords
      obtain ⟨literal, hliteral, hread⟩ := hword.kind_eq
      obtain ⟨hkind, rfl⟩ := hmake.single
      rw [hliteral] at hkind
      refine ⟨0, rfl, valueAt_answers_of_value? hunread hnoColon hready (.inr ⟨_, hkind⟩) ?_⟩
      rw [hkind]
      simp only [TokenKind.value?, hread, String.ofList_toList]
  | number x =>
      obtain ⟨word, hword, hfinite, rfl⟩ := hwords
      obtain ⟨text, hnumeral, hread⟩ := hword.kind_eq
      obtain ⟨hkind, rfl⟩ := hmake.single
      rw [← hkind] at hnumeral
      refine ⟨0, rfl, valueAt_answers_of_value? hunread hnoColon hready (.inl ?_) ?_⟩
      · rcases hnumeral with h | h <;> rw [h] <;> rfl
      · rcases hnumeral with h | h <;> rw [h] <;>
          simp only [TokenKind.value?, hread, if_pos hfinite]
  | bool b =>
      have hname : (Word.name (if b then "true" else "false")).kind = .bool b := by
        cases b <;> decide
      have hwords : words = [Word.name (if b then "true" else "false")] := by
        cases b <;> exact hwords
      subst hwords
      obtain ⟨hkind, rfl⟩ := hmake.single
      rw [hname] at hkind
      exact ⟨0, rfl, valueAt_answers_of_value? hunread hnoColon hready (.inl (by rw [hkind]; rfl))
        (by rw [hkind]; rfl)⟩
  | null =>
      have hname : (Word.name "null").kind = .null := by decide
      obtain rfl : words = [Word.name "null"] := hwords
      obtain ⟨hkind, rfl⟩ := hmake.single
      rw [hname] at hkind
      exact ⟨0, rfl, valueAt_answers_of_value? hunread hnoColon hready (.inl (by rw [hkind]; rfl))
        (by rw [hkind]; rfl)⟩
  | «variable» name =>
      obtain ⟨-, rfl⟩ := hwords
      obtain ⟨hkind, hmake⟩ := hmake.head
      obtain ⟨second, more, rfl, hname, hmore⟩ := hmake.cons
      obtain rfl := hmore.nil
      have hunread' : s.advance.unread = second :: rest := Reading.unread_advance hunread
      have hsecond : second.kind.asName? = some name := by rw [hname, Word.asName?_name]
      refine ⟨0, rfl, .of_reads hready.fits ⟨s.advance.advance, ?_, Reading.unread_advance hunread',
        s.agrees_advance.trans s.advance.agrees_advance⟩⟩
      rw [valueAt_of_dollar inner hkind, variableName,
        bind_of_done (expectName_of_unread hunread' hsecond)]
      rfl
  | object pairs =>
      obtain ⟨words, hpairs, hnames, rfl⟩ := hwords
      obtain ⟨hkind, hmake⟩ := hmake.head
      obtain ⟨inside, last, rfl, hinside, hlast⟩ := hmake.concat
      rw [List.append_assoc, List.singleton_append] at hunread
      have hopening : token.kind = .punctuator LiteralKind.object.shape.opening := hkind
      exact ⟨_, rfl, .congr (valueAt_of_opening inner hopening) (.literal .object
        (objectBody_answers hinner hpairs hnames hinside hunread hkind hlast hready))⟩
  | list values =>
      obtain ⟨words, hvalues, rfl⟩ := hwords
      obtain ⟨hkind, hmake⟩ := hmake.head
      obtain ⟨inside, last, rfl, hinside, hlast⟩ := hmake.concat
      rw [List.append_assoc, List.singleton_append] at hunread
      have hopening : token.kind = .punctuator LiteralKind.list.shape.opening := hkind
      exact ⟨_, rfl, .congr (valueAt_of_opening inner hopening) (.literal .list
        (listBody_answers hinner hvalues hinside hunread hkind hlast hready))⟩

end Inner

/-- Every value is read within any limit above the number of unread tokens. -/
theorem valueWithin_handles (limit : Nat) : ∀ value, Handles (valueWithin limit) limit value := by
  induction limit with
  | zero =>
      intro value words s tokens rest _ _ _ _ hready
      exact absurd hready.short (Nat.not_lt_zero _)
  | succ limit ih =>
      intro value words s tokens rest hwords hmake hunread hnoColon hready
      obtain ⟨token, tokens, rfl, -⟩ := exists_first hwords hmake
      rw [List.cons_append] at hunread
      have hbody : ∀ s', s'.unread = s.unread → s'.depth ≤ deepestValue →
          ∃ depth, value.depth = depth + 1 ∧
            (valueAt (valueWithin limit) token).Answers s' depth value rest := by
        intro s' hsame hfits
        have hready' : s'.Ready (limit + 1) :=
          ⟨hsame ▸ hready.apart, hsame ▸ hready.short, hfits⟩
        rw [← hsame] at hunread
        exact valueAt_answers ih hwords hmake hunread hnoColon hready'
      -- the depth of the value is known before the level is entered
      obtain ⟨depth, hvalue, -⟩ := hbody s rfl hready.fits
      rw [hvalue]
      refine .congr (valueWithin_of_unread limit hunread) (.nested hready.fits fun hroom => ?_)
      obtain ⟨depth', hvalue', hanswers⟩ := hbody { s with depth := s.depth + 1 } rfl hroom
      obtain rfl : depth' = depth := by omega
      exact hanswers

/-- A value that is spelled by the next tokens, apart from what follows, is read if it fits. -/
theorem value_handles (bound : Nat) (value : ArgValue) : Handles Rule.value bound value := by
  intro words s tokens rest hwords hmake hunread hnoColon hready
  have hready' : s.Ready (s.unread.length + 1) :=
    ⟨hready.apart, Nat.lt_succ_self _, hready.fits⟩
  -- rewritten, since unfolding both sides takes the kernel minutes
  have hrule : Rule.value s = valueWithin (s.unread.length + 1) s := by rw [Rule.value]
  exact .congr hrule (valueWithin_handles (s.unread.length + 1) value words s tokens rest hwords
    hmake hunread hnoColon hready')

end Rule

end CompletionGateway
