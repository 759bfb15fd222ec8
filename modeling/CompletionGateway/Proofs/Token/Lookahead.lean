import CompletionGateway.Proofs.Token.Tiling

/-!
# What a lexeme sees of the text behind it

A lexeme that ends before some trivia sees nothing of them: it is the same lexeme before any other
trivia and at the end of a text.  There is one exception.  A string that breaks off at a carriage
return takes a line feed right behind it as well.
-/

namespace CompletionGateway

/-- The text begins with trivia. -/
def StartsGap (text : List Char) : Prop := ∃ c rest, text = c :: rest ∧ opensTrivia c = true

theorem startsGap_of_isTrivia {gap : List Char} (h : IsTrivia gap) (hne : gap ≠ []) :
    StartsGap gap := by
  cases h with
  | nil => exact absurd rfl hne
  | @separator c rest hc _ => exact ⟨c, rest, rfl, by simp [opensTrivia, hc]⟩
  | comment => exact ⟨_, _, rfl, by decide⟩

theorem startsGap_of_isFinalTrivia {gap : List Char} (h : IsFinalTrivia gap) (hne : gap ≠ []) :
    StartsGap gap := by
  rcases h with h | ⟨front, body, hfront, -, rfl⟩
  · exact startsGap_of_isTrivia h hne
  · by_cases hempty : front = []
    · subst hempty
      exact ⟨_, _, rfl, by decide⟩
    · obtain ⟨c, rest, rfl, hc⟩ := startsGap_of_isTrivia hfront hempty
      exact ⟨c, _, rfl, hc⟩

theorem StartsGap.append {gap : List Char} (h : StartsGap gap) (back : List Char) :
    StartsGap (gap ++ back) := by
  obtain ⟨c, rest, rfl, hc⟩ := h
  exact ⟨c, rest ++ back, rfl, hc⟩

theorem StartsGap.isEmpty {gap : List Char} (h : StartsGap gap) : gap.isEmpty = false := by
  obtain ⟨c, rest, rfl, -⟩ := h
  rfl

/-- No character of the class begins trivia. -/
def AvoidsTrivia (p : Char → Bool) : Prop := ∀ c, opensTrivia c = true → p c = false

theorem avoidsTrivia_of_any {p : Char → Bool}
    (h : [' ', '\t', '\n', '\r', '\uFEFF', ',', '#'].any p = false) : AvoidsTrivia p := by
  intro c hc
  apply eq_false_of_ne_true
  refine List.any_eq_false.1 h c ?_
  simpa [opensTrivia, isSeparator, or_assoc] using hc

namespace Lexeme

/-- The lexeme in a text that goes on. -/
def followedBy (lexeme : Lexeme) (more : List Char) : Lexeme :=
  { lexeme with rest := lexeme.rest ++ more }

/-- The end of a string in a text that goes on. -/
def StringEnd.followedBy (tail : StringEnd) (more : List Char) : StringEnd :=
  { tail with rest := tail.rest ++ more }

theorem avoidsTrivia_isDigit : AvoidsTrivia isDigit := avoidsTrivia_of_any (by decide)

theorem avoidsTrivia_isNamePart : AvoidsTrivia isNamePart := avoidsTrivia_of_any (by decide)

section Gap

variable {gap : List Char} (hgap : StartsGap gap)

include hgap

theorem takeWhile_append_gap {p : Char → Bool} (hp : AvoidsTrivia p) (text : List Char) :
    (text ++ gap).takeWhile p = text.takeWhile p := by
  obtain ⟨g, more, rfl, hg⟩ := hgap
  induction text with
  | nil => simp [hp g hg]
  | cons c text ih => simp [List.takeWhile_cons, ih]

theorem dropWhile_append_gap {p : Char → Bool} (hp : AvoidsTrivia p) (text : List Char) :
    (text ++ gap).dropWhile p = text.dropWhile p ++ gap := by
  obtain ⟨g, more, rfl, hg⟩ := hgap
  induction text with
  | nil => simp [hp g hg]
  | cons c text ih =>
      rw [List.cons_append, List.dropWhile_cons, List.dropWhile_cons, ih]
      split <;> rfl

theorem startsWith_append_gap {p : Char → Bool} (hp : AvoidsTrivia p) (text : List Char) :
    startsWith p (text ++ gap) = startsWith p text := by
  obtain ⟨g, more, rfl, hg⟩ := hgap
  cases text with
  | nil => exact hp g hg
  | cons c text => rfl

/-- A text that does not begin with some characters of words does not do so before a gap. -/
theorem append_gap_ne {front text : List Char} (hfront : front.any opensTrivia = false)
    (h : ∀ rest, text ≠ front ++ rest) (rest : List Char) : text ++ gap ≠ front ++ rest := by
  obtain ⟨g, more, rfl, hg⟩ := hgap
  intro heq
  induction front generalizing text with
  | nil => exact h text rfl
  | cons c front ih =>
      cases text with
      | nil =>
          obtain ⟨rfl, -⟩ := List.cons.inj heq
          exact List.any_eq_false.1 hfront g (by simp) hg
      | cons d text =>
          obtain ⟨rfl, hrest⟩ := List.cons.inj heq
          rw [List.any_cons, Bool.or_eq_false_iff] at hfront
          refine ih hfront.2 (fun tail htail => ?_) hrest
          exact h tail (congrArg (d :: ·) htail)

/-! ### Numbers and dots -/

theorem scanDots_append_gap (text : List Char) :
    scanDots ('.' :: (text ++ gap)) = (scanDots ('.' :: text)).followedBy gap := by
  obtain ⟨g, more, rfl, hg⟩ := hgap
  have hdot : g ≠ '.' := by
    rintro rfl
    revert hg
    decide
  rcases text with _ | ⟨c, _ | ⟨d, text⟩⟩
  · simp [scanDots, hdot, followedBy]
  · by_cases hc : c = '.' <;> simp [scanDots, hc, hdot, followedBy]
  · by_cases hc : c = '.' <;> by_cases hd : d = '.' <;> simp [scanDots, hc, hd, followedBy]

theorem brokenNumber_append_gap (fault : LexicalFault) (taken text : List Char) :
    brokenNumber fault taken (text ++ gap) = (brokenNumber fault taken text).followedBy gap := by
  have hbelongs : AvoidsTrivia fun c => isNamePart c || c == '.' || c == '+' || c == '-' :=
    avoidsTrivia_of_any (by decide)
  simp only [brokenNumber, takeWhile_append_gap hgap hbelongs, dropWhile_append_gap hgap hbelongs,
    followedBy]

theorem finishNumber_append_gap (isFloat : Bool) (taken text : List Char) :
    finishNumber isFloat taken (text ++ gap) =
      (finishNumber isFloat taken text).followedBy gap := by
  have hstart : AvoidsTrivia fun c => isNameStart c || c == '.' :=
    avoidsTrivia_of_any (by decide)
  simp only [finishNumber, startsWith_append_gap hgap hstart, brokenNumber_append_gap hgap]
  split <;> rfl

theorem splitFraction_append_gap (text : List Char) :
    splitFraction (text ++ gap) = ((splitFraction text).1, (splitFraction text).2 ++ gap) := by
  have htake := takeWhile_append_gap hgap avoidsTrivia_isDigit
  have hdrop := dropWhile_append_gap hgap avoidsTrivia_isDigit
  obtain ⟨g, more, rfl, hg⟩ := hgap
  have hdigit := avoidsTrivia_isDigit g hg
  have hdot : g ≠ '.' := by
    rintro rfl
    revert hg
    decide
  rcases text with _ | ⟨c, _ | ⟨d, text⟩⟩
  · simp [splitFraction, hdot]
  · by_cases hc : c = '.' <;> simp [splitFraction, hc, hdigit]
  · by_cases hc : c = '.'
    · subst hc
      by_cases hd : isDigit d = true <;> simp [splitFraction, hd, htake, hdrop]
    · simp [splitFraction, hc]

theorem splitExponentMark_append_gap (text : List Char) :
    splitExponentMark (text ++ gap) =
      ((splitExponentMark text).1, (splitExponentMark text).2 ++ gap) := by
  obtain ⟨g, more, rfl, hg⟩ := hgap
  have hmarks : AvoidsTrivia fun c => c == 'e' || c == 'E' || c == '+' || c == '-' :=
    avoidsTrivia_of_any (by decide)
  have hnone := hmarks g hg
  simp only [Bool.or_eq_false_iff, beq_eq_false_iff_ne] at hnone
  obtain ⟨⟨⟨hsmall, hlarge⟩, hplus⟩, hminus⟩ := hnone
  rcases text with _ | ⟨c, _ | ⟨d, text⟩⟩
  · simp [splitExponentMark, hsmall, hlarge]
  · by_cases hc : c = 'e' ∨ c = 'E' <;> simp [splitExponentMark, hc, hplus, hminus]
  · by_cases hc : c = 'e' ∨ c = 'E'
    · by_cases hd : d = '+'
      · simp [splitExponentMark, hc, hd]
      · by_cases hd' : d = '-' <;> simp [splitExponentMark, hc, hd, hd']
    · simp [splitExponentMark, hc]

theorem scanNumberTail_append_gap (whole text : List Char) :
    scanNumberTail whole (text ++ gap) = (scanNumberTail whole text).followedBy gap := by
  simp only [scanNumberTail, splitFraction_append_gap hgap, splitExponentMark_append_gap hgap,
    finishNumber_append_gap hgap, brokenNumber_append_gap hgap,
    startsWith_append_gap hgap avoidsTrivia_isDigit, takeWhile_append_gap hgap avoidsTrivia_isDigit,
    dropWhile_append_gap hgap avoidsTrivia_isDigit]
  split
  · rfl
  · split <;> rfl

theorem scanUnsigned_append_gap (sign text : List Char) :
    scanUnsigned sign (text ++ gap) = (scanUnsigned sign text).followedBy gap := by
  have hstart := startsWith_append_gap hgap avoidsTrivia_isDigit
  have htake := takeWhile_append_gap hgap avoidsTrivia_isDigit
  have hdrop := dropWhile_append_gap hgap avoidsTrivia_isDigit
  have hbroken := brokenNumber_append_gap hgap .leadingZeros (sign ++ ['0'])
  have htail := scanNumberTail_append_gap hgap
  by_cases hzero : ∃ rest, text = '0' :: rest
  · obtain ⟨rest, rfl⟩ := hzero
    simp only [List.cons_append, scanUnsigned, hstart, hbroken, htail]
    split <;> rfl
  · have hwhole : ∀ rest, text ≠ '0' :: rest := fun rest heq => hzero ⟨rest, heq⟩
    have hother : ∀ rest, text ++ gap ≠ ['0'] ++ rest := append_gap_ne hgap (by decide) hwhole
    rw [scanUnsigned.eq_2 _ _ hother, scanUnsigned.eq_2 _ _ hwhole, hstart, htake, hdrop]
    split
    · exact htail _ _
    · rfl

theorem scanNumber_append_gap (text : List Char) :
    scanNumber (text ++ gap) = (scanNumber text).followedBy gap := by
  have hunsigned := scanUnsigned_append_gap hgap
  by_cases hminus : ∃ rest, text = '-' :: rest
  · obtain ⟨rest, rfl⟩ := hminus
    exact hunsigned ['-'] rest
  · have hplain : ∀ rest, text ≠ '-' :: rest := fun rest heq => hminus ⟨rest, heq⟩
    have hother : ∀ rest, text ++ gap ≠ ['-'] ++ rest := append_gap_ne hgap (by decide) hplain
    rw [scanNumber.eq_2 _ hother, scanNumber.eq_2 _ hplain]
    exact hunsigned [] text

end Gap

/-! ### Strings -/

section Strings

variable {quote : Char} {text gap gap' : List Char}

theorem length_rest_scanQuoted (quote : Char) (text : List Char) :
    (scanQuoted quote text).taken.length + (scanQuoted quote text).rest.length = text.length := by
  have hcovers := congrArg List.length (scanQuoted_covers quote text)
  rwa [List.length_append] at hcovers

/-- A string takes at least one character. -/
theorem length_rest_scanQuoted_lt (quote : Char) (hne : text ≠ []) :
    (scanQuoted quote text).rest.length < text.length := by
  have hlength := length_rest_scanQuoted quote text
  have htaken : (scanQuoted quote text).taken ≠ [] := by
    fun_cases scanQuoted quote text <;> simp_all [StringEnd.after]
  have hpos := List.length_pos_iff.2 htaken
  omega

/-- A block string takes at least one character. -/
theorem length_rest_scanBlock_lt (hne : text ≠ []) :
    (scanBlock text).rest.length < text.length := by
  have hlength := congrArg List.length (scanBlock_covers text)
  have htaken : (scanBlock text).taken ≠ [] := by
    fun_cases scanBlock text <;> simp_all [StringEnd.after]
  have hpos := List.length_pos_iff.2 htaken
  rw [List.length_append] at hlength
  omega

theorem getLast?_of_tail {c last : Char} (h : text.getLast? = some last) :
    (c :: text).getLast? = some last := by
  simp [List.getLast?_cons, h]

theorem ne_slash {c : Char} {rest : List Char} (hempty : c = '\\' → rest = [] → False)
    (hcons : ∀ d more, c = '\\' → rest = d :: more → False) : c ≠ '\\' := by
  intro hc
  cases rest with
  | nil => exact hempty hc rfl
  | cons d more => exact hcons d more hc rfl

theorem scanQuoted_plain {c : Char} (hfeed : c ≠ '\n') (hreturn : c ≠ '\r') (hslash : c ≠ '\\')
    (quote : Char) (rest : List Char) : scanQuoted quote (c :: rest) =
      if c = quote then ⟨none, [c], rest⟩ else .after c (scanQuoted quote rest) :=
  scanQuoted.eq_7 quote c rest hfeed (fun _ hc _ => hreturn hc) hreturn (fun hc _ => hslash hc)
    fun _ _ hc _ => hslash hc

/-- A string breaks off at a carriage return alone if no line feed follows. -/
theorem scanQuoted_return (quote : Char) {rest more : List Char}
    (hfeed : ∀ tail, rest = '\n' :: tail → False) (hmore : rest = [] → more.head? ≠ some '\n') :
    scanQuoted quote ('\r' :: (rest ++ more)) = ⟨some .brokenString, ['\r'], rest ++ more⟩ := by
  refine scanQuoted.eq_4 quote (rest ++ more) fun tail heq => ?_
  cases rest with
  | nil =>
      rw [List.nil_append] at heq
      exact hmore rfl (by rw [heq, List.head?_cons])
  | cons c rest =>
      obtain ⟨rfl, -⟩ := List.cons.inj heq
      exact hfeed rest rfl

/-- A string that ends before a gap ends there before any other gap, unless it breaks off at a
carriage return that now comes before a line feed. -/
theorem scanQuoted_append_gap (hne : gap ≠ [])
    (h : gap.length ≤ (scanQuoted quote (text ++ gap)).rest.length) :
    scanQuoted quote (text ++ gap) = (scanQuoted quote text).followedBy gap ∧
      ∀ gap', (text.getLast? = some '\r' → gap'.head? ≠ some '\n') →
        scanQuoted quote (text ++ gap') = (scanQuoted quote text).followedBy gap' := by
  fun_induction scanQuoted quote text with
  | case1 =>
      -- the string would go on into the gap
      exact absurd h (Nat.not_le.2 (length_rest_scanQuoted_lt quote hne))
  | case2 | case3 => exact ⟨rfl, fun _ _ => rfl⟩
  | case4 rest hfeed =>
      refine ⟨scanQuoted_return quote hfeed ?_, fun gap' hreturn => ?_⟩
      · rintro rfl hhead
        obtain ⟨more, rfl⟩ := List.head?_eq_some_iff.1 hhead
        simp only [List.cons_append, List.nil_append, scanQuoted, List.length_cons] at h
        omega
      · refine scanQuoted_return quote hfeed ?_
        rintro rfl
        exact hreturn rfl
  | case5 =>
      obtain ⟨g, more, rfl⟩ := List.exists_cons_of_ne_nil hne
      have hlength := length_rest_scanQuoted_lt quote hne
      have hlength' := length_rest_scanQuoted quote more
      simp only [List.cons_append, List.nil_append, scanQuoted] at h
      split at h <;> simp only [StringEnd.after, List.length_cons] at h hlength <;> omega
  | case6 c rest hc ih =>
      simp only [List.cons_append, scanQuoted, if_pos hc] at h ⊢
      obtain ⟨hgap, hother⟩ := ih h
      refine ⟨congrArg (StringEnd.after '\\') hgap, fun gap' hreturn => ?_⟩
      exact congrArg (StringEnd.after '\\')
        (hother gap' fun hlast => hreturn (getLast?_of_tail hlast))
  | case7 c rest hc ih =>
      simp only [List.cons_append, scanQuoted, if_neg hc] at h ⊢
      obtain ⟨hgap, hother⟩ := ih h
      refine ⟨congrArg (fun tail => StringEnd.after '\\' (StringEnd.after c tail)) hgap,
        fun gap' hreturn => ?_⟩
      exact congrArg (fun tail => StringEnd.after '\\' (StringEnd.after c tail))
        (hother gap' fun hlast => hreturn (getLast?_of_tail (getLast?_of_tail hlast)))
  | case8 rest hfeed _ hreturn hempty hcons =>
      have hplain := scanQuoted_plain hfeed hreturn (ne_slash hempty hcons) quote
      simp only [if_true] at hplain
      exact ⟨hplain _, fun gap' _ => hplain _⟩
  | case9 c rest hfeed _ hreturn hempty hcons hquote ih =>
      have hplain := scanQuoted_plain hfeed hreturn (ne_slash hempty hcons) quote
      simp only [if_neg hquote] at hplain
      rw [List.cons_append, hplain] at h ⊢
      obtain ⟨hgap, hother⟩ := ih h
      refine ⟨congrArg (StringEnd.after c) hgap, fun gap' hlast => ?_⟩
      rw [List.cons_append, hplain]
      exact congrArg (StringEnd.after c)
        (hother gap' fun hreturn' => hlast (getLast?_of_tail hreturn'))

/-- A block string that ends before a gap ends there before any other gap. -/
theorem scanBlock_append_gap (hgap : StartsGap gap)
    (h : gap.length ≤ (scanBlock (text ++ gap)).rest.length) :
    scanBlock (text ++ gap) = (scanBlock text).followedBy gap ∧
      ∀ gap', StartsGap gap' → scanBlock (text ++ gap') = (scanBlock text).followedBy gap' := by
  have hne : gap ≠ [] := by
    obtain ⟨g, more, rfl, -⟩ := hgap
    simp
  fun_induction scanBlock text with
  | case1 => exact absurd h (Nat.not_le.2 (length_rest_scanBlock_lt hne))
  | case2 rest ih =>
      simp only [List.cons_append, scanBlock] at h ⊢
      obtain ⟨hgap', hother⟩ := ih h
      let hidden := fun tail : StringEnd => tail.after '"' |>.after '"' |>.after '"' |>.after '\\'
      exact ⟨congrArg hidden hgap', fun gap' hgap' => congrArg hidden (hother gap' hgap')⟩
  | case3 => exact ⟨rfl, fun _ _ => rfl⟩
  | case4 c rest hhidden hclose ih =>
      -- a gap does not begin with the quotes that would be needed
      have hplain : ∀ more, StartsGap more →
          scanBlock (c :: (rest ++ more)) = .after c (scanBlock (rest ++ more)) := by
        intro more hmore
        refine scanBlock.eq_4 c (rest ++ more) (fun tail hc => ?_) fun tail hc => ?_
        · have hquotes : ∀ tail, rest ≠ ['"', '"', '"'] ++ tail := fun tail => hhidden tail hc
          exact append_gap_ne hmore (by decide) hquotes tail
        · have hquotes : ∀ tail, rest ≠ ['"', '"'] ++ tail := fun tail => hclose tail hc
          exact append_gap_ne hmore (by decide) hquotes tail
      rw [List.cons_append, hplain gap hgap] at h ⊢
      obtain ⟨hgap', hother⟩ := ih h
      refine ⟨congrArg (StringEnd.after c) hgap', fun gap' hstarts => ?_⟩
      rw [List.cons_append, hplain gap' hstarts]
      exact congrArg (StringEnd.after c) (hother gap' hstarts)

theorem ofStringEnd_followedBy (quotes : List Char) (tail : StringEnd) (more : List Char) :
    ofStringEnd quotes (tail.followedBy more) = (ofStringEnd quotes tail).followedBy more := by
  obtain ⟨fault, taken, rest⟩ := tail
  cases fault <;> rfl

/-- A text behind one double quote is a string on one line, unless two more quotes follow. -/
theorem scan_double (hquotes : ∀ rest, text ≠ ['"', '"'] ++ rest) :
    scan '"' text = ofStringEnd ['"'] (scanQuoted '"' text) := by
  have hmark : mark? '"' = none := rfl
  have hdot : '"' ≠ '.' := by decide
  simp only [scan, hmark, if_neg hdot, if_true]
  split
  · next rest => exact absurd rfl (hquotes rest)
  · rfl

end Strings

/-! ### Lexemes -/

/-- A lexeme that is no string sees nothing of a gap behind it. -/
theorem scan_append_gap_of_plain {c : Char} {gap : List Char} (hgap : StartsGap gap)
    (hdouble : c ≠ '"') (hsingle : c ≠ '\'') (text : List Char) :
    scan c (text ++ gap) = (scan c text).followedBy gap := by
  simp only [scan, if_neg hdouble, if_neg hsingle]
  cases mark? c with
  | some mark => rfl
  | none =>
      dsimp only
      by_cases hdot : c = '.'
      · subst hdot
        exact scanDots_append_gap hgap text
      by_cases hstart : isNameStart c = true
      · simp only [if_neg hdot, if_pos hstart, takeWhile_append_gap hgap avoidsTrivia_isNamePart,
          dropWhile_append_gap hgap avoidsTrivia_isNamePart, followedBy]
      · simp only [if_neg hdot, if_neg hstart]
        split
        · exact scanNumber_append_gap hgap (c :: text)
        · rfl

/-- A lexeme that ends before a gap is the same lexeme before any other gap, unless it is a string
that breaks off at a carriage return and the other gap begins with a line feed. -/
theorem scan_append_gap {c : Char} {text gap gap' : List Char} (hgap : StartsGap gap)
    (hgap' : StartsGap gap') (hreturn : text.getLast? = some '\r' → gap'.head? ≠ some '\n')
    (h : gap.length ≤ (scan c (text ++ gap)).rest.length) :
    scan c (text ++ gap) = (scan c text).followedBy gap ∧
      scan c (text ++ gap') = (scan c text).followedBy gap' := by
  have hne : gap ≠ [] := by
    obtain ⟨g, more, rfl, -⟩ := hgap
    simp
  by_cases hdouble : c = '"'
  · subst hdouble
    by_cases hblock : ∃ rest, text = ['"', '"'] ++ rest
    · obtain ⟨rest, rfl⟩ := hblock
      have hscan : ∀ more, scan '"' ('"' :: '"' :: more) =
          ofStringEnd ['"', '"', '"'] (scanBlock more) := fun _ => rfl
      simp only [List.cons_append, List.nil_append, hscan, rest_ofStringEnd] at h ⊢
      obtain ⟨hfirst, hother⟩ := scanBlock_append_gap hgap h
      rw [hfirst, hother gap' hgap', ofStringEnd_followedBy, ofStringEnd_followedBy]
      exact ⟨rfl, rfl⟩
    · have hquotes : ∀ rest, text ≠ ['"', '"'] ++ rest := fun rest heq => hblock ⟨rest, heq⟩
      have hscan := scan_double (append_gap_ne hgap (by decide) hquotes)
      have hscan' := scan_double (append_gap_ne hgap' (by decide) hquotes)
      rw [hscan, rest_ofStringEnd] at h
      obtain ⟨hfirst, hother⟩ := scanQuoted_append_gap hne h
      rw [hscan, hscan', scan_double hquotes, hfirst, hother gap' hreturn, ofStringEnd_followedBy,
        ofStringEnd_followedBy]
      exact ⟨rfl, rfl⟩
  by_cases hsingle : c = '\''
  · subst hsingle
    have hscan : ∀ more, scan '\'' more = ofStringEnd ['\''] (scanQuoted '\'' more) := fun _ => rfl
    simp only [hscan, rest_ofStringEnd] at h ⊢
    obtain ⟨hfirst, hother⟩ := scanQuoted_append_gap hne h
    rw [hfirst, hother gap' hreturn, ofStringEnd_followedBy, ofStringEnd_followedBy]
    exact ⟨rfl, rfl⟩
  · exact ⟨scan_append_gap_of_plain hgap hdouble hsingle text,
      scan_append_gap_of_plain hgap' hdouble hsingle text⟩

/-- Behind a lexeme and some more text one gap can take the place of another. -/
theorem exists_scan_eq {c : Char} {rest between gap gap' : List Char} (hgap : StartsGap gap)
    (hgap' : StartsGap gap') (hrest : (scan c rest).rest = between ++ gap)
    (hreturn : ((scan c rest).taken ++ between).getLast? = some '\r' → gap'.head? ≠ some '\n') :
    ∃ rest', c :: rest' = (scan c rest).taken ++ (between ++ gap') ∧
      (scan c rest).content = (scan c rest').content ∧
        (scan c rest).taken = (scan c rest').taken ∧ (scan c rest').rest = between ++ gap' := by
  obtain ⟨tail, htaken, htail⟩ := exists_taken_eq_cons c rest
  have hinput : rest = tail ++ between ++ gap := by
    rw [← htail, hrest, List.append_assoc]
  have hlength : gap.length ≤ (scan c (tail ++ between ++ gap)).rest.length := by
    rw [← hinput, hrest, List.length_append]
    exact Nat.le_add_left _ _
  rw [htaken, List.cons_append] at hreturn
  obtain ⟨hscan, hscan'⟩ := scan_append_gap hgap hgap'
    (fun hlast => hreturn (getLast?_of_tail hlast)) hlength
  rw [← hinput] at hscan
  have hmiddle : (scan c (tail ++ between)).rest = between := by
    rw [hscan, followedBy] at hrest
    exact List.append_cancel_right hrest
  refine ⟨tail ++ between ++ gap', by rw [htaken]; simp, ?_, ?_, ?_⟩
  · rw [hscan, hscan']
    rfl
  · rw [hscan, hscan']
    rfl
  · rw [hscan', followedBy, hmiddle]

end Lexeme

end CompletionGateway
