import CompletionGateway.Proofs.Operation.Grammar

/-!
# What a literal says at its own level

On its own level a literal is made of tokens and of groups.  A group in braces or brackets is one
value there, whatever stands inside it; a group in parentheses is none.  If the pieces of a literal
are entries or items, the literal holds their values, and otherwise it is malformed and means the
empty literal of its kind.  So a malformed literal inside another one is a value like any other: what
stands beside it is what would stand beside any other value in its place.
-/

namespace CompletionGateway

/-- What a literal is made of on its own level: a token, or a group, which has the value of a
literal unless its brackets are parentheses. -/
inductive Piece where
  | token (token : Token)
  | group (tokens : List Token) (value? : Option ArgValue)

namespace Piece

/-- The tokens of a piece. -/
def tokens : Piece → List Token
  | token t => [t]
  | group tokens _ => tokens

/-- The tokens of pieces in a row. -/
def flat (pieces : List Piece) : List Token := pieces.flatMap tokens

/-- Whether a bare run whose last token is at `last` goes on. -/
def goesOn (last : Span) : List Piece → Bool
  | token next :: _ => next.follows last && !next.kind.endsRun
  | _ => false

/-- The tokens with which a bare run goes on, and the rest. -/
def takeRun (last : Span) : List Piece → List Token × List Piece
  | [] => ([], [])
  | group tokens value? :: rest => ([], group tokens value? :: rest)
  | token next :: rest =>
      if next.follows last && !next.kind.endsRun then
        let (run, rest) := takeRun next.span rest
        (next :: run, rest)
      else ([], token next :: rest)

section

variable (source : Option (List Char))

/-- Whether a token in front of some pieces begins a bare run. -/
def startsRun (first : Token) (rest : List Piece) : Bool :=
  match first.kind with
  | .error _ _ => !first.standsAtQuote source
  | .punctuator mark =>
      mark == .at || mark == .bang || mark == .ellipsis || mark == .equals
  | .name _ | .int _ | .float _ | .bool _ | .null => goesOn first.span rest
  | .string _ | .finish => false

/-- The name behind the mark of a variable. -/
def name? : List Piece → Option (String × List Piece)
  | token t :: rest => t.kind.asName?.map fun name => (name, rest)
  | _ => none

/-- The key of an entry. -/
def key? : List Piece → Option (String × List Piece)
  | token t :: rest => t.kind.key?.map fun name => (name, rest)
  | _ => none

/-- The colon behind a key. -/
def colon? : List Piece → Option (Token × List Piece)
  | token t :: rest => if t.kind = .punctuator .colon then some (t, rest) else none
  | _ => none

/-- The value at the front of some pieces. -/
def value? : List Piece → Option (ArgValue × List Piece)
  | [] => none
  | group _ value? :: rest => value?.map fun value => (value, rest)
  | token first :: rest =>
      if startsRun source first rest then
        let (more, rest) := takeRun first.span rest
        (Token.runText? source first more).map fun text => (.string text, rest)
      else if first.kind = .punctuator .dollar then
        (name? rest).map fun (name, rest) => (.variable name, rest)
      else first.kind.value?.map fun value => (value, rest)

/-- The entries that some pieces are, if there are at most `limit`. -/
def entries? : (limit : Nat) → List Piece → Option (List (String × ArgValue))
  | _, [] => some []
  | 0, _ :: _ => none
  | limit + 1, piece :: pieces => do
      let (name, rest) ← key? (piece :: pieces)
      let (_, rest) ← colon? rest
      let (value, rest) ← value? source rest
      let more ← entries? limit rest
      return (name, value) :: more

/-- The items that some pieces are, if there are at most `limit`. -/
def items? : (limit : Nat) → List Piece → Option (List ArgValue)
  | _, [] => some []
  | 0, _ :: _ => none
  | limit + 1, piece :: pieces => do
      let (value, rest) ← value? source (piece :: pieces)
      let more ← items? limit rest
      return value :: more

end

end Piece

namespace LiteralKind

/-- What a literal holds whose pieces are entries or items; `none` if it is malformed on its own
level. -/
def wellFormed? (source : Option (List Char)) (pieces : List Piece) : LiteralKind → Option ArgValue
  | object => (Piece.entries? source pieces.length pieces).map fun pairs => .object (Dict.ofList pairs)
  | list => (Piece.items? source pieces.length pieces).map .list

/-- What a literal means: if it is malformed, nothing but its kind. -/
def meaning (kind : LiteralKind) (source : Option (List Char)) (pieces : List Piece) : ArgValue :=
  (kind.wellFormed? source pieces).getD kind.empty

/-- The value is one that a literal of the kind can have. -/
def Makes : LiteralKind → ArgValue → Prop
  | object, value => ∃ entries, value = .object entries
  | list, value => ∃ items, value = .list items

theorem makes_meaning (kind : LiteralKind) (source : Option (List Char)) (pieces : List Piece) :
    kind.Makes (kind.meaning source pieces) := by
  unfold meaning
  cases kind with
  | object =>
      rw [wellFormed?]
      cases Piece.entries? source pieces.length pieces with
      | none => exact ⟨[], rfl⟩
      | some pairs => exact ⟨Dict.ofList pairs, rfl⟩
  | list =>
      rw [wellFormed?]
      cases Piece.items? source pieces.length pieces with
      | none => exact ⟨[], rfl⟩
      | some values => exact ⟨values, rfl⟩

end LiteralKind

namespace Delimiter

/-- The literal that has brackets of this shape. -/
def literal? : Delimiter → Option LiteralKind
  | brace => some .object
  | bracket => some .list
  | paren => none

theorem literal?_eq_some {shape : Delimiter} {kind : LiteralKind} :
    shape.literal? = some kind ↔ shape = kind.shape := by
  constructor
  · intro h
    cases shape <;> cases h <;> rfl
  · rintro rfl
    cases kind <;> rfl

end Delimiter

/-- The pieces of nested tokens. -/
def Forest.pieces (source : Option (List Char)) : Forest → List Piece
  | nil => []
  | token t _ rest => .token t :: rest.pieces source
  | group shape first last _ _ inside rest =>
      .group (first :: (inside.tokens ++ [last]))
          (shape.literal?.map fun kind => kind.meaning source (inside.pieces source)) ::
        rest.pieces source

namespace Piece

variable {source : Option (List Char)} {pieces rest : List Piece}

@[simp]
theorem flat_nil : flat [] = [] := rfl

@[simp]
theorem flat_cons (piece : Piece) (rest : List Piece) :
    flat (piece :: rest) = piece.tokens ++ flat rest := rfl

theorem flat_append (front back : List Piece) : flat (front ++ back) = flat front ++ flat back :=
  List.flatMap_append

theorem flat_pieces (source : Option (List Char)) (forest : Forest) :
    flat (forest.pieces source) = forest.tokens := by
  induction forest with
  | nil => rfl
  | token t plain rest ih => exact congrArg (t :: ·) ih
  | group shape first last opens closes inside rest _ ih =>
      rw [Forest.pieces, flat_cons, ih]
      simp [tokens, Forest.tokens]

/-! ### What the pieces leave -/

theorem append_takeRun (span : Span) (pieces : List Piece) :
    ∃ front, pieces = front ++ (takeRun span pieces).2 := by
  induction pieces generalizing span with
  | nil => exact ⟨[], rfl⟩
  | cons piece pieces ih =>
      cases piece with
      | group tokens value? => exact ⟨[], rfl⟩
      | token next =>
          rw [takeRun]
          split
          · obtain ⟨front, hfront⟩ := ih next.span
            exact ⟨token next :: front, congrArg (token next :: ·) hfront⟩
          · exact ⟨[], rfl⟩

theorem eq_cons_of_name? {name : String} (h : name? pieces = some (name, rest)) :
    ∃ t, pieces = token t :: rest := by
  unfold name? at h
  split at h
  · rename_i t pieces'
    obtain ⟨found, -, heq⟩ := Option.map_eq_some_iff.1 h
    exact ⟨t, by rw [(Prod.mk.inj heq).2]⟩
  · cases h

theorem eq_cons_of_key? {name : String} (h : key? pieces = some (name, rest)) :
    ∃ t, pieces = token t :: rest ∧ t.kind.key? = some name := by
  unfold key? at h
  split at h
  · rename_i t pieces'
    obtain ⟨found, hfound, heq⟩ := Option.map_eq_some_iff.1 h
    obtain ⟨rfl, rfl⟩ := Prod.mk.inj heq
    exact ⟨t, rfl, hfound⟩
  · cases h

theorem eq_cons_of_colon? {t : Token} (h : colon? pieces = some (t, rest)) :
    pieces = token t :: rest ∧ t.kind = .punctuator .colon := by
  unfold colon? at h
  split at h
  · split at h
    · rename_i hcolon
      cases h
      exact ⟨rfl, hcolon⟩
    · cases h
  · cases h

/-- A value takes at least one piece. -/
theorem append_of_value? {value : ArgValue} (h : value? source pieces = some (value, rest)) :
    ∃ piece front, pieces = piece :: (front ++ rest) := by
  unfold value? at h
  split at h
  · cases h
  · rename_i tokens found pieces'
    obtain ⟨_, -, heq⟩ := Option.map_eq_some_iff.1 h
    exact ⟨_, [], by rw [(Prod.mk.inj heq).2]; rfl⟩
  · rename_i first pieces'
    split at h
    · obtain ⟨_, -, heq⟩ := Option.map_eq_some_iff.1 h
      obtain ⟨front, hfront⟩ := append_takeRun first.span pieces'
      refine ⟨token first, front, ?_⟩
      rw [← (Prod.mk.inj heq).2, ← hfront]
    · split at h
      · obtain ⟨⟨name, more⟩, hname, heq⟩ := Option.map_eq_some_iff.1 h
        obtain ⟨t, rfl⟩ := eq_cons_of_name? hname
        exact ⟨token first, [token t], by rw [← (Prod.mk.inj heq).2]; rfl⟩
      · obtain ⟨_, -, heq⟩ := Option.map_eq_some_iff.1 h
        exact ⟨token first, [], by rw [(Prod.mk.inj heq).2]; rfl⟩

theorem entries?_nil (limit : Nat) : entries? source limit [] = some [] := by
  cases limit <;> rfl

theorem items?_nil (limit : Nat) : items? source limit [] = some [] := by
  cases limit <;> rfl

theorem entries?_cons (limit : Nat) (piece : Piece) (pieces : List Piece) :
    entries? source (limit + 1) (piece :: pieces) =
      (key? (piece :: pieces)).bind fun key =>
        (colon? key.2).bind fun colon =>
          (value? source colon.2).bind fun value =>
            (entries? source limit value.2).map fun more => (key.1, value.1) :: more := by
  simp only [Option.map_eq_bind]
  rfl

theorem items?_cons (limit : Nat) (piece : Piece) (pieces : List Piece) :
    items? source (limit + 1) (piece :: pieces) =
      (value? source (piece :: pieces)).bind fun value =>
        (items? source limit value.2).map fun more => value.1 :: more := by
  simp only [Option.map_eq_bind]
  rfl

/-- The first of some entries. -/
theorem exists_entry {limit : Nat} {pairs : List (String × ArgValue)} (hne : pieces ≠ [])
    (h : entries? source (limit + 1) pieces = some pairs) :
    ∃ key colon rest name value rest' more, pieces = token key :: token colon :: rest ∧
      key.kind.key? = some name ∧ colon.kind = .punctuator .colon ∧
        value? source rest = some (value, rest') ∧ entries? source limit rest' = some more ∧
          pairs = (name, value) :: more := by
  cases pieces with
  | nil => exact absurd rfl hne
  | cons piece pieces =>
      rw [entries?_cons] at h
      obtain ⟨⟨name, rest₁⟩, hkey, h⟩ := Option.bind_eq_some_iff.1 h
      obtain ⟨⟨colon, rest₂⟩, hcolon, h⟩ := Option.bind_eq_some_iff.1 h
      obtain ⟨⟨value, rest₃⟩, hvalue, h⟩ := Option.bind_eq_some_iff.1 h
      obtain ⟨more, hmore, rfl⟩ := Option.map_eq_some_iff.1 h
      obtain ⟨key, hpieces, hname⟩ := eq_cons_of_key? hkey
      obtain ⟨hrest, hmark⟩ := eq_cons_of_colon? hcolon
      refine ⟨key, colon, rest₂, name, value, rest₃, more, ?_, hname, hmark, hvalue, hmore, rfl⟩
      rw [hpieces]
      exact congrArg (token key :: ·) hrest

theorem entries?_entry {limit : Nat} {key colon : Token} {name : String} {value : ArgValue}
    {more : List (String × ArgValue)} (hname : key.kind.key? = some name)
    (hcolon : colon.kind = .punctuator .colon) (hvalue : value? source pieces = some (value, rest))
    (hmore : entries? source limit rest = some more) :
    entries? source (limit + 1) (token key :: token colon :: pieces) =
      some ((name, value) :: more) := by
  have hkey : key? (token key :: token colon :: pieces) = some (name, token colon :: pieces) := by
    rw [key?, hname]
    rfl
  have hmark : colon? (token colon :: pieces) = some (colon, pieces) := if_pos hcolon
  rw [entries?_cons, hkey, Option.bind_some, hmark, Option.bind_some, hvalue, Option.bind_some, hmore]
  rfl

/-! ### Beside a group

Nothing on a level reads over a group: what stands before one is read as if the level ended there.
-/

section Beside

variable (tokens : List Token) (found? : Option ArgValue) (back : List Piece)

theorem takeRun_append_group (span : Span) (front : List Piece) :
    takeRun span (front ++ group tokens found? :: back) =
      ((takeRun span front).1, (takeRun span front).2 ++ group tokens found? :: back) := by
  induction front generalizing span with
  | nil => rfl
  | cons piece front ih =>
      cases piece with
      | group => rfl
      | token next =>
          rw [List.cons_append, takeRun, takeRun, ih next.span]
          split <;> rfl

theorem startsRun_append_group (first : Token) (front : List Piece) :
    startsRun source first (front ++ group tokens found? :: back) =
      startsRun source first front := by
  have hgoes : goesOn first.span (front ++ group tokens found? :: back) =
      goesOn first.span front := by
    cases front with
    | nil => rfl
    | cons piece front => cases piece <;> rfl
  unfold startsRun
  rw [hgoes]

/-- A value is read the same if a group stands somewhere behind its first piece. -/
theorem value?_append_group {front : List Piece} (hfront : front ≠ []) :
    value? source (front ++ group tokens found? :: back) =
      (value? source front).map fun found =>
        (found.1, found.2 ++ group tokens found? :: back) := by
  cases front with
  | nil => exact absurd rfl hfront
  | cons piece front =>
      cases piece with
      | group tokens' found' => cases found' <;> rfl
      | token first =>
          rw [List.cons_append, value?, value?, startsRun_append_group, takeRun_append_group]
          split
          · simp only [Option.map_map, Function.comp_def]
          split
          · have hname : name? (front ++ group tokens found? :: back) =
                (name? front).map fun found =>
                  (found.1, found.2 ++ group tokens found? :: back) := by
              cases front with
              | nil => rfl
              | cons piece front =>
                  cases piece with
                  | group => rfl
                  | token t => cases hasName : t.kind.asName? <;> simp [name?, hasName]
            rw [hname]
            simp only [Option.map_map, Function.comp_def]
          · simp only [Option.map_map, Function.comp_def]

/-- If pieces with a literal among them are items, they are the same items around any other value in
its place. -/
theorem items?_append_group {found : ArgValue} {front : List Piece} {values : List ArgValue}
    {limit : Nat} (h : items? source limit (front ++ group tokens (some found) :: back) = some values) :
    ∃ before after, ∀ tokens' found',
      items? source limit (front ++ group tokens' (some found') :: back) =
        some (before ++ found' :: after) := by
  induction limit generalizing front values with
  | zero => cases front <;> cases h
  | succ limit ih =>
      cases front with
      | nil =>
          rw [List.nil_append, items?_cons] at h
          obtain ⟨after, hafter, -⟩ := Option.map_eq_some_iff.1 h
          refine ⟨[], after, fun tokens' found' => ?_⟩
          rw [List.nil_append, items?_cons]
          show (items? source limit back).map (found' :: ·) = some (found' :: after)
          rw [hafter]
          rfl
      | cons piece front =>
          rw [List.cons_append, items?_cons, ← List.cons_append,
            value?_append_group _ _ _ (List.cons_ne_nil _ _), Option.bind_map] at h
          obtain ⟨⟨value, rest⟩, hvalue, hrest⟩ := Option.bind_eq_some_iff.1 h
          obtain ⟨more, hmore, -⟩ := Option.map_eq_some_iff.1 hrest
          obtain ⟨before, after, hall⟩ := ih hmore
          refine ⟨value :: before, after, fun tokens' found' => ?_⟩
          rw [List.cons_append, items?_cons, ← List.cons_append,
            value?_append_group _ _ _ (List.cons_ne_nil _ _), hvalue]
          simp only [Option.map_some, Option.bind_some, hall tokens' found', List.cons_append]

/-- If pieces with a literal among them are entries, the literal has a key, and they are the same
entries around any other value in its place. -/
theorem entries?_append_group {found : ArgValue} {front : List Piece}
    {pairs : List (String × ArgValue)} {limit : Nat}
    (h : entries? source limit (front ++ group tokens (some found) :: back) = some pairs) :
    ∃ before name after, ∀ tokens' found',
      entries? source limit (front ++ group tokens' (some found') :: back) =
        some (before ++ (name, found') :: after) := by
  induction limit generalizing front pairs with
  | zero => cases front <;> cases h
  | succ limit ih =>
      obtain ⟨key, colon, rest, name, value, rest', more, heq, hname, hcolon, hvalue, hmore, -⟩ :=
        exists_entry (by simp) h
      -- the key and the colon are tokens, so the literal stands behind both
      obtain ⟨front, rfl, rfl⟩ : ∃ front', front = token key :: token colon :: front' ∧
          rest = front' ++ group tokens (some found) :: back := by
        match front, heq with
        | [], heq => cases heq
        | [_], heq => cases heq
        | first :: second :: front', heq =>
            obtain ⟨rfl, htail⟩ := List.cons.inj heq
            obtain ⟨rfl, rfl⟩ := List.cons.inj htail
            exact ⟨front', rfl, rfl⟩
      cases front with
      | nil =>
          obtain rfl : back = rest' := congrArg Prod.snd (Option.some.inj hvalue)
          refine ⟨[], name, more, fun tokens' found' => ?_⟩
          exact entries?_entry hname hcolon rfl hmore
      | cons piece front =>
          rw [value?_append_group _ _ _ (List.cons_ne_nil _ _)] at hvalue
          obtain ⟨⟨value', rest⟩, hfirst, heq'⟩ := Option.map_eq_some_iff.1 hvalue
          obtain ⟨rfl, rfl⟩ := Prod.mk.inj heq'
          obtain ⟨before, name', after, hall⟩ := ih hmore
          refine ⟨(name, value') :: before, name', after, fun tokens' found' => ?_⟩
          have hvalue' : value? source (piece :: front ++ group tokens' (some found') :: back) =
              some (value', rest ++ group tokens' (some found') :: back) := by
            rw [value?_append_group _ _ _ (List.cons_ne_nil _ _), hfirst]
            rfl
          exact entries?_entry hname hcolon hvalue' (hall tokens' found')

end Beside

end Piece

/-- What a literal holds beside one of its values. -/
inductive Siblings where
  | entries (before : List (String × ArgValue)) (name : String) (after : List (String × ArgValue))
  | items (before after : List ArgValue)

/-- The literal with a value among its siblings. -/
def Siblings.around (value : ArgValue) : Siblings → ArgValue
  | entries before name after => .object (Dict.ofList (before ++ (name, value) :: after))
  | items before after => .list (before ++ value :: after)

/-- In a well-formed literal the siblings of a literal are the same around any other value in its
place. -/
theorem LiteralKind.wellFormed?_append_group {kind : LiteralKind} {source : Option (List Char)}
    {front back : List Piece} {tokens : List Token} {found value : ArgValue}
    (h : kind.wellFormed? source (front ++ .group tokens (some found) :: back) = some value) :
    ∃ siblings : Siblings, ∀ tokens' found',
      kind.wellFormed? source (front ++ .group tokens' (some found') :: back) =
        some (siblings.around found') := by
  have hlength : ∀ tokens' found', (front ++ Piece.group tokens' (some found') :: back).length =
      front.length + (back.length + 1) := by
    intro tokens' found'
    rw [List.length_append, List.length_cons]
  cases kind with
  | object =>
      obtain ⟨pairs, hpairs, -⟩ := Option.map_eq_some_iff.1 h
      rw [hlength] at hpairs
      obtain ⟨before, name, after, hall⟩ := Piece.entries?_append_group tokens back hpairs
      refine ⟨.entries before name after, fun tokens' found' => ?_⟩
      rw [wellFormed?, hlength, hall]
      rfl
  | list =>
      obtain ⟨values, hvalues, -⟩ := Option.map_eq_some_iff.1 h
      rw [hlength] at hvalues
      obtain ⟨before, after, hall⟩ := Piece.items?_append_group tokens back hvalues
      refine ⟨.items before after, fun tokens' found' => ?_⟩
      rw [wellFormed?, hlength, hall]
      rfl

/-- A group among the pieces of a forest is a smaller forest between brackets, and it means what a
literal with these brackets means. -/
theorem Forest.exists_group {source : Option (List Char)} {forest : Forest} {tokens : List Token}
    {value? : Option ArgValue} (h : .group tokens value? ∈ forest.pieces source) :
    ∃ (shape : Delimiter) (first last : Token) (inside : Forest),
      tokens = first :: (inside.tokens ++ [last]) ∧ first.kind = .punctuator shape.opening ∧
        last.kind = .punctuator shape.closing ∧
          value? = shape.literal?.map fun kind => kind.meaning source (inside.pieces source) := by
  induction forest with
  | nil => cases h
  | token t plain rest ih =>
      rcases List.mem_cons.1 h with hcontra | hrest
      · cases hcontra
      · exact ih hrest
  | group shape first last opens closes inside rest _ ih =>
      rcases List.mem_cons.1 h with hgroup | hrest
      · cases hgroup
        exact ⟨shape, first, last, inside, rfl, opens, closes, rfl⟩
      · exact ih hrest

end CompletionGateway
