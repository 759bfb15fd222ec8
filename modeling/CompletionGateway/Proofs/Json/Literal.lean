import CompletionGateway.Operation.Value
import CompletionGateway.Proofs.Json.Numeral
import CompletionGateway.Proofs.Json.StringLiteral
import CompletionGateway.Proofs.Operation.ArgumentReading
import CompletionGateway.Proofs.Operation.Form

/-!
# JSON values as argument literals

The compact text of a JSON value, read as the value of an argument, means what the JSON value
means, unless it is nested too deep.  The text is laid out as words without trivia but for the
commas; the words spell the value, and nothing in the text goes on with a word.
-/

namespace CompletionGateway

namespace Json

/-! ### Depth -/

mutual

/-- How many values enclose each other, the value itself included. -/
def depth : Json → Nat
  | array items => itemsDepth items + 1
  | object members => membersDepth members + 1
  | _ => 1

/-- The greatest depth among the items of an array. -/
def itemsDepth : List Json → Nat
  | [] => 0
  | value :: rest => max (depth value) (itemsDepth rest)

/-- The greatest depth among the members of an object. -/
def membersDepth : List (String × Json) → Nat
  | [] => 0
  | (_, value) :: rest => max (depth value) (membersDepth rest)

end

mutual

/-- The values that a JSON text can hold: numbers in their range, and members of distinct names. -/
def Valid : Json → Prop
  | number n => n.Valid
  | array items => ItemsValid items
  | object members => (Dict.names members).Nodup ∧ MembersValid members
  | _ => True

/-- Whether all items of an array are valid. -/
def ItemsValid : List Json → Prop
  | [] => True
  | value :: rest => Valid value ∧ ItemsValid rest

/-- Whether the values of all members of an object are valid. -/
def MembersValid : List (String × Json) → Prop
  | [] => True
  | (_, value) :: rest => Valid value ∧ MembersValid rest

end

mutual

theorem depth_ofJson : ∀ value : Json, (ArgValue.ofJson value).depth = value.depth
  | null => rfl
  | bool _ => rfl
  | number _ => rfl
  | string _ => rfl
  | array items => by
      rw [ArgValue.ofJson, ArgValue.depth, depth, itemsDepth_ofJson items]
  | object members => by
      rw [ArgValue.ofJson, ArgValue.depth, depth, entriesDepth_ofJson members]

theorem itemsDepth_ofJson : ∀ items : List Json,
    ArgValue.itemsDepth (ArgValue.itemsOfJson items) = itemsDepth items
  | [] => rfl
  | value :: rest => by
      rw [ArgValue.itemsOfJson, ArgValue.itemsDepth, itemsDepth, depth_ofJson value,
        itemsDepth_ofJson rest]

theorem entriesDepth_ofJson : ∀ members : List (String × Json),
    ArgValue.entriesDepth (ArgValue.entriesOfJson members) = membersDepth members
  | [] => rfl
  | (name, value) :: rest => by
      rw [ArgValue.entriesOfJson, ArgValue.entriesDepth, membersDepth, depth_ofJson value,
        entriesDepth_ofJson rest]

end

theorem names_entriesOfJson (members : List (String × Json)) :
    Dict.names (ArgValue.entriesOfJson members) = Dict.names members := by
  induction members with
  | nil => rfl
  | cons member rest ih =>
      obtain ⟨name, value⟩ := member
      rw [ArgValue.entriesOfJson, Dict.names, List.map_cons]
      exact congrArg (name :: ·) ih

/-! ### The words of the text -/

mutual

/-- The words of the text of a value, behind some gap. -/
def pieces (gap : List Char) : Json → List SpacedWord
  | null => [⟨gap, .name "null"⟩]
  | bool true => [⟨gap, .name "true"⟩]
  | bool false => [⟨gap, .name "false"⟩]
  | number n => [⟨gap, numberWord n⟩]
  | string text => [⟨gap, .jsonString text⟩]
  | array items =>
      ⟨gap, .mark .openBracket⟩ :: (itemPieces [] items ++ [⟨[], .mark .closeBracket⟩])
  | object members =>
      ⟨gap, .mark .openBrace⟩ :: (memberPieces [] members ++ [⟨[], .mark .closeBrace⟩])

/-- The words of the items of an array, behind some gap. -/
def itemPieces (gap : List Char) : List Json → List SpacedWord
  | [] => []
  | value :: rest => pieces gap value ++ itemPieces [','] rest

/-- The words of the members of an object, behind some gap. -/
def memberPieces (gap : List Char) : List (String × Json) → List SpacedWord
  | [] => []
  | (name, value) :: rest =>
      ⟨gap, .jsonString name⟩ :: ⟨[], .mark .colon⟩ :: (pieces [] value ++ memberPieces [','] rest)

end

section Text

variable (last : List Char)

mutual

/-- The words of a value make its text. -/
theorem text_pieces (gap : List Char) (more : List SpacedWord) : ∀ value : Json,
    SpacedWord.text last (pieces gap value ++ more) =
      gap ++ (value.write ++ SpacedWord.text last more)
  | null => rfl
  | bool true => rfl
  | bool false => rfl
  | number _ => rfl
  | string _ => rfl
  | array [] => rfl
  | array (value :: rest) => by
      have hitems := text_itemPieces [] (⟨[], .mark .closeBracket⟩ :: more) (value :: rest) (by simp)
      rw [pieces, List.cons_append, List.append_assoc, List.singleton_append, SpacedWord.text,
        hitems, write]
      simp [SpacedWord.text, Word.mark, Punctuator.spelling]
  | object [] => rfl
  | object (member :: rest) => by
      have hmembers := text_memberPieces [] (⟨[], .mark .closeBrace⟩ :: more) (member :: rest)
        (by simp)
      rw [pieces, List.cons_append, List.append_assoc, List.singleton_append, SpacedWord.text,
        hmembers, write]
      simp [SpacedWord.text, Word.mark, Punctuator.spelling]

/-- The words of the items of an array make their text. -/
theorem text_itemPieces (gap : List Char) (more : List SpacedWord) : ∀ items : List Json,
    items ≠ [] → SpacedWord.text last (itemPieces gap items ++ more) =
      gap ++ (writeItems items ++ SpacedWord.text last more)
  | [], h => absurd rfl h
  | [value], _ => by
      rw [itemPieces, itemPieces, List.append_nil, text_pieces gap more value, writeItems]
  | value :: next :: rest, _ => by
      rw [itemPieces, List.append_assoc, text_pieces gap _ value,
        text_itemPieces [','] more (next :: rest) (by simp)]
      simp [writeItems]

/-- The words of the members of an object make their text. -/
theorem text_memberPieces (gap : List Char) (more : List SpacedWord) :
    ∀ members : List (String × Json),
      members ≠ [] → SpacedWord.text last (memberPieces gap members ++ more) =
        gap ++ (writeMembers members ++ SpacedWord.text last more)
  | [], h => absurd rfl h
  | [(name, value)], _ => by
      rw [memberPieces, memberPieces, List.append_nil, List.cons_append, List.cons_append,
        SpacedWord.text, SpacedWord.text, text_pieces [] more value, writeMembers]
      simp [Word.jsonString, Word.mark, Punctuator.spelling]
  | (name, value) :: next :: rest, _ => by
      rw [memberPieces, List.cons_append, List.cons_append, List.append_assoc, SpacedWord.text,
        SpacedWord.text, text_pieces [] _ value,
        text_memberPieces [','] more (next :: rest) (by simp)]
      simp [writeMembers, Word.jsonString, Word.mark, Punctuator.spelling]

end

end Text

mutual

/-- The words of a value spell it. -/
theorem spelled_pieces (gap : List Char) : ∀ value : Json, value.Valid →
    (ArgValue.ofJson value).Spelled ((pieces gap value).map (·.word))
  | null, _ => rfl
  | bool true, _ => rfl
  | bool false, _ => rfl
  | number n, h => ⟨_, isNumeral_numberWord h, JsonNumber.isFinite_toBinary64 h, rfl⟩
  | string text, _ => ⟨_, isString_jsonString text, rfl⟩
  | array items, h => by
      refine ⟨_, spelled_itemPieces [] items h, ?_⟩
      simp [pieces]
  | object members, h => by
      refine ⟨_, spelled_memberPieces [] members h.2, ?_, ?_⟩
      · rw [names_entriesOfJson]
        exact h.1
      · simp [pieces]

/-- The words of items spell them. -/
theorem spelled_itemPieces (gap : List Char) : ∀ items : List Json, ItemsValid items →
    ArgValue.SpelledItems (ArgValue.itemsOfJson items) ((itemPieces gap items).map (·.word))
  | [], _ => rfl
  | value :: rest, h => by
      refine ⟨_, _, spelled_pieces gap value h.1, spelled_itemPieces [','] rest h.2, ?_⟩
      rw [itemPieces, List.map_append]

/-- The words of members spell them. -/
theorem spelled_memberPieces (gap : List Char) : ∀ members : List (String × Json),
    MembersValid members → ArgValue.SpelledEntries Word.IsString (ArgValue.entriesOfJson members)
      ((memberPieces gap members).map (·.word))
  | [], _ => rfl
  | (name, value) :: rest, h => by
      refine ⟨_, _, _, isString_jsonString name, spelled_pieces [] value h.1,
        spelled_memberPieces [','] rest h.2, ?_⟩
      rw [memberPieces, List.map_cons, List.map_cons, List.map_append]

end

/-- What may stand behind any word without trivia. -/
def ClosesWord (pieces : List SpacedWord) : Prop :=
  ∀ next ∈ pieces.head?, next.gap = [] → ∃ mark, next.word.kind = .punctuator mark ∧
    (mark.isOpening || mark.isClosing || mark == .colon) = true

theorem closesWord_mark {mark : Punctuator} (more : List SpacedWord)
    (h : (mark.isOpening || mark.isClosing || mark == .colon) = true) :
    ClosesWord (⟨[], .mark mark⟩ :: more) := by
  intro next hnext _
  obtain rfl : ⟨[], .mark mark⟩ = next := by simpa using hnext
  exact ⟨mark, rfl, h⟩

theorem isTrivia_comma : IsTrivia [','] := .separator (by decide) .nil

section Laid

variable {last : List Char}

theorem laid_word {gap : List Char} (word : Word) {more : List SpacedWord} (hgap : IsTrivia gap)
    (hcloses : ClosesWord more) (h : SpacedWord.Laid last more) :
    SpacedWord.Laid last (⟨gap, word⟩ :: more) :=
  h.cons hgap fun next hnext hempty => .inr (hcloses next hnext hempty)

/-- Nothing has to be parted behind a mark. -/
theorem laid_mark {gap : List Char} (mark : Punctuator) {more : List SpacedWord}
    (hgap : IsTrivia gap) (h : SpacedWord.Laid last more) :
    SpacedWord.Laid last (⟨gap, .mark mark⟩ :: more) :=
  h.cons hgap fun _ _ _ => .inl ⟨mark, rfl⟩

theorem head?_pieces (gap : List Char) (value : Json) (more : List SpacedWord) :
    ∃ word, (pieces gap value ++ more).head? = some ⟨gap, word⟩ := by
  cases value with
  | bool b => cases b <;> exact ⟨_, rfl⟩
  | _ => exact ⟨_, rfl⟩

/-- Behind an item there is a comma or what follows them all. -/
theorem closesWord_items {more : List SpacedWord} (h : ClosesWord more) (items : List Json) :
    ClosesWord (itemPieces [','] items ++ more) := by
  cases items with
  | nil => exact h
  | cons value rest =>
      intro next hnext hgap
      rw [itemPieces, List.append_assoc] at hnext
      obtain ⟨word, hword⟩ := head?_pieces [','] value (itemPieces [','] rest ++ more)
      rw [hword] at hnext
      obtain rfl : ⟨[','], word⟩ = next := by simpa using hnext
      exact absurd hgap (by simp)

theorem closesWord_members {more : List SpacedWord} (h : ClosesWord more)
    (members : List (String × Json)) : ClosesWord (memberPieces [','] members ++ more) := by
  cases members with
  | nil => exact h
  | cons member rest =>
      intro next hnext hgap
      obtain rfl : ⟨[','], .jsonString member.1⟩ = next := by simpa [memberPieces] using hnext
      exact absurd hgap (by simp)

mutual

/-- The words of a value can stand before whatever closes a word. -/
theorem laid_pieces : ∀ (value : Json) {gap : List Char} {more : List SpacedWord}, IsTrivia gap →
    ClosesWord more → SpacedWord.Laid last more → SpacedWord.Laid last (pieces gap value ++ more)
  | null, _, _, hgap, hcloses, h => laid_word _ hgap hcloses h
  | bool true, _, _, hgap, hcloses, h => laid_word _ hgap hcloses h
  | bool false, _, _, hgap, hcloses, h => laid_word _ hgap hcloses h
  | number _, _, _, hgap, hcloses, h => laid_word _ hgap hcloses h
  | string _, _, _, hgap, hcloses, h => laid_word _ hgap hcloses h
  | array items, _, _, hgap, _, h => by
      rw [pieces, List.cons_append, List.append_assoc]
      exact laid_mark _ hgap (laid_itemPieces items .nil (closesWord_mark _ (by decide))
        (laid_mark _ .nil h))
  | object members, _, _, hgap, _, h => by
      rw [pieces, List.cons_append, List.append_assoc]
      exact laid_mark _ hgap (laid_memberPieces members .nil (closesWord_mark _ (by decide))
        (laid_mark _ .nil h))

theorem laid_itemPieces : ∀ (items : List Json) {gap : List Char} {more : List SpacedWord},
    IsTrivia gap → ClosesWord more → SpacedWord.Laid last more →
      SpacedWord.Laid last (itemPieces gap items ++ more)
  | [], _, _, _, _, h => h
  | value :: rest, _, _, hgap, hcloses, h => by
      rw [itemPieces, List.append_assoc]
      exact laid_pieces value hgap (closesWord_items hcloses rest)
        (laid_itemPieces rest isTrivia_comma hcloses h)

theorem laid_memberPieces : ∀ (members : List (String × Json)) {gap : List Char}
    {more : List SpacedWord}, IsTrivia gap → ClosesWord more → SpacedWord.Laid last more →
      SpacedWord.Laid last (memberPieces gap members ++ more)
  | [], _, _, _, _, h => h
  | (_, value) :: rest, _, _, hgap, hcloses, h => by
      rw [memberPieces, List.cons_append, List.cons_append, List.append_assoc]
      exact laid_word _ hgap (closesWord_mark _ (by decide)) (laid_mark _ .nil
        (laid_pieces value .nil (closesWord_members hcloses rest)
          (laid_memberPieces rest isTrivia_comma hcloses h)))

end

end Laid

end Json

/-- The words of an argument whose value is a JSON value. -/
def Json.argumentPieces (name : String) (value : Json) : List SpacedWord :=
  ⟨[], .name name⟩ :: ⟨[], .mark .colon⟩ :: Json.pieces [' '] value

namespace Json

theorem text_argumentPieces (name : String) (value : Json) :
    SpacedWord.text [] (argumentPieces name value) =
      name.toList ++ ": ".toList ++ value.write := by
  have hvalue := text_pieces [] [' '] [] value
  rw [List.append_nil] at hvalue
  rw [argumentPieces, SpacedWord.text, SpacedWord.text, hvalue]
  simp [SpacedWord.text, Word.name, Word.mark, Punctuator.spelling]

theorem laid_argumentPieces (name : String) (value : Json) :
    SpacedWord.Laid [] (argumentPieces name value) := by
  have hend : SpacedWord.Laid [] [] := ⟨by simp, .inl .nil, .nil⟩
  have hvalue : SpacedWord.Laid [] (pieces [' '] value ++ []) :=
    laid_pieces value (.separator (by decide) .nil) (by simp [ClosesWord]) hend
  rw [List.append_nil] at hvalue
  exact laid_word _ .nil (closesWord_mark _ (by decide)) (laid_mark _ .nil hvalue)

theorem spelled_argumentPieces {name : String} {value : Json} (hname : Word.IsName name)
    (hvalue : value.Valid) : ArgValue.SpelledEntries Word.IsNamed [(name, .ofJson value)]
      ((argumentPieces name value).map (·.word)) :=
  ⟨_, _, [], ⟨hname, rfl⟩, spelled_pieces [' '] value hvalue, rfl, by simp [argumentPieces]⟩

end Json

/-- A JSON text as the value of an argument means what JSON says, unless it is nested too deep; then
that is the error. -/
theorem Arguments.parse_json {value : Json} (hvalue : value.Valid) {name : String}
    (hname : Word.IsName name) :
    (value.depth ≤ 64 →
      Arguments.parse (name.toList ++ ": ".toList ++ value.write) = .ok [(name, .ofJson value)]) ∧
    (64 < value.depth → ∃ span,
      Arguments.parse (name.toList ++ ": ".toList ++ value.write) =
        .error (.nestingTooDeep span)) := by
  have hspelled := Json.spelled_argumentPieces hname hvalue
  have hvalid : ∀ piece ∈ Json.argumentPieces name value, piece.word.Valid := fun piece hpiece =>
    ArgValue.valid_of_spelledEntries _ (fun _ _ => Word.valid_of_isNamed) hspelled piece.word
      (List.mem_map_of_mem hpiece)
  obtain ⟨tokens, finish, htokens, hmake, hfinish, hapart⟩ :=
    (Json.laid_argumentPieces name value).list_text hvalid
  rw [Json.text_argumentPieces] at htokens hapart
  have hdepth : ArgValue.entriesDepth [(name, .ofJson value)] = value.depth := by
    simp [ArgValue.entriesDepth, Json.depth_ofJson]
  have hanswers := Rule.argumentFragment_answers hspelled hmake
    (s := .start (some (name.toList ++ ": ".toList ++ value.write))
      (Token.list (name.toList ++ ": ".toList ++ value.write)))
    htokens hfinish ⟨hapart, Nat.lt_succ_self _, Nat.zero_le _⟩
  rw [hdepth] at hanswers
  constructor
  · intro hfits
    exact Rule.run_whole_of_reads (hanswers.1 (by simpa [Reading.start, deepestValue] using hfits)) hfinish rfl
  · intro hdeep
    exact Rule.run_whole_of_failsTooDeep (hanswers.2 (by simpa [Reading.start, deepestValue] using hdeep)) rfl

/-- One object that fits, and arrays in each other that do not. -/
theorem Arguments.parse_json_object :
    Arguments.parse "x: \x7b\"k\":[-2,\"\\n\",null]\x7d".toList =
        .ok [("x", .object [("k", .list [.number (.ofNat true 2), .string "\n", .null])])] ∧
      ∃ span, Arguments.parse ("x: ".toList ++
        (Nat.repeat (fun v => Json.array [v]) 64 Json.null).write) =
          .error (.nestingTooDeep span) := by
  have hname : Word.IsName "x" := ⟨'x', [], rfl, by decide, by simp⟩
  have hobject : (Json.object [("k", .array [.number (.negative 2), .string "\n", .null])]).Valid := by
    simp [Json.Valid, Json.MembersValid, Json.ItemsValid, JsonNumber.Valid, Dict.names]
  have harrays : ∀ count, (Nat.repeat (fun v => Json.array [v]) count Json.null).Valid := by
    intro count
    induction count with
    | zero => exact trivial
    | succ count ih => exact ⟨ih, trivial⟩
  exact ⟨(Arguments.parse_json hobject hname).1 (by decide),
    (Arguments.parse_json (harrays 64) hname).2 (by decide +kernel)⟩

end CompletionGateway
