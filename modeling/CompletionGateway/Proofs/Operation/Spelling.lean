import CompletionGateway.Operation.Value
import CompletionGateway.Proofs.Token.NumeralForm
import CompletionGateway.Proofs.Token.Spacing
import CompletionGateway.Proofs.Token.StringForm

/-!
# How values are spelled

`ArgValue.Spelled` says which words spell a value: strings in double quotes with their escapes,
numbers as decimals, variables behind a dollar sign, objects with quoted names, and lists.  All
these words are valid.  `ArgValue.depth` is how many values enclose each other.
-/

namespace CompletionGateway

namespace Word

/-- A name or one of the three value words. -/
def name (text : String) : Word := ⟨Lexeme.wordKind text.toList, text.toList⟩

/-- A text that is a name or one of the three value words. -/
def IsName (text : String) : Prop :=
  ∃ c rest, text.toList = c :: rest ∧ Lexeme.isNameStart c = true ∧
    ∀ d ∈ rest, Lexeme.isNamePart d = true

/-- A name as a word. -/
def IsNamed (text : String) (word : Word) : Prop := IsName text ∧ word = name text

/-- The ways to write a string in double quotes. -/
def IsString (text : String) (word : Word) : Prop :=
  ∃ literal, Literal.IsWritten '"' text.toList literal ∧
    word = ⟨.string (String.ofList literal), literal⟩

theorem valid_name {text : String} (h : IsName text) : (name text).Valid := by
  obtain ⟨c, rest, htext, hstart, hrest⟩ := h
  rw [name, htext]
  exact .name hstart hrest

/-- A name can serve as the name that it is, the three value words included. -/
theorem asName?_name (text : String) : (name text).kind.asName? = some text := by
  have hback : String.ofList text.toList = text := String.ofList_toList
  simp only [name, Lexeme.wordKind]
  split
  · rename_i h
    rw [← hback, h]
    rfl
  · split
    · rename_i h
      rw [← hback, h]
      rfl
    · split
      · rename_i h
        rw [← hback, h]
        rfl
      · rw [hback]
        rfl

namespace IsString

variable {text : String} {word : Word}

theorem valid (h : IsString text word) : word.Valid := by
  obtain ⟨literal, hliteral, rfl⟩ := h
  exact Literal.valid_of_isWritten (.inl rfl) hliteral

/-- What a string is as a token, and the value of its text. -/
theorem kind_eq (h : IsString text word) :
    ∃ literal, word.kind = .string literal ∧
      Literal.readString literal.toList = .ok text.toList := by
  obtain ⟨literal, hliteral, rfl⟩ := h
  refine ⟨String.ofList literal, rfl, ?_⟩
  rw [String.toList_ofList]
  exact Literal.readString_of_isWritten (.inl rfl) hliteral

end IsString

end Word

namespace ArgValue

mutual

/-- How many values enclose each other, the value itself included. -/
def depth : ArgValue → Nat
  | object entries => entriesDepth entries + 1
  | list items => itemsDepth items + 1
  | _ => 1

/-- The greatest depth among the entries of an object. -/
def entriesDepth : List (String × ArgValue) → Nat
  | [] => 0
  | (_, value) :: rest => max (depth value) (entriesDepth rest)

/-- The greatest depth among the items of a list. -/
def itemsDepth : List ArgValue → Nat
  | [] => 0
  | value :: rest => max (depth value) (itemsDepth rest)

end

theorem entriesDepth_le_iff {pairs : List (String × ArgValue)} {limit : Nat} :
    entriesDepth pairs ≤ limit ↔ ∀ pair ∈ pairs, pair.2.depth ≤ limit := by
  induction pairs with
  | nil => simp [entriesDepth]
  | cons pair pairs ih =>
      obtain ⟨name, value⟩ := pair
      rw [entriesDepth, Nat.max_le, ih, List.forall_mem_cons]

mutual

/-- The words that spell a value.  Numbers are finite, and the names of an object are distinct. -/
def Spelled : ArgValue → List Word → Prop
  | string text, words => ∃ word, Word.IsString text word ∧ words = [word]
  | number x, words => ∃ word, Lexeme.IsNumeral x word ∧ x.isFinite = true ∧ words = [word]
  | bool true, words => words = [Word.name "true"]
  | bool false, words => words = [Word.name "false"]
  | null, words => words = [Word.name "null"]
  | «variable» name, words => Word.IsName name ∧ words = [Word.mark .dollar, Word.name name]
  | object entries, words =>
      ∃ inner, SpelledEntries Word.IsString entries inner ∧ (Dict.names entries).Nodup ∧
        words = Word.mark .openBrace :: (inner ++ [Word.mark .closeBrace])
  | list items, words =>
      ∃ inner, SpelledItems items inner ∧
        words = Word.mark .openBracket :: (inner ++ [Word.mark .closeBracket])

/-- The words that spell entries whose names are spelled in a given way. -/
def SpelledEntries (key : String → Word → Prop) : List (String × ArgValue) → List Word → Prop
  | [], words => words = []
  | (name, value) :: rest, words =>
      ∃ first inner more, key name first ∧ Spelled value inner ∧ SpelledEntries key rest more ∧
        words = first :: Word.mark .colon :: (inner ++ more)

/-- The words that spell the items of a list. -/
def SpelledItems : List ArgValue → List Word → Prop
  | [], words => words = []
  | value :: rest, words =>
      ∃ first more, Spelled value first ∧ SpelledItems rest more ∧ words = first ++ more

end

end ArgValue

end CompletionGateway
