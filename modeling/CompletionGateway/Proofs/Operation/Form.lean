import CompletionGateway.Operation.Document
import CompletionGateway.Proofs.Operation.Brackets
import CompletionGateway.Proofs.Operation.Spelling

/-!
# Forms of a document

A form says what is written in a document of one operation, down to the words: the keyword in the
letters it is written with, what stands between the parentheses of the variable definitions, the
fields with their arguments in the order in which they are written, and what stands between the
braces of a selection set.  `OperationForm.Spelled` says which words make the form, and
`OperationForm.operation` is what the form means.
-/

namespace CompletionGateway

namespace Word

/-- Words in brackets. -/
def group (opening closing : Punctuator) (inside : List Word) : List Word :=
  mark opening :: (inside ++ [mark closing])

/-- Any words at all, as long as the brackets around them are not closed too early. -/
structure IsInside (opening closing : Punctuator) (words : List Word) : Prop where
  valid : ∀ word ∈ words, word.Valid
  balanced : (BracketCount.pair opening closing).after 0 (words.map (·.kind)) = some 0

/-- Words in brackets that may be absent. -/
def optionalGroup (opening closing : Punctuator) : Option (List Word) → List Word
  | none => []
  | some inside => group opening closing inside

end Word

/-- A field as it is written: its name, its arguments if there is a list of them, and the words of
its selection set if it has one. -/
structure FieldForm where
  name : String
  arguments : Option (List (String × ArgValue))
  selection : Option (List Word)

namespace FieldForm

/-- The arguments in the order in which they are written; names may repeat. -/
def pairs (form : FieldForm) : List (String × ArgValue) := form.arguments.getD []

/-- What the form means. -/
def field (form : FieldForm) : Field := ⟨form.name, Dict.ofList form.pairs⟩

/-- The words of the argument list. -/
def SpelledArguments : Option (List (String × ArgValue)) → List Word → Prop
  | none, words => words = []
  | some pairs, words =>
      ∃ inside, ArgValue.SpelledEntries Word.IsNamed pairs inside ∧
        words = Word.group .openParen .closeParen inside

/-- The words that make a field. -/
def Spelled (form : FieldForm) (words : List Word) : Prop :=
  Word.IsName form.name ∧ (∀ inside ∈ form.selection, Word.IsInside .openBrace .closeBrace inside) ∧
    ∃ arguments, SpelledArguments form.arguments arguments ∧
      words = Word.name form.name ::
        (arguments ++ Word.optionalGroup .openBrace .closeBrace form.selection)

/-- The words that make fields. -/
def SpelledAll : List FieldForm → List Word → Prop
  | [], words => words = []
  | form :: rest, words =>
      ∃ first more, form.Spelled first ∧ SpelledAll rest more ∧ words = first ++ more

end FieldForm

/-- What is written before the fields: nothing, or a keyword with what belongs to it. -/
inductive HeadForm where
  | short
  | long (type : OperationType) (keyword : String) (name : Option String)
      (definitions : Option (List Word))

namespace HeadForm

/-- The type of the operation. -/
def type : HeadForm → OperationType
  | short => .query
  | long type _ _ _ => type

/-- The name of the operation. -/
def name : HeadForm → Option String
  | short => none
  | long _ _ name _ => name

/-- The words that make a head.  The keyword may be in any letters. -/
def Spelled : HeadForm → List Word → Prop
  | short, words => words = []
  | long type keyword name definitions, words =>
      OperationType.ofKeyword? keyword = some type ∧ (∀ text ∈ name, Word.IsName text) ∧
        (∀ inside ∈ definitions, Word.IsInside .openParen .closeParen inside) ∧
          words = Word.name keyword :: (name.toList.map Word.name ++
            Word.optionalGroup .openParen .closeParen definitions)

end HeadForm

/-- A document of one operation as it is written. -/
structure OperationForm where
  head : HeadForm
  fields : List FieldForm

namespace OperationForm

/-- What the form means. -/
def operation (form : OperationForm) : Operation :=
  ⟨form.head.type, form.head.name, form.fields.map (·.field)⟩

/-- The words that make an operation.  It has a field. -/
def Spelled (form : OperationForm) (words : List Word) : Prop :=
  form.fields ≠ [] ∧
    ∃ head body, form.head.Spelled head ∧ FieldForm.SpelledAll form.fields body ∧
      words = head ++ Word.group .openBrace .closeBrace body

/-- Whether all values of the arguments fit under the limit of depth. -/
def Fits (form : OperationForm) : Prop :=
  ∀ field ∈ form.fields, ∀ pair ∈ field.pairs, pair.2.depth ≤ deepestValue

end OperationForm

/-! ### The words of a form are valid -/

namespace Word

theorem valid_of_isNamed {text : String} {word : Word} (h : IsNamed text word) : word.Valid := by
  obtain ⟨hname, rfl⟩ := h
  exact valid_name hname

theorem valid_group {opening closing : Punctuator} {inside : List Word}
    (h : ∀ word ∈ inside, word.Valid) : ∀ word ∈ group opening closing inside, word.Valid := by
  intro word hword
  simp only [group, List.mem_cons, List.mem_append, List.not_mem_nil, or_false] at hword
  rcases hword with rfl | hword | rfl
  · exact valid_mark opening
  · exact h word hword
  · exact valid_mark closing

theorem valid_optionalGroup {opening closing : Punctuator} {inside : Option (List Word)}
    (h : ∀ words ∈ inside, IsInside opening closing words) :
    ∀ word ∈ optionalGroup opening closing inside, word.Valid := by
  cases inside with
  | none => simp [optionalGroup]
  | some words => exact valid_group (h words rfl).valid

end Word

namespace ArgValue

mutual

/-- All words that spell a value are valid. -/
theorem valid_of_spelled : ∀ (value : ArgValue) {words : List Word}, value.Spelled words →
    ∀ word ∈ words, word.Valid
  | string text, words, h => by
      obtain ⟨word, hword, rfl⟩ := h
      simpa using hword.valid
  | number x, words, h => by
      obtain ⟨word, hword, -, rfl⟩ := h
      simpa using hword.valid
  | bool true, words, h => by
      obtain rfl : words = [Word.name "true"] := h
      simpa using Word.valid_name ⟨'t', _, rfl, by decide, List.all_eq_true.1 (by decide)⟩
  | bool false, words, h => by
      obtain rfl : words = [Word.name "false"] := h
      simpa using Word.valid_name ⟨'f', _, rfl, by decide, List.all_eq_true.1 (by decide)⟩
  | null, words, h => by
      obtain rfl : words = [Word.name "null"] := h
      simpa using Word.valid_name ⟨'n', _, rfl, by decide, List.all_eq_true.1 (by decide)⟩
  | «variable» name, words, h => by
      obtain ⟨hname, rfl⟩ := h
      simpa using ⟨Word.valid_mark .dollar, Word.valid_name hname⟩
  | object pairs, words, h => by
      obtain ⟨inside, hinside, -, rfl⟩ := h
      exact Word.valid_group (valid_of_spelledEntries pairs (fun _ _ => Word.IsString.valid) hinside)
  | list values, words, h => by
      obtain ⟨inside, hinside, rfl⟩ := h
      exact Word.valid_group (valid_of_spelledItems values hinside)

/-- All words that spell entries are valid, if those that spell the names are. -/
theorem valid_of_spelledEntries {key : String → Word → Prop} :
    ∀ (pairs : List (String × ArgValue)) {words : List Word},
      (∀ name word, key name word → word.Valid) → SpelledEntries key pairs words →
        ∀ word ∈ words, word.Valid
  | [], words, _, h => by
      obtain rfl : words = [] := h
      simp
  | (name, value) :: rest, words, hkey, h => by
      obtain ⟨first, inner, more, hfirst, hinner, hmore, rfl⟩ := h
      have hvalue := valid_of_spelled value hinner
      have hrest := valid_of_spelledEntries rest hkey hmore
      intro word hword
      simp only [List.mem_cons, List.mem_append] at hword
      rcases hword with rfl | rfl | hword | hword
      · exact hkey name _ hfirst
      · exact Word.valid_mark .colon
      · exact hvalue word hword
      · exact hrest word hword

/-- All words that spell items are valid. -/
theorem valid_of_spelledItems : ∀ (values : List ArgValue) {words : List Word},
    SpelledItems values words → ∀ word ∈ words, word.Valid
  | [], words, h => by
      obtain rfl : words = [] := h
      simp
  | value :: rest, words, h => by
      obtain ⟨first, more, hfirst, hmore, rfl⟩ := h
      have hvalue := valid_of_spelled value hfirst
      have hrest := valid_of_spelledItems rest hmore
      intro word hword
      rcases List.mem_append.1 hword with hword | hword
      · exact hvalue word hword
      · exact hrest word hword

end

end ArgValue

theorem isAlpha_of_isAlpha_toLower {c : Char} (h : c.toLower.isAlpha = true) :
    c.isAlpha = true := by
  unfold Char.toLower at h
  split at h
  · rename_i hupper
    have hletters : c.isAlpha = (decide (c.val ≥ 'A'.val ∧ c.val ≤ 'Z'.val) || c.isLower) := rfl
    rw [hletters, Bool.or_eq_true, decide_eq_true_eq]
    exact .inl hupper
  · exact h

/-- Whatever its letters, a keyword is a name and none of the three value words. -/
theorem OperationType.isName_of_ofKeyword? {keyword : String} {type : OperationType}
    (h : ofKeyword? keyword = some type) :
    Word.IsName keyword ∧ (Word.name keyword).kind = .name keyword := by
  have hlower : keyword.toList.map Char.toLower = type.keyword.toList := by
    have hfound := List.find?_some h
    rw [beq_iff_eq] at hfound
    rw [hfound, String.toList_ofList]
  have hletters : ∀ c ∈ keyword.toList, c.isAlpha = true := by
    intro c hc
    have hmem : c.toLower ∈ type.keyword.toList := hlower ▸ List.mem_map_of_mem hc
    have hall : ∀ d ∈ type.keyword.toList, d.isAlpha = true :=
      List.all_eq_true.1 (by cases type <;> decide)
    exact isAlpha_of_isAlpha_toLower (hall _ hmem)
  constructor
  · cases hword : keyword.toList with
    | nil =>
        rw [hword] at hlower
        cases type <;> exact absurd hlower (by decide)
    | cons c rest =>
        rw [hword] at hletters
        refine ⟨c, rest, hword, ?_, fun d hd => ?_⟩
        · simp [Lexeme.isNameStart, hletters c (by simp)]
        · simp [Lexeme.isNamePart, Char.isAlphanum, hletters d (by simp [hd])]
  · have hne : ∀ word : List Char, word.map Char.toLower ≠ type.keyword.toList →
        keyword.toList ≠ word := by
      rintro word hword rfl
      exact hword hlower
    simp only [Word.name, Lexeme.wordKind]
    rw [if_neg (hne _ (by cases type <;> decide)), if_neg (hne _ (by cases type <;> decide)),
      if_neg (hne _ (by cases type <;> decide)), String.ofList_toList]

namespace FieldForm

theorem valid_of_spelledArguments {arguments : Option (List (String × ArgValue))}
    {words : List Word} (h : SpelledArguments arguments words) : ∀ word ∈ words, word.Valid := by
  cases arguments with
  | none =>
      obtain rfl : words = [] := h
      simp
  | some pairs =>
      obtain ⟨inside, hinside, rfl⟩ := h
      exact Word.valid_group
        (ArgValue.valid_of_spelledEntries pairs (fun _ _ => Word.valid_of_isNamed) hinside)

theorem valid_of_spelled {form : FieldForm} {words : List Word} (h : form.Spelled words) :
    ∀ word ∈ words, word.Valid := by
  obtain ⟨hname, hselection, arguments, harguments, rfl⟩ := h
  intro word hword
  simp only [List.mem_cons, List.mem_append] at hword
  rcases hword with rfl | hword | hword
  · exact Word.valid_name hname
  · exact valid_of_spelledArguments harguments word hword
  · exact Word.valid_optionalGroup hselection word hword

theorem valid_of_spelledAll {forms : List FieldForm} {words : List Word}
    (h : SpelledAll forms words) : ∀ word ∈ words, word.Valid := by
  induction forms generalizing words with
  | nil =>
      obtain rfl : words = [] := h
      simp
  | cons form rest ih =>
      obtain ⟨first, more, hfirst, hmore, rfl⟩ := h
      intro word hword
      rcases List.mem_append.1 hword with hword | hword
      · exact valid_of_spelled hfirst word hword
      · exact ih hmore word hword

end FieldForm

theorem HeadForm.valid_of_spelled {form : HeadForm} {words : List Word} (h : form.Spelled words) :
    ∀ word ∈ words, word.Valid := by
  cases form with
  | short =>
      obtain rfl : words = [] := h
      simp
  | long type keyword name inside =>
      obtain ⟨hkeyword, hname, hinside, rfl⟩ := h
      intro word hword
      simp only [List.mem_cons, List.mem_append, List.mem_map, Option.mem_toList] at hword
      rcases hword with rfl | ⟨text, htext, rfl⟩ | hword
      · exact Word.valid_name (OperationType.isName_of_ofKeyword? hkeyword).1
      · exact Word.valid_name (hname text htext)
      · exact Word.valid_optionalGroup hinside word hword

/-- All words that make an operation are valid. -/
theorem OperationForm.valid_of_spelled {form : OperationForm} {words : List Word}
    (h : form.Spelled words) : ∀ word ∈ words, word.Valid := by
  obtain ⟨-, head, body, hhead, hbody, rfl⟩ := h
  intro word hword
  rcases List.mem_append.1 hword with hword | hword
  · exact HeadForm.valid_of_spelled hhead word hword
  · exact Word.valid_group (FieldForm.valid_of_spelledAll hbody) word hword

end CompletionGateway
