import CompletionGateway.Proofs.Json.Numeral
import CompletionGateway.Proofs.Json.StringLiteral
import CompletionGateway.Proofs.Operation.Form

/-!
# Every form can be written

One way to write each value and each form in words: strings and numbers as a JSON text has them.
The words spell the value or the form, as long as its numbers are finite, its names are names, and
no name of an object repeats.
-/

namespace CompletionGateway

namespace ArgValue

mutual

/-- The values that can be written. -/
def Writable : ArgValue → Prop
  | number x => x.isFinite = true
  | «variable» name => Word.IsName name
  | object entries => (Dict.names entries).Nodup ∧ EntriesWritable entries
  | list items => ItemsWritable items
  | _ => True

/-- Whether the values of all entries can be written. -/
def EntriesWritable : List (String × ArgValue) → Prop
  | [] => True
  | (_, value) :: rest => Writable value ∧ EntriesWritable rest

/-- Whether all items can be written. -/
def ItemsWritable : List ArgValue → Prop
  | [] => True
  | value :: rest => Writable value ∧ ItemsWritable rest

end

mutual

/-- The words of a value. -/
def words : ArgValue → List Word
  | string text => [.jsonString text]
  | number x => [Json.numberWord (.real x)]
  | bool true => [.name "true"]
  | bool false => [.name "false"]
  | null => [.name "null"]
  | «variable» name => [.mark .dollar, .name name]
  | object entries => Word.group .openBrace .closeBrace (entriesWords .jsonString entries)
  | list items => Word.group .openBracket .closeBracket (itemsWords items)

/-- The words of entries whose names are written in a given way. -/
def entriesWords (key : String → Word) : List (String × ArgValue) → List Word
  | [] => []
  | (name, value) :: rest => key name :: .mark .colon :: (words value ++ entriesWords key rest)

/-- The words of the items of a list. -/
def itemsWords : List ArgValue → List Word
  | [] => []
  | value :: rest => words value ++ itemsWords rest

end

mutual

/-- The words of a value spell it. -/
theorem spelled_words : ∀ value : ArgValue, value.Writable → value.Spelled value.words
  | string text, _ => ⟨_, Json.isString_jsonString text, rfl⟩
  | number x, h => ⟨_, Json.isNumeral_numberWord (n := .real x) h, h, rfl⟩
  | bool true, _ => rfl
  | bool false, _ => rfl
  | null, _ => rfl
  | «variable» _, h => ⟨h, rfl⟩
  | object entries, h =>
      ⟨_, spelled_entriesWords (fun name (_ : True) => Json.isString_jsonString name) entries h.2
        (fun _ _ => trivial), h.1, rfl⟩
  | list items, h => ⟨_, spelled_itemsWords items h, rfl⟩

/-- The words of entries spell them, if the names are spelled by theirs. -/
theorem spelled_entriesWords {key : String → Word} {spelledKey : String → Word → Prop}
    {allowed : String → Prop} (hkey : ∀ name, allowed name → spelledKey name (key name)) :
    ∀ entries : List (String × ArgValue), EntriesWritable entries →
      (∀ entry ∈ entries, allowed entry.1) →
        SpelledEntries spelledKey entries (entriesWords key entries)
  | [], _, _ => rfl
  | (name, value) :: rest, h, hallowed =>
      ⟨_, _, _, hkey name (hallowed (name, value) (by simp)), spelled_words value h.1,
        spelled_entriesWords hkey rest h.2 (fun entry hentry => hallowed entry (by simp [hentry])),
        rfl⟩

/-- The words of items spell them. -/
theorem spelled_itemsWords : ∀ items : List ArgValue, ItemsWritable items →
    SpelledItems items (itemsWords items)
  | [], _ => rfl
  | value :: rest, h => ⟨_, _, spelled_words value h.1, spelled_itemsWords rest h.2, rfl⟩

end

end ArgValue

namespace FieldForm

/-- The fields that can be written. -/
structure Writable (form : FieldForm) : Prop where
  name : Word.IsName form.name
  argumentNames : ∀ pair ∈ form.pairs, Word.IsName pair.1
  values : ArgValue.EntriesWritable form.pairs
  selection : ∀ inside ∈ form.selection, Word.IsInside .openBrace .closeBrace inside

/-- The words of a field. -/
def words (form : FieldForm) : List Word :=
  .name form.name ::
    (Word.optionalGroup .openParen .closeParen (form.arguments.map (ArgValue.entriesWords .name)) ++
      Word.optionalGroup .openBrace .closeBrace form.selection)

theorem spelled_words {form : FieldForm} (h : form.Writable) : form.Spelled form.words := by
  refine ⟨h.name, h.selection, _, ?_, rfl⟩
  have hnames := h.argumentNames
  have hvalues := h.values
  rw [pairs] at hnames hvalues
  cases harguments : form.arguments with
  | none => rfl
  | some pairs =>
      rw [harguments] at hnames hvalues
      exact ⟨_, ArgValue.spelled_entriesWords (fun name hname => ⟨hname, rfl⟩) pairs hvalues hnames,
        rfl⟩

theorem spelledAll_words {forms : List FieldForm} (h : ∀ form ∈ forms, form.Writable) :
    SpelledAll forms (forms.flatMap words) := by
  induction forms with
  | nil => rfl
  | cons form rest ih =>
      exact ⟨_, _, spelled_words (h form (by simp)), ih fun next hnext => h next (by simp [hnext]),
        rfl⟩

end FieldForm

namespace HeadForm

/-- The words before the fields. -/
def words : HeadForm → List Word
  | short => []
  | long _ keyword name definitions =>
      .name keyword :: (name.toList.map Word.name ++
        Word.optionalGroup .openParen .closeParen definitions)

/-- The heads that can be written. -/
def Writable : HeadForm → Prop
  | short => True
  | long type keyword name definitions =>
      OperationType.ofKeyword? keyword = some type ∧ (∀ text ∈ name, Word.IsName text) ∧
        ∀ inside ∈ definitions, Word.IsInside .openParen .closeParen inside

theorem spelled_words {form : HeadForm} (h : form.Writable) : form.Spelled form.words := by
  cases form with
  | short => rfl
  | long type keyword name definitions => exact ⟨h.1, h.2.1, h.2.2, rfl⟩

end HeadForm

namespace OperationForm

/-- The documents that can be written. -/
structure Writable (form : OperationForm) : Prop where
  head : form.head.Writable
  nonempty : form.fields ≠ []
  fields : ∀ field ∈ form.fields, field.Writable

/-- The words of a document. -/
def words (form : OperationForm) : List Word :=
  form.head.words ++ Word.group .openBrace .closeBrace (form.fields.flatMap (·.words))

/-- Every document that can be written is spelled by its words. -/
theorem spelled_words {form : OperationForm} (h : form.Writable) : form.Spelled form.words :=
  ⟨h.nonempty, _, _, HeadForm.spelled_words h.head, FieldForm.spelledAll_words h.fields, rfl⟩

end OperationForm

end CompletionGateway
