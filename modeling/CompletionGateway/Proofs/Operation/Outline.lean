import Mathlib.Data.List.Forall2
import CompletionGateway.Proofs.Operation.ArgumentReading
import CompletionGateway.Proofs.Operation.Soundness

/-!
# The outline of a document

An outline cuts the tokens of a document into parts: what stands before the fields, the braces, and
for each field its name, its arguments and its selection.  A document that is accepted has an
outline that fits the operation it is read as, and apart from its end it consists of the tokens of
that outline.  So nothing is left over, and faults can stand in the arguments of fields alone.
-/

namespace CompletionGateway

/-- The keyword of an operation, in any mixture of ASCII cases. -/
theorem OperationType.toLower_of_ofKeyword? {word : String} {type : OperationType}
    (h : OperationType.ofKeyword? word = some type) :
    word.toList.map Char.toLower = type.keyword.toList := by
  rw [ofKeyword?, ofName?] at h
  have hfound := List.find?_some h
  rw [beq_iff_eq] at hfound
  rw [hfound, String.toList_ofList]

/-- One argument as it stands in a document. -/
structure ArgumentOutline where
  name : Token
  colon : Token
  run : List Token

/-- A field as it stands in a document.  The brackets are among the tokens of the groups. -/
structure FieldOutline where
  name : Token
  arguments : List Token
  selection : List Token

/-- A document as it stands, without its end. -/
structure Outline where
  keyword : Option Token
  name : Option Token
  definitions : List Token
  opening : Token
  fields : List FieldOutline
  closing : Token

namespace ArgumentOutline

/-- The tokens of an argument. -/
def tokens (part : ArgumentOutline) : List Token := part.name :: part.colon :: part.run

/-- The part is an argument with a given name and value. -/
structure Fits (source : Option (List Char)) (part : ArgumentOutline) (pair : String × ArgValue) :
    Prop where
  name : part.name.kind.asName? = some pair.1
  colon : part.colon.kind = .punctuator .colon
  nonempty : part.run ≠ []
  value : Token.IsValue source pair.2 part.run

end ArgumentOutline

namespace FieldOutline

/-- The tokens of a field. -/
def tokens (part : FieldOutline) : List Token := part.name :: (part.arguments ++ part.selection)

/-- The tokens are arguments in parentheses.  The names of the arguments are those that are written,
in the order in which they first come. -/
def AreArguments (source : Option (List Char)) (arguments : Arguments) (tokens : List Token) :
    Prop :=
  ∃ opening parts closing pairs,
    tokens = opening :: (parts.flatMap ArgumentOutline.tokens ++ [closing]) ∧
      opening.kind = .punctuator .openParen ∧ closing.kind = .punctuator .closeParen ∧
        List.Forall₂ (ArgumentOutline.Fits source) parts pairs ∧ arguments = Dict.ofList pairs ∧
          arguments.names = (Dict.names pairs).eraseDups

/-- The part is a given field. -/
structure Fits (source : Option (List Char)) (part : FieldOutline) (field : Field) : Prop where
  name : part.name.kind.asName? = some field.name
  arguments : part.arguments = [] ∧ field.arguments = [] ∨
    AreArguments source field.arguments part.arguments
  selection : part.selection = [] ∨ Token.IsGroup .openBrace .closeBrace part.selection

end FieldOutline

namespace Outline

/-- The tokens of a document, without its end. -/
def tokens (outline : Outline) : List Token :=
  outline.keyword.toList ++ outline.name.toList ++ outline.definitions ++
    outline.opening :: (outline.fields.flatMap FieldOutline.tokens ++ [outline.closing])

/-- The tokens that stand in no group but the braces of the operation. -/
def topLevel (outline : Outline) : List Token :=
  outline.keyword.toList ++ outline.name.toList ++
    outline.opening :: (outline.fields.map (·.name) ++ [outline.closing])

/-- The outline is that of a document which holds a given operation. -/
structure Fits (source : Option (List Char)) (outline : Outline) (operation : Operation) :
    Prop where
  /-- Only a query without a name can do without a keyword. -/
  unnamed : outline.keyword = none →
    operation.type = .query ∧ operation.name = none ∧ outline.definitions = []
  keyword : ∀ token ∈ outline.keyword, ∃ word, token.kind = .name word ∧
    word.toList.map Char.toLower = operation.type.keyword.toList
  name : outline.name.map (·.kind.asName?) = operation.name.map some
  definitions : outline.definitions = [] ∨ Token.IsGroup .openParen .closeParen outline.definitions
  opening : outline.opening.kind = .punctuator .openBrace
  closing : outline.closing.kind = .punctuator .closeBrace
  nonempty : operation.fields ≠ []
  fields : List.Forall₂ (FieldOutline.Fits source) outline.fields operation.fields
  /-- No spread, no alias and no directive. -/
  topLevel : ∀ token ∈ outline.topLevel, ∀ mark ∈ [Punctuator.ellipsis, .colon, .at],
    token.kind ≠ .punctuator mark
  faults : ∀ token ∈ outline.tokens, token.kind.isError = true →
    ∃ part ∈ outline.fields, token ∈ part.arguments

end Outline

section Fits

variable {source : Option (List Char)} {tokens : List Token}

theorem ArgumentOutline.exists_fits {pairs : List (String × ArgValue)}
    (h : Token.AreEntries source TokenKind.asName? pairs tokens) :
    ∃ parts, tokens = parts.flatMap ArgumentOutline.tokens ∧
      List.Forall₂ (ArgumentOutline.Fits source) parts pairs := by
  induction pairs generalizing tokens with
  | nil => exact ⟨[], h, .nil⟩
  | cons pair rest ih =>
      obtain ⟨first, colon, inside, more, hfirst, hcolon, hinside, hmore, rfl⟩ := h
      obtain ⟨parts, rfl, hparts⟩ := ih hmore
      refine ⟨⟨first, colon, inside⟩ :: parts, ?_, .cons ⟨hfirst, hcolon, ?_, hinside⟩ hparts⟩
      · simp [ArgumentOutline.tokens]
      · exact hinside.ne_nil

theorem FieldOutline.areArguments {arguments : Arguments}
    (h : Token.AreArguments source arguments tokens) :
    FieldOutline.AreArguments source arguments tokens := by
  obtain ⟨opening, pairs, inside, closing, rfl, hopening, hclosing, hpairs, rfl⟩ := h
  obtain ⟨parts, rfl, hparts⟩ := ArgumentOutline.exists_fits hpairs
  exact ⟨opening, parts, closing, pairs, rfl, hopening, hclosing, hparts, rfl,
    Dict.names_ofList pairs⟩

theorem FieldOutline.exists_fits {fields : List Field} (h : Token.AreFields source fields tokens) :
    ∃ parts, tokens = parts.flatMap FieldOutline.tokens ∧
      List.Forall₂ (FieldOutline.Fits source) parts fields := by
  induction fields generalizing tokens with
  | nil => exact ⟨[], h, .nil⟩
  | cons field rest ih =>
      obtain ⟨first, more, ⟨name, arguments, selection, hname, harguments, hselection, rfl⟩, hmore,
        rfl⟩ := h
      obtain ⟨parts, rfl, hparts⟩ := ih hmore
      refine ⟨⟨name, arguments, selection⟩ :: parts, ?_, .cons ⟨hname, ?_, hselection⟩ hparts⟩
      · simp [FieldOutline.tokens]
      · exact harguments.imp_right FieldOutline.areArguments

theorem FieldOutline.exists_field {parts : List FieldOutline} {fields : List Field}
    (h : List.Forall₂ (FieldOutline.Fits source) parts fields) :
    ∀ part ∈ parts, ∃ field, FieldOutline.Fits source part field := by
  induction h with
  | nil => simp
  | cons hfits hmore ih => simpa using ⟨⟨_, hfits⟩, ih⟩

/-- Of the tokens of a field only those of its arguments can be faulty. -/
theorem FieldOutline.Fits.mem_arguments {part : FieldOutline} {field : Field}
    (h : part.Fits source field) {token : Token} (htoken : token ∈ part.tokens)
    (herror : token.kind.isError = true) : token ∈ part.arguments := by
  refine Decidable.byContradiction fun hmem => ?_
  suffices hsound : token.IsSound by
    rw [hsound.1] at herror
    cases herror
  rcases List.mem_cons.1 htoken with rfl | htoken
  · exact Token.isSound_of_asName? h.name
  rcases List.mem_append.1 htoken with htoken | htoken
  · exact absurd htoken hmem
  · rcases h.selection with hnil | hgroup
    · rw [hnil] at htoken
      cases htoken
    · exact hgroup.isSound token htoken

namespace Outline

/-- No mark that would make a spread, an alias or a directive, at the places where names and braces
stand. -/
theorem kind_ne_of_topLevel {outline : Outline}
    (hname : ∀ token ∈ outline.keyword.toList ++ outline.name.toList ++ outline.fields.map (·.name),
      ∃ name, token.kind.asName? = some name)
    (hopening : outline.opening.kind = .punctuator .openBrace)
    (hclosing : outline.closing.kind = .punctuator .closeBrace) :
    ∀ token ∈ outline.topLevel, ∀ mark ∈ [Punctuator.ellipsis, .colon, .at],
      token.kind ≠ .punctuator mark := by
  intro token htoken mark hmark
  have hcases : (∃ name, token.kind.asName? = some name) ∨ token.kind = .punctuator .openBrace ∨
      token.kind = .punctuator .closeBrace := by
    rcases List.mem_append.1 htoken with hfront | hbody
    · exact .inl (hname token (List.mem_append_left _ hfront))
    rcases List.mem_cons.1 hbody with rfl | hbody
    · exact .inr (.inl hopening)
    rcases List.mem_append.1 hbody with hfield | hlast
    · exact .inl (hname token (List.mem_append_right _ hfield))
    · obtain rfl := List.mem_singleton.1 hlast
      exact .inr (.inr hclosing)
  rcases hcases with ⟨name, hkind⟩ | hkind | hkind
  · exact (Rule.kind_ne_of_asName? hkind).1 mark
  · rw [hkind]
    rintro heq
    obtain rfl := TokenKind.punctuator.inj heq
    simp at hmark
  · rw [hkind]
    rintro heq
    obtain rfl := TokenKind.punctuator.inj heq
    simp at hmark

/-- What stands before the fields: a keyword, a name and variable definitions, or nothing. -/
theorem exists_head {type : OperationType} {name : Option String}
    (h : Token.IsHead type name tokens) :
    ∃ (keyword word : Option Token) (definitions : List Token),
      tokens = keyword.toList ++ word.toList ++ definitions ∧
        (keyword = none → type = .query ∧ name = none ∧ definitions = []) ∧
          (∀ token ∈ keyword, ∃ text, token.kind = .name text ∧
            text.toList.map Char.toLower = type.keyword.toList) ∧
              word.map (·.kind.asName?) = name.map some ∧
                (definitions = [] ∨ Token.IsGroup .openParen .closeParen definitions) := by
  rcases h with ⟨rfl, rfl, rfl⟩ |
    ⟨keyword, text, names, definitions, hkeyword, htype, hnames, hgroup, rfl⟩
  · exact ⟨none, none, [], rfl, fun _ => ⟨rfl, rfl, rfl⟩, by simp, rfl, .inl rfl⟩
  have hword : ∃ word : Option Token, names = word.toList ∧
      word.map (·.kind.asName?) = name.map some := by
    cases name with
    | none =>
        obtain rfl : names = [] := by simpa using hnames
        exact ⟨none, rfl, rfl⟩
    | some name =>
        obtain ⟨word, rest, rfl, hword, hrest⟩ := List.map_eq_cons_iff.1 hnames
        obtain rfl := List.map_eq_nil_iff.1 hrest
        exact ⟨some word, rfl, congrArg some hword⟩
  obtain ⟨word, rfl, hword⟩ := hword
  refine ⟨some keyword, word, definitions, by simp, by simp, ?_, hword, hgroup⟩
  intro token htoken
  obtain rfl := Option.some.inj htoken
  exact ⟨text, hkeyword, OperationType.toLower_of_ofKeyword? htype⟩

/-- The tokens of an operation have an outline. -/
theorem exists_fits {operation : Operation} (h : Token.IsOperation source operation tokens) :
    ∃ outline : Outline, tokens = outline.tokens ∧ outline.Fits source operation := by
  obtain ⟨head, opening, inside, closing, hhead, hopening, hfields, hclosing, hne, rfl⟩ := h
  obtain ⟨parts, rfl, hparts⟩ := FieldOutline.exists_fits hfields
  have hheadSound := hhead.isSound
  obtain ⟨keyword, word, definitions, rfl, hunnamed, hkeyword, hword, hdefinitions⟩ :=
    exists_head hhead
  refine ⟨⟨keyword, word, definitions, opening, parts, closing⟩, rfl, hunnamed, hkeyword, hword,
    hdefinitions, hopening, hclosing, hne, hparts, ?_, ?_⟩
  · refine kind_ne_of_topLevel ?_ hopening hclosing
    intro token htoken
    rcases List.mem_append.1 htoken with hfront | hfield
    · rcases List.mem_append.1 hfront with hmem | hmem
      · obtain ⟨text, hkind, -⟩ := hkeyword token (by simpa using hmem)
        exact ⟨text, by rw [hkind]; rfl⟩
      · obtain rfl : word = some token := by simpa using hmem
        obtain ⟨text, -, htext⟩ := Option.map_eq_some_iff.1 hword.symm
        exact ⟨text, htext.symm⟩
    · obtain ⟨part, hpart, rfl⟩ := List.mem_map.1 hfield
      obtain ⟨field, hfits⟩ := FieldOutline.exists_field hparts part hpart
      exact ⟨_, hfits.name⟩
  · intro token htoken herror
    have hfaulty : ¬ token.IsSound := by
      rintro ⟨hsound, -⟩
      rw [hsound] at herror
      cases herror
    rcases List.mem_append.1 htoken with hfront | hbody
    · exact absurd (hheadSound token hfront) hfaulty
    rcases List.mem_cons.1 hbody with rfl | hbody
    · exact absurd (Token.isSound_of_mark hopening) hfaulty
    rcases List.mem_append.1 hbody with hfield | hlast
    · obtain ⟨part, hpart, hmem⟩ := List.mem_flatMap.1 hfield
      obtain ⟨field, hfits⟩ := FieldOutline.exists_field hparts part hpart
      exact ⟨part, hpart, hfits.mem_arguments hmem herror⟩
    · obtain rfl := List.mem_singleton.1 hlast
      exact absurd (Token.isSound_of_mark hclosing) hfaulty

end Outline

end Fits

/-- A document that is accepted consists of the tokens of an outline of its operation, and its
end. -/
theorem Operation.outline_of_parse {source : List Char} {operation : Operation}
    (h : parse source = .ok operation) : ∃ (outline : Outline) (place : Position),
      Token.list source = outline.tokens ++ [Token.finishAt place] ∧
        outline.Fits (some source) operation := by
  obtain ⟨tokens, place, hlist, hoperation⟩ := exists_tokens h
  obtain ⟨outline, rfl, hfits⟩ := Outline.exists_fits hoperation
  exact ⟨outline, place, hlist, hfits⟩

/-- A document with an argument that is written twice and with a selection. -/
def groupedDocument : List Char :=
  ['{', 'f', '(', 'a', ':', 'b', ' ', 'a', ':', 'c', ')', '{', 'g', '}', ' ', 'h', '}']

/-- Its outline has both of its fields. -/
theorem Operation.outline_of_groupedDocument :
    parse groupedDocument = .ok ⟨.query, none, [⟨"f", [("a", .string "c")]⟩, ⟨"h", []⟩]⟩ ∧
      ∃ (outline : Outline) (place : Position),
        Token.list groupedDocument = outline.tokens ++ [Token.finishAt place] ∧
          outline.Fits (some groupedDocument)
            ⟨.query, none, [⟨"f", [("a", .string "c")]⟩, ⟨"h", []⟩]⟩ ∧
            outline.fields.length = 2 := by
  have hparse : parse groupedDocument =
      .ok ⟨.query, none, [⟨"f", [("a", .string "c")]⟩, ⟨"h", []⟩]⟩ := by rfl
  obtain ⟨outline, place, hlist, hfits⟩ := Operation.outline_of_parse hparse
  exact ⟨hparse, outline, place, hlist, hfits, hfits.fields.length_eq⟩

end CompletionGateway
