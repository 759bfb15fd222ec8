import CompletionGateway.Proofs.Operation.Grammar
import CompletionGateway.Proofs.Operation.Step

/-!
# How a value begins

The first token of a value decides how the value is read: as a bare run, as what the token means by
itself, as a variable or as a literal.  Any other token begins no value and is refused.  The key of
an entry is one token.
-/

namespace CompletionGateway

/-- Whether a token is a string or a number, which may turn out to have no value. -/
def TokenKind.isLiteral : TokenKind → Bool
  | string _ | int _ | float _ => true
  | _ => false

namespace LiteralKind

/-- The rule for a literal that is not malformed. -/
def body (inner : Rule ArgValue) : LiteralKind → Rule ArgValue
  | object => Rule.objectBody inner
  | list => Rule.listBody inner

/-- What the brackets of a literal mean. -/
def enclosure : LiteralKind → Enclosure
  | object => .objectValue
  | list => .listValue

end LiteralKind

theorem TokenKind.key?_of_ne_string {kind : TokenKind} (h : ∀ text, kind ≠ .string text) :
    kind.key? = kind.asName? := by
  cases kind with
  | string text => exact absurd rfl (h text)
  | _ => rfl

theorem Token.isPlain_of_isLiteral {token : Token} (h : token.kind.isLiteral = true) :
    token.kind.isPlain = true := by
  cases hkind : token.kind <;> simp_all [TokenKind.isLiteral, TokenKind.isPlain,
    TokenKind.isOpening, TokenKind.isClosing]

namespace Rule

/-- The name of a variable, behind the dollar. -/
def variableName : Rule ArgValue :=
  expectName >>= fun found => pure (.variable found.1)

section Start

variable (inner : Rule ArgValue) {token : Token} {s : Reading}

theorem valueAt_of_startsRun (hstarts : s.startsRun token = true) :
    valueAt inner token s = bareRun s := by
  rw [valueAt, ask_bind, if_pos hstarts]

/-- A token that means a value by itself is taken. -/
theorem valueAt_of_value? {value : ArgValue} (hstarts : s.startsRun token = false)
    (hvalue : token.kind.value? = some value) : valueAt inner token s = .done value s.advance := by
  rw [valueAt, ask_bind, hstarts]
  cases hkind : token.kind with
  | string text =>
      simp only [hkind, TokenKind.value?] at hvalue
      cases hread : Literal.readString text.toList with
      | ok found =>
          simp only [hread, Option.some.injEq] at hvalue
          subst hvalue
          simp only [Bool.false_eq_true, if_false, update_bind, stringLiteral, hread, pure_bind_apply,
            pure_apply]
      | error fault => simp [hread] at hvalue
  | int text | float text =>
      simp only [hkind, TokenKind.value?] at hvalue
      simp only [Bool.false_eq_true, if_false, update_bind, numberLiteral]
      cases hread : Decimal.readNumber text.toList with
      | ok found =>
          by_cases hfinite : found.isFinite = true
          · simp only [hread, if_pos hfinite, Option.some.injEq] at hvalue
            subst hvalue
            simp only [if_pos hfinite, pure_apply]
          · simp [hread, hfinite] at hvalue
      | error fault => simp [hread] at hvalue
  | name text | bool found | null =>
      simp only [hkind, TokenKind.value?, Option.some.injEq] at hvalue
      subst hvalue
      simp only [Bool.false_eq_true, if_false, update_bind, pure_apply]
  | _ => simp [hkind, TokenKind.value?] at hvalue

theorem valueAt_of_dollar (hkind : token.kind = .punctuator .dollar) :
    valueAt inner token s = variableName s.advance := by
  have hstarts : s.startsRun token = false := by simp [Reading.startsRun, hkind]
  rw [valueAt, ask_bind, hstarts]
  simp only [Bool.false_eq_true, if_false, hkind]
  rfl

theorem valueAt_of_opening {kind : LiteralKind}
    (hkind : token.kind = .punctuator kind.shape.opening) :
    valueAt inner token s = literal kind (kind.body inner) s := by
  have hstarts : s.startsRun token = false := by
    unfold Reading.startsRun
    rw [hkind]
    cases kind <;> rfl
  rw [valueAt, ask_bind, hstarts]
  cases kind <;> simp only [hkind, Bool.false_eq_true, if_false] <;> rfl

/-- A string or a number that cannot be read is taken before it is refused. -/
theorem valueAt_of_isLiteral (hstarts : s.startsRun token = false)
    (hliteral : token.kind.isLiteral = true) (hvalue : token.kind.value? = none) :
    ∃ error : Diagnostic, error.cause.isFatal = false ∧
      valueAt inner token s = refuse (fun _ => error) s.advance := by
  rw [valueAt, ask_bind, hstarts]
  cases hkind : token.kind with
  | string text =>
      simp only [hkind, TokenKind.value?] at hvalue
      cases hread : Literal.readString text.toList with
      | ok found => simp [hread] at hvalue
      | error fault =>
          refine ⟨.invalidString fault token.span, rfl, ?_⟩
          simp only [Bool.false_eq_true, if_false, update_bind, stringLiteral, hread]
          rfl
  | int text | float text =>
      simp only [hkind, TokenKind.value?] at hvalue
      refine ⟨.invalidNumber text token.span, rfl, ?_⟩
      simp only [Bool.false_eq_true, if_false, update_bind, numberLiteral]
      cases hread : Decimal.readNumber text.toList with
      | ok found =>
          have hfinite : ¬ found.isFinite = true := by
            intro hfinite
            simp [hread, hfinite] at hvalue
          simp only [if_neg hfinite]
      | error fault => rfl
  | _ => simp [hkind, TokenKind.isLiteral] at hliteral

/-- Other tokens are refused without being taken. -/
theorem valueAt_of_refused (hstarts : s.startsRun token = false)
    (hliteral : token.kind.isLiteral = false) (hvalue : token.kind.value? = none)
    (hdollar : token.kind ≠ .punctuator .dollar)
    (hopening : ∀ kind : LiteralKind, token.kind ≠ .punctuator kind.shape.opening) :
    valueAt inner token s = refuseNext ["value"] s := by
  rw [valueAt, ask_bind, hstarts]
  cases hkind : token.kind with
  | punctuator mark =>
      cases mark with
      | dollar => exact absurd hkind hdollar
      | openBrace => exact absurd hkind (hopening .object)
      | openBracket => exact absurd hkind (hopening .list)
      | _ => rfl
  | error message notes | finish => rfl
  | string text | int text | float text => simp [hkind, TokenKind.isLiteral] at hliteral
  | name text | bool value | null => simp [hkind, TokenKind.value?] at hvalue

/-- How a value is read whose first token is next. -/
inductive BeginsValue (token : Token) (s : Reading) : Prop
  | run (hstarts : s.startsRun token = true) (hrule : valueAt inner token s = bareRun s)
  | word {value : ArgValue} (hstarts : s.startsRun token = false)
      (hvalue : token.kind.value? = some value) (hrule : valueAt inner token s = .done value s.advance)
  | variable (hdollar : token.kind = .punctuator .dollar)
      (hrule : valueAt inner token s = variableName s.advance)
  | literal (kind : LiteralKind) (hopening : token.kind = .punctuator kind.shape.opening)
      (hrule : valueAt inner token s = Rule.literal kind (kind.body inner) s)
  | faulty {error : Diagnostic} (hstarts : s.startsRun token = false)
      (hliteral : token.kind.isLiteral = true) (hvalue : token.kind.value? = none)
      (hmild : error.cause.isFatal = false)
      (hrule : valueAt inner token s = refuse (fun _ => error) s.advance)
  | refused (hstarts : s.startsRun token = false) (hvalue : token.kind.value? = none)
      (hdollar : token.kind ≠ .punctuator .dollar)
      (hrule : valueAt inner token s = refuseNext ["value"] s)

theorem beginsValue (token : Token) (s : Reading) : BeginsValue inner token s := by
  cases hstarts : s.startsRun token with
  | true => exact .run hstarts (valueAt_of_startsRun inner hstarts)
  | false =>
      cases hvalue : token.kind.value? with
      | some value => exact .word hstarts hvalue (valueAt_of_value? inner hstarts hvalue)
      | none =>
          by_cases hdollar : token.kind = .punctuator .dollar
          · exact .variable hdollar (valueAt_of_dollar inner hdollar)
          by_cases hopening : ∃ kind : LiteralKind, token.kind = .punctuator kind.shape.opening
          · obtain ⟨kind, hopening⟩ := hopening
            exact .literal kind hopening (valueAt_of_opening inner hopening)
          cases hliteral : token.kind.isLiteral with
          | true =>
              obtain ⟨error, hmild, hrule⟩ := valueAt_of_isLiteral inner hstarts hliteral hvalue
              exact .faulty hstarts hliteral hvalue hmild hrule
          | false =>
              exact .refused hstarts hvalue hdollar
                (valueAt_of_refused inner hstarts hliteral hvalue hdollar (not_exists.1 hopening))

/-- A value is read one level deeper, beginning with the next token. -/
theorem valueWithin_of_unread {rest : List Token} (limit : Nat) (hunread : s.unread = token :: rest) :
    valueWithin (limit + 1) s = nested (valueAt (valueWithin limit) token) s := by
  rw [valueWithin, nested, nested]
  split
  · rw [ask_bind, Reading.next?, hunread]
    rfl
  · rfl

end Start

section Key

variable {s : Reading} {token : Token} {rest : List Token} (hunread : s.unread = token :: rest)

include hunread

theorem objectKey_of_string {text : String} (hkind : token.kind = .string text) :
    objectKey s = stringLiteral token text s.advance := by
  rw [objectKey, Reading.next?_of_unread hunread]
  simp only [hkind]

theorem objectKey_of_ne_string (hkind : ∀ text, token.kind ≠ .string text) :
    objectKey s = argumentName s := by
  rw [objectKey, Reading.next?_of_unread hunread]
  cases hcase : token.kind with
  | string text => exact absurd hcase (hkind text)
  | _ =>
      simp only [hcase]
      rfl

/-- A token that is a key is taken. -/
theorem objectKey_of_key? {name : String} (hkey : token.kind.key? = some name) :
    objectKey s = .done name s.advance := by
  by_cases hstring : ∃ text, token.kind = .string text
  · obtain ⟨text, hkind⟩ := hstring
    rw [objectKey_of_string hunread hkind, stringLiteral]
    simp only [hkind, TokenKind.key?] at hkey
    cases hread : Literal.readString text.toList with
    | ok found =>
        simp only [hread, Option.some.injEq] at hkey
        rw [← hkey]
        rfl
    | error fault => simp [hread] at hkey
  · rw [TokenKind.key?_of_ne_string (not_exists.1 hstring)] at hkey
    rw [objectKey_of_ne_string hunread (not_exists.1 hstring), argumentName,
      bind_of_done (expectName_of_unread hunread hkey)]
    rfl

/-- A string that cannot be read is taken before it is refused, and any other token is not. -/
theorem objectKey_of_none (hkey : token.kind.key? = none) :
    (token.kind.isLiteral = true ∧ ∃ error : Diagnostic, error.cause.isFatal = false ∧
        objectKey s = refuse (fun _ => error) s.advance) ∨
      objectKey s = refuseNext ["name"] s := by
  by_cases hstring : ∃ text, token.kind = .string text
  · obtain ⟨text, hkind⟩ := hstring
    rw [objectKey_of_string hunread hkind, stringLiteral]
    simp only [hkind, TokenKind.key?] at hkey
    cases hread : Literal.readString text.toList with
    | ok found => simp [hread] at hkey
    | error fault =>
        refine .inl ⟨by rw [hkind]; rfl, .invalidString fault token.span, rfl, ?_⟩
        rfl
  · rw [TokenKind.key?_of_ne_string (not_exists.1 hstring)] at hkey
    rw [objectKey_of_ne_string hunread (not_exists.1 hstring), argumentName]
    exact .inr (bind_of_failed (expectName_of_none hunread hkey))

end Key

/-! ### Entries and items one by one -/

section Steps

variable {closing : Punctuator} (delimiter : Delimiter) (key : Rule String) (inner : Rule ArgValue)
variable (limit : Nat) (before : Arguments) {s : Reading}

/-- The closing bracket ends the entries. -/
theorem entries_of_closing (hclosing : s.nextKind? = some (.punctuator closing)) :
    entries closing delimiter key inner (limit + 1) before s = .done before s := by
  rw [entries, nextIs_bind, hclosing, beq_self_eq_true]
  rfl

/-- Any other token begins an entry, unless it ends the document. -/
theorem entries_of_entry (hclosing : s.nextKind? ≠ some (.punctuator closing))
    (hend : s.toTokenStream.atEnd = false) :
    entries closing delimiter key inner (limit + 1) before s =
      (do
        let name ← key
        let _ ← expect .colon
        let found ← inner
        entries closing delimiter key inner limit (Dict.insert before name found)) s := by
  rw [entries, nextIs_bind, beq_false_of_ne hclosing]
  simp only [Bool.false_eq_true, if_false]
  rw [atEnd_bind, hend]
  rfl

/-- The closing bracket ends the items. -/
theorem items_of_closing (hclosing : s.nextKind? = some (.punctuator .closeBracket)) :
    items inner (limit + 1) s = .done [] s := by
  rw [items, nextIs_bind, hclosing, beq_self_eq_true]
  rfl

/-- Any other token begins an item, unless it ends the document. -/
theorem items_of_item (hclosing : s.nextKind? ≠ some (.punctuator .closeBracket))
    (hend : s.toTokenStream.atEnd = false) :
    items inner (limit + 1) s =
      (do
        let first ← inner
        let more ← items inner limit
        return first :: more : Rule (List ArgValue)) s := by
  rw [items, nextIs_bind, beq_false_of_ne hclosing]
  simp only [Bool.false_eq_true, if_false]
  rw [atEnd_bind, hend]
  rfl

/-- Arguments without parentheses end with the document. -/
theorem looseArguments_of_end (hend : s.toTokenStream.atEnd = true) :
    looseArguments limit before s = .done before s := by
  cases limit with
  | zero => rfl
  | succ limit =>
      rw [looseArguments, atEnd_bind, hend]
      rfl

/-- Where the document does not end there is another argument. -/
theorem looseArguments_of_more (hend : s.toTokenStream.atEnd = false) :
    looseArguments (limit + 1) before s =
      (do
        let name ← argumentName
        let _ ← expect .colon
        let found ← value
        looseArguments limit (Dict.insert before name found)) s := by
  rw [looseArguments, atEnd_bind, hend]
  rfl

end Steps

end Rule

end CompletionGateway
