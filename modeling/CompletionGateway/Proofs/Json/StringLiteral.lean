import CompletionGateway.Json.Writing
import CompletionGateway.Proofs.Operation.Spelling

/-!
# The strings of a JSON text are string literals

The text of a JSON string is a literal in double quotes, and the literal means the string: every
escape that a JSON text writes is one that the query language reads, with the same meaning.
-/

namespace CompletionGateway

/-- A string in double quotes, with the escapes of a JSON text. -/
def Word.jsonString (text : String) : Word :=
  ⟨.string (String.ofList (Json.writeString text)), Json.writeString text⟩

namespace Json

/-- A control character by its code point. -/
theorem writes_codePoint {c : Char} (hcontrol : c.toNat < 0x20) :
    Literal.Writes '"' c
      ['\\', 'u', '0', '0', Text.hexDigit (c.toNat / 16), Text.hexDigit (c.toNat % 16)] := by
  have hhigh : Text.hexValue? (Text.hexDigit (c.toNat / 16)) = some (c.toNat / 16) :=
    Text.hexValue?_hexDigit (by omega)
  have hlow : Text.hexValue? (Text.hexDigit (c.toNat % 16)) = some (c.toNat % 16) :=
    Text.hexValue?_hexDigit (by omega)
  have hzero : Text.hexValue? '0' = some 0 := by decide
  refine .four (fun d hd => ?_) rfl ?_
  · simp only [List.mem_cons, List.not_mem_nil, or_false] at hd
    rcases hd with rfl | rfl | rfl | rfl
    · decide
    · decide
    · rw [Text.isHexDigit, hhigh]
      rfl
    · rw [Text.isHexDigit, hlow]
      rfl
  · simp only [Text.readHex, List.foldl_cons, List.foldl_nil, hzero, hhigh, hlow, Option.getD_some]
    omega

/-- Every character is written by itself, by a short escape or by its code point. -/
theorem writes_writeChar (c : Char) : Literal.Writes '"' c (writeChar c) := by
  unfold writeChar
  split
  · subst c
    exact .short (by decide)
  split
  · subst c
    exact .short (by decide)
  split
  · subst c
    exact .short (by decide)
  split
  · subst c
    exact .short (by decide)
  split
  · subst c
    exact .short (by decide)
  split
  · subst c
    exact .short (by decide)
  split
  · subst c
    exact .short (by decide)
  split
  · rename_i hcontrol
    exact writes_codePoint hcontrol
  · rename_i hquote hslash _ _ hfeed hreturn _ _
    exact .plain hquote hslash hfeed hreturn

/-- A string is written as a literal of the query language. -/
theorem isString_jsonString (text : String) : Word.IsString text (.jsonString text) := by
  refine ⟨writeString text, ⟨text.toList.flatMap writeChar, ?_, rfl⟩, rfl⟩
  generalize text.toList = characters
  induction characters with
  | nil => exact .nil
  | cons c characters ih => exact .cons (writes_writeChar c) ih

end Json

end CompletionGateway
