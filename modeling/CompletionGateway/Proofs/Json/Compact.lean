import CompletionGateway.Json.Writing
import CompletionGateway.Proofs.Number.Digits
import CompletionGateway.Text.Blank

/-!
# The compact text of a JSON value stands on one line

Line breaks occur in strings alone, and there they are escaped.  The text begins and ends with a
bracket, a quote, a digit, a sign or a letter, so nothing is trimmed off it.
-/

namespace CompletionGateway.Json

/-- No line ends in the text. -/
def Unbroken (text : List Char) : Prop := ∀ c ∈ text, c ≠ '\n' ∧ c ≠ '\r'

/-- No character of the text is blank. -/
def Solid (text : List Char) : Prop := ∀ c ∈ text, Text.isBlank c = false

/-- The text stands on one line without blanks around it. -/
structure OneLine (text : List Char) : Prop where
  unbroken : Unbroken text
  first : ∀ c ∈ text.head?, Text.isBlank c = false
  last : ∀ c ∈ text.getLast?, Text.isBlank c = false

instance (text : List Char) : Decidable (Unbroken text) :=
  List.decidableBAll (fun c => c ≠ '\n' ∧ c ≠ '\r') text

instance (text : List Char) : Decidable (Solid text) :=
  List.decidableBAll (fun c => Text.isBlank c = false) text

theorem Unbroken.append {front back : List Char} (h : Unbroken front) (h' : Unbroken back) :
    Unbroken (front ++ back) := fun c hc => (List.mem_append.1 hc).elim (h c) (h' c)

theorem Unbroken.cons {c : Char} {text : List Char} (hc : c ≠ '\n' ∧ c ≠ '\r') (h : Unbroken text) :
    Unbroken (c :: text) := List.forall_mem_cons.2 ⟨hc, h⟩

theorem Solid.append {front back : List Char} (h : Solid front) (h' : Solid back) :
    Solid (front ++ back) := fun c hc => (List.mem_append.1 hc).elim (h c) (h' c)

theorem Solid.cons {c : Char} {text : List Char} (hc : Text.isBlank c = false) (h : Solid text) :
    Solid (c :: text) := List.forall_mem_cons.2 ⟨hc, h⟩

/-- Line breaks are blank. -/
theorem ne_break_of_solid {c : Char} (h : Text.isBlank c = false) : c ≠ '\n' ∧ c ≠ '\r' := by
  constructor
  · rintro rfl
    revert h
    decide
  · rintro rfl
    revert h
    decide

theorem Solid.unbroken {text : List Char} (h : Solid text) : Unbroken text :=
  fun c hc => ne_break_of_solid (h c hc)

theorem Solid.oneLine {text : List Char} (h : Solid text) : OneLine text where
  unbroken := h.unbroken
  first c hc := h c (List.mem_of_mem_head? hc)
  last c hc := h c (List.mem_of_mem_getLast? hc)

/-- Between two characters that are no blanks a text that is not broken stands on one line. -/
theorem OneLine.between {opening closing : Char} {inside : List Char}
    (hopening : Text.isBlank opening = false) (hclosing : Text.isBlank closing = false)
    (h : Unbroken inside) : OneLine (opening :: inside ++ [closing]) where
  unbroken := .append (.cons (ne_break_of_solid hopening) h)
    (.cons (ne_break_of_solid hclosing) (by simp [Unbroken]))
  first c hc := by
    obtain rfl : opening = c := by simpa using hc
    exact hopening
  last c hc := by
    rw [List.getLast?_concat] at hc
    exact Option.some.inj hc ▸ hclosing

theorem OneLine.trim_eq {text : List Char} (h : OneLine text) : Text.trim text = text := by
  have hstart : Text.trimStart text = text := by
    cases text with
    | nil => rfl
    | cons c rest => simp [Text.trimStart, h.first c rfl]
  rw [Text.trim, hstart, Text.trimEnd]
  rcases List.eq_nil_or_concat text with rfl | ⟨front, c, rfl⟩
  · rfl
  · have hlast := h.last c (by simp)
    simp [hlast]

/-! ### Numbers -/

theorem isBlank_of_isDigit {c : Char} (h : c.isDigit = true) : Text.isBlank c = false := by
  simp only [Char.isDigit, Bool.and_eq_true, decide_eq_true_eq, UInt32.le_iff_toNat_le] at h
  have hlow : 48 ≤ c.toNat := h.1
  have hhigh : c.toNat ≤ 57 := h.2
  simp [Text.isBlank]
  omega

theorem solid_writeNat (n : Nat) : Solid (Decimal.writeNat n) :=
  fun _ hc => isBlank_of_isDigit (Decimal.isDigit_of_mem_writeNat hc)

theorem solid_significantDigits (d : Decimal) : Solid (Binary64.significantDigits d).1 := by
  intro c hc
  have hmem : c ∈ (Decimal.writeNat d.coefficient).reverse :=
    (List.dropWhile_sublist _).mem (List.mem_reverse.1 hc)
  exact solid_writeNat d.coefficient c (List.mem_reverse.1 hmem)

theorem solid_replicate_zero (count : Nat) : Solid (List.replicate count '0') := by
  intro c hc
  rw [(List.mem_replicate.1 hc).2]
  decide

/-- Digits with a point behind the first one, if there are more. -/
theorem solid_pointed {digits : List Char} : Solid digits → Solid (match digits with
    | [] => []
    | [d] => [d]
    | d :: more => d :: '.' :: more) := by
  intro h
  match digits with
  | [] => exact h
  | [d] => exact h
  | d :: e :: more => exact .cons (h d (by simp)) (.cons (by decide) fun c hc => h c (by simp [hc]))

theorem solid_layout {digits : List Char} (h : Solid digits) (leading : Int) :
    Solid (realLayout.write digits leading) := by
  have hpoint : Text.isBlank '.' = false := by decide
  have hexponent : Solid ('e' :: realLayout.positiveExponent) := by decide
  have hlowered : Solid ['e', '-'] := by decide
  unfold Binary64.Layout.write
  split
  · have hmantissa := solid_pointed h
    dsimp only
    split
    · rw [List.append_assoc]
      exact hmantissa.append (hexponent.append (solid_writeNat _))
    · exact hmantissa.append (hlowered.append (solid_writeNat _))
  split
  · dsimp only
    split
    · exact (h.append (solid_replicate_zero _)).append (by decide)
    · exact .append (fun c hc => h c (List.mem_of_mem_take hc))
        (.cons hpoint fun c hc => h c (List.mem_of_mem_drop hc))
  · exact (Solid.append (by decide : Solid ['0', '.']) (solid_replicate_zero _)).append h

theorem solid_writeReal (x : Binary64) : Solid (writeReal x) := by
  unfold writeReal
  split
  · rename_i negative rank
    have hsign : Solid (if negative then ['-'] else []) := by cases negative <;> decide
    dsimp only
    split
    · exact hsign.append (by decide)
    · exact hsign.append (solid_layout (solid_significantDigits _) _)
  · decide

theorem solid_writeNumber (n : JsonNumber) : Solid (writeNumber n) := by
  cases n with
  | natural n => exact solid_writeNat n
  | negative n => exact .cons (by decide) (solid_writeNat n)
  | real x => exact solid_writeReal x

/-! ### Strings -/

theorem isBlank_hexDigit {n : Nat} (h : n < 16) : Text.isBlank (Text.hexDigit n) = false := by
  have hall : ∀ m ∈ List.range 16, Text.isBlank (Text.hexDigit m) = false := by decide
  exact hall n (List.mem_range.2 h)

/-- A character that would end a line is escaped. -/
theorem unbroken_writeChar (c : Char) : Unbroken (writeChar c) := by
  by_cases hfeed : c = '\n'
  · subst hfeed
    exact Solid.unbroken (by decide)
  by_cases hreturn : c = '\r'
  · subst hreturn
    exact Solid.unbroken (by decide)
  unfold writeChar
  simp only [if_neg hfeed, if_neg hreturn]
  -- five more characters have escapes of two characters
  iterate 5
    split
    · exact Solid.unbroken (by decide)
  split
  · have hhigh := isBlank_hexDigit (n := c.toNat / 16) (by omega)
    have hlow := isBlank_hexDigit (n := c.toNat % 16) (by omega)
    exact ((by decide : Solid ['\\', 'u', '0', '0']).append
      (.cons hhigh (.cons hlow (by decide)))).unbroken
  · exact .cons ⟨hfeed, hreturn⟩ (by simp [Unbroken])

theorem oneLine_writeString (s : String) : OneLine (writeString s) := by
  have hinside : Unbroken (s.toList.flatMap writeChar) := by
    intro c hc
    obtain ⟨d, -, hd⟩ := List.mem_flatMap.1 hc
    exact unbroken_writeChar d c hd
  exact .between (by decide) (by decide) hinside

/-! ### Values -/

mutual

theorem oneLine_write : ∀ value : Json, OneLine value.write
  | null | bool true | bool false => by
      refine Solid.oneLine ?_
      rw [write]
      decide
  | number n => (solid_writeNumber n).oneLine
  | string s => oneLine_writeString s
  | array items => .between (by decide) (by decide) (unbroken_writeItems items)
  | object members => .between (by decide) (by decide) (unbroken_writeMembers members)

theorem unbroken_writeItems : ∀ items : List Json, Unbroken (writeItems items)
  | [] => by simp [writeItems, Unbroken]
  | [item] => (oneLine_write item).unbroken
  | item :: second :: rest => by
      rw [writeItems]
      · exact (oneLine_write item).unbroken.append (.cons (by decide) (unbroken_writeItems _))
      · simp

theorem unbroken_writeMembers : ∀ members : List (String × Json), Unbroken (writeMembers members)
  | [] => by simp [writeMembers, Unbroken]
  | [(name, value)] => by
      rw [writeMembers]
      exact (oneLine_writeString name).unbroken.append (.cons (by decide) (oneLine_write value).unbroken)
  | (name, value) :: second :: rest => by
      rw [writeMembers]
      · exact ((oneLine_writeString name).unbroken.append
          (.cons (by decide) (oneLine_write value).unbroken)).append
            (.cons (by decide) (unbroken_writeMembers _))
      · simp

end

end CompletionGateway.Json
