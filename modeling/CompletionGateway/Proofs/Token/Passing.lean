import CompletionGateway.Proofs.Token.Word

/-!
# Passing a text is walking over it

Comments, names and digits stay in their lines.  So skipping over them is walking over them, and the
cursor comes to the place that it reaches one character at a time.
-/

namespace CompletionGateway

namespace Cursor

variable (cursor : Cursor)

theorem afterReturn_step_of_ne {c : Char} (hc : c ≠ '\r') :
    (cursor.step c).afterReturn = false := by
  simp only [step, if_neg hc]
  split
  · split <;> rfl
  · rfl

/-- Skipping over characters that end no line is walking over them. -/
theorem skip_takeWhile_eq_walk {p : Char → Bool} (hp : ∀ c, p c = true → c ≠ '\n' ∧ c ≠ '\r')
    (text : List Char) (hnil : text.takeWhile p = [] → cursor.afterReturn = false) :
    cursor.skip (text.takeWhile p) = cursor.walk (text.takeWhile p) :=
  skip_eq_walk (fun c hc => hp c (List.all_eq_true.1 List.all_takeWhile c hc)) hnil

/-- Passing trivia is walking over them. -/
theorem passTrivia_eq_walk {limit : Nat} {text : List Char} (hlimit : text.length ≤ limit) :
    cursor.passTrivia limit text = cursor.walk text := by
  induction limit generalizing cursor text with
  | zero =>
      obtain rfl := List.eq_nil_of_length_eq_zero (Nat.le_zero.1 hlimit)
      rfl
  | succ limit ih =>
      cases text with
      | nil => rfl
      | cons c rest =>
          have hrest : rest.length ≤ limit := Nat.le_of_succ_le_succ hlimit
          rw [passTrivia, walk_cons]
          split
          · rename_i hc
            subst hc
            have hshort := (List.dropWhile_suffix (l := rest)
              (fun c => c != '\n' && c != '\r')).length_le
            rw [ih _ (Nat.le_trans hshort hrest),
              skip_takeWhile_eq_walk _ (by simp) _ fun _ =>
                cursor.afterReturn_step_of_ne (by decide),
              ← walk_append, List.takeWhile_append_dropWhile]
          · exact ih _ hrest

/-! ### Numbers -/

theorem ne_of_isDigit {c : Char} (h : Lexeme.isDigit c = true) : c ≠ '\n' ∧ c ≠ '\r' := by
  constructor <;> rintro rfl <;> revert h <;> decide

theorem ne_of_isNamePart {c : Char} (h : Lexeme.isNamePart c = true) : c ≠ '\n' ∧ c ≠ '\r' := by
  constructor <;> rintro rfl <;> revert h <;> decide

/-- Skipping over the digits at the front of a text is walking over them. -/
theorem skip_digits_eq_walk (text : List Char) (h : Lexeme.startsWith Lexeme.isDigit text = true) :
    cursor.skip (text.takeWhile Lexeme.isDigit) = cursor.walk (text.takeWhile Lexeme.isDigit) := by
  refine cursor.skip_takeWhile_eq_walk (fun _ => ne_of_isDigit) text fun hnil => ?_
  cases text with
  | nil => cases h
  | cons c rest => simp [show Lexeme.isDigit c = true from h] at hnil

theorem passBroken_eq_walk (fault : LexicalFault) (taken rest : List Char) :
    (cursor.walk taken).passBroken rest =
      cursor.walk (Lexeme.brokenNumber fault taken rest).taken := by
  rw [passBroken, Lexeme.brokenNumber, walk_append]

theorem passGlued_eq_walk (isFloat : Bool) (taken rest : List Char) :
    (cursor.walk taken).passGlued rest =
      cursor.walk (Lexeme.finishNumber isFloat taken rest).taken := by
  unfold passGlued Lexeme.finishNumber
  split
  · exact cursor.passBroken_eq_walk .gluedNumber taken rest
  · rfl

theorem passFraction_eq_walk (rest : List Char) :
    cursor.passFraction (Lexeme.splitFraction rest).1 =
      cursor.walk (Lexeme.splitFraction rest).1 := by
  unfold Lexeme.splitFraction
  split
  · rename_i d rest
    split
    · rename_i hd
      have hdigits := (cursor.step '.').skip_digits_eq_walk (d :: rest) hd
      rw [List.takeWhile_cons_of_pos hd] at hdigits
      rw [passFraction, walk_cons, hdigits]
    · rfl
  · rfl

theorem passNumberTail_eq_walk (whole rest : List Char) :
    (cursor.walk whole).passNumberTail rest =
      cursor.walk (Lexeme.scanNumberTail whole rest).taken := by
  simp only [passNumberTail, Lexeme.scanNumberTail, passFraction_eq_walk, ← walk_append]
  split
  · exact cursor.passGlued_eq_walk _ _ _
  split
  · rename_i hdigit
    rw [skip_digits_eq_walk _ _ hdigit, ← walk_append]
    exact cursor.passGlued_eq_walk _ _ _
  · exact cursor.passBroken_eq_walk _ _ _

theorem passUnsigned_eq_walk (sign text : List Char) :
    (cursor.walk sign).passUnsigned text =
      cursor.walk (Lexeme.scanUnsigned sign text).taken := by
  have hzero : (cursor.walk sign).step '0' = cursor.walk (sign ++ ['0']) := by
    rw [walk_append]
    rfl
  unfold passUnsigned
  split
  · rw [hzero, Lexeme.scanUnsigned]
    split
    · exact cursor.passBroken_eq_walk _ _ _
    · exact cursor.passNumberTail_eq_walk _ _
  · rename_i hhead
    rw [Lexeme.scanUnsigned.eq_2 sign text hhead]
    split
    · rename_i hdigit
      rw [skip_digits_eq_walk _ _ hdigit, ← walk_append]
      exact cursor.passNumberTail_eq_walk _ _
    · rfl

theorem passNumber_eq_walk (text : List Char) :
    cursor.passNumber text = cursor.walk (Lexeme.scanNumber text).taken := by
  unfold passNumber
  split
  · exact cursor.passUnsigned_eq_walk ['-'] _
  · rename_i hhead
    rw [Lexeme.scanNumber.eq_2 text hhead]
    exact cursor.passUnsigned_eq_walk [] _

/-! ### Lexemes -/

theorem passLexeme_eq_walk (c : Char) (rest : List Char) :
    cursor.passLexeme c rest = cursor.walk (Lexeme.scan c rest).taken := by
  unfold passLexeme
  split
  · rename_i hstart
    rw [Lexeme.scan_of_isNameStart hstart]
    refine skip_eq_walk (fun d hd => ne_of_isNamePart ?_) fun hnil => by cases hnil
    rcases List.mem_cons.1 hd with rfl | hd
    · rw [Lexeme.isNamePart_eq, hstart]
      rfl
    · exact List.all_eq_true.1 List.all_takeWhile d hd
  split
  · rename_i hnumber
    rw [Lexeme.scan_of_number (by simpa using hnumber)]
    exact cursor.passNumber_eq_walk _
  · rfl

end Cursor

namespace Token

/-- The tokens of a text, by the places that walking over it gives. -/
theorem listFrom_succ (limit : Nat) (cursor : Cursor) (text : List Char) :
    listFrom (limit + 1) cursor text =
      let gap := triviaLength false text
      let start := cursor.walk (text.take gap)
      match text.drop gap with
      | [] => [finishAt start.position]
      | c :: rest =>
          let lexeme := Lexeme.scan c rest
          let stop := start.walk lexeme.taken
          ⟨lexeme.kindAt start.position, ⟨start.position, stop.position⟩⟩ ::
            listFrom limit stop lexeme.rest := by
  have hgap := cursor.passTrivia_eq_walk (List.length_take_le (triviaLength false text) text)
  cases hrest : text.drop (triviaLength false text) with
  | nil => simp only [listFrom, hgap, hrest]
  | cons c rest => simp only [listFrom, hgap, hrest, Cursor.passLexeme_eq_walk]

end Token

end CompletionGateway
