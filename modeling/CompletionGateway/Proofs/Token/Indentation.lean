import CompletionGateway.Operation.Document
import CompletionGateway.Proofs.Text.Offset
import Mathlib.Data.List.DropRight
import Mathlib.Data.List.Forall2

/-!
# The indentation of a block string

The lines of a block string behind the first share some indentation, counted in bytes: the least one
of the lines that are not blank.  Each of these lines loses it, so the lines stay indented relative
to each other as they were, and the blank lines at both ends go.  White space outside ASCII takes
several bytes.  Where the shared indentation ends inside such a character, the line is not cut and
keeps all of its indentation.
-/

namespace CompletionGateway

namespace Literal

open Text

/-- The bytes of white space at the front of a line. -/
def indentOf (line : List Char) : Nat := byteLength (line.takeWhile isBlank)

/-- The least indentation of those lines that are not blank. -/
inductive IsSharedIndent (lines : List (List Char)) : Nat → Prop
  | least {line : List Char} (hmem : line ∈ lines) (hblank : allBlank line = false)
      (hleast : ∀ other ∈ lines, allBlank other = false → indentOf line ≤ indentOf other) :
      IsSharedIndent lines (indentOf line)
  | blank (hblank : ∀ line ∈ lines, allBlank line = true) : IsSharedIndent lines 0

/-- What becomes of a line, given with its number, when an indentation is taken off all lines but the
first. -/
inductive LosesIndent (indent : Nat) : List Char × Nat → List Char → Prop
  | first (line : List Char) : LosesIndent indent (line, 0) line
  /-- The line loses as many bytes of white space, and so its own indentation as much. -/
  | cut {lead rest : List Char} {number : Nat} (hnumber : 0 < number)
      (hblank : allBlank lead = true) (hlead : byteLength lead = indent)
      (hindent : indentOf (lead ++ rest) = indent + indentOf rest) :
      LosesIndent indent (lead ++ rest, number) rest
  /-- So many bytes from its front the line has ended or is inside a character. -/
  | whole {line : List Char} {number : Nat} (hnumber : 0 < number)
      (hinside : ∀ lead rest, line = lead ++ rest → byteLength lead ≠ indent) :
      LosesIndent indent (line, number) line

/-- The part of a list from the first to the last element that is not blank. -/
structure IsTrimmed {α : Type} (blank : α → Bool) (all kept : List α) : Prop where
  split : ∃ before after, all = before ++ kept ++ after ∧ ∀ a ∈ before ++ after, blank a = true
  head : ∀ a ∈ kept.head?, blank a = false
  last : ∀ a ∈ kept.getLast?, blank a = false

/-! ### Blank ends -/

section Trimmed

variable {α β : Type} {blank : α → Bool} {all kept : List α}

theorem isTrimmed_dropWhile (blank : α → Bool) (all : List α) :
    IsTrimmed blank all ((all.dropWhile blank).rdropWhile blank) := by
  set front := all.dropWhile blank with hfront
  obtain ⟨after, hafter⟩ := List.rdropWhile_prefix blank front
  have hall : all = all.takeWhile blank ++ front.rdropWhile blank ++ after := by
    rw [List.append_assoc, hafter, hfront, List.takeWhile_append_dropWhile]
  have hback : ∀ a ∈ after, blank a = true := by
    have hsplit := congrArg List.reverse (List.takeWhile_append_dropWhile (p := blank) (l := front.reverse))
    rw [List.reverse_append, List.reverse_reverse] at hsplit
    obtain rfl := List.append_cancel_left (hafter.trans hsplit.symm)
    exact fun a ha => List.all_eq_true.1 List.all_takeWhile a (List.mem_reverse.1 ha)
  refine ⟨⟨_, after, hall, fun a ha => ?_⟩, fun a ha => ?_, fun a ha => ?_⟩
  · rcases List.mem_append.1 ha with ha | ha
    · exact List.all_eq_true.1 List.all_takeWhile a ha
    · exact hback a ha
  · -- what is dropped at the back is not the first element
    have hhead : front.head? = some a := by
      rw [← hafter, List.head?_append, Option.mem_def.1 ha]
      rfl
    have hnot := List.head?_dropWhile_not blank all
    rw [← hfront, hhead] at hnot
    exact hnot
  · have hne : front.rdropWhile blank ≠ [] := by
      rintro hnil
      rw [hnil] at ha
      cases ha
    have hlast := List.rdropWhile_last_not blank front hne
    rw [List.getLast?_eq_some_getLast hne, Option.mem_some_iff] at ha
    rw [ha] at hlast
    exact eq_false_of_ne_true hlast

theorem IsTrimmed.eq_nil_iff (h : IsTrimmed blank all kept) :
    kept = [] ↔ ∀ a ∈ all, blank a = true := by
  obtain ⟨before, after, rfl, hends⟩ := h.split
  constructor
  · rintro rfl
    simpa using hends
  · intro hall
    cases kept with
    | nil => rfl
    | cons a kept =>
        have ha := h.head a rfl
        rw [hall a (by simp)] at ha
        cases ha

theorem IsTrimmed.mem_of_mem (h : IsTrimmed blank all kept) {a : α} (ha : a ∈ kept) : a ∈ all := by
  obtain ⟨before, after, rfl, -⟩ := h.split
  exact List.mem_append_left _ (List.mem_append_right _ ha)

theorem IsTrimmed.congr {blank' : α → Bool} (h : IsTrimmed blank all kept)
    (heq : ∀ a ∈ all, blank a = blank' a) : IsTrimmed blank' all kept := by
  obtain ⟨before, after, hall, hends⟩ := h.split
  have hkept : ∀ a ∈ kept, blank a = blank' a := fun a ha => heq a (h.mem_of_mem ha)
  refine ⟨⟨before, after, hall, fun a ha => ?_⟩, fun a ha => ?_, fun a ha => ?_⟩
  · rw [← heq a (by rw [hall]; simp only [List.mem_append] at ha ⊢; tauto)]
    exact hends a ha
  · rw [← hkept a (List.mem_of_mem_head? ha)]
    exact h.head a ha
  · rw [← hkept a (List.mem_of_mem_getLast? ha)]
    exact h.last a ha

theorem rdropWhile_map (f : β → α) (p : α → Bool) (list : List β) :
    (list.map f).rdropWhile p = (list.rdropWhile (p ∘ f)).map f := by
  rw [List.rdropWhile, List.rdropWhile, ← List.map_reverse, List.dropWhile_map, List.map_reverse]

theorem forall_mem_zipIdx (p : α → Prop) (list : List α) (number : Nat) :
    (∀ a ∈ list.zipIdx number, p a.1) ↔ ∀ a ∈ list, p a := by
  rw [← List.zipIdx_map_fst number list, List.forall_mem_map]
  simp

end Trimmed

/-! ### Cutting one line -/

theorem indentOf_append {lead : List Char} (hlead : allBlank lead = true) (rest : List Char) :
    indentOf (lead ++ rest) = byteLength lead + indentOf rest := by
  rw [indentOf, List.takeWhile_append_of_pos (List.all_eq_true.1 hlead), byteLength_append]
  rfl

theorem indentation?_eq_some_iff {line : List Char} {indent : Nat} :
    indentation? line = some indent ↔ allBlank line = false ∧ indentOf line = indent := by
  unfold indentation? indentOf
  cases allBlank line <;> simp

/-- A line that is blank, or indented at least as much, loses the indentation. -/
theorem losesIndent_removeIndent {indent number : Nat} {line : List Char} (hnumber : 0 < number)
    (hle : allBlank line = false → indent ≤ indentOf line) :
    LosesIndent indent (line, number) (removeIndent indent line) := by
  unfold removeIndent
  cases hdrop : dropBytes indent line with
  | none =>
      refine .whole hnumber fun lead rest hline hlead => ?_
      rw [hline, ← hlead, dropBytes_byteLength_append] at hdrop
      cases hdrop
  | some rest =>
      obtain ⟨lead, rfl, hlead⟩ := exists_of_dropBytes hdrop
      have hblank : allBlank lead = true := by
        cases hall : allBlank (lead ++ rest) with
        | true =>
            rw [allBlank, List.all_append, Bool.and_eq_true] at hall
            exact hall.1
        | false =>
            have hfront : lead <+: (lead ++ rest).takeWhile isBlank :=
              prefix_of_byteLength_le (List.prefix_append lead rest) (List.takeWhile_prefix _)
                (hlead.trans_le (hle hall))
            exact List.all_eq_true.2 fun c hc =>
              List.all_eq_true.1 List.all_takeWhile c (hfront.subset hc)
      exact .cut hnumber hblank hlead (hlead ▸ indentOf_append hblank rest)

theorem LosesIndent.allBlank_eq {indent : Nat} {line : List Char × Nat} {shown : List Char}
    (h : LosesIndent indent line shown) : allBlank shown = allBlank line.1 := by
  cases h with
  | first | whole => rfl
  | cut _ hblank =>
      change _ = allBlank (_ ++ _)
      rw [allBlank, allBlank, List.all_append]
      rw [allBlank] at hblank
      rw [hblank, Bool.true_and]

/-! ### Cutting all lines -/

/-- What `dedent` takes off each line is the indentation that they share. -/
theorem isSharedIndent_min (lines : List (List Char)) :
    IsSharedIndent lines (((lines.filterMap indentation?).min?).getD 0) := by
  cases hmin : (lines.filterMap indentation?).min? with
  | none =>
      refine .blank fun line hline => ?_
      have hnone := List.filterMap_eq_nil_iff.1 (List.min?_eq_none_iff.1 hmin) line hline
      unfold indentation? at hnone
      split at hnone
      · assumption
      · cases hnone
  | some indent =>
      obtain ⟨hmem, hleast⟩ := List.min?_eq_some_iff.1 hmin
      obtain ⟨line, hline, hindent⟩ := List.mem_filterMap.1 hmem
      obtain ⟨hblank, rfl⟩ := indentation?_eq_some_iff.1 hindent
      exact .least hline hblank fun other hother hnot =>
        hleast _ (List.mem_filterMap.2 ⟨other, hother, indentation?_eq_some_iff.2 ⟨hnot, rfl⟩⟩)

theorem IsSharedIndent.le {lines : List (List Char)} {indent : Nat} (h : IsSharedIndent lines indent)
    {line : List Char} (hline : line ∈ lines) (hblank : allBlank line = false) :
    indent ≤ indentOf line := by
  cases h with
  | least _ _ hleast => exact hleast line hline hblank
  | blank hall => exact Nat.zero_le _

/-- A line, given with its number, as `dedent` cuts it. -/
def cutLine (indent : Nat) (line : List Char × Nat) : List Char :=
  if line.2 = 0 then line.1 else removeIndent indent line.1

theorem map_cutLine (indent : Nat) (first : List Char) (more : List (List Char)) :
    first :: more.map (removeIndent indent) = ((first :: more).zipIdx).map (cutLine indent) := by
  have hmore : ∀ (lines : List (List Char)) (number : Nat), 0 < number →
      lines.map (removeIndent indent) = (lines.zipIdx number).map (cutLine indent) := by
    intro lines
    induction lines with
    | nil => exact fun _ _ => rfl
    | cons line lines ih =>
        intro number hnumber
        rw [List.zipIdx_cons, List.map_cons, List.map_cons, ← ih _ (Nat.succ_pos number), cutLine,
          if_neg (Nat.ne_of_gt hnumber)]
  rw [List.zipIdx_cons, List.map_cons, ← hmore more _ (Nat.succ_pos 0)]
  rfl

theorem losesIndent_cutLine {indent : Nat} {lines : List (List Char)}
    (hshared : IsSharedIndent lines.tail indent) {line : List Char × Nat}
    (hline : line ∈ lines.zipIdx) : LosesIndent indent line (cutLine indent line) := by
  obtain ⟨text, number⟩ := line
  cases lines with
  | nil => cases hline
  | cons first more =>
      rw [List.zipIdx_cons, List.mem_cons] at hline
      rcases hline with hfirst | hmore
      · obtain ⟨rfl, rfl⟩ := Prod.mk.inj hfirst
        exact .first text
      · have hnumber : 0 < number := (List.mem_zipIdx hmore).1
        rw [cutLine, if_neg (Nat.ne_of_gt hnumber)]
        exact losesIndent_removeIndent hnumber
          (hshared.le (List.fst_mem_of_mem_zipIdx hmore))

theorem joinLines_eq_nil_iff {lines : List (List Char)} (h : ∀ line ∈ lines.head?, line ≠ []) :
    joinLines lines = [] ↔ lines = [] := by
  cases lines with
  | nil => exact iff_of_true rfl rfl
  | cons line more =>
      refine iff_of_false (fun hnil => ?_) (List.cons_ne_nil _ _)
      cases more with
      | nil => exact h line rfl hnil
      | cons => simp [joinLines] at hnil

/-- The indentation that `dedent` takes off the lines behind the first. -/
def commonIndent (content : List Char) : Nat :=
  (((lines content).tail.filterMap indentation?).min?).getD 0

theorem dedent_eq (content : List Char) : dedent content =
    joinLines (((((lines content).zipIdx).map (cutLine (commonIndent content))).dropWhile
      allBlank).rdropWhile allBlank) := by
  unfold dedent commonIndent
  cases lines content with
  | nil => rfl
  | cons first more =>
      rw [← map_cutLine]
      rfl

/-- A block string shows its lines from the first to the last that is not blank.  All but its first
line lose the indentation that those of them share that are not blank. -/
theorem dedent_lines (content : List Char) : ∃ indent middle shown,
    IsSharedIndent (lines content).tail indent ∧
    IsTrimmed (fun line => allBlank line.1) (lines content).zipIdx middle ∧
    List.Forall₂ (LosesIndent indent) middle shown ∧
    dedent content = joinLines shown ∧
    (dedent content = [] ↔ ∀ line ∈ lines content, allBlank line = true) := by
  have hshared : IsSharedIndent (lines content).tail (commonIndent content) := isSharedIndent_min _
  generalize hindent : commonIndent content = indent at hshared
  set numbered := (lines content).zipIdx with hnumbered
  have hcut : ∀ line ∈ numbered, LosesIndent indent line (cutLine indent line) :=
    fun line hline => losesIndent_cutLine hshared hline
  -- cutting leaves blank lines blank and others not, so it does not matter which of the two is first
  obtain ⟨middle, hmiddle, hdedent⟩ : ∃ middle,
      IsTrimmed (allBlank ∘ cutLine indent) numbered middle ∧
      dedent content = joinLines (middle.map (cutLine indent)) := by
    refine ⟨_, isTrimmed_dropWhile _ _, ?_⟩
    rw [dedent_eq, hindent, List.dropWhile_map, rdropWhile_map]
  have htrimmed := hmiddle.congr fun line hline => (hcut line hline).allBlank_eq
  refine ⟨indent, middle, middle.map (cutLine indent), hshared, htrimmed, ?_, hdedent, ?_⟩
  · exact List.forall₂_map_right_iff.2
      (List.forall₂_same.2 fun line hline => hcut line (htrimmed.mem_of_mem hline))
  · rw [hdedent, joinLines_eq_nil_iff, List.map_eq_nil_iff, htrimmed.eq_nil_iff]
    · exact forall_mem_zipIdx (fun line => allBlank line = true) _ _
    · intro line hline hnil
      rw [List.head?_map] at hline
      obtain ⟨first, hfirst, rfl⟩ := Option.map_eq_some_iff.1 hline
      have hshown := hmiddle.head first hfirst
      rw [Function.comp_apply, hnil] at hshown
      cases hshown

end Literal

/-- A document whose block string indents one line by a no-break space, which takes two bytes, and the
next line by a blank and a no-break space. -/
def wideIndent : List Char :=
  ['{', ' ', 'f', '(', 'x', ':', ' ', '"', '"', '"', '\n', '\u00a0', 'a', '\n', ' ', '\u00a0', 'b',
    '"', '"', '"', ')', ' ', '}']

/-- The shared indentation ends inside the white space of the last line, and so that line keeps all of
its indentation. -/
theorem Operation.parse_wideIndent :
    Literal.indentOf ['\u00a0', 'a'] = 2 ∧ Literal.indentOf [' ', '\u00a0', 'b'] = 3 ∧
    parse wideIndent = .ok ⟨.query, none, [⟨"f", [("x", .string "a\n \u00a0b")]⟩]⟩ :=
  ⟨by rfl, by rfl, by rfl⟩

end CompletionGateway
