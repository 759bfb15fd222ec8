/-!
# Splitting a text

Every separator ends one part and begins another, so there is one more part than there are
separators, and a part may be empty.
-/

namespace CompletionGateway.Text

/-- The parts of a text between separators. -/
def split (isSeparator : Char → Bool) : List Char → List (List Char)
  | [] => [[]]
  | c :: rest =>
      if isSeparator c then [] :: split isSeparator rest
      else
        match split isSeparator rest with
        | [] => [[c]]
        | part :: more => (c :: part) :: more

theorem split_ne_nil (isSeparator : Char → Bool) (text : List Char) :
    split isSeparator text ≠ [] := by
  cases text with
  | nil => simp [split]
  | cons c rest =>
      unfold split
      split
      · simp
      · split <;> simp

end CompletionGateway.Text
