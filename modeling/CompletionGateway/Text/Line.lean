/-!
# Lines of a text

For quoting and dedenting, a line ends at a line feed; a carriage return right before that line feed
goes with it.  A carriage return elsewhere is an ordinary character of its line, and a line feed at
the very end does not begin another line.
-/

namespace CompletionGateway.Text

/-- The lines of a text, without their ends. -/
def lines : List Char → List (List Char)
  | [] => []
  | '\n' :: rest => [] :: lines rest
  | '\r' :: '\n' :: rest => [] :: lines rest
  | c :: rest =>
      match lines rest with
      | [] => [[c]]
      | line :: more => (c :: line) :: more

/-- The lines again as one text, a line feed between each two. -/
def joinLines : List (List Char) → List Char
  | [] => []
  | [line] => line
  | line :: more => line ++ '\n' :: joinLines more

end CompletionGateway.Text
