import CompletionGateway.Text.Split
import CompletionGateway.Url.Scheme

/-!
# Paths

A path is a list of segments, without those that only say where to go from the segments before.
A segment may name the drive of a file; such a segment is never taken back.
-/

namespace CompletionGateway.Url

/-- What follows the host. -/
inductive Path where
  /-- Segments, each behind a slash. -/
  | segments (list : List (List Char))
  /-- A text without structure. -/
  | plain (text : List Char)
deriving DecidableEq

/-- Whether a segment begins with the letter of a drive and a colon or a bar, and has nothing behind
them but what may follow a backslash. -/
def beginsWithDrive : List Char → Bool
  | letter :: mark :: rest =>
      letter.isAlpha && (mark = ':' || mark = '|') && (rest.isEmpty || rest.head? = some '\\')
  | _ => false

/-- Whether a segment is the letter of a drive and a colon or a bar. -/
def isDrive (segment : List Char) : Bool := segment.length = 2 && beginsWithDrive segment

/-- A segment with dots for their escapes: enough to recognise dot segments. -/
def plainDots : List Char → List Char
  | '%' :: '2' :: e :: rest =>
      if e.toLower = 'e' then '.' :: plainDots rest else '%' :: '2' :: plainDots (e :: rest)
  | c :: rest => c :: plainDots rest
  | [] => []

/-- The first segment of the path of a file: a drive is written with a colon. -/
def normalDrive (segment : List Char) : List Char :=
  if isDrive segment then segment.take 1 ++ [':'] else segment

/-- A path without its last segment, unless that begins with a drive. -/
def withoutLast (path : List (List Char)) : List (List Char) :=
  if (path.getLast?.map beginsWithDrive).getD false then path else path.dropLast

/-- Adds the next segment to a path.  Single dots say nothing; double dots take the last segment
back.  Either leaves an empty segment at the very end. -/
def addSegment (kind : Kind) (path : List (List Char)) (segment : List Char) (isLast : Bool) :
    List (List Char) :=
  let ending := if isLast then [[]] else []
  if plainDots segment = ['.', '.'] then withoutLast path ++ ending
  else if plainDots segment = ['.'] then path ++ ending
  else if kind = .file ∧ path = [] then [normalDrive segment]
  else path ++ [segment]

/-- Adds segments to a path. -/
def addSegments (kind : Kind) (path : List (List Char)) : List (List Char) → List (List Char)
  | [] => path
  | [segment] => addSegment kind path segment true
  | segment :: rest => addSegments kind (addSegment kind path segment false) rest

/-- The segments of a path, which may begin with a slash. -/
def readSegments (kind : Kind) (text : List Char) : List (List Char) :=
  let text :=
    match text with
    | c :: rest => if isSlash kind c then rest else c :: rest
    | [] => []
  addSegments kind [] ((Text.split (isSlash kind) text).map (percentEncode isEscapedInPath))

/-- The text of a path. -/
def Path.write : Path → List Char
  | segments list => list.flatMap ('/' :: ·)
  | plain text => text

end CompletionGateway.Url
