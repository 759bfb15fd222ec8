import CompletionGateway.Url.Name.Direction
import CompletionGateway.Url.Name.Joiner
import CompletionGateway.Url.Name.Mapping
import CompletionGateway.Url.Punycode

/-!
# Names in ASCII

A name is a sequence of labels with dots between them.  A label that has other characters than those
of ASCII is written with ASCII characters: in Punycode behind a tag.  A label that already has the
tag is read, so that what it stands for obeys the same rules as a label that is given as it is.
-/

namespace CompletionGateway.Url.Name

/-- Whether a text only has characters of ASCII. -/
def isAscii (text : List Char) : Bool := text.all fun c => c.toNat < 0x80

/-- What a label begins with that is written in Punycode. -/
def punycodeTag : List Char := ['x', 'n', '-', '-']

/-- The greatest length of what is read as Punycode. -/
def punycodeLimit : Nat := 2000

/-- The greatest length of what is written as Punycode. -/
def labelLimit : Nat := 1000

/-- What a label stands for.  What Punycode stands for must need it and be in normal form. -/
def readLabel? (label : List Char) : Option (List Char) :=
  if punycodeTag.isPrefixOf label then do
    let code := label.drop punycodeTag.length
    if !isAscii code ∨ punycodeLimit < code.length then none
    else
      let label ← Punycode.decode? code
      if isAscii label ∨ punycodeTag.isPrefixOf label ∨ !label.all isPlain ∨
          normalize label ≠ label then none
      else some label
  else some label

/-- A label in ASCII. -/
def writeLabel? (label : List Char) : Option (List Char) :=
  if isAscii label then some label
  else if labelLimit < label.length then none
  else some (punycodeTag ++ Punycode.encode label)

/-- Whether the marks and joiners of a label have letters before them. -/
def isWellFormed (label : List Char) : Bool :=
  !(label.head?.map isMark).getD false && hasFitJoiners [] label

/-- The normal form of a name in ASCII. -/
def ofText? (text : List Char) : Option (List Char) := do
  let labels := Text.split (· = '.') (normalize (← mapAll? text))
  let meant ← labels.mapM readLabel?
  if !meant.all isWellFormed ∨ (meant.any hasRightToLeft ∧ !meant.all hasOneDirection) then none
  else some (['.'].intercalate (← labels.mapM writeLabel?))

end CompletionGateway.Url.Name
