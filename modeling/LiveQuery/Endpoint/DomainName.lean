import LiveQuery.Endpoint.NameFolding
import LiveQuery.Endpoint.Percent
import LiveQuery.Endpoint.Punycode
import LiveQuery.Text.Direction
import LiveQuery.Text.Joining

/-!
# Domain names

Domain names are labels with dots between them. A label beyond ASCII has two forms: its text, and
an ASCII form that starts with `xn--`. Names are folded and composed before anything else, so each
label has one text and one ASCII form, and an ASCII form is only accepted if it spells a text that
folding leaves as it is. `DomainName.ofBytes?` gives the ASCII form of a name.
-/

namespace LiveQuery.DomainName

/-- The characters that no host may hold. -/
def isDelimiter (c : Char) : Bool :=
  c ∈ ['#', '/', ':', '<', '>', '?', '@', '[', '\\', ']', '^', '|']

/-- The characters that no domain name may hold. -/
def isForbidden (c : Char) : Bool := Percent.isControl c || c = ' ' || c = '%' || isDelimiter c

/-- Is the character beyond ASCII? -/
def isBeyondAscii (c : Char) : Bool := 0x7F < c.toNat

/-- A label in its two forms. -/
structure Label where
  ascii : List Char
  text : List Char
deriving DecidableEq, Repr, Inhabited

/-- What the ASCII form of a label beyond ASCII starts with. -/
def mark : List Char := ['x', 'n', '-', '-']

/-- The greatest length of what follows the mark. -/
def maxEncoded : Nat := 2000

/-- The greatest length of a text beyond ASCII. -/
def maxText : Nat := 1000

namespace Label

/-- Could the text be that of a label whose ASCII form starts with the mark? It goes beyond ASCII,
and folding and composing leave it as it is. -/
def isCanonical (text : List Char) : Bool :=
  text.any isBeyondAscii && text.all NameCharacter.isKept && Composition.compose text = text

/-- The label that a part of a folded name writes. -/
def ofChars? (cs : List Char) : Option Label :=
  if mark.isPrefixOf cs then
    let encoded := cs.drop mark.length
    if cs.any isBeyondAscii ∨ maxEncoded < encoded.length then none
    else ((Punycode.decode? encoded).filter isCanonical).map fun text => ⟨cs, text⟩
  else if cs.any isBeyondAscii then some ⟨mark ++ Punycode.encode cs, cs⟩
  else some ⟨cs, cs⟩

/-- The directions of the characters of a label. -/
def directions (l : Label) : List Direction := l.text.map Direction.ofChar

/-- Does the label start with no mark, hold joiners only where they show, and keep to the greatest
length? -/
def isWellFormed (l : Label) : Bool :=
  !l.text.head?.any Mark.isMark && Joining.arePlaced [] l.text &&
    (l.text.length ≤ maxText || !l.text.any isBeyondAscii)

end Label

/-- The labels of a folded name, which has to be well formed as a whole too. -/
def labels? (name : List Char) : Option (List Label) := do
  let labels ← (fields '.' name).mapM Label.ofChars?
  let directions := labels.map Label.directions
  if !labels.all Label.isWellFormed then none
  -- one label from right to left binds all the others
  else if directions.any Direction.runsRight && !directions.all Direction.isSeparable then none
  else some labels

/-- The ASCII form of the domain name that bytes spell. -/
def ofBytes? (bytes : Bytes) : Option (List Char) := do
  let text ← Utf8.decode? bytes
  let folded ← text.toList.mapM NameFolding.fold?
  let name := Composition.compose folded.flatten
  if name.any isForbidden then none
  else (labels? name).map fun labels => joinFields '.' (labels.map Label.ascii)

end LiveQuery.DomainName
