import LiveQuery.Endpoint.Percent
import LiveQuery.Text.Basic

/-!
# Paths

The path of a web URL: segments behind slashes, where a backslash counts as a slash. Dot
segments are worked off while the path is read, so none is left: a single dot stays where it is
and a double dot goes one segment back, but not over a drive letter.
-/

namespace LiveQuery

/-- The segments of a path, percent-encoded. -/
structure Path where
  segments : List String
deriving DecidableEq, Repr, Inhabited

namespace Path

/-- Is the segment a single dot, plain or percent-encoded? -/
def isSingleDot (segment : List Char) : Bool :=
  segment ∈ [['.'], ['%', '2', 'e'], ['%', '2', 'E']]

/-- Is the segment a double dot, plain or percent-encoded? -/
def isDoubleDot (segment : List Char) : Bool :=
  match segment with
  | '.' :: second => isSingleDot second
  | '%' :: a :: b :: second => isSingleDot ['%', a, b] && isSingleDot second
  | _ => false

/-- Is the segment a drive letter? -/
def isDriveLetter (segment : List Char) : Bool :=
  match segment with
  | [letter, mark] => letter.isAlpha && (mark = ':' || mark = '|')
  | _ => false

/-- Goes one segment back, but not over a drive letter. -/
def back (done : List (List Char)) : List (List Char) :=
  match done.getLast? with
  | some segment => if isDriveLetter segment then done else done.dropLast
  | none => []

/-- Works off the segments that are left; a dot segment at the end leaves an empty one. -/
def resolve (done : List (List Char)) : List (List Char) → List (List Char)
  | [] => done
  | [last] =>
    if isDoubleDot last then back done ++ [[]]
    else if isSingleDot last then done ++ [[]]
    else done ++ [last]
  | segment :: rest =>
    if isDoubleDot segment then resolve (back done) rest
    else if isSingleDot segment then resolve done rest
    else resolve (done ++ [segment]) rest

/-- Is the character a slash of a path? -/
def isSlash (c : Char) : Bool := c = '/' || c = '\\'

/-- The path that a text writes; the slash at its head may be missing. -/
def parse (cs : List Char) : Path :=
  let cs := cs.map fun c => if c = '\\' then '/' else c
  -- a path that does not start with a slash is read as if it did
  let cs := if cs.head? = some '/' then cs.drop 1 else cs
  let encoded := (fields '/' cs).map (Percent.encode Percent.inPath)
  ⟨(resolve [] encoded).map String.ofList⟩

/-- The text of a path. -/
def write (p : Path) : List Char := p.segments.flatMap fun s => '/' :: s.toList

end Path

end LiveQuery
