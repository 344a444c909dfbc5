import LiveQuery.Text.Utf8

/-!
# Headers

The header fields of a request. Names compare without regard to case and are kept in lower case;
setting a field replaces the value that it had and leaves every other one alone
(`Headers.get?_set`).
-/

namespace LiveQuery

/-- Header fields: names in lower case, each at most once, in the order in which they were first
set. -/
abbrev Headers := List (String × String)

namespace Headers

/-- The characters of a field name. -/
def isNameChar (c : Char) : Bool :=
  c.isAlphanum ||
    c ∈ ['!', '"', '#', '$', '%', '&', '\x27', '*', '+', '-', '.', '^', '_', '\x60', '|', '~']

/-- The greatest length of a field name. -/
def maxNameLength : Nat := 65535

/-- Is the text a field name? -/
def isName (s : String) : Bool :=
  !s.isEmpty && s.toList.all isNameChar && s.length ≤ maxNameLength

/-- The name as it is kept. -/
def fold (name : String) : String := String.ofList (name.toList.map Char.toLower)

/-- Is the text a field value? Control characters other than the tab may not stand in one. -/
def isValue (s : String) : Bool :=
  s.toList.all fun c => c = '\t' || (0x20 ≤ c.toNat && c.toNat != 0x7F)

/-- The value of a field whose name is in lower case. -/
def get? (name : String) : Headers → Option String
  | [] => none
  | (n, v) :: rest => if n = name then some v else get? name rest

/-- Sets the field whose name is in lower case. -/
def set (name value : String) : Headers → Headers
  | [] => [(name, value)]
  | (n, v) :: rest => if n = name then (n, value) :: rest else (n, v) :: set name value rest

/-- Setting a field changes its own value and no other. -/
theorem get?_set (n name value : String) (headers : Headers) :
    get? n (set name value headers) = if n = name then some value else get? n headers := by
  induction headers with
  | nil =>
    by_cases h : name = n
    · simp [get?, set, h]
    · simp [get?, set, h, Ne.symm h]
  | cons field rest ih =>
    obtain ⟨m, v⟩ := field
    by_cases hm : m = name
    · subst hm
      by_cases h : m = n
      · simp [get?, set, h]
      · simp [get?, set, h, Ne.symm h]
    · by_cases h : m = n
      · subst h
        simp [get?, set, hm]
      · simp [get?, set, hm, h, ih]

end Headers

end LiveQuery
