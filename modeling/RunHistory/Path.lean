/-!
# Paths

A path is a row of names with slashes between them, from the root or from where one stands.  Empty
names and single dots mean nothing.  Two dots step up, and above the root there is only the root.

## Main definitions

* `Path`: a path, two dots kept as a name.
* `Path.ofText`, `Path.text`: a path in writing.
* `Location`: the place of a file, by the names on the way from the root.
* `Path.place?`: the location that a path without two dots leads to.
* `Path.resolve`: the location that any path leads to by names alone.
* `Location.within`: whether a location is at or below another.
-/

namespace RunHistory

/-- A path.  None of its names is empty or a single dot. -/
structure Path where
  /-- Whether it starts at the root. -/
  absolute : Bool
  /-- The names. -/
  names : List String
  deriving DecidableEq, Repr

/-- The place of a file or a directory: the names on the way from the root. -/
abbrev Location := List String

namespace Path

/-- The parts of a text between slashes. -/
def parts : List Char → List (List Char)
  | [] => [[]]
  | c :: rest =>
    if c = '/' then [] :: parts rest
    else
      match parts rest with
      | [] => [[c]]
      | p :: ps => (c :: p) :: ps

/-- Whether a part of a path means something. -/
def isName (part : List Char) : Bool := part != [] && part != ['.']

/-- The path that a text writes. -/
def ofText (text : String) : Path :=
  ⟨text.toList.head? == some '/', ((parts text.toList).filter isName).map String.ofList⟩

/-- Texts with a slash between them. -/
def joined (names : List String) : String := "/".intercalate names

/-- A path in writing; the place where one stands is a single dot. -/
def text (p : Path) : String :=
  if p.absolute then "/" ++ joined p.names
  else if p.names = [] then "."
  else joined p.names

/-- The name that steps up. -/
def up : String := ".."

/-- The names on the way from the root after one more step. -/
def step (location : Location) (name : String) : Location :=
  if name = up then location.dropLast else location ++ [name]

/-- The location that a path leads to from where one stands, by names alone. -/
def resolve (here : Location) (p : Path) : Location :=
  p.names.foldl step (if p.absolute then [] else here)

/-- The location that a path leads to from where one stands, unless it steps up. -/
def place? (here : Location) (p : Path) : Option Location :=
  if p.names.contains up then none
  else some ((if p.absolute then [] else here) ++ p.names)

end Path

/-- A location in writing. -/
def Location.text (l : Location) : String := "/" ++ Path.joined l

/-- Whether a location is another one or below it. -/
def Location.within (l base : Location) : Bool := base.isPrefixOf l

end RunHistory
