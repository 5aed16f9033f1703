/-!
# File paths as text

A path is a text whose components are separated by slashes. Empty components
and the component `.` name no step, so they are dropped; what is left of
`a.py/./.` is the one component `a.py`. The extension of a path is that of its
last component.
-/

set_option autoImplicit false

namespace Enclosure.PathText

/-- Cut a text at every occurrence of a separator. -/
def splitAt (separator : Char) : List Char → List (List Char)
  | [] => [[]]
  | c :: rest =>
    match splitAt separator rest with
    | [] => [[c]]
    | piece :: pieces => if c = separator then [] :: piece :: pieces else (c :: piece) :: pieces

/-- The steps that a path names. -/
def components (path : String) : List String :=
  ((splitAt '/' path.toList).map String.ofList).filter fun step => step != "" && step != "."

/-- The last step of a path, unless it leads back up. -/
def fileName? (path : String) : Option String :=
  match (components path).getLast? with
  | some ".." => none
  | last => last

/-- What follows the last dot of a file name, if something precedes that dot. -/
def suffix? (name : String) : Option String :=
  let (reversed, rest) := name.toList.reverse.span (· != '.')
  match rest with
  | _ :: _ :: _ => some (String.ofList reversed.reverse)
  | _ => none

/-- The extension of the file that a path names. -/
def extension? (path : String) : Option String := (fileName? path).bind suffix?

end Enclosure.PathText
