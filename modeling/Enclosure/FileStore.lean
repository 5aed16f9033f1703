import Enclosure.Fault
import Enclosure.PathText

/-!
# Files held in memory

A file store knows some files and directories by their place, which is the list
of steps from the root, nearest step first. Everything above a known place, and
above the working directory, is a directory. Looking up a path goes step by
step: an empty step and `.` stay, `..` goes up (the root is above itself), and
every step, also one that stays, needs a directory to start from. A path that
begins with a slash starts at the root and any other at the working directory.
-/

set_option autoImplicit false

namespace Enclosure

/-- What a place can hold. -/
inductive Entry where
  | file (content : ByteArray)
  | directory

/-- Known files and directories, and the place where relative paths start. A
place lists the steps that lead to it, nearest step first. -/
structure FileStore where
  workingDirectory : List String
  entries : List (List String × Entry)

namespace FileStore

/-- The most bytes that a step may have. -/
def longestStep : Nat := 255

/-- The most bytes that a path may have. -/
def longestPath : Nat := 4095

/-- The place is above, or equal to, another. -/
def isAbove (place other : List String) : Bool := place.isSuffixOf other

/-- What a place holds. -/
def entryAt? (store : FileStore) (place : List String) : Option Entry :=
  match store.entries.lookup place with
  | some entry => some entry
  | none =>
    if (store.workingDirectory :: store.entries.map (·.1)).any (isAbove place) then some .directory
    else none

/-- What the remaining steps lead to from a place. -/
def walk (store : FileStore) : (place steps : List String) → Except ReadProblem Entry
  | place, [] =>
    match store.entryAt? place with
    | some entry => .ok entry
    | none => .error .missing
  | place, step :: rest =>
    match store.entryAt? place with
    | none => .error .missing
    | some (.file _) => .error .notADirectory
    | some .directory =>
      if longestStep < step.utf8ByteSize then .error .nameTooLong
      else if step = "" ∨ step = "." then store.walk place rest
      else if step = ".." then store.walk place.tail rest
      else store.walk (step :: place) rest

/-- The steps of a path, those that stay included. -/
def steps (path : String) : List String :=
  (PathText.splitAt '/' path.toList).map String.ofList

/-- What a path leads to. -/
def find (store : FileStore) (path : String) : Except ReadProblem Entry :=
  if path = "" then .error .missing
  else if longestPath < path.utf8ByteSize then .error .nameTooLong
  else if path.startsWith "/" then store.walk [] (steps path)
  else store.walk store.workingDirectory (steps path)

/-- The content of a file as text. -/
def decode (content : ByteArray) : Except ReadProblem String :=
  match String.fromUTF8? content with
  | some text => .ok text
  | none => .error .notText

/-- **The text of the file that a path leads to.** -/
def read (store : FileStore) (path : String) : Except ReadProblem String :=
  match store.find path with
  | .error problem => .error problem
  | .ok .directory => .error .isADirectory
  | .ok (.file content) => decode content

/-- The store with one more entry, under a name relative to the working
directory. A name that ends in a slash is a directory whatever it holds. -/
def insert (store : FileStore) (name : String) (content : ByteArray) : FileStore :=
  let place := (PathText.components name).reverse ++ store.workingDirectory
  let entry := if name.endsWith "/" then .directory else .file content
  { store with entries := (place, entry) :: store.entries }

/-- The store with nothing but a working directory. -/
def empty : FileStore := ⟨["work"], []⟩

/-- The store that holds the named files in its working directory. -/
def ofList (files : List (String × ByteArray)) : FileStore :=
  files.foldl (fun store file => store.insert file.1 file.2) empty

end FileStore

end Enclosure
