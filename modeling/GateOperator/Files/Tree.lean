import GateOperator.Files.Basic

/-!
Finding, reading and writing files by path. Links are followed wherever a path meets them, forty of them at
most. What a path leads to is known by its place, a chain of names from the root without links.
-/

namespace GateOperator.Files

/-- A tree of files, and the place from which relative paths lead. -/
structure Tree where
  root : Entry
  current : List String := []

namespace Tree

/-- The most links that are followed for one path. -/
def linkLimit : Nat := 40

/-- The place from which a path leads, when it is used at another place. -/
def start (place : List String) (path : String) : List String := if isAbsolute path then [] else place

/-- The place where a path ends, with the links that may still be followed. The last name of the path need
    not exist. -/
def locate (root : Entry) : Nat → List String → List String → Except FileError (Nat × List String)
  | links, place, [] => .ok (links, place)
  | links, place, name :: names =>
    match root.at? place with
    | some (.directory entries) =>
      if name = "" ∨ name = "." then locate root links place names
      else if name = ".." then locate root links place.dropLast names
      else
        match entries.lookup name with
        | none => if names = [] then .ok (links, place ++ [name]) else .error .notFound
        | some (.link target) =>
          match links with
          | 0 => .error .tooManyLinks
          | links + 1 => locate root links (start place target) (components target ++ names)
        | some _ => locate root links (place ++ [name]) names
    | some _ => .error .notDirectory
    | none => .error .notFound
termination_by links _ names => (links, names.length)

/-- The place where a path ends. -/
def place (t : Tree) (path : String) : Except FileError (List String) :=
  if path = "" then .error .notFound
  else (locate t.root linkLimit (start t.current path) (components path)).map (·.2)

/-- The place that a path names as long as it meets no links. -/
def plainPlace (t : Tree) (path : String) : List String :=
  (components path).foldl
    (fun place name =>
      if name = "" ∨ name = "." then place
      else if name = ".." then place.dropLast
      else place ++ [name])
    (start t.current path)

/-- The tree with one more entry, for which directories are made. -/
def plant (t : Tree) (path : String) (e : Entry) : Tree := { t with root := Entry.plant e (t.plainPlace path) t.root }

/-- The content of a file. -/
def read (t : Tree) (path : String) : Except FileError ByteArray := do
  match t.root.at? (← t.place path) with
  | some (.file content) => .ok content
  | some (.directory _) => .error .isDirectory
  | _ => .error .notFound

def readText (t : Tree) (path : String) : Except FileError String := t.read path >>= text?

/-- The tree with a content in a file, which is made if it is not there. -/
def write (t : Tree) (path : String) (content : ByteArray) : Except FileError Tree := do
  let place ← t.place path
  match t.root.at? place with
  | some (.directory _) => .error .isDirectory
  | _ => return { t with root := Entry.put (.file content) place t.root }

end Tree

end GateOperator.Files
