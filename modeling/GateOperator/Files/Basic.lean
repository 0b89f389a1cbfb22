/-!
A tree of files. A directory lists its entries in any order, and a link stands for what its target names,
seen from the directory that holds it.
-/

namespace GateOperator.Files

/-- What a name in a directory stands for. -/
inductive Entry where
  | file (content : ByteArray)
  | directory (entries : List (String × Entry))
  | link (target : String)

instance : Inhabited Entry := ⟨.directory []⟩

/-- Why a file or directory cannot be used. -/
inductive FileError where
  | notFound
  | notDirectory
  | isDirectory
  | tooManyLinks
  | notText
deriving DecidableEq

/-- The words for an error. -/
def FileError.message : FileError → String
  | notFound => "No such file or directory (os error 2)"
  | notDirectory => "Not a directory (os error 20)"
  | isDirectory => "Is a directory (os error 21)"
  | tooManyLinks => "Too many levels of symbolic links (os error 40)"
  | notText => "stream did not contain valid UTF-8"

def text? (content : ByteArray) : Except FileError String :=
  match String.fromUTF8? content with
  | some s => .ok s
  | none => .error .notText

namespace Entry

/-- The entry at the end of a chain of names; links on the way are not followed. -/
def at? : Entry → List String → Option Entry
  | e, [] => some e
  | .directory entries, name :: names => (entries.lookup name).bind (·.at? names)
  | _, _ :: _ => none

/-- Puts an entry under a name of a directory, in place of the one that was there. -/
def putEntry (name : String) (e : Entry) : List (String × Entry) → List (String × Entry)
  | [] => [(name, e)]
  | (other, old) :: entries =>
    if other = name then (name, e) :: entries else (other, old) :: putEntry name e entries

/-- Puts an entry at the end of a chain of names, whose directories exist. -/
def put (new : Entry) : List String → Entry → Entry
  | [], _ => new
  | name :: names, .directory entries =>
    match entries.lookup name with
    | some e => .directory (putEntry name (put new names e) entries)
    | none => if names = [] then .directory (putEntry name new entries) else .directory entries
  | _ :: _, e => e

/-- Puts an entry at the end of a chain of names. What the names before the last stand for becomes a
    directory, if it is none. -/
def plant (new : Entry) : List String → Entry → Entry
  | [], _ => new
  | name :: names, e =>
    let entries := match e with
      | .directory entries => entries
      | _ => []
    .directory (putEntry name (plant new names ((entries.lookup name).getD (.directory []))) entries)

end Entry

/-- The names of a path, with an empty one where it begins or ends with a slash. -/
def components (path : String) : List String := path.splitOn "/"

/-- The path leads from the root, wherever it is used. -/
def isAbsolute (path : String) : Bool := path.startsWith "/"

/-- A path below another one. -/
def join (path : String) (names : List String) : String :=
  names.foldl (fun path name => if path.endsWith "/" then path ++ name else path ++ "/" ++ name) path

end GateOperator.Files
