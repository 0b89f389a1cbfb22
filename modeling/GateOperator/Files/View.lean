import GateOperator.Files.Tree

/-!
A directory as a reader sees it, with links already followed, and the files below it. All files are found by
working off a list of what is still to be looked at; afterwards they are put in order of their paths, name
by name.
-/

namespace GateOperator.Files

/-- What a reader sees under a path. -/
inductive View where
  | file (content : ByteArray)
  | directory (entries : List (String × View))
  | unreadable (error : FileError)

namespace View

mutual

/-- What a reader sees of an entry at a place. -/
def ofEntry (root : Entry) (links : Nat) (place : List String) (e : Entry) : View :=
  match e with
  | .file content => .file content
  | .directory entries => .directory (ofEntries root links place entries)
  | .link target =>
    match links with
    | 0 => .unreadable .tooManyLinks
    | links + 1 =>
      match Tree.locate root links (Tree.start place.dropLast target) (components target) with
      | .error error => .unreadable error
      | .ok (left, place) =>
        match root.at? place with
        | none => .unreadable .notFound
        | some e => ofEntry root (min left links) place e
termination_by (links, sizeOf e)
decreasing_by all_goals simp_wf; omega

/-- What a reader sees of the entries of a directory at a place. -/
def ofEntries (root : Entry) (links : Nat) (place : List String) (entries : List (String × Entry)) :
    List (String × View) :=
  match entries with
  | [] => []
  | (name, e) :: entries => (name, ofEntry root links (place ++ [name]) e) :: ofEntries root links place entries
termination_by (links, sizeOf entries)
decreasing_by all_goals simp_wf; omega

end

/-- What a reader sees under a path. -/
def ofPath (t : Tree) (path : String) : View :=
  if path = "" then .unreadable .notFound
  else
    match Tree.locate t.root Tree.linkLimit (Tree.start t.current path) (components path) with
    | .error error => .unreadable error
    | .ok (links, place) =>
      match t.root.at? place with
      | none => .unreadable .notFound
      | some e => ofEntry t.root links place e

/-- A file below a directory: the names that lead to it, and its content if it can be read. -/
abbrev Found := List String × Except FileError ByteArray

mutual

/-- The number of things to look at. -/
def size : View → Nat
  | file _ => 1
  | directory entries => 1 + sizeEntries entries
  | unreadable _ => 1

/-- The number of things to look at in a directory. -/
def sizeEntries : List (String × View) → Nat
  | [] => 0
  | (_, v) :: entries => size v + sizeEntries entries

end

/-- The number of things to look at in a list of places. -/
def sizePending : List (List String × View) → Nat
  | [] => 0
  | (_, v) :: pending => size v + sizePending pending

/-- The entries of a directory, with the names that lead to them. -/
def inside (path : List String) (entries : List (String × View)) : List (List String × View) :=
  entries.map fun e => (path ++ [e.1], e.2)

theorem sizePending_inside (path : List String) (entries : List (String × View)) :
    sizePending (inside path entries) = sizeEntries entries := by
  induction entries with
  | nil => rfl
  | cons e entries ih => simpa [inside, sizePending, sizeEntries] using ih

theorem sizePending_append (a b : List (List String × View)) :
    sizePending (a ++ b) = sizePending a + sizePending b := by
  induction a with
  | nil => simp [sizePending]
  | cons e a ih => simp [sizePending, ih, Nat.add_assoc]

/-- Looks at places until none is left; what a directory holds takes its place in the list. -/
def collect (pending : List (List String × View)) : List Found :=
  match pending with
  | [] => []
  | (path, .file content) :: pending => (path, .ok content) :: collect pending
  | (path, .unreadable error) :: pending => (path, .error error) :: collect pending
  | (path, .directory entries) :: pending => collect (inside path entries ++ pending)
termination_by sizePending pending
decreasing_by
  · simp [sizePending, size]
  · simp [sizePending, size]
  · rw [sizePending_append, sizePending_inside]
    simp [sizePending, size]

/-- The order of paths, name by name. -/
def inOrder (a b : Found) : Bool := !decide (b.1 < a.1)

/-- All files below a directory, in order of their paths. -/
def files (entries : List (String × View)) : List Found :=
  (collect (inside [] entries)).mergeSort inOrder

end View

end GateOperator.Files
