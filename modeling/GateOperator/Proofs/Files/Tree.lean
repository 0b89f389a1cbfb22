import GateOperator.Data.NameMap
import GateOperator.Files.Tree
import GateOperator.Proofs.Data.Traversal

/-!
What a write changes. Where a path leads depends only on which places are files, directories and links, so
after a new content for a file that is there every path leads to the place to which it led before: paths to
the file are read with the new content, and all others as before.
-/

namespace GateOperator.Files

theorem fromUTF8?_toUTF8 {text : String} : String.fromUTF8? text.toUTF8 = some text := dif_pos text.isValidUTF8

theorem text?_toUTF8 {text : String} : text? text.toUTF8 = .ok text := by
  rw [text?, fromUTF8?_toUTF8]

/-- What is at a place, without what is below it. -/
inductive Node where
  | file (content : ByteArray)
  | directory
  | link (target : String)

/-- A node without the content of a file. -/
def Node.blank : Node → Node
  | file _ => .file .empty
  | directory => .directory
  | link target => .link target

namespace Entry

def node : Entry → Node
  | file content => .file content
  | directory _ => .directory
  | link target => .link target

def nodeAt? (root : Entry) (place : List String) : Option Node := (root.at? place).map node

/-- Whether a place is a file, a directory or a link, and to what. -/
def shapeAt? (root : Entry) (place : List String) : Option Node := (root.nodeAt? place).map Node.blank

section
variable {root e : Entry} {entries : List (String × Entry)} {place : List String} {name other : String}
  {old content : ByteArray}

theorem lookup_putEntry :
    (putEntry name e entries).lookup other = if other = name then some e else entries.lookup other := by
  induction entries with
  | nil => exact NameMap.lookup_cons_eq
  | cons first entries ih =>
    obtain ⟨n, old⟩ := first
    rw [putEntry]
    by_cases hn : n = name
    · subst hn
      rw [if_pos rfl, NameMap.lookup_cons_eq, NameMap.lookup_cons_eq]
      split <;> rfl
    · rw [if_neg hn, NameMap.lookup_cons_eq, NameMap.lookup_cons_eq, ih]
      by_cases h : other = n
      · rw [if_pos h, if_pos h, if_neg (h ▸ hn)]
      · rw [if_neg h, if_neg h]

theorem at?_append {names : List String} : root.at? (place ++ names) = (root.at? place).bind (·.at? names) := by
  induction place generalizing root with
  | nil => rfl
  | cons name place ih =>
    cases root with
    | file | link => rfl
    | directory entries =>
      show (entries.lookup name).bind (·.at? (place ++ names)) = _
      simp only [ih]
      exact (Option.bind_assoc ..).symm

theorem at?_concat (h : root.at? place = some (.directory entries)) :
    root.at? (place ++ [name]) = entries.lookup name := by
  rw [at?_append, h]
  show (entries.lookup name).bind (·.at? []) = entries.lookup name
  cases entries.lookup name <;> rfl

theorem nodeAt?_cons : (directory entries).nodeAt? (name :: place) = (entries.lookup name).bind (·.nodeAt? place) := by
  show ((entries.lookup name).bind (·.at? place)).map node = _
  cases entries.lookup name <;> rfl

/-- A new content for a file that is there changes nothing at other places. -/
theorem nodeAt?_put (h : root.at? place = some (.file old)) (names : List String) :
    (put (.file content) place root).nodeAt? names =
      if names = place then some (.file content) else root.nodeAt? names := by
  induction place generalizing root names with
  | nil =>
    cases h
    cases names with
    | nil => rfl
    | cons => rfl
  | cons n place ih =>
    cases root with
    | file | link => cases h
    | directory entries =>
      obtain ⟨e, he, below⟩ := Option.bind_eq_some_iff.mp h
      simp only [put, he]
      cases names with
      | nil => rfl
      | cons m names =>
        rw [nodeAt?_cons, nodeAt?_cons, lookup_putEntry]
        by_cases hm : m = n
        · subst hm
          rw [if_pos rfl, he, Option.bind_some, Option.bind_some, ih below]
          simp
        · simp [hm]

theorem shapeAt?_put (h : root.at? place = some (.file old)) (names : List String) :
    (put (.file content) place root).shapeAt? names = root.shapeAt? names := by
  rw [shapeAt?, shapeAt?, nodeAt?_put h]
  by_cases hn : names = place
  · rw [if_pos hn, hn, nodeAt?, h]
    rfl
  · rw [if_neg hn]

end

end Entry

namespace Tree

section
variable {root root' : Entry} {t : Tree} {links : Nat} {place names : List String} {name path other : String}
  {old content : ByteArray}

theorem locate_cons : locate root links place (name :: names) =
    match root.shapeAt? place with
    | some .directory =>
      if name = "" ∨ name = "." then locate root links place names
      else if name = ".." then locate root links place.dropLast names
      else
        match root.shapeAt? (place ++ [name]) with
        | none => if names = [] then .ok (links, place ++ [name]) else .error .notFound
        | some (.link target) =>
          match links with
          | 0 => .error .tooManyLinks
          | links + 1 => locate root links (start place target) (components target ++ names)
        | some _ => locate root links (place ++ [name]) names
    | some _ => .error .notDirectory
    | none => .error .notFound := by
  rw [locate]
  cases h : root.at? place with
  | none => simp [Entry.shapeAt?, Entry.nodeAt?, h]
  | some e =>
    have here : root.shapeAt? place = some e.node.blank := by simp [Entry.shapeAt?, Entry.nodeAt?, h]
    rw [here]
    cases e with
    | file | link => rfl
    | directory entries =>
      have below : root.shapeAt? (place ++ [name]) = (entries.lookup name).map (·.node.blank) := by
        rw [Entry.shapeAt?, Entry.nodeAt?, Entry.at?_concat h, Option.map_map]
        rfl
      rw [below]
      dsimp only [Entry.node, Node.blank]
      cases entries.lookup name with
      | none => rfl
      | some e => cases e <;> rfl

/-- Where names lead depends only on which places are files, directories and links. -/
theorem locate_congr (alike : ∀ place, root.shapeAt? place = root'.shapeAt? place) :
    locate root links place names = locate root' links place names := by
  -- Following a link may make the names longer, but it uses one of the links up.
  induction links using Nat.strongRecOn generalizing place names with
  | ind links fewer =>
    induction names generalizing place with
    | nil => rw [locate, locate]
    | cons name names ih =>
      rw [locate_cons, locate_cons, alike, alike, ih, ih, ih]
      cases links with
      | zero => rfl
      | succ links => simp only [fewer links (Nat.lt_succ_self links)]

theorem read_eq : t.read path = t.place path >>= fun place =>
    match t.root.nodeAt? place with
    | some (.file content) => .ok content
    | some .directory => .error .isDirectory
    | _ => .error .notFound := by
  refine congrArg (t.place path >>= ·) (funext fun place => ?_)
  rw [Entry.nodeAt?]
  cases t.root.at? place with
  | none => rfl
  | some e => cases e <;> rfl

theorem read_eq_ok_iff : t.read path = .ok content ↔
    ∃ place, t.place path = .ok place ∧ t.root.at? place = some (.file content) := by
  rw [read, Except.bind_eq_ok_iff]
  refine exists_congr fun place => and_congr_right fun _ => ?_
  cases t.root.at? place with
  | none => simp
  | some e => cases e <;> simp

theorem read_eq_of_place (h : t.place path = t.place other) : t.read path = t.read other := by
  rw [read, h, ← read]

theorem readText_of_read {text : String} (h : t.read path = .ok text.toUTF8) : t.readText path = .ok text := by
  rw [readText, h]
  exact text?_toUTF8

/-- One file has a new content, under every path that leads to it. -/
structure Rewritten (t t' : Tree) (path : String) (content : ByteArray) : Prop where
  places : ∀ other, t'.place other = t.place other
  same : ∀ other, t.place other = t.place path → t'.read other = .ok content
  others : ∀ other, t.place other ≠ t.place path → t'.read other = t.read other

/-- A new content for a file leaves every path where it was. -/
theorem place_put (hfile : t.root.at? place = some (.file old)) (content : ByteArray) (other : String) :
    Tree.place ⟨.put (.file content) place t.root, t.current⟩ other = t.place other := by
  rw [Tree.place, Tree.place, locate_congr (Entry.shapeAt?_put hfile)]

/-- The tree after a write to a file that is there. -/
theorem write_of_place (hplace : t.place path = .ok place) (hfile : t.root.at? place = some (.file old)) :
    t.write path content = .ok ⟨.put (.file content) place t.root, t.current⟩ := by
  simp only [write, hplace, hfile, bind, Except.bind, pure, Except.pure]

/-- A file that can be read can be written. -/
theorem exists_write (h : t.read path = .ok old) (content : ByteArray) :
    ∃ t', t.write path content = .ok t' ∧ Rewritten t t' path content := by
  obtain ⟨place, hplace, hfile⟩ := read_eq_ok_iff.mp h
  have places := place_put hfile content
  refine ⟨_, write_of_place hplace hfile, places, fun other same => ?_, fun other differs => ?_⟩
  · rw [read_eq, places, same, hplace]
    simp only [bind, Except.bind, Entry.nodeAt?_put hfile, if_true]
  · rw [read_eq, read_eq, places]
    cases hother : t.place other with
    | error e => rfl
    | ok otherPlace =>
      have hne : otherPlace ≠ place := fun same => differs (by rw [hother, hplace, same])
      simp only [bind, Except.bind, Entry.nodeAt?_put hfile, if_neg hne]

end

end Tree

end GateOperator.Files
