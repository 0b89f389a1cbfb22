import GateOperator.Proofs.Files.Listing
import Mathlib

/-!
A walk through a directory as a system that takes rounds. Each round takes one of the directories that are still to
be listed, whichever it is, and goes through its entries in whatever order they are listed: the files among them are
found, and the directories are to be listed in turn. What was found and what is below the directories still to be
listed is together always the same, and each round leaves one directory less to be listed. So every walk ends after
as many rounds as there are directories, with the files that are there.
-/

namespace GateOperator.Files.View

/-- What is read where no directory is. -/
def read? : View → Option (Except FileError ByteArray)
  | file content => some (.ok content)
  | unreadable error => some (.error error)
  | directory _ => none

/-- What is listed where a directory is. -/
def entries? : View → Option (List (String × View))
  | directory entries => some entries
  | _ => none

/-- The files among the entries of a directory, with the names that lead to them. -/
def filesAmong (path : List String) (entries : List (String × View)) : List Found :=
  entries.filterMap fun e => e.2.read?.map fun read => (path ++ [e.1], read)

/-- The directories among the entries of a directory, with the names that lead to them. -/
def directoriesAmong (path : List String) (entries : List (String × View)) :
    List (List String × List (String × View)) :=
  entries.filterMap fun e => e.2.entries?.map fun below => (path ++ [e.1], below)

mutual

/-- The number of directories below a path and at its end. -/
def directories : View → Nat
  | directory entries => directoriesIn entries + 1
  | file _ | unreadable _ => 0

/-- The number of directories below a directory. -/
def directoriesIn : List (String × View) → Nat
  | [] => 0
  | (_, v) :: entries => directories v + directoriesIn entries

end

/-- How far a walk has come: the files that it found, and the directories whose entries are still to be listed. -/
structure Walk where
  found : List Found
  pending : List (List String × List (String × View))

namespace Walk

/-- Before the first round only the directory itself is to be listed. -/
def start (entries : List (String × View)) : Walk := ⟨[], [([], entries)]⟩

/-- The files below the directories that are still to be listed. -/
def ahead (w : Walk) : List Found := w.pending.flatMap fun d => foundIn d.1 d.2

/-- The number of directories that are still to be listed, now or in a later round. -/
def left (w : Walk) : Nat := (w.pending.map fun d => directories (.directory d.2)).sum

/-- A round lists one of the directories. -/
inductive Round (w : Walk) : Walk → Prop where
  | list {before after : List (List String × List (String × View))} {path : List String}
      {entries listed : List (String × View)} (pending : w.pending = before ++ (path, entries) :: after)
      (listing : listed.Perm entries) :
      Round w ⟨w.found ++ filesAmong path listed, before ++ after ++ directoriesAmong path listed⟩

/-- A number of rounds, one after the other. -/
inductive Rounds : Nat → Walk → Walk → Prop where
  | none {w : Walk} : Rounds 0 w w
  | more {n : Nat} {w mid next : Walk} (rounds : Rounds n w mid) (round : mid.Round next) : Rounds (n + 1) w next

end Walk

section
variable {path : List String} {entries listed : List (String × View)} {w next : Walk} {n : Nat}

/-! ### What a directory lists -/

theorem foundIn_perm (listing : listed.Perm entries) : (foundIn path listed).Perm (foundIn path entries) := by
  rw [foundIn_eq_flatMap, foundIn_eq_flatMap]
  exact listing.flatMap_right _

theorem directoriesIn_eq_sum : directoriesIn entries = (entries.map fun e => directories e.2).sum := by
  induction entries with
  | nil => rfl
  | cons e entries ih => rw [directoriesIn, ih, List.map_cons, List.sum_cons]

theorem directoriesIn_perm (listing : listed.Perm entries) : directoriesIn listed = directoriesIn entries := by
  rw [directoriesIn_eq_sum, directoriesIn_eq_sum]
  exact (listing.map _).sum_eq

/-- What is below a directory is the files that it lists, and what is below the directories that it lists. -/
theorem foundIn_perm_among : (foundIn path entries).Perm
    (filesAmong path entries ++ (directoriesAmong path entries).flatMap fun d => foundIn d.1 d.2) := by
  induction entries with
  | nil => exact .nil
  | cons e entries ih =>
    obtain ⟨name, v⟩ := e
    cases v with
    | file | unreadable => exact ih.cons _
    | directory below => exact (ih.append_left _).trans (List.perm_append_comm_assoc ..)

theorem directoriesIn_eq_among :
    directoriesIn entries = ((directoriesAmong path entries).map fun d => directories (.directory d.2)).sum := by
  induction entries with
  | nil => rfl
  | cons e entries ih =>
    obtain ⟨name, v⟩ := e
    cases v with
    | file | unreadable => rw [directoriesIn, ih, directories, Nat.zero_add]; rfl
    | directory below => rw [directoriesIn, ih]; rfl

namespace Walk

/-! ### One round -/

theorem Round.perm (round : w.Round next) : (next.found ++ next.ahead).Perm (w.found ++ w.ahead) := by
  cases round with
  | @list before after path entries listed pending listing =>
    have below : (filesAmong path listed ++ (directoriesAmong path listed).flatMap fun d => foundIn d.1 d.2).Perm
        (foundIn path entries) := foundIn_perm_among.symm.trans (foundIn_perm listing)
    have taken : w.ahead.Perm (foundIn path entries ++ (before ++ after).flatMap fun d => foundIn d.1 d.2) := by
      rw [ahead, pending]
      exact List.perm_middle.flatMap_right _
    rw [ahead, List.flatMap_append, List.append_assoc]
    refine .append_left _ ?_
    -- The directories among the entries come last in the list, behind all others.
    refine (List.perm_append_comm_assoc ..).trans ((below.append_left _).trans ?_)
    exact List.perm_append_comm.trans taken.symm

theorem Round.left_eq (round : w.Round next) : w.left = next.left + 1 := by
  cases round with
  | @list before after path entries listed pending listing =>
    have below : directoriesIn entries =
        ((directoriesAmong path listed).map fun d => directories (.directory d.2)).sum :=
      (directoriesIn_perm listing).symm.trans directoriesIn_eq_among
    simp only [left, pending, List.map_append, List.map_cons, List.sum_append, List.sum_cons, directories, below]
    omega

theorem exists_round_iff : (∃ next, w.Round next) ↔ w.pending ≠ [] := by
  constructor
  · rintro ⟨_, @⟨before, after, path, entries, _, pending, _⟩⟩
    simp [pending]
  · intro h
    obtain ⟨⟨path, entries⟩, after, pending⟩ := List.exists_cons_of_ne_nil h
    exact ⟨_, @Round.list w [] after path entries entries pending .rfl⟩

/-- A walk can go on as long as there is something left to be listed. -/
theorem exists_round_iff_left : (∃ next, w.Round next) ↔ 0 < w.left := by
  rw [exists_round_iff, left]
  cases w.pending with
  | nil => simp
  | cons d pending =>
    rw [List.map_cons, List.sum_cons, directories]
    simp only [ne_eq, reduceCtorEq, not_false_iff, true_iff]
    omega

/-! ### A whole walk -/

theorem Rounds.perm (rounds : Rounds n w next) : (next.found ++ next.ahead).Perm (w.found ++ w.ahead) := by
  induction rounds with
  | none => exact .rfl
  | more _ round ih => exact round.perm.trans ih

theorem Rounds.left_eq (rounds : Rounds n w next) : w.left = next.left + n := by
  induction rounds with
  | none => rfl
  | more _ round ih => rw [ih, round.left_eq, Nat.add_right_comm]; rfl

/-- A walk ends, after a round for each directory and not before. -/
theorem Rounds.ended_iff (rounds : Rounds n (start entries) next) :
    n ≤ directories (.directory entries) ∧ ((∀ later, ¬next.Round later) ↔ n = directories (.directory entries)) := by
  -- All directories are left at the start, and as many as before less one after each round.
  have left := rounds.left_eq
  rw [← not_exists, exists_round_iff_left]
  simp only [Walk.left, start, List.map_cons, List.map_nil, List.sum_cons, List.sum_nil] at left ⊢
  omega

/-- A walk that ended found what is below the directory. -/
theorem Rounds.found_perm (rounds : Rounds n (start entries) next) (ended : ∀ later, ¬next.Round later) :
    next.found.Perm (foundIn [] entries) := by
  have pending : next.pending = [] := by
    by_contra h
    obtain ⟨later, round⟩ := exists_round_iff.mpr h
    exact ended later round
  simpa [ahead, pending, start] using rounds.perm

/-- In order, what a walk found is what the list that is worked off gives. -/
theorem Rounds.files_eq (rounds : Rounds n (start entries) next) (ended : ∀ later, ¬next.Round later)
    (distinct : ((foundIn [] entries).map (·.1)).Nodup) : files entries = next.found.mergeSort inOrder := by
  rw [files_eq_mergeSort]
  exact mergeSort_eq_of_perm (rounds.found_perm ended).symm distinct

end Walk

end

end GateOperator.Files.View
