import GateOperator.Text.Quoted

/-!
Quoted text can be read in one way only. Every escape says where it ends, and the closing quote is the only one
without a backslash. So what was written, with anything behind it, gives back the text and what is behind it.
-/

namespace GateOperator.Text.Quoted

/-- The value of a lower-case hexadecimal digit. -/
def digitValue (c : Char) : Nat := if c.toNat < 0x3A then c.toNat - 0x30 else c.toNat - 0x57

/-- The number with these lower-case hexadecimal digits. -/
def hexValue (digits : List Char) : Nat := digits.foldl (fun n c => 16 * n + digitValue c) 0

/-- Reads one character of a text in double quotes, and gives what follows it. There is none before the closing
    quote. -/
def unescape? : List Char → Option (Char × List Char)
  | '\\' :: 'n' :: rest => some ('\n', rest)
  | '\\' :: 'r' :: rest => some ('\r', rest)
  | '\\' :: 't' :: rest => some ('\t', rest)
  | '\\' :: '0' :: rest => some ('\x00', rest)
  | '\\' :: 'u' :: '\x7b' :: rest =>
    some (Char.ofNat (hexValue (rest.takeWhile (· ≠ '\x7d'))), (rest.dropWhile (· ≠ '\x7d')).tail)
  | '\\' :: c :: rest => some (c, rest)
  | '"' :: _ => none
  | c :: rest => some (c, rest)
  | [] => none

section
variable {s t x y rest : List Char} {c d : Char} {n : Nat}

/-! ### Code points -/

theorem digitChar_spec : ∀ d < 16, digitValue d.digitChar = d ∧ d.digitChar ≠ '\x7d' := by decide

theorem hexValue_concat : hexValue (s ++ [c]) = 16 * hexValue s + digitValue c := by
  simp [hexValue, List.foldl_append]

theorem hexValue_hex : hexValue (hex n) = n := by
  induction n using Nat.strongRecOn with
  | ind n ih =>
    rw [hex, Nat.toDigits_eq_if (by decide)]
    split
    · next h =>
      simp [hexValue, (digitChar_spec n h).1]
    · next h =>
      have value : digitValue (n % 16).digitChar = n % 16 := (digitChar_spec _ (Nat.mod_lt n (by decide))).1
      have high : hexValue (Nat.toDigits 16 (n / 16)) = n / 16 := ih (n / 16) (by omega)
      rw [hexValue_concat, value, high]
      omega

theorem brace_not_mem_hex : '\x7d' ∉ hex n := by
  induction n using Nat.strongRecOn with
  | ind n ih =>
    rw [hex, Nat.toDigits_eq_if (by decide)]
    split
    · next h => simp [(digitChar_spec n h).2.symm]
    · next h =>
      have last := (digitChar_spec (n % 16) (Nat.mod_lt n (by decide))).2.symm
      have high : '\x7d' ∉ Nat.toDigits 16 (n / 16) := ih (n / 16) (by omega)
      simp [high, last]

theorem unescape?_byCodePoint : unescape? (byCodePoint c ++ rest) = some (c, rest) := by
  have written : byCodePoint c ++ rest = '\\' :: 'u' :: '\x7b' :: (hex c.toNat ++ '\x7d' :: rest) := by
    simp [byCodePoint]
  have digits : ∀ d ∈ hex c.toNat, decide (d ≠ '\x7d') = true := fun d hd =>
    decide_eq_true fun same => brace_not_mem_hex (same ▸ hd)
  rw [written, unescape?, List.takeWhile_append_of_pos digits, List.dropWhile_append_of_pos digits]
  simp [hexValue_hex]

/-! ### Characters -/

theorem unescape?_cons (quote : c ≠ '"') (backslash : c ≠ '\\') : unescape? (c :: rest) = some (c, rest) := by
  unfold unescape?
  split <;> simp_all

/-- A written character is read back, whatever follows it. -/
theorem unescape?_escape : unescape? (escape '"' c ++ rest) = some (c, rest) := by
  unfold escape
  split
  · next h => rcases h with rfl | rfl <;> rfl
  · next plain =>
    obtain ⟨quote, backslash⟩ := not_or.mp plain
    split
    · next h => subst h; rfl
    split
    · next h => subst h; rfl
    split
    · next h => subst h; rfl
    split
    · next h => subst h; rfl
    split
    · exact unescape?_byCodePoint
    · exact unescape?_cons quote backslash

theorem escape_append_inj (h : escape '"' c ++ x = escape '"' d ++ y) : c = d ∧ x = y := by
  have read := congrArg unescape? h
  rw [unescape?_escape, unescape?_escape] at read
  cases read
  exact ⟨rfl, rfl⟩

/-- No written character begins with the closing quote. -/
theorem escape_append_ne : escape '"' c ++ x ≠ '"' :: y := fun h => by
  have read := congrArg unescape? h
  rw [unescape?_escape] at read
  cases read

/-! ### Texts -/

theorem body_append_inj (h : body '"' s ++ '"' :: x = body '"' t ++ '"' :: y) : s = t ∧ x = y := by
  induction s generalizing t with
  | nil =>
    cases t with
    | nil => exact ⟨rfl, (List.cons.inj h).2⟩
    | cons d t =>
      rw [body_cons, List.append_assoc] at h
      exact absurd h.symm escape_append_ne
  | cons c s ih =>
    cases t with
    | nil =>
      rw [body_cons, List.append_assoc] at h
      exact absurd h escape_append_ne
    | cons d t =>
      rw [body_cons, body_cons, List.append_assoc, List.append_assoc] at h
      obtain ⟨rfl, rest⟩ := escape_append_inj h
      obtain ⟨rfl, rfl⟩ := ih rest
      exact ⟨rfl, rfl⟩

/-- Where a quoted text ends can be told from what is written. -/
theorem ofString_append_inj {a b x y : String} (h : ofString a ++ x = ofString b ++ y) : a = b ∧ x = y := by
  have written := congrArg String.toList h
  simp only [ofString, String.toList_append, String.toList_ofList, List.append_assoc, List.cons_append,
    List.nil_append, List.cons.injEq, true_and] at written
  obtain ⟨hab, hxy⟩ := body_append_inj written
  exact ⟨String.toList_inj.mp hab, String.toList_inj.mp hxy⟩

theorem ofString_inj {a b : String} (h : ofString a = ofString b) : a = b :=
  (ofString_append_inj (congrArg (· ++ "") h)).1

end

end GateOperator.Text.Quoted
