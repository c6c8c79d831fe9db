import Mathlib.Data.List.DropRight
import Mathlib.Data.List.Basic

/-!
# Lines of a text

A text is read as lines that end with a line feed, which may follow a carriage return.  Writing lines
with a line feed after each and reading them back loses at most a carriage return at the end of a line,
and nothing that is trimmed anyway.
-/

namespace Seidrum.Foundation

section Trim

variable {α : Type*} {p : α → Bool} {l : List α} {x : α}

/-- Drop what satisfies a predicate at both ends. -/
def trimBoth (p : α → Bool) (l : List α) : List α := (l.dropWhile p).rdropWhile p

theorem trimBoth_cons_of_neg (h : p x = false) : trimBoth p (x :: l) = (x :: l).rdropWhile p := by
  rw [trimBoth, List.dropWhile_cons_of_neg (by simp [h])]

/-- What is dropped at the end makes no difference. -/
theorem trimBoth_concat (h : p x = true) : trimBoth p (l ++ [x]) = trimBoth p l := by
  rw [trimBoth, trimBoth, List.dropWhile_append]
  split_ifs with hall
  · have hnil : l.dropWhile p = [] := List.isEmpty_iff.mp hall
    rw [hnil, List.dropWhile_cons_of_pos h]
    rfl
  · rw [List.rdropWhile_concat_pos p _ _ h]

/-- A list that starts and ends with what is kept is kept. -/
theorem trimBoth_cons_concat {y : α} (hx : p x = false) (hy : p y = false) :
    trimBoth p (x :: (l ++ [y])) = x :: (l ++ [y]) := by
  rw [trimBoth_cons_of_neg hx, ← List.cons_append, List.rdropWhile_concat_neg p _ _ (by simp [hy])]

/-- Trimming twice at the end is trimming once. -/
theorem trimBoth_rdropWhile : trimBoth p (l.rdropWhile p) = trimBoth p l := by
  induction l using List.reverseRecOn with
  | nil => rfl
  | append_singleton l y ih =>
    by_cases hy : p y = true
    · rw [List.rdropWhile_concat_pos p _ _ hy, ih, trimBoth_concat hy]
    · rw [List.rdropWhile_concat_neg p _ _ hy]

/-- A list without anything to drop is kept. -/
theorem trimBoth_of_forall_neg (h : ∀ x ∈ l, p x = false) : trimBoth p l = l := by
  have hfront : l.dropWhile p = l := by
    cases l with
    | nil => rfl
    | cons first rest => exact List.dropWhile_cons_of_neg (by simp [h first List.mem_cons_self])
  rw [trimBoth, hfront, List.rdropWhile_eq_self_iff]
  intro hne
  rw [h _ (List.getLast_mem hne)]
  exact Bool.false_ne_true

/-- What is kept in front keeps all that follows up to the last that is kept. -/
theorem rdropWhile_append_cons (h : p x = false) (before : List α) :
    (before ++ x :: l).rdropWhile p = before ++ x :: l.rdropWhile p := by
  induction l using List.reverseRecOn with
  | nil => rw [List.rdropWhile_concat_neg p _ _ (by simp [h]), List.rdropWhile_nil]
  | append_singleton l y ih =>
    rw [← List.cons_append, ← List.append_assoc]
    by_cases hy : p y = true
    · rw [List.rdropWhile_concat_pos p _ _ hy, List.rdropWhile_concat_pos p _ _ hy, ih]
    · rw [List.rdropWhile_concat_neg p _ _ hy, List.rdropWhile_concat_neg p _ _ hy]
      simp

end Trim

/-- A line without the carriage return at its end. -/
def chomp (line : List Char) : List Char :=
  if line.getLast? = some '\r' then line.dropLast else line

/-- The lines of a text, without what ends them. -/
def linesOf (text : List Char) : List (List Char) :=
  let pieces := text.splitOn '\n'
  pieces.dropLast.map chomp ++ (pieces.getLast?.filter (· ≠ [])).toList

/-- Lines with a line feed after each. -/
def ofLines (lines : List (List Char)) : List Char := ['\n'].intercalate lines ++ ['\n']

theorem trimBoth_chomp {p : Char → Bool} (h : p '\r' = true) (line : List Char) :
    trimBoth p (chomp line) = trimBoth p line := by
  unfold chomp
  split_ifs with hlast
  · have hline : line.dropLast ++ ['\r'] = line := List.dropLast_append_getLast? '\r' hlast
    rw [← trimBoth_concat h, hline]
  · rfl

variable {text line : List Char} {lines : List (List Char)}

theorem not_mem_of_mem_splitOn {sep : Char} {piece : List Char} (h : piece ∈ text.splitOn sep) :
    sep ∉ piece := by
  induction text generalizing piece with
  | nil =>
    rw [List.splitOn_nil, List.mem_singleton] at h
    rw [h]
    exact List.not_mem_nil
  | cons c rest ih =>
    rw [List.splitOn_cons_eq_if_modifyHead] at h
    split_ifs at h with hsep
    · rcases List.mem_cons.mp h with rfl | hrest
      · exact List.not_mem_nil
      · exact ih hrest
    · cases hpieces : rest.splitOn sep with
      | nil => exact absurd hpieces (List.splitOn_ne_nil sep rest)
      | cons first others =>
        rw [hpieces, List.modifyHead_cons] at h
        rcases List.mem_cons.mp h with rfl | hother
        · have hfirst := ih (hpieces ▸ List.mem_cons_self)
          have hne : sep ≠ c := fun heq ↦ hsep (beq_iff_eq.mpr heq.symm)
          exact List.not_mem_cons_of_ne_of_not_mem hne hfirst
        · exact ih (hpieces ▸ List.mem_cons_of_mem _ hother)

theorem mem_of_mem_chomp {c : Char} (h : c ∈ chomp line) : c ∈ line := by
  unfold chomp at h
  split_ifs at h
  · exact List.dropLast_subset _ h
  · exact h

/-- A line holds no line feed. -/
theorem newline_not_mem_of_mem_linesOf (h : line ∈ linesOf text) : '\n' ∉ line := by
  rcases List.mem_append.mp h with hended | hlast
  · obtain ⟨piece, hpiece, rfl⟩ := List.mem_map.mp hended
    exact fun hmem ↦
      not_mem_of_mem_splitOn (List.dropLast_subset _ hpiece) (mem_of_mem_chomp hmem)
  · obtain ⟨hpiece, -⟩ := Option.filter_eq_some_iff.mp (Option.mem_toList.mp hlast)
    exact not_mem_of_mem_splitOn (List.mem_of_getLast? hpiece)

/-- A line feed at the end is one before an empty line. -/
theorem ofLines_eq (hne : lines ≠ []) : ofLines lines = ['\n'].intercalate (lines ++ [[]]) := by
  unfold ofLines
  induction lines with
  | nil => exact absurd rfl hne
  | cons first rest ih =>
    by_cases hrest : rest = []
    · subst hrest
      simp [List.intercalate_cons_cons]
    · rw [List.cons_append, List.intercalate_cons_of_ne_nil hrest,
        List.intercalate_cons_of_ne_nil (by simp), ← ih hrest]
      simp

/-- Lines that were written are read back, up to a carriage return at the end of each. -/
theorem linesOf_ofLines (hne : lines ≠ []) (h : ∀ line ∈ lines, '\n' ∉ line) :
    linesOf (ofLines lines) = lines.map chomp := by
  have htext : ofLines lines = ['\n'].intercalate (lines ++ [[]]) := ofLines_eq hne
  have hpieces : (ofLines lines).splitOn '\n' = lines ++ [[]] := by
    rw [htext]
    apply List.splitOn_intercalate
    · intro line hmem
      rcases List.mem_append.mp hmem with hold | hnew
      · exact h line hold
      · rw [List.mem_singleton.mp hnew]
        exact List.not_mem_nil
    · simp
  rw [linesOf, hpieces]
  simp

end Seidrum.Foundation
