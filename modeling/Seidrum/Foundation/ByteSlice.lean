import Mathlib.Algebra.Group.Nat.Defs
import Mathlib.Algebra.GroupWithZero.Nat
import Mathlib.Data.List.Basic

/-!
# Slices of a text by bytes

A text is stored as the UTF-8 encoding of its characters, and slices of it are named by byte positions.
A position inside the encoding of a character is no boundary, and neither is one past the end; slicing
there fails.
-/

namespace Seidrum.Foundation

/-- The number of bytes of the encoding of some characters. -/
def byteLength (chars : List Char) : ℕ := (chars.map Char.utf8Size).sum

@[simp]
theorem byteLength_nil : byteLength [] = 0 := rfl

@[simp]
theorem byteLength_cons (c : Char) (chars : List Char) :
    byteLength (c :: chars) = c.utf8Size + byteLength chars := rfl

@[simp]
theorem byteLength_append (first second : List Char) :
    byteLength (first ++ second) = byteLength first + byteLength second := by
  simp [byteLength]

/-- The characters split at a byte position, if it is a boundary. -/
def splitAtByte : List Char → ℕ → Option (List Char × List Char)
  | chars, 0 => some ([], chars)
  | [], _ + 1 => none
  | c :: rest, n + 1 =>
      if c.utf8Size ≤ n + 1 then
        (splitAtByte rest (n + 1 - c.utf8Size)).map fun (before, after) ↦ (c :: before, after)
      else none

/-- A position at which a text may be cut. -/
def IsBoundary (chars : List Char) (position : ℕ) : Prop :=
  ∃ before after, chars = before ++ after ∧ byteLength before = position

theorem splitAtByte_append (before after : List Char) :
    splitAtByte (before ++ after) (byteLength before) = some (before, after) := by
  induction before with
  | nil => rw [byteLength_nil, List.nil_append, splitAtByte]
  | cons c before ih =>
    obtain ⟨n, hn⟩ := Nat.exists_eq_add_one.mpr
      (Nat.add_pos_left (Char.utf8Size_pos c) (byteLength before))
    have hfits : c.utf8Size ≤ n + 1 := hn ▸ Nat.le_add_right _ _
    have hrest : n + 1 - c.utf8Size = byteLength before := by omega
    rw [byteLength_cons, hn, List.cons_append, splitAtByte, if_pos hfits, hrest, ih, Option.map_some]

variable {chars before after : List Char} {position : ℕ} {pattern : List Char}

theorem eq_append_of_splitAtByte (h : splitAtByte chars position = some (before, after)) :
    chars = before ++ after ∧ byteLength before = position := by
  fun_induction splitAtByte chars position generalizing before with
  | case1 chars =>
    cases h
    exact ⟨rfl, rfl⟩
  | case2 => cases h
  | case3 c rest n hfits ih =>
    obtain ⟨⟨before', after'⟩, hsplit, heq⟩ := Option.map_eq_some_iff.mp h
    cases heq
    obtain ⟨rfl, hlength⟩ := ih hsplit
    refine ⟨rfl, ?_⟩
    rw [byteLength_cons, hlength]
    omega
  | case4 => cases h

theorem splitAtByte_eq_some_iff :
    splitAtByte chars position = some (before, after) ↔
      chars = before ++ after ∧ byteLength before = position := by
  constructor
  · exact eq_append_of_splitAtByte
  · rintro ⟨rfl, rfl⟩
    exact splitAtByte_append before after

theorem isSome_splitAtByte_iff : (splitAtByte chars position).isSome ↔ IsBoundary chars position := by
  rw [Option.isSome_iff_exists]
  constructor
  · rintro ⟨⟨before, after⟩, h⟩
    exact ⟨before, after, splitAtByte_eq_some_iff.mp h⟩
  · rintro ⟨before, after, h⟩
    exact ⟨(before, after), splitAtByte_eq_some_iff.mpr h⟩

instance (chars : List Char) (position : ℕ) : Decidable (IsBoundary chars position) :=
  decidable_of_iff _ isSome_splitAtByte_iff

/-- A position inside the encoding of a character is no boundary. -/
theorem not_isBoundary_inside {c : Char} (hbefore : byteLength before < position)
    (hafter : position < byteLength before + c.utf8Size) : ¬IsBoundary (before ++ c :: after) position := by
  rintro ⟨first, second, hsplit, hlength⟩
  rcases List.append_eq_append_iff.mp hsplit with ⟨middle, hfirst, hmiddle⟩ | ⟨middle, hsecond, -⟩
  · rw [hfirst, byteLength_append] at hlength
    cases middle with
    | nil =>
      rw [byteLength_nil] at hlength
      omega
    | cons d middle =>
      obtain ⟨rfl, -⟩ := List.cons.inj hmiddle
      rw [byteLength_cons] at hlength
      omega
  · rw [hsecond, byteLength_append] at hbefore
    omega

theorem byteLength_replicate (n : ℕ) (c : Char) :
    byteLength (List.replicate n c) = n * c.utf8Size := by
  induction n with
  | zero => rw [List.replicate_zero, byteLength_nil, Nat.zero_mul]
  | succ n ih => rw [List.replicate_succ, byteLength_cons, ih, Nat.succ_mul, Nat.add_comm]

/-- The byte position of the first occurrence of a pattern. -/
def findText (pattern : List Char) : List Char → Option ℕ
  | [] => if pattern = [] then some 0 else none
  | c :: rest =>
      if pattern <+: c :: rest then some 0
      else (findText pattern rest).map (c.utf8Size + ·)

/-- Before the position that is found there is no occurrence. -/
theorem exists_of_findText (hpattern : pattern ≠ []) (h : findText pattern chars = some position) :
    ∃ before after, chars = before ++ (pattern ++ after) ∧ byteLength before = position ∧
      ¬pattern <:+: before := by
  induction chars generalizing position with
  | nil =>
    rw [findText, if_neg hpattern] at h
    cases h
  | cons c rest ih =>
    rw [findText] at h
    split_ifs at h with hfirst
    · obtain ⟨after, hafter⟩ := hfirst
      cases h
      exact ⟨[], after, hafter.symm, rfl, fun hinfix ↦ hpattern (List.eq_nil_of_infix_nil hinfix)⟩
    · obtain ⟨offset, hoffset, rfl⟩ := Option.map_eq_some_iff.mp h
      obtain ⟨before, after, rfl, rfl, hbefore⟩ := ih hoffset
      refine ⟨c :: before, after, rfl, rfl, fun hinfix ↦ ?_⟩
      rcases List.infix_cons_iff.mp hinfix with hstart | hlater
      · exact hfirst (hstart.trans (List.prefix_append (c :: before) _))
      · exact hbefore hlater

theorem not_infix_of_findText (h : findText pattern chars = none) : ¬pattern <:+: chars := by
  induction chars with
  | nil =>
    rw [findText] at h
    split_ifs at h with hpattern
    exact fun hinfix ↦ hpattern (List.eq_nil_of_infix_nil hinfix)
  | cons c rest ih =>
    rw [findText] at h
    split_ifs at h with hfirst
    intro hinfix
    rcases List.infix_cons_iff.mp hinfix with hstart | hlater
    · exact hfirst hstart
    · exact ih (Option.map_eq_none_iff.mp h) hlater

/-- The byte position of the last occurrence of a pattern. -/
def rfindText (pattern : List Char) : List Char → Option ℕ
  | [] => if pattern = [] then some 0 else none
  | c :: rest =>
      match rfindText pattern rest with
      | some offset => some (c.utf8Size + offset)
      | none => if pattern <+: c :: rest then some 0 else none

theorem exists_of_rfindText (h : rfindText pattern chars = some position) :
    ∃ before after, chars = before ++ (pattern ++ after) ∧ byteLength before = position := by
  induction chars generalizing position with
  | nil =>
    rw [rfindText] at h
    split_ifs at h with hpattern
    exact ⟨[], [], by simp [hpattern], Option.some.inj h⟩
  | cons c rest ih =>
    rw [rfindText] at h
    cases hlater : rfindText pattern rest with
    | some offset =>
      rw [hlater] at h
      obtain ⟨before, after, rfl, rfl⟩ := ih hlater
      exact ⟨c :: before, after, rfl, Option.some.inj h⟩
    | none =>
      rw [hlater] at h
      dsimp only at h
      split_ifs at h with hfirst
      obtain ⟨after, hafter⟩ := hfirst
      exact ⟨[], after, hafter.symm, Option.some.inj h⟩

/-- The characters between two byte positions. -/
def sliceBetween (chars : List Char) (start stop : ℕ) : Option (List Char) :=
  (splitAtByte chars stop).bind fun (before, _) ↦ (splitAtByte before start).map Prod.snd

theorem sliceBetween_append (before between after : List Char) :
    sliceBetween (before ++ (between ++ after)) (byteLength before) (byteLength (before ++ between)) =
      some between := by
  rw [sliceBetween, ← List.append_assoc, splitAtByte_append, Option.bind_some]
  simp only [splitAtByte_append, Option.map_some]

/-- The text up to a byte position. -/
def sliceTo (text : String) (stop : ℕ) : Option String :=
  (splitAtByte text.toList stop).map fun (before, _) ↦ String.ofList before

/-- The text from a byte position on. -/
def sliceFrom (text : String) (start : ℕ) : Option String :=
  (splitAtByte text.toList start).map fun (_, after) ↦ String.ofList after

theorem isSome_sliceTo_iff {text : String} {stop : ℕ} :
    (sliceTo text stop).isSome ↔ IsBoundary text.toList stop := by
  rw [sliceTo, Option.isSome_map, isSome_splitAtByte_iff]

/-- A text without what it starts with. -/
def stripPrefix (start text : String) : Option String :=
  if start.toList <+: text.toList then some (String.ofList (text.toList.drop start.toList.length))
  else none

end Seidrum.Foundation
