import Seidrum.EventBus.Transport.RemotePattern
import Seidrum.Foundation.ByteSlice
import Seidrum.Foundation.TextLines

/-!
# Splitting messages for Telegram

A text that is too long is cut into chunks.  A chunk that ends inside a code fence is closed and the next
one reopened, if it is not the last one.  The place of a cut is looked for in a slice of the remaining
text, and the slice ends at a number of bytes, which need not be a boundary of a character.
-/

namespace Seidrum.Plugins

open EventBus (isWhitespace)
open Foundation

/-- The position after the last occurrence of a separator, if it is not too early. -/
def splitAfter (separator : String) (slice : List Char) (minSplit : ℕ) : Option ℕ :=
  (rfindText separator.toList slice).bind fun pos ↦
    if minSplit ≤ pos then some (pos + byteLength separator.toList) else none

/-- Paragraph break, line break, sentence end, last space, and else the end of the slice. -/
def findSplitPoint (slice : List Char) (minSplit : ℕ) : ℕ :=
  ((splitAfter "\n\n" slice minSplit).or ((splitAfter "\n" slice minSplit).or
    ((splitAfter ". " slice minSplit).or (splitAfter " " slice minSplit)))).getD (byteLength slice)

/-- The next chunk of the remaining text and what remains after it; slicing may panic. -/
def nextCut (maxLen : ℕ) (remaining : List Char) : Option (List Char × List Char) :=
  (splitAtByte remaining maxLen).bind fun (slice, _) ↦
    splitAtByte remaining (findSplitPoint slice (maxLen / 2))

/-- Count the runs of three backticks and more at the start of a line.  The backticks after the third are
skipped like any other character. -/
def countFencesFrom : Bool → List Char → ℕ
  | _, [] => 0
  | atLineStart, c :: rest =>
      if c = '\n' then countFencesFrom true rest
      else if atLineStart && c = '`' then
        (if ['`', '`'] <+: rest then 1 else 0) + countFencesFrom false rest
      else countFencesFrom false rest

def countFences (text : List Char) : ℕ := countFencesFrom true text

/-- The language tag of a line that starts with a fence. -/
def langOf (line : List Char) : List Char := trimBoth isWhitespace (line.dropWhile (· = '`'))

/-- The tag of the last line that starts with a fence after any indentation. -/
def extractFenceLang (text : List Char) : List Char :=
  match ((linesOf text).map (List.dropWhile isWhitespace)).reverse.find? ("```".toList.isPrefixOf ·) with
  | some trimmed => langOf trimmed
  | none => []

/-- The fence state that is carried from chunk to chunk. -/
structure FenceState where
  inCodeFence : Bool
  fenceLang : List Char
  deriving DecidableEq

/-- What one fence line in a chunk does. -/
def FenceState.toggle (chunk : List Char) (fence : FenceState) : FenceState :=
  if fence.inCodeFence then ⟨false, []⟩ else ⟨true, extractFenceLang chunk⟩

/-- The line that reopens a fence. -/
def FenceState.opening (fence : FenceState) : List Char :=
  if fence.inCodeFence then "```".toList ++ fence.fenceLang ++ ['\n'] else []

/-- A chunk, with what is inserted before and after the text in it. -/
structure Chunk where
  opening : List Char
  body : List Char
  closing : List Char
  deriving DecidableEq

def Chunk.text (chunk : Chunk) : List Char := chunk.opening ++ chunk.body ++ chunk.closing

/-- The fence state after a chunk. -/
def FenceState.after (fence : FenceState) (body : List Char) : FenceState :=
  (FenceState.toggle (fence.opening ++ body))^[countFences body] fence

def FenceState.chunk (fence : FenceState) (body rest : List Char) : Chunk where
  opening := fence.opening
  body := body
  closing := if (fence.after body).inCodeFence && rest ≠ [] then "\n```".toList else []

inductive SplitFailure
  | panicked
  | unfinished
  deriving DecidableEq

/-- The loop of `split_message`, for a number of rounds. -/
def splitLoop (maxLen : ℕ) : ℕ → List Char → FenceState → Except SplitFailure (List Chunk)
  | 0, _, _ => .error .unfinished
  | rounds + 1, remaining, fence =>
      if remaining = [] then .ok []
      else if byteLength remaining ≤ maxLen then .ok [⟨[], remaining, []⟩]
      else
        match nextCut maxLen remaining with
        | none => .error .panicked
        | some (body, rest) =>
            (splitLoop maxLen rounds rest (fence.after body)).map (fence.chunk body rest :: ·)

/-- `split_message`, with the chunks still in their parts. -/
def splitChunks (text : List Char) (maxLen : ℕ) : Except SplitFailure (List Chunk) :=
  if text = [] then .ok [⟨[], [], []⟩]
  else if byteLength text ≤ maxLen then .ok [⟨[], text, []⟩]
  else splitLoop maxLen (text.length + 1) text ⟨false, []⟩

def splitMessage (text : String) (maxLen : ℕ) : Except SplitFailure (List String) :=
  (splitChunks text.toList maxLen).map (List.map fun chunk ↦ String.ofList chunk.text)

/-- The rounds of the loop from a fence state and a remaining text on: what has been cut off, the fence
state and what remains. -/
inductive Reaches (maxLen : ℕ) (fence : FenceState) (remaining : List Char) :
    List Char → FenceState → List Char → Prop
  | start : Reaches maxLen fence remaining [] fence remaining
  | next {before body rest before' : List Char} {fence' : FenceState} :
      Reaches maxLen fence remaining before fence' before' → maxLen < byteLength before' →
      nextCut maxLen before' = some (body, rest) →
      Reaches maxLen fence remaining (before ++ body) (fence'.after body) rest

section

variable {maxLen position minSplit rounds : ℕ} {slice remaining body rest : List Char}
  {separator : String} {fence : FenceState}

theorem exists_of_splitAfter (hseparator : separator.toList ≠ [])
    (h : splitAfter separator slice minSplit = some position) :
    ∃ before after, slice = before ++ after ∧ byteLength before = position ∧ before ≠ [] := by
  obtain ⟨pos, hpos, hposition⟩ := Option.bind_eq_some_iff.mp h
  obtain ⟨before, after, rfl, rfl⟩ := exists_of_rfindText hpos
  split_ifs at hposition
  cases hposition
  exact ⟨before ++ separator.toList, after, by simp, byteLength_append _ _, by simp [hseparator]⟩

/-- The split point comes after some separator or is the end of the slice. -/
theorem findSplitPoint_cases (slice : List Char) (minSplit : ℕ) :
    (∃ separator : String, separator.toList ≠ [] ∧
      splitAfter separator slice minSplit = some (findSplitPoint slice minSplit)) ∨
      findSplitPoint slice minSplit = byteLength slice := by
  unfold findSplitPoint
  cases hparagraph : splitAfter "\n\n" slice minSplit with
  | some position => exact .inl ⟨"\n\n", by decide, hparagraph⟩
  | none =>
    cases hline : splitAfter "\n" slice minSplit with
    | some position => exact .inl ⟨"\n", by decide, hline⟩
    | none =>
      cases hsentence : splitAfter ". " slice minSplit with
      | some position => exact .inl ⟨". ", by decide, hsentence⟩
      | none =>
        cases hspace : splitAfter " " slice minSplit with
        | some position => exact .inl ⟨" ", by decide, hspace⟩
        | none => exact .inr rfl

/-- The split point is a boundary of the slice, and not at its start. -/
theorem exists_of_findSplitPoint (minSplit : ℕ) (hslice : slice ≠ []) :
    ∃ before after, slice = before ++ after ∧ byteLength before = findSplitPoint slice minSplit ∧
      before ≠ [] := by
  obtain ⟨separator, hseparator, hsplit⟩ | hend := findSplitPoint_cases slice minSplit
  · exact exists_of_splitAfter hseparator hsplit
  · exact ⟨slice, [], (List.append_nil slice).symm, hend.symm, hslice⟩

theorem byteLength_pos_iff {chars : List Char} : 0 < byteLength chars ↔ chars ≠ [] := by
  cases chars with
  | nil => simp
  | cons c rest => exact iff_of_true (Nat.add_pos_left (Char.utf8Size_pos c) _) (by simp)

/-- Once the slice is taken nothing else fails. -/
theorem isSome_nextCut_iff (hmax : 1 ≤ maxLen) :
    (nextCut maxLen remaining).isSome ↔ IsBoundary remaining maxLen := by
  rw [← isSome_splitAtByte_iff]
  unfold nextCut
  cases hslice : splitAtByte remaining maxLen with
  | none => rfl
  | some parts =>
    obtain ⟨slice, beyond⟩ := parts
    obtain ⟨rfl, hlength⟩ := splitAtByte_eq_some_iff.mp hslice
    obtain ⟨before, after, rfl, hbefore, -⟩ := exists_of_findSplitPoint (maxLen / 2)
      (byteLength_pos_iff.mp (hlength ▸ hmax))
    dsimp only [Option.bind_some]
    rw [← hbefore, List.append_assoc, splitAtByte_append]
    simp

theorem nextCut_eq_some (hmax : 1 ≤ maxLen) (hlong : maxLen < byteLength remaining)
    (h : nextCut maxLen remaining = some (body, rest)) :
    remaining = body ++ rest ∧ body ≠ [] ∧ rest ≠ [] ∧ byteLength body ≤ maxLen := by
  obtain ⟨⟨slice, beyond⟩, hslice, hcut⟩ := Option.bind_eq_some_iff.mp h
  obtain ⟨rfl, hlength⟩ := splitAtByte_eq_some_iff.mp hslice
  obtain ⟨before, after, rfl, hbefore, hne⟩ := exists_of_findSplitPoint (maxLen / 2)
    (byteLength_pos_iff.mp (hlength ▸ hmax))
  dsimp only at hcut
  rw [← hbefore, List.append_assoc, splitAtByte_append] at hcut
  obtain ⟨rfl, rfl⟩ := Prod.mk.inj (Option.some.inj hcut)
  have hbody : byteLength before ≤ maxLen := hlength ▸ byteLength_append before after ▸ Nat.le_add_right _ _
  have hbeyond : 0 < byteLength beyond := by
    rw [byteLength_append, hlength] at hlong
    omega
  refine ⟨List.append_assoc _ _ _, hne, ?_, hbody⟩
  exact List.append_ne_nil_of_right_ne_nil _ (byteLength_pos_iff.mp hbeyond)

namespace Reaches

variable {before remaining' : List Char} {fence' : FenceState}

/-- The rounds after the first one. -/
theorem head (hlong : maxLen < byteLength remaining) (hcut : nextCut maxLen remaining = some (body, rest))
    (h : Reaches maxLen (fence.after body) rest before fence' remaining') :
    Reaches maxLen fence remaining (body ++ before) fence' remaining' := by
  induction h with
  | start => simpa using start.next hlong hcut
  | next _ hlong' hcut' ih => simpa using ih.next hlong' hcut'

/-- A round is the first one or comes after it. -/
theorem cases_head (h : Reaches maxLen fence remaining before fence' remaining') :
    (before = [] ∧ fence' = fence ∧ remaining' = remaining) ∨
      ∃ body rest before', before = body ++ before' ∧ maxLen < byteLength remaining ∧
        nextCut maxLen remaining = some (body, rest) ∧
        Reaches maxLen (fence.after body) rest before' fence' remaining' := by
  induction h with
  | start => exact .inl ⟨rfl, rfl, rfl⟩
  | @next _ body' _ _ _ _ hlong hcut ih =>
    obtain ⟨rfl, rfl, rfl⟩ | ⟨body, rest, before', rfl, hlong', hcut', hreach⟩ := ih
    · exact .inr ⟨body', _, [], by simp, hlong, hcut, start⟩
    · exact .inr ⟨body, rest, before' ++ body', by simp, hlong', hcut', hreach.next hlong hcut⟩

end Reaches

/-- In no round is the slice cut inside a character. -/
def CutsAtBoundaries (maxLen : ℕ) (fence : FenceState) (remaining : List Char) : Prop :=
  ∀ before fence' remaining', Reaches maxLen fence remaining before fence' remaining' →
    maxLen < byteLength remaining' → IsBoundary remaining' maxLen

theorem cutsAtBoundaries_iff (hlong : maxLen < byteLength remaining)
    (hcut : nextCut maxLen remaining = some (body, rest)) (hmax : 1 ≤ maxLen) :
    CutsAtBoundaries maxLen fence remaining ↔ CutsAtBoundaries maxLen (fence.after body) rest := by
  constructor
  · exact fun h before fence' remaining' hreach ↦ h _ _ _ (hreach.head hlong hcut)
  · intro h before fence' remaining' hreach hlong'
    obtain ⟨rfl, rfl, rfl⟩ | ⟨body', rest', before', rfl, -, hcut', hreach'⟩ := hreach.cases_head
    · exact (isSome_nextCut_iff hmax).mp (by simp [hcut])
    · obtain ⟨rfl, rfl⟩ := Prod.mk.inj (Option.some.inj (hcut.symm.trans hcut'))
      exact h _ _ _ hreach' hlong'

theorem cutsAtBoundaries_of_short (hshort : byteLength remaining ≤ maxLen) :
    CutsAtBoundaries maxLen fence remaining := by
  intro before fence' remaining' hreach hlong
  obtain ⟨-, -, rfl⟩ | ⟨-, -, -, -, hlong', -, -⟩ := hreach.cases_head <;> omega

/-- Every round makes the remaining text shorter. -/
theorem length_rest_lt (hmax : 1 ≤ maxLen) (hlong : maxLen < byteLength remaining)
    (hcut : nextCut maxLen remaining = some (body, rest)) (hrounds : remaining.length < rounds + 1) :
    rest.length < rounds := by
  obtain ⟨rfl, hbody, -, -⟩ := nextCut_eq_some hmax hlong hcut
  have hpos := List.length_pos_iff.mpr hbody
  rw [List.length_append] at hrounds
  omega

theorem splitLoop_of_nextCut (hlong : maxLen < byteLength remaining)
    (hcut : nextCut maxLen remaining = some (body, rest)) :
    splitLoop maxLen (rounds + 1) remaining fence =
      (splitLoop maxLen rounds rest (fence.after body)).map (fence.chunk body rest :: ·) := by
  have hne : remaining ≠ [] := byteLength_pos_iff.mp (Nat.zero_lt_of_lt hlong)
  rw [splitLoop, if_neg hne, if_neg (Nat.not_le_of_lt hlong), hcut]

/-- What one round does: it ends the loop, or it cuts off a chunk and the other rounds do the rest. -/
theorem splitLoop_cases {chunks : List Chunk}
    (h : splitLoop maxLen (rounds + 1) remaining fence = .ok chunks) :
    (remaining = [] ∧ chunks = []) ∨
      (remaining ≠ [] ∧ byteLength remaining ≤ maxLen ∧ chunks = [⟨[], remaining, []⟩]) ∨
      ∃ body rest later, maxLen < byteLength remaining ∧
        nextCut maxLen remaining = some (body, rest) ∧
        splitLoop maxLen rounds rest (fence.after body) = .ok later ∧
        chunks = fence.chunk body rest :: later := by
  by_cases hlong : maxLen < byteLength remaining
  · refine .inr (.inr ?_)
    cases hcut : nextCut maxLen remaining with
    | none =>
      have hne : remaining ≠ [] := byteLength_pos_iff.mp (Nat.zero_lt_of_lt hlong)
      rw [splitLoop, if_neg hne, if_neg (Nat.not_le_of_lt hlong), hcut] at h
      cases h
    | some parts =>
      obtain ⟨body, rest⟩ := parts
      rw [splitLoop_of_nextCut hlong hcut] at h
      cases hlater : splitLoop maxLen rounds rest (fence.after body) with
      | error failure => simp [hlater, Except.map] at h
      | ok later => exact ⟨body, rest, later, hlong, rfl, hlater, by simpa [hlater, Except.map] using h.symm⟩
  · have hshort : byteLength remaining ≤ maxLen := Nat.le_of_not_lt hlong
    rw [splitLoop, if_pos hshort] at h
    split_ifs at h with hempty
    · exact .inl ⟨hempty, (Except.ok.inj h).symm⟩
    · exact .inr (.inl ⟨hempty, hshort, (Except.ok.inj h).symm⟩)

/-- There are enough rounds, so a loop that does not come to its end panics. -/
theorem splitLoop_ne_unfinished (fence : FenceState) (hmax : 1 ≤ maxLen)
    (hrounds : remaining.length < rounds) :
    splitLoop maxLen rounds remaining fence ≠ .error .unfinished := by
  induction rounds generalizing remaining fence with
  | zero => omega
  | succ rounds ih =>
    by_cases hlong : maxLen < byteLength remaining
    · cases hcut : nextCut maxLen remaining with
      | none =>
        have hne : remaining ≠ [] := byteLength_pos_iff.mp (Nat.zero_lt_of_lt hlong)
        rw [splitLoop, if_neg hne, if_neg (Nat.not_le_of_lt hlong), hcut]
        simp
      | some parts =>
        have hlater := ih (fence.after parts.1) (length_rest_lt hmax hlong hcut hrounds)
        rw [splitLoop_of_nextCut hlong hcut]
        cases hloop : splitLoop maxLen rounds parts.2 (fence.after parts.1) with
        | error failure => simpa [Except.map, hloop] using hlater
        | ok later => simp [Except.map]
    · rw [splitLoop, if_pos (Nat.le_of_not_lt hlong)]
      split_ifs <;> simp

/-- The loop comes to its end exactly if no slice is cut inside a character. -/
theorem exists_splitLoop_iff (hmax : 1 ≤ maxLen) (hrounds : remaining.length < rounds) :
    (∃ chunks, splitLoop maxLen rounds remaining fence = .ok chunks) ↔
      CutsAtBoundaries maxLen fence remaining := by
  induction rounds generalizing remaining fence with
  | zero => omega
  | succ rounds ih =>
    constructor
    · rintro ⟨chunks, hchunks⟩
      obtain ⟨rfl, -⟩ | ⟨-, hshort, -⟩ | ⟨body, rest, later, hlong, hcut, hlater, -⟩ :=
        splitLoop_cases hchunks
      · exact cutsAtBoundaries_of_short (Nat.zero_le _)
      · exact cutsAtBoundaries_of_short hshort
      · exact (cutsAtBoundaries_iff hlong hcut hmax).mpr
          ((ih (length_rest_lt hmax hlong hcut hrounds)).mp ⟨later, hlater⟩)
    · intro hboundaries
      by_cases hlong : maxLen < byteLength remaining
      · obtain ⟨⟨body, rest⟩, hcut⟩ := Option.isSome_iff_exists.mp
          ((isSome_nextCut_iff hmax).mpr (hboundaries _ _ _ .start hlong))
        obtain ⟨later, hlater⟩ := (ih (length_rest_lt hmax hlong hcut hrounds)).mpr
          ((cutsAtBoundaries_iff hlong hcut hmax).mp hboundaries)
        exact ⟨fence.chunk body rest :: later, by rw [splitLoop_of_nextCut hlong hcut, hlater]; rfl⟩
      · rw [splitLoop, if_pos (Nat.le_of_not_lt hlong)]
        split_ifs
        all_goals exact ⟨_, rfl⟩

end

/-- A line that opens a fence. -/
def IsOpening (line : List Char) : Prop :=
  ∃ lang : List Char, '\n' ∉ lang ∧ line = "```".toList ++ lang ++ ['\n']

/-- What is inserted are fence lines between chunks, and the other parts of the chunks are the text.  In
front of the first chunk stands an opening line or nothing. -/
structure LosslessFrom (opening text : List Char) (chunks : List Chunk) : Prop where
  bodies : chunks.flatMap Chunk.body = text
  openings : ∀ chunk ∈ chunks, chunk.opening = [] ∨ IsOpening chunk.opening
  closings : ∀ chunk ∈ chunks, chunk.closing = [] ∨ chunk.closing = "\n```".toList
  /-- a fence that is reopened was closed before -/
  boundaries : chunks.IsChain fun chunk next ↦ next.opening ≠ [] → chunk.closing ≠ []
  first : ∀ chunk ∈ chunks.head?, chunk.opening = [] ∨ chunk.opening = opening
  last : ∀ chunk ∈ chunks.getLast?, chunk.closing = []

/-- Nothing is inserted before the first chunk or after the last one. -/
abbrev Lossless (text : List Char) (chunks : List Chunk) : Prop := LosslessFrom [] text chunks

theorem losslessFrom_singleton (opening text : List Char) :
    LosslessFrom opening text [⟨[], text, []⟩] := by
  constructor <;> simp

section

variable {maxLen rounds : ℕ} {remaining body rest text : List Char} {fence : FenceState}
  {chunks : List Chunk}

theorem newline_not_mem_extractFenceLang : '\n' ∉ extractFenceLang text := by
  unfold extractFenceLang
  split
  · rename_i trimmed hfound
    have hmem := List.mem_of_find?_eq_some hfound
    obtain ⟨line, hline, rfl⟩ := List.mem_map.mp (List.mem_reverse.mp hmem)
    intro hnewline
    unfold langOf trimBoth at hnewline
    have htag := (List.dropWhile_suffix _).subset ((List.rdropWhile_prefix _ _).subset hnewline)
    exact newline_not_mem_of_mem_linesOf hline
      ((List.dropWhile_suffix _).subset ((List.dropWhile_suffix _).subset htag))
  · exact List.not_mem_nil

theorem newline_not_mem_after (hlang : '\n' ∉ fence.fenceLang) :
    '\n' ∉ (fence.after body).fenceLang := by
  unfold FenceState.after
  cases countFences body with
  | zero => exact hlang
  | succ n =>
    rw [Function.iterate_succ_apply']
    unfold FenceState.toggle
    split_ifs
    · exact List.not_mem_nil
    · exact newline_not_mem_extractFenceLang

theorem opening_eq_or (hlang : '\n' ∉ fence.fenceLang) :
    fence.opening = [] ∨ IsOpening fence.opening := by
  unfold FenceState.opening
  split_ifs
  · exact .inr ⟨_, hlang, rfl⟩
  · exact .inl rfl

theorem losslessFrom_of_splitLoop (hmax : 1 ≤ maxLen) (hlang : '\n' ∉ fence.fenceLang)
    (h : splitLoop maxLen rounds remaining fence = .ok chunks) :
    LosslessFrom fence.opening remaining chunks := by
  induction rounds generalizing remaining fence chunks with
  | zero => cases h
  | succ rounds ih =>
    obtain ⟨rfl, rfl⟩ | ⟨-, -, rfl⟩ | ⟨body, rest, later, hlong, hcut, hloop, rfl⟩ := splitLoop_cases h
    · constructor <;> simp
    · exact losslessFrom_singleton _ remaining
    · obtain ⟨rfl, -, hrest, -⟩ := nextCut_eq_some hmax hlong hcut
      have hlater := ih (newline_not_mem_after hlang) hloop
      obtain ⟨next, others, rfl⟩ := List.exists_cons_of_ne_nil fun hnil : later = [] ↦
        hrest (by rw [← hlater.bodies, hnil, List.flatMap_nil])
      constructor
      · rw [List.flatMap_cons, hlater.bodies]
        rfl
      · exact List.forall_mem_cons.mpr ⟨opening_eq_or hlang, hlater.openings⟩
      · refine List.forall_mem_cons.mpr ⟨?_, hlater.closings⟩
        by_cases hopen : (fence.after body).inCodeFence <;> simp [FenceState.chunk, hopen, hrest]
      · refine List.isChain_cons_cons.mpr ⟨fun hopening ↦ ?_, hlater.boundaries⟩
        obtain hnone | hreopened := hlater.first next rfl
        · exact absurd hnone hopening
        · have hopen : (fence.after body).inCodeFence := by
            by_contra hclosed
            exact hopening (by rw [hreopened, FenceState.opening, if_neg hclosed])
          simp [FenceState.chunk, hopen, hrest]
      · exact fun chunk hchunk ↦ .inr (by rw [← Option.some.inj hchunk]; rfl)
      · rw [List.getLast?_cons_cons]
        exact hlater.last

/-- The exit for a text that is short is the one of the loop. -/
theorem splitChunks_eq_splitLoop (hne : text ≠ []) :
    splitChunks text maxLen = splitLoop maxLen (text.length + 1) text ⟨false, []⟩ := by
  rw [splitChunks, splitLoop, if_neg hne, if_neg hne]
  split_ifs <;> rfl

theorem lossless_of_splitChunks (hmax : 1 ≤ maxLen) (h : splitChunks text maxLen = .ok chunks) :
    Lossless text chunks := by
  by_cases hempty : text = []
  · rw [splitChunks, if_pos hempty] at h
    rw [hempty, ← Except.ok.inj h]
    exact losslessFrom_singleton [] []
  · rw [splitChunks_eq_splitLoop hempty] at h
    exact losslessFrom_of_splitLoop hmax List.not_mem_nil h

theorem exists_splitChunks_iff (hmax : 1 ≤ maxLen) :
    (∃ chunks, splitChunks text maxLen = .ok chunks) ↔ CutsAtBoundaries maxLen ⟨false, []⟩ text := by
  by_cases hempty : text = []
  · rw [splitChunks, if_pos hempty, hempty]
    exact iff_of_true ⟨_, rfl⟩ (cutsAtBoundaries_of_short (Nat.zero_le _))
  · rw [splitChunks_eq_splitLoop hempty]
    exact exists_splitLoop_iff hmax (Nat.lt_succ_self text.length)

end

/-- The message is split, and nothing but fence lines between the chunks is added. -/
def SplitsLosslessly (text : String) (maxLen : ℕ) : Prop :=
  ∃ chunks, splitChunks text.toList maxLen = .ok chunks ∧
    splitMessage text maxLen = .ok (chunks.map fun chunk ↦ String.ofList chunk.text) ∧
    Lossless text.toList chunks

/-- A text is split without a loss exactly if no slice is cut inside a character; else the slicing
panics. -/
theorem splitting_lossless_iff (text : String) (maxLen : ℕ) (hmax : 1 ≤ maxLen) :
    SplitsLosslessly text maxLen ↔ CutsAtBoundaries maxLen ⟨false, []⟩ text.toList := by
  rw [← exists_splitChunks_iff hmax]
  constructor
  · rintro ⟨chunks, hchunks, -, -⟩
    exact ⟨chunks, hchunks⟩
  · rintro ⟨chunks, hchunks⟩
    exact ⟨chunks, hchunks, by rw [splitMessage, hchunks]; rfl, lossless_of_splitChunks hmax hchunks⟩

/-- Plain letters are cut after two of them. -/
theorem splitting_lossless_plain :
    SplitsLosslessly "abc" 2 ↔ CutsAtBoundaries 2 ⟨false, []⟩ "abc".toList :=
  splitting_lossless_iff "abc" 2 (by decide)

/-- One letter and then accented ones, of two bytes each. -/
def accentedText (letters : ℕ) : String := String.ofList ('a' :: List.replicate letters 'é')

/-- The slice of four thousand bytes ends inside the last of two thousand accented letters. -/
theorem splitting_lossless_false :
    ¬∀ (text : String) (maxLen : ℕ), 1 ≤ maxLen → SplitsLosslessly text maxLen := by
  intro hall
  obtain ⟨chunks, hchunks, -⟩ := hall (accentedText (1999 + 1)) 4000 (by decide)
  have hreach : Reaches 4000 ⟨false, []⟩ (accentedText (1999 + 1)).toList [] ⟨false, []⟩
      (accentedText (1999 + 1)).toList := .start
  have htext : (accentedText (1999 + 1)).toList = ('a' :: List.replicate 1999 'é') ++ 'é' :: [] := by
    rw [accentedText, String.toList_ofList, List.replicate_succ', List.cons_append]
  have hlength : byteLength ('a' :: List.replicate 1999 'é') = 3999 := by
    rw [byteLength_cons, byteLength_replicate]
    decide
  have hsize : 'é'.utf8Size = 2 := by decide
  have hlong : 4000 < byteLength (accentedText (1999 + 1)).toList := by
    rw [htext, byteLength_append, hlength, byteLength_cons, hsize]
    decide
  have hboundary := (exists_splitChunks_iff (by decide)).mp ⟨chunks, hchunks⟩ _ _ _ hreach hlong
  rw [htext] at hboundary
  exact not_isBoundary_inside (by omega) (by omega) hboundary

end Seidrum.Plugins
