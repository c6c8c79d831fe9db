import Seidrum.Daemon.PluginConfig
import Seidrum.Foundation.ByteSlice

/-!
# Resolving references in place

The loop that resolves the references of a value replaces them in the value itself, which grows and shrinks
while it is scanned.  It keeps a byte position behind which nothing has been replaced yet: what is before
it is never read again.  So the loop ends, no slice of it fails, and it resolves the references of the
original value.
-/

namespace Seidrum.Daemon

open Foundation

/-- The value of what stands between the braces: a variable, with its default if it has one. -/
def resolveExpr (env : Env) (expr : List Char) : Option (List Char) :=
  match findText [':', '-'] expr with
  | some pos => do
      let (varName, _) ← splitAtByte expr pos
      let (_, default) ← splitAtByte expr (pos + 2)
      return ((env.var (String.ofList varName)).getD (String.ofList default)).toList
  | none => some ((env.var (String.ofList expr)).getD "").toList

/-- Where the next reference starts and where its closing brace stands, if there is one. -/
def nextReference (result : List Char) (searchFrom : ℕ) : Option (Option (ℕ × ℕ)) := do
  let (_, rest) ← splitAtByte result searchFrom
  match findText ['$', '{'] rest with
  | none => return none
  | some offset =>
      let start := searchFrom + offset
      let (_, rest) ← splitAtByte result start
      return (findText ['}'] rest).map fun offset ↦ (start, start + offset)

/-- The value with a reference resolved, and the position behind what it was replaced by. -/
def replaceReference (env : Env) (result : List Char) (start stop : ℕ) : Option (List Char × ℕ) := do
  let expr ← sliceBetween result (start + 2) stop
  let resolved ← resolveExpr env expr
  let (before, _) ← splitAtByte result start
  let (_, after) ← splitAtByte result (stop + 1)
  return (before ++ resolved ++ after, start + byteLength resolved)

theorem le_of_nextReference {result : List Char} {searchFrom start stop : ℕ}
    (h : nextReference result searchFrom = some (some (start, stop))) : searchFrom ≤ stop := by
  obtain ⟨⟨before, rest⟩, -, hrest⟩ := Option.bind_eq_some_iff.mp h
  dsimp only at hrest
  split at hrest
  · cases hrest
  · rename_i offset hoffset
    obtain ⟨⟨before', rest'⟩, -, hstop⟩ := Option.bind_eq_some_iff.mp hrest
    obtain ⟨inner, -, heq⟩ := Option.map_eq_some_iff.mp (Option.some.inj hstop)
    cases heq
    omega

/-- What is left to scan gets shorter. -/
theorem lt_of_replaceReference {env : Env} {result result' : List Char} {start stop searchFrom' : ℕ}
    (h : replaceReference env result start stop = some (result', searchFrom')) :
    byteLength result' - searchFrom' + stop < byteLength result := by
  obtain ⟨expr, -, h⟩ := Option.bind_eq_some_iff.mp h
  obtain ⟨resolved, -, h⟩ := Option.bind_eq_some_iff.mp h
  obtain ⟨⟨before, rest⟩, hbefore, h⟩ := Option.bind_eq_some_iff.mp h
  obtain ⟨⟨upto, after⟩, hafter, h⟩ := Option.bind_eq_some_iff.mp h
  cases h
  obtain ⟨-, hstart⟩ := eq_append_of_splitAtByte hbefore
  obtain ⟨hresult, hstop⟩ := eq_append_of_splitAtByte hafter
  rw [hresult, byteLength_append, byteLength_append, byteLength_append, hstart, hstop]
  omega

/-- The value from a position on with its references resolved; nothing if a slice fails. -/
def resolveFrom (env : Env) (result : List Char) (searchFrom : ℕ) : Option (List Char) :=
  if searchFrom < byteLength result then
    match _hnext : nextReference result searchFrom with
    | none => none
    | some none => some result
    | some (some (start, stop)) =>
        match _hreplaced : replaceReference env result start stop with
        | none => none
        | some (result', searchFrom') => resolveFrom env result' searchFrom'
  else some result
termination_by byteLength result - searchFrom
decreasing_by
  have hle := le_of_nextReference _hnext
  have hlt := lt_of_replaceReference _hreplaced
  omega

/-- `resolve_env`: resolve the references in place, from the left. -/
def resolveEnvInPlace (env : Env) (value : String) : Option String :=
  (resolveFrom env value.toList 0).map String.ofList

section OnePass

variable {env : Env}

theorem piecesFrom_text {chars : List Char} (h : ¬['$', '{'] <:+: chars) :
    piecesFrom none chars = chars.map .text := by
  induction chars with
  | nil => rfl
  | cons c rest ih =>
    have hopen : ∀ after, c = '$' → rest ≠ '{' :: after := by
      rintro after rfl rfl
      exact h (List.prefix_append ['$', '{'] after).isInfix
    rw [piecesFrom, ih fun hinfix ↦ h (List.infix_cons hinfix), List.map_cons]
    exact hopen

theorem piecesFrom_some_open {rest : List Char} (h : '}' ∉ rest) (read : List Char) :
    piecesFrom (some read) rest = ('$' :: '{' :: (read.reverse ++ rest)).map .text := by
  induction rest generalizing read with
  | nil => rw [piecesFrom, List.append_nil]
  | cons c rest ih =>
    obtain ⟨hc, hrest⟩ := List.ne_and_not_mem_of_not_mem_cons h
    rw [piecesFrom, if_neg (Ne.symm hc), ih hrest, List.reverse_cons, List.append_assoc,
      List.singleton_append]

/-- A reference that is not closed is text. -/
theorem piecesFrom_open {before rest : List Char} (hbefore : ¬['$', '{'] <:+: before) (h : '}' ∉ rest) :
    piecesFrom none (before ++ '$' :: '{' :: rest) = (before ++ '$' :: '{' :: rest).map .text := by
  induction before with
  | nil => exact piecesFrom_some_open h []
  | cons c before ih =>
    have hopen : ∀ after, c = '$' → before ++ '$' :: '{' :: rest ≠ '{' :: after := by
      intro after hc htail
      cases before with
      | nil => exact absurd (List.cons.inj htail).1 (by decide)
      | cons d before =>
        rw [hc, (List.cons.inj htail).1] at hbefore
        exact hbefore (List.prefix_append ['$', '{'] before).isInfix
    rw [List.cons_append, piecesFrom, List.map_cons,
      ih fun hinfix ↦ hbefore (List.infix_cons hinfix)]
    exact hopen

theorem flatMap_text (chars : List Char) : (chars.map Piece.text).flatMap (Piece.resolve env) = chars := by
  induction chars with
  | nil => rfl
  | cons c rest ih => rw [List.map_cons, List.flatMap_cons, ih, Piece.resolve, List.singleton_append]

theorem splitDefault_of_not_infix {expr : List Char} (h : ¬[':', '-'] <:+: expr) :
    splitDefault expr = (expr, []) := by
  induction expr with
  | nil => rfl
  | cons c rest ih =>
    have hsep : ∀ default, c = ':' → rest ≠ '-' :: default := by
      rintro default rfl rfl
      exact h (List.prefix_append [':', '-'] default).isInfix
    rw [splitDefault, ih fun hinfix ↦ h (List.infix_cons hinfix)]
    exact hsep

theorem splitDefault_append {name : List Char} (h : ¬[':', '-'] <:+: name) (default : List Char) :
    splitDefault (name ++ ':' :: '-' :: default) = (name, default) := by
  induction name with
  | nil => rfl
  | cons c name ih =>
    have hsep : ∀ after, c = ':' → name ++ ':' :: '-' :: default ≠ '-' :: after := by
      intro after hc htail
      cases name with
      | nil => exact absurd (List.cons.inj htail).1 (by decide)
      | cons d name =>
        rw [hc, (List.cons.inj htail).1] at h
        exact h (List.prefix_append [':', '-'] name).isInfix
    rw [List.cons_append, splitDefault, ih fun hinfix ↦ h (List.infix_cons hinfix)]
    exact hsep

/-- The slices of an expression are its variable and its default. -/
theorem resolveExpr_eq (expr : List Char) : resolveExpr env expr = some ((referenceOf expr).resolve env) := by
  unfold resolveExpr
  cases hpos : findText [':', '-'] expr with
  | none =>
    rw [referenceOf, splitDefault_of_not_infix (not_infix_of_findText hpos)]
    rfl
  | some pos =>
    obtain ⟨name, default, rfl, rfl, hname⟩ := exists_of_findText (by simp) hpos
    have hdefault : splitAtByte (name ++ ([':', '-'] ++ default)) (byteLength name + 2) =
        some (name ++ [':', '-'], default) := by
      rw [← List.append_assoc]
      exact splitAtByte_eq_some_iff.mpr ⟨rfl, byteLength_append name [':', '-']⟩
    simp only [splitAtByte_append, hdefault, bind, Option.bind_some, pure]
    rw [List.cons_append, List.singleton_append, referenceOf, splitDefault_append hname]
    rfl

end OnePass

section InPlace

variable {env : Env}

theorem inner_of_reference {tail inner after : List Char}
    (h : '$' :: '{' :: tail = inner ++ '}' :: after) :
    ∃ expr, inner = '$' :: '{' :: expr ∧ tail = expr ++ '}' :: after := by
  match inner, h with
  | [], h => exact absurd (List.cons.inj h).1 (by decide)
  | [_], h => exact absurd (List.cons.inj (List.cons.inj h).2).1 (by decide)
  | _ :: _ :: expr, h =>
    obtain ⟨rfl, hrest⟩ := List.cons.inj h
    obtain ⟨rfl, htail⟩ := List.cons.inj hrest
    exact ⟨expr, rfl, htail⟩

/-- The next reference is the first one of the rest; without one, the rest is text. -/
theorem nextReference_cases (resolved rest : List Char) :
    (nextReference (resolved ++ rest) (byteLength resolved) = some none ∧
      piecesFrom none rest = rest.map .text) ∨
    ∃ before expr after, rest = before ++ '$' :: '{' :: (expr ++ '}' :: after) ∧
      ¬['$', '{'] <:+: before ∧ '}' ∉ expr ∧
      nextReference (resolved ++ rest) (byteLength resolved) =
        some (some (byteLength (resolved ++ before),
          byteLength (resolved ++ before ++ '$' :: '{' :: expr))) := by
  unfold nextReference
  simp only [splitAtByte_append, bind, Option.bind_some, pure]
  cases hopen : findText ['$', '{'] rest with
  | none => exact .inl ⟨rfl, piecesFrom_text (not_infix_of_findText hopen)⟩
  | some offset =>
    obtain ⟨before, tail, rfl, rfl, hbefore⟩ := exists_of_findText (by simp) hopen
    simp only [← byteLength_append, ← List.append_assoc resolved before, splitAtByte_append,
      Option.bind_some]
    cases hclose : findText ['}'] (['$', '{'] ++ tail) with
    | none =>
      have htail : '}' ∉ tail := fun hmem ↦ not_infix_of_findText hclose
        ((List.singleton_infix_iff _ _).mpr (List.mem_append_right _ hmem))
      exact .inl ⟨rfl, piecesFrom_open hbefore htail⟩
    | some closing =>
      obtain ⟨inner, after, hinner, rfl, hfirst⟩ := exists_of_findText (by simp) hclose
      obtain ⟨expr, rfl, rfl⟩ := inner_of_reference hinner
      have hexpr : '}' ∉ expr := fun hmem ↦ hfirst
        ((List.singleton_infix_iff _ _).mpr (List.mem_append_right ['$', '{'] hmem))
      refine .inr ⟨before, expr, after, rfl, hbefore, hexpr, ?_⟩
      rw [Option.map_some, ← byteLength_append]

theorem replaceReference_append (before expr after : List Char) :
    replaceReference env (before ++ '$' :: '{' :: (expr ++ '}' :: after)) (byteLength before)
        (byteLength (before ++ '$' :: '{' :: expr)) =
      some (before ++ (referenceOf expr).resolve env ++ after,
        byteLength (before ++ (referenceOf expr).resolve env)) := by
  have hexpr : sliceBetween (before ++ '$' :: '{' :: (expr ++ '}' :: after)) (byteLength before + 2)
      (byteLength (before ++ '$' :: '{' :: expr)) = some expr := by
    have hslice := sliceBetween_append (before ++ ['$', '{']) expr ('}' :: after)
    have hstart : byteLength (before ++ ['$', '{']) = byteLength before + 2 := byteLength_append before _
    rw [hstart] at hslice
    simpa only [List.append_assoc, List.cons_append, List.nil_append] using hslice
  have hafter : splitAtByte (before ++ '$' :: '{' :: (expr ++ '}' :: after))
      (byteLength (before ++ '$' :: '{' :: expr) + 1) = some (before ++ '$' :: '{' :: expr ++ ['}'], after) := by
    refine splitAtByte_eq_some_iff.mpr ⟨by simp, ?_⟩
    rw [byteLength_append _ ['}']]
    rfl
  unfold replaceReference
  simp only [hexpr, resolveExpr_eq, hafter, splitAtByte_append, bind, Option.bind_some, pure]
  rw [byteLength_append before]

/-- What is before the position stays, and the references of the rest are resolved. -/
theorem resolveFrom_append (resolved rest : List Char) :
    resolveFrom env (resolved ++ rest) (byteLength resolved) =
      some (resolved ++ (piecesFrom none rest).flatMap (Piece.resolve env)) := by
  induction hlength : rest.length using Nat.strong_induction_on generalizing resolved rest with
  | _ n ih =>
    subst hlength
    rcases nextReference_cases resolved rest with ⟨hnext, hpieces⟩ | ⟨before, expr, after, rfl, hbefore, hexpr, hnext⟩
    · rw [hpieces, flatMap_text, resolveFrom, hnext]
      split_ifs <;> rfl
    · have hreplaced : replaceReference env
          (resolved ++ (before ++ '$' :: '{' :: (expr ++ '}' :: after))) (byteLength (resolved ++ before))
          (byteLength (resolved ++ before ++ '$' :: '{' :: expr)) =
          some (resolved ++ before ++ (referenceOf expr).resolve env ++ after,
            byteLength (resolved ++ before ++ (referenceOf expr).resolve env)) := by
        rw [← List.append_assoc]
        exact replaceReference_append (resolved ++ before) expr after
      have hmore : byteLength resolved <
          byteLength (resolved ++ (before ++ '$' :: '{' :: (expr ++ '}' :: after))) := by
        have hopen : Char.utf8Size '$' = 1 := rfl
        simp only [byteLength_append, byteLength_cons, hopen]
        omega
      have hshorter : after.length < (before ++ '$' :: '{' :: (expr ++ '}' :: after)).length := by
        simp
        omega
      rw [resolveFrom, if_pos hmore, hnext]
      dsimp only
      rw [hreplaced]
      dsimp only
      rw [ih after.length hshorter _ after rfl, piecesFrom_reference hbefore hexpr, List.flatMap_append,
        flatMap_text, List.flatMap_cons]
      simp only [List.append_assoc]

/-- The loop ends without a panic, with the references of the original value resolved in one pass. -/
theorem resolveEnvInPlace_eq (env : Env) (value : String) :
    resolveEnvInPlace env value = some (resolveEnv env value) := by
  have hloop : resolveFrom env ([] ++ value.toList) (byteLength []) = _ :=
    resolveFrom_append [] value.toList
  rw [resolveEnvInPlace, resolveEnv, pieces]
  rw [List.nil_append, byteLength_nil, List.nil_append] at hloop
  rw [hloop, Option.map_some]

end InPlace

end Seidrum.Daemon
