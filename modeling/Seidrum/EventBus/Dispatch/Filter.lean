import Mathlib.Data.List.Infix
import Seidrum.EventBus.Dispatch.Subject

/-!
# Event filters

A filter narrows the events a subscription receives by looking into the payload, read as JSON.
Reading and rendering JSON are parameters; a payload that is not JSON passes every filter.
-/

namespace Seidrum.EventBus

/-- A JSON value.  A number is kept as its literal, an object as its fields in key order. -/
inductive Value
  | null
  | bool (value : Bool)
  | number (literal : String)
  | string (value : String)
  | array (items : List Value)
  | object (fields : List (String × Value))
  deriving BEq

def Value.get (value : Value) (field : String) : Option Value :=
  match value with
  | object fields => (fields.find? fun entry ↦ entry.1 = field).map Prod.snd
  | _ => none

/-- JSON reading and rendering. -/
structure SerdeJson where
  fromSlice : Payload → Option Value
  toString : Value → String

inductive EventFilter
  | fieldEquals (path : String) (value : Value)
  | fieldContains (path substring : String)
  | all (filters : List EventFilter)
  | any (filters : List EventFilter)

namespace EventFilter

/-- Maximum nesting depth for `all`/`any` filter combinators. -/
def maxFilterDepth : ℕ := 16

/-- Dot-separated path resolution on a JSON value. -/
def resolvePath (root : Value) (path : String) : Option Value :=
  (tokens path).foldlM Value.get root

/-- Substring search. -/
def containsSubstring (text substring : String) : Bool := substring.toList <:+: text.toList

variable (json : SerdeJson)

mutual

def matchesInner (root : Value) (depth : ℕ) : EventFilter → Bool
  | fieldEquals path value =>
      if maxFilterDepth < depth then false
      else (resolvePath root path).any (· == value)
  | fieldContains path substring =>
      if maxFilterDepth < depth then false
      else (resolvePath root path).any fun found ↦
        match found with
        | .string text => containsSubstring text substring
        | other => containsSubstring (json.toString other) substring
  | all filters => if maxFilterDepth < depth then false else allMatch root (depth + 1) filters
  | any filters => if maxFilterDepth < depth then false else anyMatch root (depth + 1) filters

def allMatch (root : Value) (depth : ℕ) : List EventFilter → Bool
  | [] => true
  | filter :: rest => matchesInner root depth filter && allMatch root depth rest

def anyMatch (root : Value) (depth : ℕ) : List EventFilter → Bool
  | [] => false
  | filter :: rest => matchesInner root depth filter || anyMatch root depth rest

end

/-- Evaluate the filter against a raw payload. -/
def «matches» (filter : EventFilter) (payload : Payload) : Bool :=
  match json.fromSlice payload with
  | none => true
  | some value => filter.matchesInner json value 0

theorem allMatch_eq (root : Value) (depth : ℕ) (filters : List EventFilter) :
    allMatch json root depth filters = filters.all (matchesInner json root depth) := by
  induction filters with
  | nil => simp [allMatch]
  | cons filter rest ih => simp [allMatch, ih]

theorem anyMatch_eq (root : Value) (depth : ℕ) (filters : List EventFilter) :
    anyMatch json root depth filters = filters.any (matchesInner json root depth) := by
  induction filters with
  | nil => simp [anyMatch]
  | cons filter rest ih => simp [anyMatch, ih]

mutual

/-- What a filter means, however deeply it is nested. -/
def evaluate (root : Value) : EventFilter → Bool
  | fieldEquals path value => (resolvePath root path).any (· == value)
  | fieldContains path substring =>
      (resolvePath root path).any fun found ↦
        match found with
        | .string text => containsSubstring text substring
        | other => containsSubstring (json.toString other) substring
  | all filters => evaluateAll root filters
  | any filters => evaluateAny root filters

def evaluateAll (root : Value) : List EventFilter → Bool
  | [] => true
  | filter :: rest => evaluate root filter && evaluateAll root rest

def evaluateAny (root : Value) : List EventFilter → Bool
  | [] => false
  | filter :: rest => evaluate root filter || evaluateAny root rest

end

mutual

/-- How many combinators stand around the innermost filter. -/
def nesting : EventFilter → ℕ
  | fieldEquals .. | fieldContains .. => 0
  | all filters | any filters => nestingBelow filters

def nestingBelow : List EventFilter → ℕ
  | [] => 0
  | filter :: rest => max (nesting filter + 1) (nestingBelow rest)

end

/-- The payloads a filter is meant to accept; one that is not JSON passes. -/
def accepts (filter : EventFilter) (payload : Payload) : Bool :=
  match json.fromSlice payload with
  | none => true
  | some value => filter.evaluate json value

theorem evaluateAll_eq (root : Value) (filters : List EventFilter) :
    evaluateAll json root filters = filters.all (evaluate json root) := by
  induction filters with
  | nil => simp [evaluateAll]
  | cons filter rest ih => simp [evaluateAll, ih]

theorem evaluateAny_eq (root : Value) (filters : List EventFilter) :
    evaluateAny json root filters = filters.any (evaluate json root) := by
  induction filters with
  | nil => simp [evaluateAny]
  | cons filter rest ih => simp [evaluateAny, ih]

theorem nesting_lt_of_mem {filter : EventFilter} {filters : List EventFilter} (h : filter ∈ filters) :
    filter.nesting < nestingBelow filters := by
  induction filters with
  | nil => exact absurd h List.not_mem_nil
  | cons head rest ih =>
    rw [nestingBelow]
    rcases List.mem_cons.mp h with rfl | hrest
    · exact (Nat.lt_succ_self _).trans_le (Nat.le_max_left _ _)
    · exact (ih hrest).trans_le (Nat.le_max_right _ _)

mutual

theorem induction {P : EventFilter → Prop} (hequals : ∀ path value, P (fieldEquals path value))
    (hcontains : ∀ path substring, P (fieldContains path substring))
    (hall : ∀ filters, (∀ filter ∈ filters, P filter) → P (all filters))
    (hany : ∀ filters, (∀ filter ∈ filters, P filter) → P (any filters)) : ∀ filter, P filter
  | fieldEquals path value => hequals path value
  | fieldContains path substring => hcontains path substring
  | all filters => hall filters (induction_list hequals hcontains hall hany filters)
  | any filters => hany filters (induction_list hequals hcontains hall hany filters)

theorem induction_list {P : EventFilter → Prop} (hequals : ∀ path value, P (fieldEquals path value))
    (hcontains : ∀ path substring, P (fieldContains path substring))
    (hall : ∀ filters, (∀ filter ∈ filters, P filter) → P (all filters))
    (hany : ∀ filters, (∀ filter ∈ filters, P filter) → P (any filters)) :
    ∀ filters : List EventFilter, ∀ filter ∈ filters, P filter
  | [] => fun _ hmem ↦ absurd hmem List.not_mem_nil
  | head :: rest => fun filter hmem ↦ by
      rcases List.mem_cons.mp hmem with heq | hmem
      · exact heq ▸ induction hequals hcontains hall hany head
      · exact induction_list hequals hcontains hall hany rest filter hmem

end

/-- Within the bound the evaluation is that without a bound. -/
theorem matchesInner_eq_evaluate (root : Value) (filter : EventFilter) :
    ∀ depth, depth + filter.nesting ≤ maxFilterDepth →
      filter.matchesInner json root depth = filter.evaluate json root := by
  induction filter using EventFilter.induction with
  | hequals path value | hcontains path substring =>
    intro depth hdepth
    rw [matchesInner, evaluate, if_neg (by omega)]
  | hall filters ih =>
    intro depth hdepth
    rw [nesting] at hdepth
    rw [matchesInner, evaluate, if_neg (by omega), allMatch_eq, evaluateAll_eq]
    have hsame : ∀ filter ∈ filters,
        filter.matchesInner json root (depth + 1) = filter.evaluate json root := by
      intro filter hmem
      have hlt := nesting_lt_of_mem hmem
      exact ih filter hmem (depth + 1) (by omega)
    rw [Bool.eq_iff_iff, List.all_eq_true, List.all_eq_true]
    exact forall₂_congr fun filter hmem ↦ by rw [hsame filter hmem]
  | hany filters ih =>
    intro depth hdepth
    rw [nesting] at hdepth
    rw [matchesInner, evaluate, if_neg (by omega), anyMatch_eq, evaluateAny_eq]
    have hsame : ∀ filter ∈ filters,
        filter.matchesInner json root (depth + 1) = filter.evaluate json root := by
      intro filter hmem
      have hlt := nesting_lt_of_mem hmem
      exact ih filter hmem (depth + 1) (by omega)
    rw [Bool.eq_iff_iff, List.any_eq_true, List.any_eq_true]
    exact exists_congr fun filter ↦ and_congr_right fun hmem ↦ by rw [hsame filter hmem]

/-- The bound only rejects: there is no negation that could turn a rejection around. -/
theorem evaluate_of_matchesInner (root : Value) (filter : EventFilter) :
    ∀ depth, filter.matchesInner json root depth = true → filter.evaluate json root = true := by
  induction filter using EventFilter.induction with
  | hequals path value | hcontains path substring =>
    intro depth hmatches
    rw [matchesInner] at hmatches
    split_ifs at hmatches
    rw [evaluate]
    exact hmatches
  | hall filters ih =>
    intro depth hmatches
    rw [matchesInner] at hmatches
    split_ifs at hmatches
    rw [allMatch_eq, List.all_eq_true] at hmatches
    rw [evaluate, evaluateAll_eq, List.all_eq_true]
    exact fun filter hmem ↦ ih filter hmem (depth + 1) (hmatches filter hmem)
  | hany filters ih =>
    intro depth hmatches
    rw [matchesInner] at hmatches
    split_ifs at hmatches
    rw [anyMatch_eq, List.any_eq_true] at hmatches
    rw [evaluate, evaluateAny_eq, List.any_eq_true]
    obtain ⟨filter, hmem, hfilter⟩ := hmatches
    exact ⟨filter, hmem, ih filter hmem (depth + 1) hfilter⟩

/-- A filter is evaluated as it is meant if its nesting is within the bound, and one that is nested deeper
accepts only what it is meant to accept. -/
theorem matches_faithful (filter : EventFilter) (payload : Payload) :
    (filter.nesting ≤ maxFilterDepth →
        filter.matches json payload = filter.accepts json payload) ∧
      (filter.matches json payload = true → filter.accepts json payload = true) := by
  unfold «matches» accepts
  cases json.fromSlice payload with
  | none => exact ⟨fun _ ↦ rfl, fun h ↦ h⟩
  | some root =>
    exact ⟨fun hnesting ↦ matchesInner_eq_evaluate json root filter 0 (by omega),
      evaluate_of_matchesInner json root filter 0⟩

end EventFilter

end Seidrum.EventBus
