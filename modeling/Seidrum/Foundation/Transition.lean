import Mathlib.Data.List.Basic

/-!
# Machines and runs

A machine answers each input with an output and a next state.  Two machines related by a simulation
give the same outputs on the same inputs, and what one step preserves holds after every run.

A system moves by labelled steps that may be disabled.  A guard on a system selects the runs whose
steps all satisfy a condition on the state before the step; an invariant of the guarded steps holds
in every state such a run reaches.
-/

namespace Seidrum.Foundation

section History

variable {α : Type*} {P : List α → α → Prop}

/-- A condition on every element of a history and what came before it. -/
def Throughout (P : List α → α → Prop) (history : List α) : Prop :=
  ∀ before x after, history = before ++ x :: after → P before x

theorem throughout_nil : Throughout P [] :=
  fun before x after h ↦
    absurd h.symm (List.append_ne_nil_of_right_ne_nil before (List.cons_ne_nil x after))

variable {history : List α} {x : α}

/-- What holds throughout holds of the last element. -/
theorem Throughout.last (h : Throughout P history) (hlast : x ∈ history.getLast?) :
    P history.dropLast x :=
  h _ x [] (List.dropLast_append_getLast? x hlast).symm

theorem throughout_concat : Throughout P (history ++ [x]) ↔ Throughout P history ∧ P history x := by
  constructor
  · intro h
    constructor
    · intro before y after hsplit
      exact h before y (after ++ [x]) (by rw [hsplit, List.append_assoc, List.cons_append])
    · exact h history x [] rfl
  · rintro ⟨hhistory, hx⟩ before y after hsplit
    rcases List.eq_nil_or_concat after with rfl | ⟨rest, z, rfl⟩
    · obtain ⟨rfl, hlast⟩ := List.append_inj' hsplit rfl
      obtain rfl := List.cons.inj hlast |>.1
      exact hx
    · rw [List.concat_eq_append, ← List.cons_append, ← List.append_assoc] at hsplit
      exact hhistory before y rest (List.append_inj' hsplit rfl).1

end History

/-- A deterministic machine with inputs and outputs. -/
abbrev Machine (σ Input Output : Type*) := σ → Input → Output × σ

namespace Machine

variable {σ τ Input Output : Type*}

/-- The state after a list of inputs. -/
def run (machine : Machine σ Input Output) (state : σ) (inputs : List Input) : σ :=
  inputs.foldl (fun state input ↦ (machine state input).2) state

/-- The outputs given along a list of inputs. -/
def outputs (machine : Machine σ Input Output) : σ → List Input → List Output
  | _, [] => []
  | state, input :: rest => (machine state input).1 :: outputs machine (machine state input).2 rest

@[simp]
theorem run_nil (machine : Machine σ Input Output) (state : σ) : machine.run state [] = state := rfl

@[simp]
theorem run_cons (machine : Machine σ Input Output) (state : σ) (input : Input)
    (rest : List Input) :
    machine.run state (input :: rest) = machine.run (machine state input).2 rest := rfl

theorem run_append (machine : Machine σ Input Output) (state : σ) (first rest : List Input) :
    machine.run state (first ++ rest) = machine.run (machine.run state first) rest :=
  List.foldl_append

theorem run_concat (machine : Machine σ Input Output) (state : σ) (inputs : List Input)
    (input : Input) :
    machine.run state (inputs ++ [input]) = (machine (machine.run state inputs) input).2 :=
  run_append machine state inputs [input]

@[simp]
theorem outputs_nil (machine : Machine σ Input Output) (state : σ) :
    machine.outputs state [] = [] := rfl

@[simp]
theorem length_outputs (machine : Machine σ Input Output) (state : σ) (inputs : List Input) :
    (machine.outputs state inputs).length = inputs.length := by
  induction inputs generalizing state with
  | nil => rfl
  | cons input rest ih => rw [outputs, List.length_cons, List.length_cons, ih]

theorem outputs_append (machine : Machine σ Input Output) (state : σ) (first rest : List Input) :
    machine.outputs state (first ++ rest) =
      machine.outputs state first ++ machine.outputs (machine.run state first) rest := by
  induction first generalizing state with
  | nil => rfl
  | cons input first ih => rw [List.cons_append, outputs, ih, outputs, run_cons, List.cons_append]

theorem outputs_concat (machine : Machine σ Input Output) (state : σ) (inputs : List Input)
    (input : Input) :
    machine.outputs state (inputs ++ [input]) =
      machine.outputs state inputs ++ [(machine (machine.run state inputs) input).1] :=
  outputs_append machine state inputs [input]

variable {Ok : Input → Prop} {inputs : List Input} {left : Machine σ Input Output}
  {right : Machine τ Input Output} {Rel : σ → τ → Prop} {s : σ} {t : τ}

/-- What holds of the output of every step holds of all outputs. -/
theorem forall_outputs {machine : Machine σ Input Output} {P : Output → Prop}
    (hstep : ∀ state input, Ok input → P (machine state input).1) (state : σ)
    (hok : ∀ input ∈ inputs, Ok input) : ∀ output ∈ machine.outputs state inputs, P output := by
  induction inputs generalizing state with
  | nil => exact fun _ hmem ↦ absurd hmem List.not_mem_nil
  | cons input rest ih =>
    intro output hmem
    rcases List.mem_cons.mp hmem with rfl | hrest
    · exact hstep state input (hok input List.mem_cons_self)
    · exact ih _ (fun other hother ↦ hok other (List.mem_cons_of_mem _ hother)) output hrest

section

variable
  (hstep : ∀ s t input, Ok input → Rel s t →
      (left s input).1 = (right t input).1 ∧ Rel (left s input).2 (right t input).2)
  (hinit : Rel s t) (hok : ∀ input ∈ inputs, Ok input)
include hstep hinit hok

/-- Machines related by a simulation give the same outputs. -/
theorem outputs_eq_of_simulation : left.outputs s inputs = right.outputs t inputs := by
  induction inputs generalizing s t with
  | nil => rfl
  | cons input rest ih =>
    obtain ⟨hout, hnext⟩ := hstep s t input (hok input List.mem_cons_self) hinit
    have hrest := ih hnext fun other hmem ↦ hok other (List.mem_cons_of_mem _ hmem)
    rw [outputs, outputs, hout, hrest]

/-- A simulation also relates the states two machines reach. -/
theorem run_simulation : Rel (left.run s inputs) (right.run t inputs) := by
  induction inputs generalizing s t with
  | nil => exact hinit
  | cons input rest ih =>
    exact ih (hstep s t input (hok input List.mem_cons_self) hinit).2 fun other hmem ↦
      hok other (List.mem_cons_of_mem _ hmem)

end

end Machine

/-- A system whose labelled steps may be disabled. -/
abbrev Steps (σ Label : Type*) := σ → Label → Option σ

namespace Steps

variable {σ Label : Type*}

/-- The states reached by enabled steps that all satisfy a guard. -/
inductive Reach (step : Steps σ Label) (guard : σ → Label → Prop) (init : σ) : σ → Prop
  | init : Reach step guard init init
  | next {state next : σ} {label : Label} (before : Reach step guard init state)
      (hguard : guard state label) (hstep : step state label = some next) :
      Reach step guard init next

variable {step : Steps σ Label} {guard guard' : σ → Label → Prop} {init state : σ}

/-- What holds initially and is kept by every guarded step holds in every state reached. -/
theorem Reach.invariant {Inv : σ → Prop} (hreach : Reach step guard init state)
    (hinit : Inv init)
    (hstep : ∀ s label s', Inv s → guard s label → step s label = some s' → Inv s') :
    Inv state := by
  induction hreach with
  | init => exact hinit
  | next _ hguard hnext ih => exact hstep _ _ _ ih hguard hnext

theorem Reach.weaken (hreach : Reach step guard init state)
    (hguard : ∀ s label, guard s label → guard' s label) : Reach step guard' init state :=
  hreach.invariant .init fun _ _ _ hbefore h hnext ↦ .next hbefore (hguard _ _ h) hnext

theorem Reach.trans {middle : σ} (hfirst : Reach step guard init middle)
    (hsecond : Reach step guard middle state) : Reach step guard init state :=
  hsecond.invariant hfirst fun _ _ _ hbefore h hnext ↦ .next hbefore h hnext

/-- Take the steps of a list of labels. -/
def execute (step : Steps σ Label) : σ → List Label → Option σ
  | s, [] => some s
  | s, label :: rest => (step s label).bind fun s' ↦ execute step s' rest

/-- Every label of an execution satisfies a guard in the state it is taken from. -/
def Guarded (step : Steps σ Label) (guard : σ → Label → Prop) : σ → List Label → Prop
  | _, [] => True
  | s, label :: rest => guard s label ∧ ∀ s' ∈ step s label, Guarded step guard s' rest

instance decidableGuarded [∀ s label, Decidable (guard s label)] :
    ∀ s labels, Decidable (Guarded step guard s labels)
  | _, [] => isTrue trivial
  | s, label :: rest =>
      have := fun s' ↦ decidableGuarded s' rest
      inferInstanceAs (Decidable (guard s label ∧ ∀ s' ∈ step s label, Guarded step guard s' rest))

variable {labels : List Label}

/-- Labels that satisfy a guard in every state. -/
theorem guarded_of_mem (hguard : ∀ label ∈ labels, ∀ s, guard s label) (s : σ) :
    Guarded step guard s labels := by
  induction labels generalizing s with
  | nil => trivial
  | cons label rest ih =>
    exact ⟨hguard label List.mem_cons_self s,
      fun next _ ↦ ih (fun other hmem ↦ hguard other (List.mem_cons_of_mem _ hmem)) next⟩

/-- A guard that always holds. -/
theorem guarded_of_forall (hguard : ∀ s label, guard s label) (s : σ) (labels : List Label) :
    Guarded step guard s labels := by
  induction labels generalizing s with
  | nil => trivial
  | cons label rest ih => exact ⟨hguard s label, fun next _ ↦ ih next⟩

/-- A condition on every state of an execution. -/
def Always (step : Steps σ Label) (P : σ → Prop) : σ → List Label → Prop
  | s, [] => P s
  | s, label :: rest => P s ∧ ∀ s' ∈ step s label, Always step P s' rest

theorem Always.first {P : σ → Prop} {s : σ} (h : Always step P s labels) : P s := by
  cases labels with
  | nil => exact h
  | cons label rest => exact h.1

theorem reach_of_execute (hguard : Guarded step guard init labels)
    (hexecute : execute step init labels = some state) : Reach step guard init state := by
  induction labels generalizing init with
  | nil =>
    cases hexecute
    exact .init
  | cons label rest ih =>
    obtain ⟨next, hnext, hrest⟩ := Option.bind_eq_some_iff.mp hexecute
    have hfirst : Reach step guard init next := .next .init hguard.1 hnext
    exact hfirst.trans (ih (hguard.2 next hnext) hrest)

end Steps

end Seidrum.Foundation
