import Mathlib.Data.List.Induction
import Seidrum.Foundation.Positions
import Seidrum.Foundation.Transition

/-!
# Programs and their interleavings

A program asks its environment for one operation at a time and goes on with the answer; between two
operations nothing else of it can be seen.  Tasks are programs that run beside each other over a
shared state: a step performs the next operation of one of them.

A protocol says which operations a program may ask for, given the operations it has performed and
their answers.  A program that follows a protocol on its own follows it in every interleaving, so an
invariant of the shared state only has to be kept by operations their task's protocol allows.
-/

namespace Seidrum.Foundation

universe u v w

/-- Code that ends with a value, or performs an operation and goes on with the answer. -/
inductive Program {Op : Type u} (Answer : Op → Type v) (α : Type w) : Type max u v w
  | done (value : α)
  | call (op : Op) (next : Answer op → Program Answer α)

namespace Program

variable {Op : Type u} {Answer : Op → Type v} {α β ε : Type w}

def bind : Program Answer α → (α → Program Answer β) → Program Answer β
  | .done value, f => f value
  | .call op next, f => .call op fun answer ↦ (next answer).bind f

instance : Monad (Program Answer) where
  pure := .done
  bind := bind

@[simp]
theorem done_bind (value : α) (f : α → Program Answer β) : (done value).bind f = f value := rfl

/-- Perform one operation and end with its answer. -/
def ask (op : Op) : Program Answer (Answer op) := .call op .done

def isDone : Program Answer α → Bool
  | .done _ => true
  | .call _ _ => false

/-- The operation a program performs next. -/
def next? : Program Answer α → Option Op
  | .done _ => none
  | .call op _ => some op

/-- Run a program on its own; the environment contributes something to each of its operations. -/
def run {σ E : Type*} (perform : σ → (op : Op) → E → Option (Answer op × σ)) :
    Program Answer α → List E → σ → Option (α × σ)
  | .done value, [], state => some (value, state)
  | .call op next, env :: rest, state =>
      (perform state op env).bind fun answered ↦ (next answered.1).run perform rest answered.2
  | _, _, _ => none

/-- A program stopped after some of its operations, or ended with the last of them. -/
def advance {σ E : Type*} (perform : σ → (op : Op) → E → Option (Answer op × σ)) :
    Program Answer α → List E → σ → Option (Program Answer α × σ)
  | program, [], state => some (program, state)
  | .done _, _ :: _, _ => none
  | .call op next, env :: rest, state =>
      (perform state op env).bind fun answered ↦ (next answered.1).advance perform rest answered.2

/-- The value a program ends with if an operation has the same answer whenever it is asked for. -/
def value (answer : (op : Op) → Answer op) : Program Answer α → α
  | .done value => value
  | .call op next => (next (answer op)).value answer

@[simp]
theorem value_pure (answer : (op : Op) → Answer op) (a : α) :
    (pure a : Program Answer α).value answer = a := rfl

@[simp]
theorem value_bind (answer : (op : Op) → Answer op) (program : Program Answer α)
    (f : α → Program Answer β) :
    (program >>= f).value answer = (f (program.value answer)).value answer := by
  induction program with
  | done value => rfl
  | call op next ih => exact ih (answer op)

@[simp]
theorem value_map (answer : (op : Op) → Answer op) (program : Program Answer α) (f : α → β) :
    (f <$> program).value answer = f (program.value answer) :=
  value_bind answer program _

/-- A program whose operations are some of those of a larger environment. -/
def embed {Op' : Type u} {Answer' : Op' → Type v} (f : Op → Op') :
    Program (fun op ↦ Answer' (f op)) α → Program Answer' α
  | .done value => .done value
  | .call op next => .call (f op) fun answer ↦ (next answer).embed f

end Program

/-- The operations allowed in each local state, and the local state after one of them. -/
structure Protocol {Op : Type u} (Answer : Op → Type v) (S : Type*) where
  allowed : S → Op → Prop
  after : S → (op : Op) → Answer op → S

/-- The protocol seen by programs that are embedded in a larger environment. -/
def Protocol.comap {Op Op' : Type u} {Answer' : Op' → Type v} {S : Type*}
    (protocol : Protocol Answer' S) (f : Op → Op') : Protocol (fun op ↦ Answer' (f op)) S where
  allowed s op := protocol.allowed s (f op)
  after s op := protocol.after s (f op)

namespace Program

variable {Op : Type u} {Answer : Op → Type v} {α β ε : Type w} {S : Type*}
variable {protocol : Protocol Answer S} {final : S → β → Prop} {s : S}

/-- Every operation of a program is allowed where it is asked for, whatever the answers were, and
the program ends as it should. -/
def Follows (protocol : Protocol Answer S) (final : S → α → Prop) : S → Program Answer α → Prop
  | s, .done value => final s value
  | s, .call op next =>
      protocol.allowed s op ∧ ∀ answer, Follows protocol final (protocol.after s op answer) (next answer)

variable {program : Program Answer α}

theorem Follows.mono {final final' : S → α → Prop} (h : ∀ s value, final s value → final' s value)
    (hfollows : program.Follows protocol final s) : program.Follows protocol final' s := by
  induction program generalizing s with
  | done value => exact h s value hfollows
  | call op next ih => exact ⟨hfollows.1, fun answer ↦ ih answer (hfollows.2 answer)⟩

/-- The rule of a protocol that asks for nothing. -/
theorem follows_of_forall {final : S → α → Prop} (hallowed : ∀ s op, protocol.allowed s op)
    (hfinal : ∀ s value, final s value) (program : Program Answer α) :
    program.Follows protocol final s := by
  induction program generalizing s with
  | done value => exact hfinal s value
  | call op next ih => exact ⟨hallowed s op, fun answer ↦ ih answer⟩

/-- The rule of invariants: what every allowed operation keeps is kept up to the stop. -/
theorem Follows.invariant {σ E : Type*} {perform : σ → (op : Op) → E → Option (Answer op × σ)}
    {final : S → α → Prop} {P : σ → Prop} {rest : Program Answer α} {envs : List E} {state after : σ}
    (hfollows : program.Follows protocol final s)
    (hstep : ∀ s op, protocol.allowed s op → ∀ before env answer next,
      perform before op env = some (answer, next) → P before → P next)
    (hadvance : program.advance perform envs state = some (rest, after)) (hinv : P state) : P after := by
  induction program generalizing s envs state with
  | done value =>
    cases envs with
    | nil =>
      cases hadvance
      exact hinv
    | cons env envs => cases hadvance
  | call op next ih =>
    cases envs with
    | nil =>
      cases hadvance
      exact hinv
    | cons env envs =>
      obtain ⟨⟨answer, between⟩, hperform, hrest⟩ := Option.bind_eq_some_iff.mp hadvance
      exact ih answer (hfollows.2 answer) hrest
        (hstep s op hfollows.1 state env answer between hperform hinv)

/-- The rule of sequencing: the first part ends where the second may start. -/
theorem Follows.bind {f : α → Program Answer β}
    (h : program.Follows protocol (fun s value ↦ (f value).Follows protocol final s) s) :
    (program.bind f).Follows protocol final s := by
  induction program generalizing s with
  | done value => exact h
  | call op next ih => exact ⟨h.1, fun answer ↦ ih answer (h.2 answer)⟩

/-- The rule of one operation. -/
theorem Follows.ask {op : Op} {final : S → Answer op → Prop} (hallowed : protocol.allowed s op)
    (hfinal : ∀ answer, final (protocol.after s op answer) answer) :
    (Program.ask op).Follows protocol final s :=
  ⟨hallowed, hfinal⟩

/-- The rule of a change of the result. -/
theorem Follows.map {f : α → β} (h : program.Follows protocol (fun s value ↦ final s (f value)) s) :
    (f <$> program).Follows protocol final s :=
  Follows.bind h

/-- The rule of embedding. -/
theorem Follows.embed {Op' : Type u} {Answer' : Op' → Type v} {protocol : Protocol Answer' S}
    {final : S → α → Prop} {f : Op → Op'} {program : Program (fun op ↦ Answer' (f op)) α}
    (h : program.Follows (protocol.comap f) final s) :
    (program.embed f).Follows protocol final s := by
  induction program generalizing s with
  | done value => exact h
  | call op next ih => exact ⟨h.1, fun answer ↦ ih answer (h.2 answer)⟩

/-- Sequencing of programs that may fail: an error ends the whole program. -/
theorem Follows.bindExcept {program : ExceptT ε (Program Answer) α}
    {f : α → ExceptT ε (Program Answer) β} {final : S → Except ε β → Prop}
    (h : program.run.Follows protocol (fun s value ↦
      match value with
      | .ok value => (f value).run.Follows protocol final s
      | .error error => final s (.error error)) s) :
    (program >>= f).run.Follows protocol final s := by
  apply Follows.bind
  apply Follows.mono _ h
  intro s value hvalue
  cases value with
  | ok value | error error => exact hvalue

/-- A program that cannot fail among programs that may. -/
theorem Follows.liftExcept {final : S → Except ε α → Prop}
    (h : program.Follows protocol (fun s value ↦ final s (.ok value)) s) :
    (ExceptT.lift program : ExceptT ε (Program Answer) α).run.Follows protocol final s :=
  Follows.map h

end Program

/-! ## Tasks -/

/-- An operation a task performed, with the answer it was given. -/
structure Performed {Op : Type u} (Answer : Op → Type v) where
  task : ℕ
  op : Op
  answer : Answer op

/-- The local state after the operations a task performed. -/
def Protocol.replay {Op : Type u} {Answer : Op → Type v} {S : Type*} (protocol : Protocol Answer S)
    (start : S) (events : List (Performed Answer)) : S :=
  events.foldl (fun s event ↦ protocol.after s event.op event.answer) start

variable {Op : Type u} {Answer : Op → Type v}

theorem Protocol.replay_concat {S : Type*} (protocol : Protocol Answer S) (start : S)
    (events : List (Performed Answer)) (event : Performed Answer) :
    protocol.replay start (events ++ [event]) =
      protocol.after (protocol.replay start events) event.op event.answer := by
  rw [replay, List.foldl_concat, replay]

/-- A protocol whose local state is all that was performed. -/
def Protocol.ofHistory {Op : Type u} {Answer : Op → Type v}
    (allowed : List (Sigma Answer) → Op → Prop) : Protocol Answer (List (Sigma Answer)) where
  allowed := allowed
  after history op answer := history ++ [⟨op, answer⟩]

theorem Protocol.replay_ofHistory (allowed : List (Sigma Answer) → Op → Prop)
    (events : List (Performed Answer)) :
    (Protocol.ofHistory allowed).replay [] events =
      events.map fun event ↦ ⟨event.op, event.answer⟩ := by
  induction events using List.reverseRecOn with
  | nil => rfl
  | append_singleton events event ih =>
    rw [Protocol.replay_concat, ih, List.map_append]
    rfl

/-- A program in progress and what it was started with. -/
structure Task {Op : Type u} (Input : Type*) (Answer : Op → Type v) (α : Type w) where
  input : Input
  program : Program Answer α

/-- Tasks over a shared state, with all they have performed so far. -/
structure Tasks {Op : Type u} (σ Input : Type*) (Answer : Op → Type v) (α : Type w) where
  shared : σ
  tasks : List (Task Input Answer α)
  trace : List (Performed Answer)

/-- Who moves next: a new task starts, or a task performs its next operation. -/
inductive Move (Input Env : Type*)
  | spawn (input : Input)
  | run (task : ℕ) (env : Env)

namespace Tasks

variable {Op : Type u} {Answer : Op → Type v} {α : Type w} {σ Input Env S : Type*}

def init (shared : σ) : Tasks σ Input Answer α := ⟨shared, [], []⟩

def events (state : Tasks σ Input Answer α) (i : ℕ) : List (Performed Answer) :=
  state.trace.filter fun event ↦ event.task = i

variable (body : Input → Program Answer α)
variable (perform : σ → (op : Op) → Env → Option (Answer op × σ))

def spawn (state : Tasks σ Input Answer α) (input : Input) : Tasks σ Input Answer α :=
  { state with tasks := state.tasks ++ [⟨input, body input⟩] }

/-- Task `i` was given `answer` for its operation. -/
def answered (state : Tasks σ Input Answer α) (i : ℕ) (input : Input) (op : Op)
    (next : Answer op → Program Answer α) (answer : Answer op) (shared : σ) :
    Tasks σ Input Answer α where
  shared := shared
  tasks := state.tasks.set i ⟨input, next answer⟩
  trace := state.trace ++ [⟨i, op, answer⟩]

/-- One step.  An operation may depend on what the environment does, and may have to wait. -/
def step : Steps (Tasks σ Input Answer α) (Move Input Env)
  | state, .spawn input => some (state.spawn body input)
  | state, .run i env =>
      match state.tasks[i]? with
      | some ⟨input, .call op next⟩ =>
          (perform state.shared op env).map fun (answer, shared) ↦
            state.answered i input op next answer shared
      | _ => none

variable {body perform} {state after : Tasks σ Input Answer α} {i : ℕ} {shared : σ}

theorem step_run {env : Env} (h : step body perform state (.run i env) = some after) :
    ∃ input op next answer shared, state.tasks[i]? = some ⟨input, .call op next⟩ ∧
      perform state.shared op env = some (answer, shared) ∧
      after = state.answered i input op next answer shared := by
  unfold step at h
  dsimp only at h
  split at h
  · rename_i input op next hat
    obtain ⟨⟨answer, shared⟩, hperform, hafter⟩ := Option.map_eq_some_iff.mp h
    exact ⟨input, op, next, answer, shared, hat, hperform, hafter.symm⟩
  · cases h

theorem events_answered_self (state : Tasks σ Input Answer α) (i : ℕ) (input : Input) (op : Op)
    (next : Answer op → Program Answer α) (answer : Answer op) (shared : σ) :
    (state.answered i input op next answer shared).events i =
      state.events i ++ [⟨i, op, answer⟩] := by
  simp [events, answered, List.filter_append]

theorem events_answered_of_ne (state : Tasks σ Input Answer α) {j : ℕ} (hij : i ≠ j) (input : Input) (op : Op)
    (next : Answer op → Program Answer α) (answer : Answer op) (shared : σ) :
    (state.answered i input op next answer shared).events j = state.events j := by
  simp [events, answered, List.filter_append, hij]

/-- The local state each task has reached. -/
def locals (protocol : Protocol Answer S) (start : S) (state : Tasks σ Input Answer α) (i : ℕ) : S :=
  protocol.replay start (state.events i)

theorem locals_answered (protocol : Protocol Answer S) (start : S) (state : Tasks σ Input Answer α)
    (i : ℕ) (input : Input) (op : Op) (next : Answer op → Program Answer α) (answer : Answer op)
    (shared : σ) :
    (state.answered i input op next answer shared).locals protocol start =
      Function.update (state.locals protocol start) i
        (protocol.after (state.locals protocol start i) op answer) := by
  funext j
  by_cases hji : j = i
  · subst hji
    rw [Function.update_self, locals, events_answered_self, Protocol.replay_concat]
    rfl
  · rw [Function.update_of_ne hji, locals, events_answered_of_ne _ (Ne.symm hji)]
    rfl

/-- Only tasks that were started have performed anything. -/
def Known (state : Tasks σ Input Answer α) : Prop :=
  ∀ event ∈ state.trace, event.task < state.tasks.length

theorem Known.events_eq_nil (h : state.Known) (hi : state.tasks.length ≤ i) : state.events i = [] := by
  apply List.filter_eq_nil_iff.mpr
  intro event hmem htask
  have hlt := h event hmem
  rw [of_decide_eq_true htask] at hlt
  omega

variable {protocol : Input → Protocol Answer S} {start : Input → S} {final : Input → S → α → Prop}

/-- Every task has kept to its protocol so far and will keep to it. -/
structure Following (protocol : Input → Protocol Answer S) (start : Input → S)
    (final : Input → S → α → Prop) (state : Tasks σ Input Answer α) : Prop where
  known : state.Known
  follows : ∀ (i : ℕ) (task : Task Input Answer α), state.tasks[i]? = some task → task.program.Follows
    (protocol task.input) (final task.input)
    ((protocol task.input).replay (start task.input) (state.events i))

theorem following_init (shared : σ) :
    Following protocol start final (init shared : Tasks σ Input Answer α) :=
  ⟨fun _ hmem ↦ absurd hmem List.not_mem_nil, fun i _ hat ↦ by cases hat⟩

theorem Following.spawn (h : Following protocol start final state)
    (hbody : ∀ input, (body input).Follows (protocol input) (final input) (start input)) (input : Input) :
    Following protocol start final (state.spawn body input) := by
  constructor
  · intro event hmem
    have hlt := h.known event hmem
    simp only [Tasks.spawn, List.length_append, List.length_singleton]
    omega
  · intro i task hat
    rcases at_of_concat hat with hold | ⟨rfl, rfl⟩
    · exact h.follows i task hold
    · have hnone : (state.spawn body input).events state.tasks.length = [] :=
        h.known.events_eq_nil (Nat.le_refl _)
      rw [hnone]
      exact hbody input

theorem Following.answered (h : Following protocol start final state) {input : Input} {op : Op}
    {next : Answer op → Program Answer α} (hat : state.tasks[i]? = some ⟨input, .call op next⟩)
    (answer : Answer op) (shared : σ) :
    Following protocol start final (state.answered i input op next answer shared) := by
  constructor
  · intro event hmem
    rw [show (state.answered i input op next answer shared).tasks.length = state.tasks.length from
      List.length_set]
    obtain hold | rfl := mem_of_concat hmem
    · exact h.known event hold
    · exact (List.getElem?_eq_some_iff.mp hat).1
  · intro j task hatj
    rcases at_of_set hatj with ⟨rfl, rfl⟩ | ⟨hij, hold⟩
    · rw [events_answered_self, Protocol.replay_concat]
      exact (h.follows _ _ hat).2 answer
    · rw [events_answered_of_ne _ hij]
      exact h.follows j task hold

variable {guard : Tasks σ Input Answer α → Move Input Env → Prop}

section

variable (hbody : ∀ input, (body input).Follows (protocol input) (final input) (start input))
  (hreach : Steps.Reach (step body perform) guard (init shared) state)
include hbody hreach

/-- In every interleaving of programs that follow a protocol, every task follows it. -/
theorem following_of_reach : Following protocol start final state := by
  apply hreach.invariant (following_init shared)
  intro before move next hbefore _ hstep
  cases move with
  | spawn input =>
    cases hstep
    exact hbefore.spawn hbody input
  | run i env =>
    obtain ⟨input, op, rest, answer, shared, hat, -, rfl⟩ := step_run hstep
    exact hbefore.answered hat answer shared

/-- An invariant of tasks that follow a protocol: it is enough that operations the protocol allows
keep it. -/
theorem invariant_of_follows {Inv : Tasks σ Input Answer α → Prop} (hinit : Inv (init shared))
    (hspawn : ∀ before input, Following protocol start final before → Inv before →
      Inv (before.spawn body input))
    (hrun : ∀ (before : Tasks σ Input Answer α) i input op next env answer shared,
      Following protocol start final before → Inv before →
      before.tasks[i]? = some ⟨input, .call op next⟩ → guard before (.run i env) →
      (protocol input).allowed ((protocol input).replay (start input) (before.events i)) op →
      perform before.shared op env = some (answer, shared) →
      Inv (before.answered i input op next answer shared)) : Inv state := by
  have hboth : Following protocol start final state ∧ Inv state := by
    apply hreach.invariant ⟨following_init shared, hinit⟩
    rintro before (input | ⟨i, env⟩) next ⟨hfollowing, hinv⟩ hguard hstep
    · cases hstep
      exact ⟨hfollowing.spawn hbody input, hspawn before input hfollowing hinv⟩
    · obtain ⟨input, op, rest, answer, shared, hat, hperform, rfl⟩ := step_run hstep
      have hallowed := (hfollowing.follows i _ hat).1
      exact ⟨hfollowing.answered hat answer shared,
        hrun before i input op rest env answer shared hfollowing hinv hat hguard hallowed hperform⟩
  exact hboth.2

end

/-- Everything tasks of one protocol have performed was allowed when it was performed. -/
theorem allowed_throughout {protocol : Protocol Answer S} {s : S}
    (hbody : ∀ input, (body input).Follows protocol (final input) s)
    (hreach : Steps.Reach (step body perform) guard (init shared) state) :
    Throughout (fun before event ↦ protocol.allowed
      (protocol.replay s (before.filter fun earlier ↦ earlier.task = event.task)) event.op)
      state.trace := by
  apply invariant_of_follows (fun input ↦ hbody input) hreach
  · exact throughout_nil
  · exact fun _ _ _ hbefore ↦ hbefore
  · intro before i input op next env answer shared' _ hbefore _ _ hallowed _
    exact throughout_concat.mpr ⟨hbefore, hallowed⟩

end Tasks

end Seidrum.Foundation
