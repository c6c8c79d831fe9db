import Mathlib.Data.List.Infix
import Mathlib.Logic.Function.Basic
import Seidrum.Foundation.TextLines

/-!
# Files written by name

A file is found by a name in a directory.  The name is resolved by its text, as if no directory on the
way were missing or a link, and may lead anywhere.  A program is a list of commands, each of which looks
at the disk and fails, does nothing or asks the operating system for an action; the first failure ends
the program, and what was done before it stays.
-/

namespace Seidrum.Foundation.Files

/-- The names that lead to a file from the root. -/
abbrev Path := List String

def components (name : String) : List String := (name.toList.splitOn '/').map String.ofList

def enter (place : Path) (part : String) : Path :=
  if part = "" ∨ part = "." then place
  else if part = ".." then place.dropLast
  else place ++ [part]

/-- Where a name leads from a directory. -/
def resolve (dir : Path) (name : String) : Path :=
  (components name).foldl enter (if name.toList.head? = some '/' then [] else dir)

/-- The operating system takes no name with this character. -/
def isAccepted (name : String) : Bool := '\x00' ∉ name.toList

/-- A name that does not end like the name of a directory. -/
def isFileName (name : String) : Bool :=
  isAccepted name && (components name).getLast?.all (· ∉ ["", ".", ".."])

theorem not_mem_of_mem_components {name part : String} (h : part ∈ components name) :
    '/' ∉ part.toList := by
  obtain ⟨piece, hpiece, rfl⟩ := List.mem_map.mp h
  rw [String.toList_ofList]
  exact not_mem_of_mem_splitOn hpiece

/-- A single name leads into the directory. -/
theorem resolve_of_not_mem {dir : Path} {name : String} (hslash : '/' ∉ name.toList)
    (hfile : isFileName name) : resolve dir name = dir ++ [name] := by
  have hcomponents : components name = [name] := by
    rw [components, List.splitOn_eq_singleton hslash, List.map_singleton, String.ofList_toList]
  have hhead : name.toList.head? ≠ some '/' := fun h ↦ hslash (List.mem_of_mem_head? h)
  simp only [isFileName, hcomponents, List.getLast?_singleton, Option.all_some, Bool.and_eq_true,
    decide_eq_true_eq, List.mem_cons, List.not_mem_nil, or_false, not_or] at hfile
  obtain ⟨-, hempty, hdot, hdots⟩ := hfile
  rw [resolve, hcomponents, if_neg hhead, List.foldl_cons, List.foldl_nil, enter,
    if_neg (not_or.mpr ⟨hempty, hdot⟩), if_neg hdots]

/-- With an extension at the end of a text, the last piece of it ends with the extension. -/
theorem exists_getLast?_splitOn {α : Type*} [BEq α] [LawfulBEq α] {sep : α} {ext : List α}
    (hext : sep ∉ ext) (text : List α) :
    ∃ stem, ((text ++ ext).splitOn sep).getLast? = some (stem ++ ext) := by
  induction text with
  | nil => exact ⟨[], by rw [List.nil_append, List.splitOn_eq_singleton hext, List.getLast?_singleton]⟩
  | cons first text ih =>
    obtain ⟨stem, hstem⟩ := ih
    rw [List.cons_append, List.splitOn_cons_eq_if_modifyHead]
    generalize (text ++ ext).splitOn sep = pieces at hstem
    split
    · exact ⟨stem, by rw [List.getLast?_cons, hstem, Option.getD_some]⟩
    · rcases pieces with _ | ⟨piece, _ | ⟨next, rest⟩⟩
      · cases hstem
      · cases hstem
        exact ⟨first :: stem, rfl⟩
      · exact ⟨stem, hstem⟩

/-- An extension makes a name the name of a file. -/
structure IsExtension (ext : String) : Prop where
  slash : '/' ∉ ext.toList
  accepted : isAccepted ext
  length : 2 < ext.toList.length

theorem isAccepted_append (name ext : String) :
    isAccepted (name ++ ext) = (isAccepted name && isAccepted ext) := by
  simp [isAccepted, String.toList_append]

theorem exists_getLast?_components {ext : String} (hext : IsExtension ext) (name : String) :
    ∃ stem : List Char,
      (components (name ++ ext)).getLast? = some (String.ofList (stem ++ ext.toList)) := by
  obtain ⟨stem, hstem⟩ := exists_getLast?_splitOn hext.slash name.toList
  exact ⟨stem, by rw [components, String.toList_append, List.getLast?_map, hstem, Option.map_some]⟩

theorem isFileName_append {ext : String} (hext : IsExtension ext) (name : String) :
    isFileName (name ++ ext) = isAccepted name := by
  obtain ⟨stem, hstem⟩ := exists_getLast?_components hext name
  have hlength := hext.length
  have hne (other : String) (hother : other.toList.length ≤ 2) :
      String.ofList (stem ++ ext.toList) ≠ other := by
    rintro rfl
    rw [String.toList_ofList, List.length_append] at hother
    omega
  have hlast : String.ofList (stem ++ ext.toList) ∉ ["", ".", ".."] := by
    simp only [List.mem_cons, List.not_mem_nil, or_false, not_or]
    exact ⟨hne _ (by decide), hne _ (by decide), hne _ (by decide)⟩
  rw [isFileName, hstem, Option.all_some, decide_eq_true hlast, Bool.and_true, isAccepted_append,
    hext.accepted, Bool.and_true]

/-- A name of a file leads to a path that ends with its last component. -/
theorem getLast?_resolve {name : String} (dir : Path) (hfile : isFileName name) :
    (resolve dir name).getLast? = (components name).getLast? := by
  unfold resolve
  generalize (if name.toList.head? = some '/' then [] else dir) = start
  rcases List.eq_nil_or_concat (components name) with hnil | ⟨first, last, hlast⟩
  · have hne : components name ≠ [] := by simp [components]
    exact absurd hnil hne
  · rw [List.concat_eq_append] at hlast
    rw [isFileName, hlast, List.getLast?_append, List.getLast?_singleton] at hfile
    simp only [Option.some_or, Option.all_some, Bool.and_eq_true, decide_eq_true_eq, List.mem_cons,
      List.not_mem_nil, or_false, not_or] at hfile
    obtain ⟨-, hempty, hdot, hdots⟩ := hfile
    rw [hlast, List.foldl_append, List.foldl_cons, List.foldl_nil, enter,
      if_neg (not_or.mpr ⟨hempty, hdot⟩), if_neg hdots, List.getLast?_append, List.getLast?_append]
    rfl

/-- A name with an extension leads to a path whose last name has it. -/
theorem suffix_of_resolve {ext name word : String} {dir : Path} (hext : IsExtension ext)
    (haccepted : isAccepted name) (h : (resolve dir (name ++ ext)).getLast? = some word) :
    ext.toList <:+ word.toList := by
  obtain ⟨stem, hstem⟩ := exists_getLast?_components hext name
  rw [getLast?_resolve dir (by rw [isFileName_append hext, haccepted]), hstem] at h
  cases h
  rw [String.toList_ofList]
  exact List.suffix_append stem ext.toList

inductive Node (Content : Type*)
  | dir
  | file (content : Content)
  deriving DecidableEq, Repr

def Node.isDir {Content : Type*} : Node Content → Bool
  | dir => true
  | _ => false

abbrev Disk (Content : Type*) := Path → Option (Node Content)

/-- How texts are kept in files. -/
structure Coding (Text Content : Type*) where
  encode : Text → Content
  decode : Content → Option Text
  decode_encode : ∀ text, decode (encode text) = some text

section

variable {Content : Type*}

namespace Disk

def isDir (disk : Disk Content) (path : Path) : Bool := (disk path).any Node.isDir

def isFile (disk : Disk Content) (path : Path) : Bool := (disk path).any fun node ↦ !node.isDir

theorem isFile_of_isDir {disk : Disk Content} {path : Path} (h : disk.isDir path) :
    disk.isFile path = false := by
  unfold isDir at h
  unfold isFile
  cases hnode : disk path with
  | none => rfl
  | some node =>
    rw [hnode, Option.any_some] at h
    rw [Option.any_some, h, Bool.not_true]

/-- Whether something can be found by the name. -/
def has (disk : Disk Content) (dir : Path) (name : String) : Bool :=
  if isFileName name then (disk (resolve dir name)).isSome
  else isAccepted name && disk.isDir (resolve dir name)

def put (disk : Disk Content) (path : Path) (node : Option (Node Content)) : Disk Content :=
  Function.update disk path node

/-- The disk with the directories that lead to a path. -/
def withDirs (disk : Disk Content) (path : Path) : Disk Content :=
  fun other ↦ if disk other = none ∧ other <+: path then some .dir else disk other

/-- The disk without a path and all that lies below it. -/
def without (disk : Disk Content) (path : Path) : Disk Content :=
  fun other ↦ if path <+: other then none else disk other

theorem eq_none_of_has {disk : Disk Content} {dir : Path} {name : String} (h : disk.has dir name = false)
    (hfile : isFileName name) : disk (resolve dir name) = none := by
  rw [has, if_pos hfile] at h
  simpa using h

end Disk

/-- What the operating system does: it may refuse an action, or break off writing a file and leave
something in its place. -/
inductive Reply (Content : Type*)
  | done
  | refused (error : String)
  | broken (error : String) (left : Content)

inductive Action (Content : Type*)
  /-- Something that may fail but changes no file. -/
  | call
  | makeDir (path : Path)
  | write (dir : Path) (name : String) (content : Content) (context : String)
  | remove (dir : Path) (name : String)
  /-- Remove a file or a directory with all that it holds; failing is no error. -/
  | discard (path : Path)

/-- The disk after some actions, the files that were written or removed, and why the actions ended
early. -/
structure Effect (Content ε : Type*) where
  disk : Disk Content
  touched : Path → Bool
  error : Option ε

namespace Effect

variable {ε : Type*}

def quiet (disk : Disk Content) : Effect Content ε := ⟨disk, fun _ ↦ false, none⟩

def failed (disk : Disk Content) (error : ε) : Effect Content ε := ⟨disk, fun _ ↦ false, some error⟩

/-- The effect on one file. -/
def changed (disk : Disk Content) (path : Path) (node : Option (Node Content)) (error : Option ε) :
    Effect Content ε :=
  ⟨disk.put path node, fun other ↦ other = path, error⟩

def andThen (first : Effect Content ε) (next : Disk Content → Effect Content ε) : Effect Content ε :=
  match first.error with
  | some _ => first
  | none =>
      let last := next first.disk
      ⟨last.disk, fun path ↦ first.touched path || last.touched path, last.error⟩

def mapError {δ : Type*} (f : ε → δ) (effect : Effect Content ε) : Effect Content δ :=
  ⟨effect.disk, effect.touched, effect.error.map f⟩

/-- No file was written or removed. -/
def Untouched (effect : Effect Content ε) : Prop := ∀ path, effect.touched path = false

end Effect

namespace Action

def perform (reply : Reply Content) (disk : Disk Content) : Action Content → Effect Content String
  | call =>
      match reply with
      | .done => .quiet disk
      | .refused error | .broken error _ => .failed disk error
  | makeDir path =>
      match disk path with
      | some .dir => .quiet disk
      | some _ => .failed disk "File exists (os error 17)"
      | none =>
          match reply with
          | .done => { Effect.quiet disk with disk := disk.withDirs path }
          | .refused error | .broken error _ => .failed disk error
  | write dir name content context =>
      if isFileName name ∧ disk.isDir (resolve dir name) = false then
        match reply with
        | .done => .changed disk (resolve dir name) (some (.file content)) none
        | .refused error => .failed disk (context ++ error)
        | .broken error left =>
            .changed disk (resolve dir name) (some (.file left)) (some (context ++ error))
      else .failed disk (context ++ "Is a directory (os error 21)")
  | remove dir name =>
      if isFileName name ∧ disk.isFile (resolve dir name) then
        match reply with
        | .done => .changed disk (resolve dir name) none none
        | .refused error | .broken error _ => .failed disk error
      else .failed disk "No such file (os error 2)"
  | discard path =>
      match reply with
      | .refused _ => .quiet disk
      | _ => ⟨disk.without path, fun other ↦ path.isPrefixOf other && disk.isFile other, none⟩

/-! ### What an action does, by the state before it -/

def Succeeds (reply : Reply Content) (disk : Disk Content) : Action Content → Prop
  | call => reply = .done
  | makeDir path => disk path = some .dir ∨ disk path = none ∧ reply = .done
  | write dir name _ _ =>
      (isFileName name ∧ disk.isDir (resolve dir name) = false) ∧ reply = .done
  | remove dir name => (isFileName name ∧ disk.isFile (resolve dir name)) ∧ reply = .done
  | discard _ => True

/-- The action writes or removes the file. -/
def Touches (reply : Reply Content) (disk : Disk Content) (path : Path) : Action Content → Prop
  | call | makeDir _ => False
  | write dir name _ _ =>
      (isFileName name ∧ disk.isDir (resolve dir name) = false) ∧
        (∀ error, reply ≠ .refused error) ∧ path = resolve dir name
  | remove dir name =>
      (isFileName name ∧ disk.isFile (resolve dir name)) ∧ reply = .done ∧ path = resolve dir name
  | discard dir => (∀ error, reply ≠ .refused error) ∧ dir <+: path ∧ disk.isFile path

variable {reply : Reply Content} {disk : Disk Content} {action : Action Content} {path : Path}

theorem perform_iff (path : Path) : ((action.perform reply disk).error = none ↔ action.Succeeds reply disk) ∧
    ((action.perform reply disk).touched path ↔ action.Touches reply disk path) := by
  cases action with
  | call => cases reply <;> simp [perform, Succeeds, Touches, Effect.quiet, Effect.failed]
  | makeDir path =>
    rcases hnode : disk path with _ | _ | _ <;> cases reply <;>
      simp [perform, Succeeds, Touches, hnode, Effect.quiet, Effect.failed]
  | write dir name content context =>
    simp only [perform, Succeeds, Touches]
    by_cases h : isFileName name ∧ disk.isDir (resolve dir name) = false
    · rw [if_pos h, and_iff_right h, and_iff_right h]
      cases reply <;> simp [Effect.changed, Effect.failed]
    · rw [if_neg h]
      simp [h, Effect.failed]
  | remove dir name =>
    simp only [perform, Succeeds, Touches]
    by_cases h : isFileName name ∧ disk.isFile (resolve dir name)
    · rw [if_pos h, and_iff_right h, and_iff_right h]
      cases reply <;> simp [Effect.changed, Effect.failed]
    · rw [if_neg h]
      simp [h, Effect.failed]
  | discard path => cases reply <;> simp [perform, Succeeds, Touches, Effect.quiet]

/-- The action removes no file. -/
def Keeps : Action Content → Prop
  | remove _ _ | discard _ => False
  | _ => True

theorem perform_ne_none (hkeeps : action.Keeps) (h : disk path ≠ none) :
    (action.perform reply disk).disk path ≠ none := by
  have hput {place : Path} (node : Node Content) : disk.put place (some node) path ≠ none := by
    rw [Disk.put, Function.update_apply]
    split
    · exact Option.some_ne_none node
    · exact h
  cases action with
  | call => cases reply <;> exact h
  | makeDir dir =>
    have hdirs : disk.withDirs dir path ≠ none := by
      unfold Disk.withDirs
      split
      · exact Option.some_ne_none _
      · exact h
    rcases hnode : disk dir with _ | _ | _ <;> cases reply <;> simp only [perform, hnode]
    all_goals first | exact hdirs | exact h
  | write dir name content context =>
    simp only [perform]
    split
    · cases reply with
      | done => exact hput _
      | refused error => exact h
      | broken error left => exact hput _
    · exact h
  | remove dir name | discard dir => exact hkeeps.elim

/-- A directory only appears when it is made. -/
theorem perform_isDir (hmake : ∀ dir, action ≠ .makeDir dir) (h : disk.isDir path = false) :
    (action.perform reply disk).disk.isDir path = false := by
  have hput {place : Path} {node : Option (Node Content)} (hnode : node.any Node.isDir = false) :
      (disk.put place node).isDir path = false := by
    rw [Disk.isDir, Disk.put, Function.update_apply]
    split
    · exact hnode
    · exact h
  cases action with
  | call => cases reply <;> exact h
  | makeDir dir => exact absurd rfl (hmake dir)
  | write dir name content context =>
    simp only [perform]
    split
    · cases reply with
      | done => exact hput rfl
      | refused error => exact h
      | broken error left => exact hput rfl
    · exact h
  | remove dir name =>
    simp only [perform]
    split
    · cases reply with
      | done => exact hput rfl
      | refused error | broken error left => exact h
    · exact h
  | discard dir =>
    have hwithout : (disk.without dir).isDir path = false := by
      rw [Disk.isDir, Disk.without]
      split
      · rfl
      · exact h
    cases reply with
    | done => exact hwithout
    | refused error => exact h
    | broken error left => exact hwithout

end Action

/-- A command of a program decides by the state of the disk. -/
abbrev Command (Content : Type*) := Disk Content → Except String (Option (Action Content))

namespace Command

def perform (reply : Reply Content) (disk : Disk Content) (command : Command Content) :
    Effect Content String :=
  match command disk with
  | .error error => .failed disk error
  | .ok none => .quiet disk
  | .ok (some action) => action.perform reply disk

def Succeeds (reply : Reply Content) (disk : Disk Content) (command : Command Content) : Prop :=
  match command disk with
  | .error _ => False
  | .ok none => True
  | .ok (some action) => action.Succeeds reply disk

def Touches (reply : Reply Content) (disk : Disk Content) (path : Path) (command : Command Content) :
    Prop :=
  match command disk with
  | .error _ | .ok none => False
  | .ok (some action) => action.Touches reply disk path

variable {reply : Reply Content} {disk : Disk Content} {command : Command Content} {path : Path}

theorem perform_error_iff :
    (command.perform reply disk).error = none ↔ command.Succeeds reply disk := by
  unfold perform Succeeds
  split
  · simp [Effect.failed]
  · simp [Effect.quiet]
  · exact (Action.perform_iff []).1

theorem perform_touched_iff :
    (command.perform reply disk).touched path ↔ command.Touches reply disk path := by
  unfold perform Touches
  split
  · simp [Effect.failed]
  · simp [Effect.quiet]
  · exact (Action.perform_iff path).2

def fail (error : String) : Command Content := fun _ ↦ .error error

/-- Go on if a check passes. -/
def check (passed : Except String Unit) : Command Content := fun _ ↦ passed.map fun _ ↦ none

def act (action : Action Content) : Command Content := fun _ ↦ .ok (some action)

/-- A command that asks for no removal loses nothing. -/
theorem perform_ne_none (hkeeps : ∀ action, command disk = .ok (some action) → action.Keeps)
    (h : disk path ≠ none) : (command.perform reply disk).disk path ≠ none := by
  unfold perform
  split
  · exact h
  · exact h
  · rename_i action haction
    exact Action.perform_ne_none (hkeeps action haction) h

theorem perform_isDir
    (hmake : ∀ action, command disk = .ok (some action) → ∀ dir, action ≠ .makeDir dir)
    (h : disk.isDir path = false) : (command.perform reply disk).disk.isDir path = false := by
  unfold perform
  split
  · exact h
  · exact h
  · rename_i action haction
    exact Action.perform_isDir (hmake action haction) h

theorem touches_iff : command.Touches reply disk path ↔
    ∃ action, command disk = .ok (some action) ∧ action.Touches reply disk path := by
  unfold Touches
  split <;> simp_all

theorem perform_of_none (h : command disk = .ok none) : command.perform reply disk = .quiet disk := by
  rw [perform, h]

theorem succeeds_check {passed : Except String Unit} (h : (check passed).Succeeds reply disk) :
    passed = .ok () := by
  cases passed with
  | error error => exact h.elim
  | ok => rfl

theorem not_touches_check (passed : Except String Unit) : ¬(check passed).Touches reply disk path := by
  cases passed <;> exact id

theorem perform_makeDir (h : disk path = some .dir) :
    (act (.makeDir path)).perform reply disk = .quiet disk := by
  simp [act, perform, Action.perform, h]

theorem perform_write {dir : Path} {name context : String} {content : Content}
    (h : isFileName name ∧ disk.isDir (resolve dir name) = false) :
    ((act (.write dir name content context)).perform .done disk).disk =
      disk.put (resolve dir name) (some (.file content)) := by
  simp only [act, perform, Action.perform, if_pos h]
  rfl

end Command

/-! ## Runs -/

/-- The operating system replies to the commands by their numbers. -/
def runAll : List (Command Content) → (ℕ → Reply Content) → Disk Content → Effect Content String
  | [], _, disk => .quiet disk
  | command :: rest, os, disk =>
      (command.perform (os 0) disk).andThen (runAll rest fun number ↦ os (number + 1))

/-- No command fails. -/
def GoesThrough : List (Command Content) → (ℕ → Reply Content) → Disk Content → Prop
  | [], _, _ => True
  | command :: rest, os, disk =>
      command.Succeeds (os 0) disk ∧
        GoesThrough rest (fun number ↦ os (number + 1)) (command.perform (os 0) disk).disk

/-- A command fails before any command has touched a file, and touches none itself. -/
def FailsFirst : List (Command Content) → (ℕ → Reply Content) → Disk Content → Prop
  | [], _, _ => False
  | command :: rest, os, disk =>
      (∀ path, ¬command.Touches (os 0) disk path) ∧
        (¬command.Succeeds (os 0) disk ∨
          FailsFirst rest (fun number ↦ os (number + 1)) (command.perform (os 0) disk).disk)

namespace Effect

variable {ε : Type*} {first : Effect Content ε} {next : Disk Content → Effect Content ε} {path : Path}

theorem andThen_of_error {error : ε} (h : first.error = some error) : first.andThen next = first := by
  rw [andThen, h]

theorem andThen_of_none (h : first.error = none) :
    first.andThen next =
      ⟨(next first.disk).disk, fun path ↦ first.touched path || (next first.disk).touched path,
        (next first.disk).error⟩ := by
  rw [andThen, h]

theorem andThen_assoc {last : Disk Content → Effect Content ε} :
    (first.andThen next).andThen last = first.andThen fun disk ↦ (next disk).andThen last := by
  obtain ⟨disk, touched, _ | error⟩ := first
  · simp only [andThen]
    obtain ⟨disk', touched', _ | error⟩ := next disk
    · simp only [Bool.or_assoc]
    · rfl
  · rfl

theorem touched_andThen_left (h : first.touched path) : (first.andThen next).touched path := by
  cases hfirst : first.error with
  | some error => rwa [andThen_of_error hfirst]
  | none =>
    rw [andThen_of_none hfirst]
    exact Bool.or_eq_true_iff.mpr (.inl h)

end Effect

section

variable {commands rest : List (Command Content)} {os : ℕ → Reply Content} {disk : Disk Content}

theorem runAll_append : runAll (commands ++ rest) os disk =
    (runAll commands os disk).andThen (runAll rest fun number ↦ os (number + commands.length)) := by
  induction commands generalizing os disk with
  | nil => rfl
  | cons command commands ih =>
    have hrest : runAll (commands ++ rest) (fun number ↦ os (number + 1)) = fun disk ↦
        (runAll commands (fun number ↦ os (number + 1)) disk).andThen
          (runAll rest fun number ↦ os (number + (commands.length + 1))) := funext fun _ ↦ ih
    rw [List.cons_append, runAll, runAll, Effect.andThen_assoc, hrest, List.length_cons]

/-- The rule of runs: what every command keeps is kept, and what every command may touch is all that is
touched. -/
theorem runAll_keeps {I : Disk Content → Prop} {T : Path → Prop}
    (hkeeps : ∀ command ∈ commands, ∀ reply disk, I disk →
      I (command.perform reply disk).disk ∧ ∀ path, command.Touches reply disk path → T path)
    (hinit : I disk) :
    I (runAll commands os disk).disk ∧ ∀ path, (runAll commands os disk).touched path → T path := by
  induction commands generalizing os disk with
  | nil => exact ⟨hinit, fun _ h ↦ by cases h⟩
  | cons command commands ih =>
    have hfirst := hkeeps command List.mem_cons_self (os 0) disk hinit
    rw [runAll]
    cases herror : (command.perform (os 0) disk).error with
    | some error =>
      rw [Effect.andThen_of_error herror]
      exact ⟨hfirst.1, fun path h ↦ hfirst.2 path (Command.perform_touched_iff.mp h)⟩
    | none =>
      set last := runAll commands (fun number ↦ os (number + 1)) (command.perform (os 0) disk).disk
      have hrest : I last.disk ∧ ∀ path, last.touched path → T path :=
        ih (fun command hmem ↦ hkeeps command (List.mem_cons_of_mem _ hmem)) hfirst.1
      rw [Effect.andThen_of_none herror]
      refine ⟨hrest.1, fun path h ↦ ?_⟩
      rcases Bool.or_eq_true_iff.mp h with h | h
      · exact hfirst.2 path (Command.perform_touched_iff.mp h)
      · exact hrest.2 path h

theorem goesThrough_iff : GoesThrough commands os disk ↔ (runAll commands os disk).error = none := by
  induction commands generalizing os disk with
  | nil => exact iff_of_true trivial rfl
  | cons command commands ih =>
    rw [GoesThrough, runAll, ← Command.perform_error_iff]
    cases herror : (command.perform (os 0) disk).error with
    | some error => simp [Effect.andThen_of_error herror, herror]
    | none => simp [Effect.andThen_of_none herror, ih]

theorem failsFirst_iff : FailsFirst commands os disk ↔
    (runAll commands os disk).error ≠ none ∧ (runAll commands os disk).Untouched := by
  induction commands generalizing os disk with
  | nil => exact iff_of_false id fun h ↦ h.1 rfl
  | cons command commands ih =>
    simp only [FailsFirst, runAll, ← Command.perform_error_iff, ← Command.perform_touched_iff, ih,
      Bool.not_eq_true]
    cases herror : (command.perform (os 0) disk).error with
    | some error => simp [Effect.andThen_of_error herror, herror, Effect.Untouched]
    | none =>
      simp only [Effect.andThen_of_none herror, Effect.Untouched, Bool.or_eq_false_iff, forall_and]
      tauto

/-- A program that goes through a list of commands goes on with the rest. -/
theorem runAll_append_of_goesThrough (h : GoesThrough commands os disk) :
    runAll (commands ++ rest) os disk =
      let first := runAll commands os disk
      let last := runAll rest (fun number ↦ os (number + commands.length)) first.disk
      ⟨last.disk, fun path ↦ first.touched path || last.touched path, last.error⟩ := by
  rw [runAll_append, Effect.andThen_of_none (goesThrough_iff.mp h)]

theorem goesThrough_append : GoesThrough (commands ++ rest) os disk ↔
    GoesThrough commands os disk ∧
      GoesThrough rest (fun number ↦ os (number + commands.length))
        (runAll commands os disk).disk := by
  by_cases h : GoesThrough commands os disk
  · rw [and_iff_right h, goesThrough_iff, goesThrough_iff, runAll_append_of_goesThrough h]
  · refine iff_of_false (fun hall ↦ h ?_) fun hall ↦ h hall.1
    rw [goesThrough_iff, runAll_append] at hall
    rw [goesThrough_iff]
    by_contra hne
    obtain ⟨error, herror⟩ := Option.ne_none_iff_exists'.mp hne
    rw [Effect.andThen_of_error herror] at hall
    exact hne hall

theorem touched_append_right {path : Path} (hcommands : GoesThrough commands os disk)
    (h : (runAll rest (fun number ↦ os (number + commands.length))
      (runAll commands os disk).disk).touched path) :
    (runAll (commands ++ rest) os disk).touched path := by
  rw [runAll_append_of_goesThrough hcommands]
  exact Bool.or_eq_true_iff.mpr (.inr h)

theorem touched_cons {command : Command Content} {path : Path}
    (h : command.Touches (os 0) disk path) : (runAll (command :: rest) os disk).touched path :=
  Effect.touched_andThen_left (Command.perform_touched_iff.mpr h)

theorem touched_cons_of_succeeds {command : Command Content} {path : Path}
    (hsucceeds : command.Succeeds (os 0) disk)
    (h : (runAll rest (fun number ↦ os (number + 1)) (command.perform (os 0) disk).disk).touched path) :
    (runAll (command :: rest) os disk).touched path := by
  rw [runAll, Effect.andThen_of_none (Command.perform_error_iff.mpr hsucceeds)]
  exact Bool.or_eq_true_iff.mpr (.inr h)

/-- A command that changes nothing is passed. -/
theorem touched_cons_of_quiet {command : Command Content} {path : Path}
    (hquiet : command.perform (os 0) disk = .quiet disk)
    (h : (runAll rest (fun number ↦ os (number + 1)) disk).touched path) :
    (runAll (command :: rest) os disk).touched path := by
  refine touched_cons_of_succeeds (Command.perform_error_iff.mp (by rw [hquiet]; rfl)) ?_
  rwa [hquiet]

/-- A file is written and what follows finds it. -/
theorem touched_cons_of_write {dir path : Path} {name context : String} {content : Content}
    (hdone : os 0 = .done) (hwrite : isFileName name ∧ disk.isDir (resolve dir name) = false)
    (h : (runAll rest (fun number ↦ os (number + 1))
      (disk.put (resolve dir name) (some (.file content)))).touched path) :
    (runAll (.act (.write dir name content context) :: rest) os disk).touched path := by
  refine touched_cons_of_succeeds ⟨hwrite, hdone⟩ ?_
  rwa [hdone, Command.perform_write hwrite]

/-- A file is removed and what follows misses it. -/
theorem touched_cons_of_remove {command : Command Content} {dir path : Path} {name : String}
    (hcommand : command disk = .ok (some (.remove dir name))) (hdone : os 0 = .done)
    (hfile : isFileName name ∧ disk.isFile (resolve dir name))
    (h : (runAll rest (fun number ↦ os (number + 1)) (disk.put (resolve dir name) none)).touched path) :
    (runAll (command :: rest) os disk).touched path := by
  have hperform : command.perform (os 0) disk = .changed disk (resolve dir name) none none := by
    rw [Command.perform, hcommand, hdone]
    exact if_pos hfile
  refine touched_cons_of_succeeds (Command.perform_error_iff.mp (by rw [hperform]; rfl)) ?_
  rwa [hperform]

/-- A command that never succeeds is the last. -/
theorem runAll_of_fails {command : Command Content}
    (hfails : ∀ reply disk, ¬command.Succeeds reply disk) :
    runAll (commands ++ command :: rest) os disk = runAll (commands ++ [command]) os disk := by
  have hstop (reply : ℕ → Reply Content) (rest : List (Command Content)) (disk : Disk Content) :
      runAll (command :: rest) reply disk = command.perform (reply 0) disk := by
    have hne : (command.perform (reply 0) disk).error ≠ none :=
      fun h ↦ hfails _ _ (Command.perform_error_iff.mp h)
    obtain ⟨error, herror⟩ := Option.ne_none_iff_exists'.mp hne
    rw [runAll, Effect.andThen_of_error herror]
  rw [runAll_append, runAll_append]
  congr 1
  funext disk
  rw [hstop, hstop]

/-- A failure leaves all files alone exactly if there is none or it comes first. -/
theorem error_untouched_iff :
    ((runAll commands os disk).error ≠ none → (runAll commands os disk).Untouched) ↔
      FailsFirst commands os disk ∨ GoesThrough commands os disk := by
  rw [failsFirst_iff, goesThrough_iff]
  tauto

end

end

end Seidrum.Foundation.Files
