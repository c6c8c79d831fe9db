import Seidrum.Daemon.EnvFile

/-!
# The configuration of plugins

The daemon starts a plugin with the variables of its entry, in which references to the daemon's own
environment are resolved.  The settings file is loaded into that environment first; a variable that is
there already, for whatever reason, is left alone.
-/

namespace Seidrum.Daemon

open Foundation

/-- The package a plugin was installed from. -/
structure PluginPackageRef where
  name : String
  version : String
  source : String
  deriving DecidableEq, Repr

structure PluginEntry where
  binary : String
  enabled : Bool
  env : Table String String
  package : Option PluginPackageRef

structure PluginsConfig where
  plugins : Table String PluginEntry

/-- A part of a value: a character, or a reference with its default. -/
inductive Piece
  | text (c : Char)
  | reference (name default : String)
  deriving DecidableEq, Repr

/-- The name and the default of what stands between the braces. -/
def splitDefault : List Char → List Char × List Char
  | [] => ([], [])
  | ':' :: '-' :: default => ([], default)
  | c :: rest => (c :: (splitDefault rest).1, (splitDefault rest).2)

def referenceOf (expr : List Char) : Piece :=
  .reference (String.ofList (splitDefault expr).1) (String.ofList (splitDefault expr).2)

/-- Scan a value from the left; inside a reference, what has been read of it is kept in reverse.  A
reference that is not closed is text. -/
def piecesFrom : Option (List Char) → List Char → List Piece
  | none, [] => []
  | none, '$' :: '{' :: rest => piecesFrom (some []) rest
  | none, c :: rest => .text c :: piecesFrom none rest
  | some expr, [] => ('$' :: '{' :: expr.reverse).map .text
  | some expr, c :: rest =>
      if c = '}' then referenceOf expr.reverse :: piecesFrom none rest
      else piecesFrom (some (c :: expr)) rest

def pieces (value : String) : List Piece := piecesFrom none value.toList

/-- A value in the environment of a process, which need not be Unicode. -/
inductive OsValue
  | text (value : String)
  | bytes (value : List UInt8)
  deriving DecidableEq, Repr

abbrev Env := Table String OsValue

/-- The value of a variable, if it is Unicode. -/
def Env.var (env : Env) (name : String) : Option String :=
  match env.get name with
  | some (.text value) => some value
  | _ => none

def Piece.resolve (env : Env) : Piece → List Char
  | text c => [c]
  | reference name default => ((env.var name).getD default).toList

/-- The variable a part refers to. -/
def Piece.name? : Piece → Option String
  | text _ => none
  | reference name _ => some name

def resolveEnv (env : Env) (value : String) : String :=
  String.ofList ((pieces value).flatMap (Piece.resolve env))

def resolvePluginEnv (env : Env) (entry : PluginEntry) : Table String String :=
  entry.env.mapValues (resolveEnv env)

/-- The variables an entry refers to. -/
def PluginEntry.references (entry : PluginEntry) : List String :=
  entry.env.entries.flatMap fun setting ↦ (pieces setting.2).filterMap Piece.name?

section Resolve

variable {env env' : Env} {entry : PluginEntry}

theorem piecesFrom_some {expr : List Char} (hexpr : '}' ∉ expr) (read rest : List Char) :
    piecesFrom (some read) (expr ++ '}' :: rest) =
      referenceOf (read.reverse ++ expr) :: piecesFrom none rest := by
  induction expr generalizing read with
  | nil => rw [List.nil_append, piecesFrom, if_pos rfl, List.append_nil]
  | cons c expr ih =>
    have hc : c ≠ '}' := fun heq ↦ hexpr (heq ▸ List.mem_cons_self)
    rw [List.cons_append, piecesFrom, if_neg hc, ih fun hmem ↦ hexpr (List.mem_cons_of_mem _ hmem),
      List.reverse_cons, List.append_assoc, List.singleton_append]

/-- The first reference of a value is resolved, and the scan goes on behind it. -/
theorem piecesFrom_reference {before expr : List Char} (hbefore : ¬['$', '{'] <:+: before)
    (hexpr : '}' ∉ expr) (rest : List Char) :
    piecesFrom none (before ++ '$' :: '{' :: (expr ++ '}' :: rest)) =
      before.map .text ++ referenceOf expr :: piecesFrom none rest := by
  induction before with
  | nil => exact piecesFrom_some hexpr [] rest
  | cons c before ih =>
    have hopen : ∀ after, c = '$' → before ++ '$' :: '{' :: (expr ++ '}' :: rest) ≠ '{' :: after := by
      intro after hc htail
      cases before with
      | nil => exact absurd (List.cons.inj htail).1 (by decide)
      | cons d before =>
        obtain ⟨hd, -⟩ := List.cons.inj htail
        rw [hc, hd] at hbefore
        exact hbefore (List.prefix_append ['$', '{'] before).isInfix
    rw [List.cons_append, piecesFrom, List.map_cons, List.cons_append, ih]
    · exact fun hocc ↦ hbefore (hocc.trans (List.infix_cons (List.infix_refl _)))
    · exact hopen

end Resolve

inductive EnvFile
  | missing
  | unreadable
  | content (text : List Char)
  deriving DecidableEq, Repr

/-- The content a handler reads, if any. -/
def EnvFile.text? : EnvFile → Option (List Char)
  | content text => some text
  | _ => none

inductive SyncError
  | failed (message : String)
  /-- setting a variable panics if there is a NUL in it -/
  | panicked
  deriving DecidableEq, Repr

def EnvFile.entries : EnvFile → Except SyncError (Table String String)
  | missing => .ok .empty
  | unreadable => .error (.failed "Failed to read .env")
  | content text =>
      match parseEnvContents text with
      | .ok entries => .ok entries
      | .error _ => .error (.failed "Failed to parse .env")

def setVar (env : Env) (name value : String) : Except SyncError Env :=
  if '\x00' ∈ name.toList ∨ '\x00' ∈ value.toList then .error .panicked
  else .ok (env.insert name (.text value))

/-- Set the variables that are not there; the number that were set is counted. -/
def loadEntries : List (String × String) → ℕ × Env → Except SyncError (ℕ × Env)
  | [], result => .ok result
  | (name, value) :: rest, (loaded, env) =>
      if (env.get name).isSome then loadEntries rest (loaded, env)
      else (setVar env name value).bind fun env ↦ loadEntries rest (loaded + 1, env)

def syncProcessEnvFromFile (file : EnvFile) (env : Env) : Except SyncError (ℕ × Env) :=
  file.entries.bind fun entries ↦ loadEntries entries.entries (0, env)

section Sync

variable {env : Env} {file : EnvFile} {entries : Table String String} {loaded loaded' : ℕ}

/-- What was there is kept, and the first value of any other variable is taken. -/
theorem get_loadEntries {list : List (String × String)} {result : Env}
    (h : loadEntries list (loaded, env) = .ok (loaded', result)) (name : String) :
    result.get name =
      (env.get name).or ((list.find? fun entry ↦ entry.1 = name).map fun entry ↦ .text entry.2) := by
  induction list generalizing loaded env with
  | nil =>
    obtain rfl := (Prod.mk.inj (Except.ok.inj h)).2
    rw [List.find?_nil, Option.map_none, Option.or_none]
  | cons entry rest ih =>
    obtain ⟨other, value⟩ := entry
    unfold loadEntries setVar at h
    split_ifs at h with hset hnul
    · rw [ih h]
      by_cases heq : other = name
      · obtain ⟨found, hfound⟩ := Option.isSome_iff_exists.mp (heq ▸ hset)
        rw [hfound, Option.some_or, Option.some_or]
      · rw [List.find?_cons_of_neg (by simpa using heq)]
    · cases h
    · rw [ih h, Table.get_insert]
      by_cases heq : name = other
      · have hnone : env.get name = none := by simpa [heq] using hset
        rw [if_pos heq, List.find?_cons_of_pos (by simpa using heq.symm), hnone]
        rfl
      · rw [if_neg heq, List.find?_cons_of_neg (by simpa using Ne.symm heq)]

theorem get_syncProcessEnv {result : Env} (hentries : file.entries = .ok entries)
    (h : syncProcessEnvFromFile file env = .ok (loaded, result)) (name : String) :
    result.get name = (env.get name).or ((entries.get name).map .text) := by
  rw [syncProcessEnvFromFile, hentries] at h
  have hvalue : (entries.get name).map OsValue.text =
      (entries.entries.find? fun entry ↦ entry.1 = name).map fun entry ↦ .text entry.2 := by
    rw [Table.get, Option.map_map]
    rfl
  rw [get_loadEntries h, hvalue]

theorem loadEntries_ne_failed {list : List (String × String)} {message : String} :
    loadEntries list (loaded, env) ≠ .error (.failed message) := by
  induction list generalizing loaded env with
  | nil => exact fun h ↦ by cases h
  | cons entry rest ih =>
    unfold loadEntries setVar
    split_ifs
    · exact ih
    · exact fun h ↦ by cases h
    · exact ih

/-- Loading fails without a panic exactly if the file cannot be read or parsed. -/
theorem sync_failed_iff {message : String} :
    syncProcessEnvFromFile file env = .error (.failed message) ↔
      file.entries = .error (.failed message) := by
  unfold syncProcessEnvFromFile
  cases file.entries with
  | error error =>
    constructor
    all_goals
      intro h
      exact congrArg Except.error (Except.error.inj h)
  | ok entries => exact iff_of_false loadEntries_ne_failed (fun h ↦ by cases h)

theorem entries_of_sync {result : Env} (h : syncProcessEnvFromFile file env = .ok (loaded, result)) :
    ∃ entries, file.entries = .ok entries := by
  cases hentries : file.entries with
  | ok entries => exact ⟨entries, rfl⟩
  | error error =>
    rw [syncProcessEnvFromFile, hentries] at h
    cases h

end Sync

end Seidrum.Daemon
