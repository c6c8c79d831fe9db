import Mathlib.Data.String.Basic
import Seidrum.EventBus.Transport.RemotePattern
import Seidrum.Foundation.OrderedTable
import Seidrum.Foundation.TextLines

/-!
# The settings file

The management API of the kernel writes variables into the `.env` file and the daemon reads them back.
A value is written in quotes only if it holds one of six characters, and reading trims what is not
quoted; the writer replaces the first line of a variable while the reader takes the last.
-/

namespace Seidrum.Daemon

open EventBus (isWhitespace)
open Foundation

abbrev trimText (text : List Char) : List Char := trimBoth isWhitespace text

/-- The character an escape stands for. -/
def unescaped : Char → Char
  | 'n' => '\n'
  | 'r' => '\r'
  | 't' => '\t'
  | other => other

/-- Undo the escapes of a quoted text. -/
def unescape : List Char → Except String (List Char)
  | [] => .ok []
  | ['\\'] => .error "unterminated escape sequence"
  | '\\' :: escaped :: rest => (unescape rest).map (unescaped escaped :: ·)
  | c :: rest => (unescape rest).map (c :: ·)

def parseDoubleQuotedEnvValue (raw : List Char) : Except String (List Char) :=
  if raw.length < 2 ∨ raw.getLast? ≠ some '"' then .error "unterminated double-quoted value"
  else unescape raw.tail.dropLast

def parseEnvValue (raw : List Char) : Except String (List Char) :=
  if raw.head? = some '"' then parseDoubleQuotedEnvValue raw
  else if raw.head? = some '\'' then
    if raw.length < 2 ∨ raw.getLast? ≠ some '\'' then .error "unterminated single-quoted value"
    else .ok raw.tail.dropLast
  else .ok raw

/-- The variable a line sets and its value; empty lines and comments set none. -/
def parseEnvLine (line : List Char) : Except String (Option (String × String)) :=
  let trimmed := trimText line
  if trimmed = [] ∨ trimmed.head? = some '#' then .ok none
  else if '=' ∉ trimmed then .error "expected KEY=VALUE"
  else
    let key := trimText (trimmed.takeWhile (· ≠ '='))
    if key = [] then .error "environment variable name cannot be empty"
    else
      (parseEnvValue (trimText (trimmed.dropWhile (· ≠ '=')).tail)).map fun value ↦
        some (String.ofList key, String.ofList value)

/-- A line that cannot be read, counted from 1. -/
structure EnvError where
  line : ℕ
  reason : String
  deriving DecidableEq, Repr

def parseEnvLines : ℕ → List (List Char) → Table String String → Except EnvError (Table String String)
  | _, [], entries => .ok entries
  | lineNo, line :: rest, entries =>
      match parseEnvLine line with
      | .error reason => .error ⟨lineNo + 1, reason⟩
      | .ok none => parseEnvLines (lineNo + 1) rest entries
      | .ok (some (key, value)) => parseEnvLines (lineNo + 1) rest (entries.insert key value)

def parseEnvContents (contents : List Char) : Except EnvError (Table String String) :=
  parseEnvLines 0 (linesOf contents) .empty

/-- Replace each occurrence of a character. -/
def replaceChar (c : Char) (replacement text : List Char) : List Char :=
  text.flatMap fun d ↦ if d = c then replacement else [d]

/-- The characters that make a value be written in quotes. -/
def needsQuotes (value : List Char) : Bool :=
  value.any fun c ↦ c ∈ [' ', '"', '\'', '\n', '#', '$']

def escapeEnvValue (value : List Char) : List Char :=
  if needsQuotes value then
    let escaped := replaceChar '\n' ['\\', 'n']
      (replaceChar '"' ['\\', '"'] (replaceChar '\\' ['\\', '\\'] value))
    '"' :: (escaped ++ ['"'])
  else value

/-- The line that sets a variable. -/
def envLine (key value : String) : List Char := key.toList ++ '=' :: escapeEnvValue value.toList

/-- The line `set_env` takes as the one of a variable. -/
def setsKey (key : String) (line : List Char) : Bool := (key.toList ++ ['=']) <+: trimText line

/-- Replace the first line of a variable, or add one at the end. -/
def setLine (key value : String) : List (List Char) → List (List Char)
  | [] => [envLine key value]
  | line :: rest =>
      if setsKey key line then envLine key value :: rest else line :: setLine key value rest

def setEnvContents (key value : String) (content : List Char) : List Char :=
  ofLines (setLine key value (linesOf content))

structure SetEnvResponse where
  key : String
  set : Bool
  deriving DecidableEq, Repr

/-- A status and a text. -/
abbrev HttpError := ℕ × String

/-- The checks of a variable's name. -/
def validateEnvKey (key : String) : Except HttpError Unit :=
  match key.toList with
  | [] => .error (400, "Environment variable name cannot be empty")
  | first :: _ =>
      if ¬first.isAlpha ∧ first ≠ '_' then
        .error (400, "Environment variable name must start with a letter or underscore")
      else if ¬(key.toList.all fun c ↦ c.isAlphanum || c = '_') then
        .error (400,
          "Environment variable name must contain only alphanumeric characters and underscores")
      else .ok ()

/-- Set a variable in the file, given its content if it can be read; the write may fail. -/
def setEnv (key value : String) (content : Option (List Char)) (writeError : Option String) :
    Except HttpError SetEnvResponse × Option (List Char) :=
  match validateEnvKey key with
  | .error error => (.error error, content)
  | .ok () =>
      match writeError with
      | some error => (.error (500, error), content)
      | none => (.ok ⟨key, true⟩, some (setEnvContents key value (content.getD [])))

/-! ## One value -/

/-- What is read of a value that was written. -/
def readBack (value : String) : String :=
  if needsQuotes value.toList then value else String.ofList (trimText value.toList)

/-- A name that may be written. -/
def ValidKey (key : String) : Prop := validateEnvKey key = .ok ()

instance (key : String) : Decidable (ValidKey key) := inferInstanceAs (Decidable (_ = _))

section Value

variable {key value : String} {c : Char}

theorem keyChar_of_validKey (h : ValidKey key) (hmem : c ∈ key.toList) :
    (c.isAlphanum || c = '_') = true := by
  unfold ValidKey validateEnvKey at h
  split at h
  · rename_i hnil
    rw [hnil] at hmem
    cases hmem
  · split_ifs at h with _ hall
    exact List.all_eq_true.mp hall c hmem

theorem ne_nil_of_validKey (h : ValidKey key) : key.toList ≠ [] := by
  intro hnil
  unfold ValidKey validateEnvKey at h
  rw [hnil] at h
  cases h

/-- A character of a name is no character that a reader treats in a special way. -/
theorem keyChar_plain (h : (c.isAlphanum || c = '_') = true) :
    isWhitespace c = false ∧ c ≠ '=' ∧ c ≠ '#' ∧ c ≠ '\n' := by
  have hcode : (48 ≤ c.toNat ∧ c.toNat ≤ 57) ∨ (65 ≤ c.toNat ∧ c.toNat ≤ 90) ∨ c.toNat = 95 ∨
      (97 ≤ c.toNat ∧ c.toNat ≤ 122) := by
    unfold Char.isAlphanum Char.isAlpha Char.isUpper Char.isLower Char.isDigit at h
    simp only [Bool.or_eq_true, decide_eq_true_eq, UInt32.le_iff_toNat_le, ge_iff_le,
      Bool.and_eq_true] at h
    rcases h with ((hupper | hlower) | hdigit) | rfl
    · exact .inr (.inl hupper)
    · exact .inr (.inr (.inr hlower))
    · exact .inl hdigit
    · decide
  refine ⟨?_, ?_, ?_, ?_⟩
  · simp only [isWhitespace, Bool.or_eq_false_iff, Bool.and_eq_false_iff, decide_eq_false_iff_not,
      List.mem_cons, List.not_mem_nil, or_false]
    omega
  all_goals
    rintro rfl
    revert hcode
    decide

/-- The escapes of a character. -/
def escapedChar (c : Char) : List Char :=
  if c = '\\' then ['\\', '\\']
  else if c = '"' then ['\\', '"']
  else if c = '\n' then ['\\', 'n']
  else [c]

/-- The three replacements escape each character on its own. -/
theorem replaceChar_eq (text : List Char) :
    replaceChar '\n' ['\\', 'n'] (replaceChar '"' ['\\', '"'] (replaceChar '\\' ['\\', '\\'] text)) =
      text.flatMap escapedChar := by
  induction text with
  | nil => rfl
  | cons c rest ih =>
    have happend : ∀ (d : Char) (replacement first second : List Char),
        replaceChar d replacement (first ++ second) =
          replaceChar d replacement first ++ replaceChar d replacement second :=
      fun _ _ _ _ ↦ List.flatMap_append
    have hfirst : replaceChar '\n' ['\\', 'n']
        (replaceChar '"' ['\\', '"'] (replaceChar '\\' ['\\', '\\'] [c])) = escapedChar c := by
      unfold escapedChar
      split_ifs with hbackslash hquote hnewline
      · rw [hbackslash]
        rfl
      · rw [hquote]
        rfl
      · rw [hnewline]
        rfl
      · simp [replaceChar, hbackslash, hquote, hnewline]
    rw [List.flatMap_cons, ← ih, ← hfirst, ← happend, ← happend, ← happend]
    rfl

theorem unescape_cons (h : c ≠ '\\') (rest : List Char) :
    unescape (c :: rest) = (unescape rest).map (c :: ·) := by
  rw [unescape]
  · intro hbackslash
    exact absurd hbackslash h
  · intro escaped rest' hbackslash
    exact absurd hbackslash h

theorem unescape_escaped (text : List Char) :
    unescape (text.flatMap escapedChar) = .ok text := by
  induction text with
  | nil => rfl
  | cons c rest ih =>
    rw [List.flatMap_cons, escapedChar]
    split_ifs with hbackslash hquote hnewline
    · rw [hbackslash]
      exact congrArg (Except.map _) ih
    · rw [hquote]
      exact congrArg (Except.map _) ih
    · rw [hnewline]
      exact congrArg (Except.map _) ih
    · rw [List.singleton_append, unescape_cons hbackslash, ih]
      rfl

theorem parseEnvValue_quoted (text : List Char) :
    parseEnvValue ('"' :: (text.flatMap escapedChar ++ ['"'])) = .ok text := by
  have hlast : ('"' :: (text.flatMap escapedChar ++ ['"'])).getLast? = some '"' := by
    rw [← List.cons_append, List.getLast?_concat]
  rw [parseEnvValue, if_pos (List.head?_cons ..), parseDoubleQuotedEnvValue, if_neg]
  · rw [List.tail_cons, List.dropLast_concat, unescape_escaped]
  · simp [hlast]

/-- What needs no quotes holds none. -/
theorem ne_of_needsQuotes_eq_false (h : needsQuotes value.toList = false) (hmem : c ∈ value.toList) :
    c ≠ '"' ∧ c ≠ '\'' ∧ c ≠ '\n' := by
  have hc : decide (c ∈ [' ', '"', '\'', '\n', '#', '$']) = false := by
    have hall := List.any_eq_false.mp h c hmem
    simpa using hall
  have hnot := of_decide_eq_false hc
  refine ⟨?_, ?_, ?_⟩
  all_goals
    rintro rfl
    exact hnot (by decide)

theorem mem_of_mem_trimText {text : List Char} (h : c ∈ trimText text) : c ∈ text :=
  (List.dropWhile_sublist _).subset ((List.rdropWhile_prefix _ _).subset h)

theorem parseEnvValue_plain (h : needsQuotes value.toList = false) :
    parseEnvValue (trimText value.toList) = .ok (trimText value.toList) := by
  have hhead : ∀ d, (trimText value.toList).head? = some d → d ≠ '"' ∧ d ≠ '\'' := by
    intro d hd
    have hplain := ne_of_needsQuotes_eq_false h (mem_of_mem_trimText (List.mem_of_head? hd))
    exact ⟨hplain.1, hplain.2.1⟩
  rw [parseEnvValue, if_neg, if_neg]
  · exact fun hd ↦ (hhead _ hd).2 rfl
  · exact fun hd ↦ (hhead _ hd).1 rfl

/-- A line that starts with a name and an equals sign sets that variable. -/
theorem parseEnvLine_of_trimmed (hkey : ValidKey key) {line rest : List Char}
    (htrimmed : trimText line = key.toList ++ '=' :: rest) :
    parseEnvLine line =
      (parseEnvValue (trimText rest)).map fun value ↦ some (key, String.ofList value) := by
  have hplain : ∀ c ∈ key.toList, isWhitespace c = false ∧ c ≠ '=' ∧ c ≠ '#' ∧ c ≠ '\n' :=
    fun c hmem ↦ keyChar_plain (keyChar_of_validKey hkey hmem)
  have hhead : ¬(trimText line = [] ∨ (trimText line).head? = some '#') := by
    obtain ⟨first, others, hchars⟩ := List.exists_cons_of_ne_nil (ne_nil_of_validKey hkey)
    rw [htrimmed, hchars]
    rintro (hnil | hcomment)
    · cases hnil
    · exact (hplain first (hchars ▸ List.mem_cons_self)).2.2.1 (Option.some.inj hcomment)
  have hmem : '=' ∈ trimText line := by
    rw [htrimmed]
    exact List.mem_append_right _ List.mem_cons_self
  have hkeyChars : ∀ c ∈ key.toList, decide (c ≠ '=') = true :=
    fun c hc ↦ decide_eq_true (hplain c hc).2.1
  have htake : (trimText line).takeWhile (· ≠ '=') = key.toList := by
    rw [htrimmed, List.takeWhile_append_of_pos hkeyChars, List.takeWhile_cons_of_neg (by simp),
      List.append_nil]
  have hdrop : ((trimText line).dropWhile (· ≠ '=')).tail = rest := by
    rw [htrimmed, List.dropWhile_append_of_pos hkeyChars, List.dropWhile_cons_of_neg (by simp),
      List.tail_cons]
  have hkeyTrim : trimText key.toList = key.toList :=
    trimBoth_of_forall_neg fun c hc ↦ (hplain c hc).1
  unfold parseEnvLine
  rw [if_neg hhead, if_neg (not_not.mpr hmem), htake, hdrop, hkeyTrim,
    if_neg (ne_nil_of_validKey hkey), String.ofList_toList]

/-- The line that was written for a variable sets it to what is read back of the value. -/
theorem parseEnvLine_envLine (hkey : ValidKey key) (value : String) :
    parseEnvLine (envLine key value) = .ok (some (key, readBack value)) := by
  have htrimmed : trimText (envLine key value) =
      key.toList ++ '=' :: (escapeEnvValue value.toList).rdropWhile isWhitespace := by
    obtain ⟨first, rest, hchars⟩ := List.exists_cons_of_ne_nil (ne_nil_of_validKey hkey)
    have hfirst := (keyChar_plain (keyChar_of_validKey hkey (hchars ▸ List.mem_cons_self))).1
    rw [trimText, envLine, hchars, List.cons_append, trimBoth_cons_of_neg hfirst, ← List.cons_append,
      rdropWhile_append_cons (by decide)]
  have hvalue : parseEnvValue (trimText (escapeEnvValue value.toList)) =
      .ok (readBack value).toList := by
    unfold escapeEnvValue readBack
    split_ifs with hquoted
    · rw [replaceChar_eq, trimText, trimBoth_cons_concat (by decide) (by decide),
        parseEnvValue_quoted]
    · rw [parseEnvValue_plain (Bool.not_eq_true _ ▸ hquoted), String.toList_ofList]
  rw [parseEnvLine_of_trimmed hkey htrimmed, trimText, trimBoth_rdropWhile, hvalue]
  simp [Except.map]

theorem readBack_eq_iff :
    readBack value = value ↔
      needsQuotes value.toList = true ∨ trimText value.toList = value.toList := by
  unfold readBack
  split_ifs with hquoted
  · exact iff_of_true rfl (.inl hquoted)
  · rw [or_iff_right hquoted]
    constructor
    · intro h
      have hchars := congrArg String.toList h
      rwa [String.toList_ofList] at hchars
    · intro h
      rw [h, String.ofList_toList]

theorem newline_not_mem_escapedChar : '\n' ∉ escapedChar c := by
  unfold escapedChar
  split_ifs with _ _ hnewline
  · decide
  · decide
  · decide
  · exact fun hmem ↦ hnewline (List.mem_singleton.mp hmem).symm

/-- A line that is written is one line. -/
theorem newline_not_mem_envLine (hkey : ValidKey key) (value : String) :
    '\n' ∉ envLine key value := by
  have hescape : '\n' ∉ escapeEnvValue value.toList := by
    unfold escapeEnvValue
    split_ifs with hquoted
    · rw [replaceChar_eq]
      intro hmem
      rcases List.mem_cons.mp hmem with heq | hin
      · exact absurd heq (by decide)
      · rcases List.mem_append.mp hin with hescaped | hlast
        · obtain ⟨c, -, hc⟩ := List.mem_flatMap.mp hescaped
          exact newline_not_mem_escapedChar hc
        · exact absurd (List.mem_singleton.mp hlast) (by decide)
    · exact fun hmem ↦ (ne_of_needsQuotes_eq_false (Bool.not_eq_true _ ▸ hquoted) hmem).2.2 rfl
  intro hmem
  rcases List.mem_append.mp hmem with hin | hin
  · exact (keyChar_plain (keyChar_of_validKey hkey hin)).2.2.2 rfl
  · rcases List.mem_cons.mp hin with heq | hin
    · exact absurd heq (by decide)
    · exact hescape hin

end Value

/-- The value a line gives a variable. -/
def valueFor (key : String) (line : List Char) : Option String :=
  match parseEnvLine line with
  | .ok (some (name, value)) => if name = key then some value else none
  | _ => none

/-- The value the last line of a variable gives it. -/
def lastSetting (key : String) : List (List Char) → Option String
  | [] => none
  | line :: rest => (lastSetting key rest).or (valueFor key line)

/-- The lines after the one `set_env` replaces. -/
def laterLines (key : String) (lines : List (List Char)) : List (List Char) :=
  (lines.dropWhile fun line ↦ !setsKey key line).tail

section Lines

variable {key other value : String} {line : List Char} {lines : List (List Char)}
variable {entries result : Table String String} {lineNo : ℕ}

theorem lastSetting_append (first second : List (List Char)) :
    lastSetting key (first ++ second) = (lastSetting key second).or (lastSetting key first) := by
  induction first with
  | nil => exact (Option.or_none ..).symm
  | cons line rest ih =>
    rw [List.cons_append, lastSetting, ih, lastSetting, Option.or_assoc]

/-- All lines can be read. -/
def Readable (lines : List (List Char)) : Prop :=
  ∀ line ∈ lines, ∃ setting, parseEnvLine line = .ok setting

/-- Reading succeeds exactly if every line can be read. -/
theorem parseEnvLines_ok_iff :
    (∃ result, parseEnvLines lineNo lines entries = .ok result) ↔ Readable lines := by
  induction lines generalizing lineNo entries with
  | nil => exact iff_of_true ⟨entries, rfl⟩ fun _ hmem ↦ absurd hmem List.not_mem_nil
  | cons line rest ih =>
    unfold parseEnvLines Readable
    rw [List.forall_mem_cons]
    cases hline : parseEnvLine line with
    | error reason => simp
    | ok setting =>
      rw [and_iff_right ⟨setting, rfl⟩]
      cases setting with
      | none | some setting => exact ih

/-- The table that is read has the last value of each variable. -/
theorem get_parseEnvLines (h : parseEnvLines lineNo lines entries = .ok result) (key : String) :
    result.get key = (lastSetting key lines).or (entries.get key) := by
  induction lines generalizing lineNo entries with
  | nil =>
    cases h
    rfl
  | cons line rest ih =>
    unfold parseEnvLines at h
    rw [lastSetting, valueFor, Option.or_assoc]
    cases hline : parseEnvLine line with
    | error reason => simp [hline] at h
    | ok setting =>
      rw [hline] at h
      cases setting with
      | none => exact ih h
      | some setting =>
        obtain ⟨name, value⟩ := setting
        rw [ih h, Table.get_insert]
        by_cases hname : name = key
        · simp [hname]
        · simp [hname, Ne.symm hname]

theorem parseEnvLine_chomp (line : List Char) : parseEnvLine (chomp line) = parseEnvLine line := by
  have htrim : trimText (chomp line) = trimText line := trimBoth_chomp (by decide) line
  rw [parseEnvLine, htrim, ← parseEnvLine]

theorem parseEnvLines_chomp :
    parseEnvLines lineNo (lines.map chomp) entries = parseEnvLines lineNo lines entries := by
  induction lines generalizing lineNo entries with
  | nil => rfl
  | cons line rest ih =>
    rw [List.map_cons, parseEnvLines, parseEnvLines, parseEnvLine_chomp]
    cases parseEnvLine line with
    | error reason => rfl
    | ok setting =>
      cases setting with
      | none | some setting => exact ih

theorem setLine_eq (key value : String) (lines : List (List Char)) :
    setLine key value lines =
      lines.takeWhile (fun line ↦ !setsKey key line) ++ envLine key value :: laterLines key lines := by
  induction lines with
  | nil => rfl
  | cons line rest ih =>
    unfold setLine laterLines
    by_cases hsets : setsKey key line = true
    · rw [if_pos hsets, List.takeWhile_cons_of_neg (by simp [hsets]),
        List.dropWhile_cons_of_neg (by simp [hsets])]
      rfl
    · rw [if_neg hsets, List.takeWhile_cons_of_pos (by simp [hsets]),
        List.dropWhile_cons_of_pos (by simp [hsets]), ih]
      rfl

theorem mem_setLine (h : line ∈ setLine key value lines) : line = envLine key value ∨ line ∈ lines := by
  rw [setLine_eq] at h
  rcases List.mem_append.mp h with hbefore | hafter
  · exact .inr ((List.takeWhile_sublist _).subset hbefore)
  · rcases List.mem_cons.mp hafter with hnew | hlater
    · exact .inl hnew
    · exact .inr ((List.dropWhile_sublist _).subset (List.tail_subset _ hlater))

theorem valueFor_of_setsKey (hkey : ValidKey key) (hne : other ≠ key)
    (hsets : setsKey key line = true) : valueFor other line = none := by
  obtain ⟨rest, hrest⟩ : key.toList ++ ['='] <+: trimText line := of_decide_eq_true hsets
  have htrimmed : trimText line = key.toList ++ '=' :: rest := by
    rw [← hrest, List.append_assoc, List.singleton_append]
  rw [valueFor, parseEnvLine_of_trimmed hkey htrimmed]
  cases parseEnvValue (trimText rest) with
  | error reason => rfl
  | ok value => exact if_neg (Ne.symm hne)

theorem valueFor_envLine (hkey : ValidKey key) (value other : String) :
    valueFor other (envLine key value) = if key = other then some (readBack value) else none := by
  rw [valueFor, parseEnvLine_envLine hkey]

/-- The other variables keep their values. -/
theorem lastSetting_setLine_of_ne (hkey : ValidKey key) (hne : other ≠ key) :
    lastSetting other (setLine key value lines) = lastSetting other lines := by
  have hnew : valueFor other (envLine key value) = none := by
    rw [valueFor_envLine hkey, if_neg (Ne.symm hne)]
  induction lines with
  | nil => exact (congrArg (Option.or none) hnew).trans rfl
  | cons line rest ih =>
    unfold setLine
    split_ifs with hsets
    · rw [lastSetting, lastSetting, hnew, valueFor_of_setsKey hkey hne hsets]
    · rw [lastSetting, lastSetting, ih]

theorem lastSetting_setLine (hkey : ValidKey key) :
    lastSetting key (setLine key value lines) =
      some ((lastSetting key (laterLines key lines)).getD (readBack value)) := by
  rw [setLine_eq, lastSetting_append, lastSetting, valueFor_envLine hkey, if_pos rfl]
  cases lastSetting key (laterLines key lines) <;> rfl

/-- A later line for the variable gives this value, or there is none and the value is one that is
quoted or has no whitespace at its ends. -/
def Keeps (key value : String) (lines : List (List Char)) : Prop :=
  match lastSetting key (laterLines key lines) with
  | some later => later = value
  | none => needsQuotes value.toList = true ∨ trimText value.toList = value.toList

/-- Setting a variable of a readable file leaves a readable file, in which the other variables have
their values; the variable has the new value exactly if no later line gives it another one and the
value survives unquoted. -/
theorem set_env_read_iff {content : List Char} (hkey : ValidKey key)
    (hparse : parseEnvContents content = .ok entries) :
    (∃ written, setEnv key value (some content) none = (.ok ⟨key, true⟩, some written) ∧
      ∃ after, parseEnvContents written = .ok after ∧ after.get key = some value ∧
        ∀ other, other ≠ key → after.get other = entries.get other) ↔
      Keeps key value (linesOf content) := by
  have hwrite : setEnv key value (some content) none =
      (.ok ⟨key, true⟩, some (setEnvContents key value content)) := by
    rw [setEnv, hkey]
    rfl
  have hlines : parseEnvContents (setEnvContents key value content) =
      parseEnvLines 0 (setLine key value (linesOf content)) .empty := by
    rw [parseEnvContents, setEnvContents, linesOf_ofLines, parseEnvLines_chomp]
    · rw [setLine_eq]
      exact List.append_ne_nil_of_right_ne_nil _ (List.cons_ne_nil _ _)
    · intro line hmem
      rcases mem_setLine hmem with rfl | hold
      · exact newline_not_mem_envLine hkey value
      · exact newline_not_mem_of_mem_linesOf hold
  have hreadable : Readable (setLine key value (linesOf content)) := by
    intro line hmem
    rcases mem_setLine hmem with rfl | hold
    · exact ⟨_, parseEnvLine_envLine hkey value⟩
    · exact parseEnvLines_ok_iff.mp ⟨entries, hparse⟩ line hold
  obtain ⟨after, hafter⟩ : ∃ after,
      parseEnvLines 0 (setLine key value (linesOf content)) .empty = .ok after :=
    parseEnvLines_ok_iff.mpr hreadable
  have hothers : ∀ other, other ≠ key → after.get other = entries.get other := by
    intro other hne
    rw [get_parseEnvLines hafter, get_parseEnvLines hparse, lastSetting_setLine_of_ne hkey hne]
  have hvalue : after.get key = some value ↔ Keeps key value (linesOf content) := by
    rw [get_parseEnvLines hafter, lastSetting_setLine hkey, Option.some_or, Option.some_inj, Keeps]
    cases lastSetting key (laterLines key (linesOf content)) with
    | none => exact readBack_eq_iff
    | some later => exact Iff.rfl
  constructor
  · rintro ⟨written, hwritten, read, hread, hget, -⟩
    obtain rfl := Option.some.inj (Prod.mk.inj (hwrite.symm.trans hwritten)).2
    obtain rfl := Except.ok.inj ((hlines.trans hafter).symm.trans hread)
    exact hvalue.mp hget
  · intro hkeeps
    exact ⟨_, hwrite, after, hlines.trans hafter, hvalue.mpr hkeeps, hothers⟩

/-- A quoted value is set and read; the other variable stays. -/
theorem set_env_read_quoted :
    ∃ written, setEnv "KEY" "a # b" (some "KEY=x\nOTHER=y\n".toList) none =
        (.ok ⟨"KEY", true⟩, some written) ∧
      ∃ after, parseEnvContents written = .ok after ∧ after.get "KEY" = some "a # b" := by
  have hok : (parseEnvContents "KEY=x\nOTHER=y\n".toList).isOk = true := by decide +kernel
  have hkey : ValidKey "KEY" := by decide +kernel
  have hlater : lastSetting "KEY" (laterLines "KEY" (linesOf "KEY=x\nOTHER=y\n".toList)) = none := by
    decide +kernel
  cases hparse : parseEnvContents "KEY=x\nOTHER=y\n".toList with
  | error error =>
    rw [hparse] at hok
    cases hok
  | ok entries =>
    have hkeeps : Keeps "KEY" "a # b" (linesOf "KEY=x\nOTHER=y\n".toList) := by
      rw [Keeps, hlater]
      exact .inl (by decide)
    obtain ⟨written, hwritten, after, hafter, hvalue, -⟩ := (set_env_read_iff hkey hparse).mpr hkeeps
    exact ⟨written, hwritten, after, hafter, hvalue⟩

/-- The tab in front of a value is lost. -/
theorem set_env_loses_tab :
    ((setEnv "KEY" "\tx" (some []) none).2.map fun written ↦
      (parseEnvContents written).map fun entries ↦ entries.get "KEY") = some (.ok (some "x")) := by
  decide +kernel

end Lines

end Seidrum.Daemon
