import Mathlib.Data.List.Nodup
import Seidrum.Foundation.Numeral

/-!
# Keys of stored documents

The brain service makes the keys of new documents from ULIDs, a timestamp of 48 bits followed by 80 random
bits, printed with five bits a character.  It keeps the first characters of the text: eight for content,
which ends within the timestamp, and twelve for facts, tasks and audit entries, which is the timestamp and
ten random bits.  Two documents get the same key exactly if these bits agree, and for content the day too;
then an insert is refused, and an upsert replaces the earlier document.
-/

namespace Seidrum.Kernel.DocumentKeys

open Foundation

structure Ulid where
  /-- milliseconds since the epoch -/
  timestamp : ℕ
  random : ℕ
  timestamp_lt : timestamp < 2 ^ 48
  random_lt : random < 2 ^ 80
  deriving DecidableEq, Repr

/-- The digits of a ULID, in lower case. -/
def ulidDigit (digit : ℕ) : Char := "0123456789abcdefghjkmnpqrstvwxyz".toList.getD digit '0'

/-- The number with the bits of a ULID. -/
def Ulid.value (ulid : Ulid) : ℕ := ulid.timestamp * 2 ^ 80 + ulid.random

def Ulid.text (ulid : Ulid) : List Char := (numeral 32 26 ulid.value).map ulidDigit

/-- A day, as the clock shows it. -/
structure Day where
  year : ℕ
  month : ℕ
  day : ℕ
  year_lt : year < 100000
  month_lt : month < 13
  day_lt : day < 32
  deriving DecidableEq, Repr

/-- Years are padded to four digits and have a sign if they have more. -/
def yearText (year : ℕ) : List Char :=
  if year < 10000 then (numeral 10 4 year).map Nat.digitChar
  else '+' :: (numeral 10 5 year).map Nat.digitChar

/-- The day in the format `%Y%m%d`. -/
def Day.text (day : Day) : List Char :=
  yearText day.year ++ (numeral 10 2 day.month).map Nat.digitChar ++
    (numeral 10 2 day.day).map Nat.digitChar

/-- `content_`, the day, and eight characters. -/
def generateContentKey (today : Day) (ulid : Ulid) : String :=
  String.ofList ("content_".toList ++ today.text ++ ['_'] ++ ulid.text.take 8)

def generateFactKey (ulid : Ulid) : String := String.ofList ("fact_".toList ++ ulid.text.take 12)

def generateTaskKey (ulid : Ulid) : String := String.ofList ("task_".toList ++ ulid.text.take 12)

/-- The key of an audit entry, which its handler makes itself. -/
def auditKey (ulid : Ulid) : String := String.ofList ("audit_".toList ++ ulid.text.take 12)

inductive Collection
  | content
  | facts
  | tasks
  | auditLog
  deriving DecidableEq, Repr

/-- A request for a new document, with the day and the ULID its handler gets. -/
structure Write (Doc : Type*) where
  collection : Collection
  today : Day
  ulid : Ulid
  doc : Doc

def Write.key {Doc : Type*} (write : Write Doc) : String :=
  match write.collection with
  | .content => generateContentKey write.today write.ulid
  | .facts => generateFactKey write.ulid
  | .tasks => generateTaskKey write.ulid
  | .auditLog => auditKey write.ulid

inductive Outcome
  | created
  | refused
  | updated
  deriving DecidableEq, Repr

/-- The documents of each collection with their keys, in the order in which they were stored. -/
abbrev Documents (Doc : Type*) := Collection → List (String × Doc)

section Handlers

variable {Doc : Type*}

/-- A document is refused if its key is taken. -/
def insertDocument (key : String) (doc : Doc) (docs : List (String × Doc)) :
    Outcome × List (String × Doc) :=
  if key ∈ docs.map Prod.fst then (.refused, docs) else (.created, docs ++ [(key, doc)])

/-- The document with the key gets the fields of another one, which are all fields of a task. -/
def upsertDocument (key : String) (doc : Doc) (docs : List (String × Doc)) :
    Outcome × List (String × Doc) :=
  if key ∈ docs.map Prod.fst then
    (.updated, docs.map fun entry ↦ if entry.1 = key then (key, doc) else entry)
  else (.created, docs ++ [(key, doc)])

/-- Tasks are upserted, and everything else is inserted. -/
def handle (write : Write Doc) (documents : Documents Doc) : Outcome × Documents Doc :=
  let result := if write.collection = .tasks
    then upsertDocument write.key write.doc (documents write.collection)
    else insertDocument write.key write.doc (documents write.collection)
  (result.1, fun collection ↦ if collection = write.collection then result.2 else documents collection)

/-- The outcomes of a sequence of requests, and the documents after it. -/
def handleAll : List (Write Doc) → Documents Doc → List Outcome × Documents Doc
  | [], documents => ([], documents)
  | write :: rest, documents =>
      let (outcome, next) := handle write documents
      let (outcomes, last) := handleAll rest next
      (outcome :: outcomes, last)

end Handlers

/-! ## When keys agree -/

theorem ulidDigit_inj : ∀ a < 32, ∀ b < 32, ulidDigit a = ulidDigit b → a = b := by
  decide +kernel

theorem digitChar_inj : ∀ a < 10, ∀ b < 10, Nat.digitChar a = Nat.digitChar b → a = b := by
  decide

namespace Ulid

variable {a b : Ulid}

theorem value_lt (ulid : Ulid) : ulid.value < 32 ^ 26 := by
  have htimestamp := ulid.timestamp_lt
  have hrandom := ulid.random_lt
  unfold value
  omega

/-- The first characters print the first bits. -/
theorem take_text_eq_iff (kept dropped : ℕ) (hwidth : kept + dropped = 26) :
    a.text.take kept = b.text.take kept ↔ a.value / 32 ^ dropped = b.value / 32 ^ dropped := by
  have hlt (ulid : Ulid) : ulid.value / 32 ^ dropped < 32 ^ kept := by
    refine Nat.div_lt_of_lt_mul ?_
    rw [← Nat.pow_add, Nat.add_comm, hwidth]
    exact ulid.value_lt
  have htake (ulid : Ulid) :
      ulid.text.take kept = (numeral 32 kept (ulid.value / 32 ^ dropped)).map ulidDigit := by
    rw [text, ← List.map_take, ← hwidth, take_numeral]
  rw [htake, htake]
  exact map_numeral_inj (by decide) ulidDigit_inj (hlt a) (hlt b)

theorem take_eight_eq_iff :
    a.text.take 8 = b.text.take 8 ↔ a.timestamp / 2 ^ 10 = b.timestamp / 2 ^ 10 := by
  have hvalue (ulid : Ulid) : ulid.value / 32 ^ 18 = ulid.timestamp / 2 ^ 10 := by
    have hrandom := ulid.random_lt
    unfold value
    omega
  rw [take_text_eq_iff 8 18 rfl, hvalue, hvalue]

/-- Twelve characters are the timestamp and the first ten random bits. -/
theorem take_twelve_eq_iff :
    a.text.take 12 = b.text.take 12 ↔
      a.timestamp = b.timestamp ∧ a.random / 2 ^ 70 = b.random / 2 ^ 70 := by
  have hvalue (ulid : Ulid) :
      ulid.value / 32 ^ 14 = ulid.timestamp * 2 ^ 10 + ulid.random / 2 ^ 70 := by
    unfold value
    omega
  have ha := a.random_lt
  have hb := b.random_lt
  rw [take_text_eq_iff 12 14 rfl, hvalue, hvalue]
  omega

end Ulid

theorem yearText_inj {a b : ℕ} (ha : a < 100000) (hb : b < 100000) : yearText a = yearText b → a = b := by
  have hlength (n : ℕ) : ((numeral 10 4 n).map Nat.digitChar).length = 4 := by
    rw [List.length_map, length_numeral]
  have hlong (n : ℕ) : ('+' :: (numeral 10 5 n).map Nat.digitChar).length = 6 := by
    rw [List.length_cons, List.length_map, length_numeral]
  intro h
  unfold yearText at h
  split_ifs at h with hshort hshort' hshort'
  · exact (map_numeral_inj (by decide) digitChar_inj hshort hshort').mp h
  · have hlengths := congrArg List.length h
    simp [hlength, hlong] at hlengths
  · have hlengths := congrArg List.length h
    simp [hlength, hlong] at hlengths
  · exact (map_numeral_inj (by decide) digitChar_inj ha hb).mp (List.cons.inj h).2

/-- Days are printed differently. -/
theorem Day.text_inj {a b : Day} : a.text = b.text ↔ a = b := by
  refine ⟨fun h ↦ ?_, fun h ↦ by rw [h]⟩
  have hlength (n m : ℕ) : ((numeral 10 2 n).map Nat.digitChar).length =
      ((numeral 10 2 m).map Nat.digitChar).length := by
    rw [List.length_map, List.length_map, length_numeral, length_numeral]
  obtain ⟨hfirst, hday⟩ := List.append_inj' h (hlength a.day b.day)
  obtain ⟨hyear, hmonth⟩ := List.append_inj' hfirst (hlength a.month b.month)
  have hyears : a.year = b.year := yearText_inj a.year_lt b.year_lt hyear
  have hmonths : a.month = b.month := (map_numeral_inj (by decide) digitChar_inj
    (Nat.lt_of_lt_of_le a.month_lt (by decide)) (Nat.lt_of_lt_of_le b.month_lt (by decide))).mp hmonth
  have hdays : a.day = b.day := (map_numeral_inj (by decide) digitChar_inj
    (Nat.lt_of_lt_of_le a.day_lt (by decide)) (Nat.lt_of_lt_of_le b.day_lt (by decide))).mp hday
  cases a
  cases b
  subst hyears hmonths hdays
  rfl

variable {Doc : Type*}

/-- Two requests for the same collection get ULIDs that agree in the bits that are kept, and for content on
the same day. -/
def Write.Clashes (a b : Write Doc) : Prop :=
  match a.collection with
  | .content => a.today = b.today ∧ a.ulid.timestamp / 2 ^ 10 = b.ulid.timestamp / 2 ^ 10
  | .facts | .tasks | .auditLog =>
      a.ulid.timestamp = b.ulid.timestamp ∧ a.ulid.random / 2 ^ 70 = b.ulid.random / 2 ^ 70

variable {s : List Char} {a b : Ulid} {documents : Documents Doc}

theorem ofList_append_inj {a b : List Char} : String.ofList (s ++ a) = String.ofList (s ++ b) ↔ a = b := by
  rw [String.ofList_inj, List.append_cancel_left_eq]

theorem Ulid.length_text (ulid : Ulid) : ulid.text.length = 26 := by
  rw [text, List.length_map, length_numeral]

theorem generateContentKey_inj {today today' : Day} :
    generateContentKey today a = generateContentKey today' b ↔
      today = today' ∧ a.timestamp / 2 ^ 10 = b.timestamp / 2 ^ 10 := by
  have hlength : (a.text.take 8).length = (b.text.take 8).length := by
    rw [List.length_take, List.length_take, a.length_text, b.length_text]
  rw [← Ulid.take_eight_eq_iff (a := a) (b := b), ← Day.text_inj (a := today) (b := today')]
  unfold generateContentKey
  rw [String.ofList_inj]
  constructor
  · intro hkey
    obtain ⟨hfirst, htext⟩ := List.append_inj' hkey hlength
    have hday := (List.append_inj' hfirst rfl).1
    exact ⟨List.append_cancel_left hday, htext⟩
  · rintro ⟨hday, htext⟩
    rw [hday, htext]

theorem ofList_take_twelve_inj :
    String.ofList (s ++ a.text.take 12) = String.ofList (s ++ b.text.take 12) ↔
      a.timestamp = b.timestamp ∧ a.random / 2 ^ 70 = b.random / 2 ^ 70 := by
  rw [ofList_append_inj, Ulid.take_twelve_eq_iff]

theorem Write.key_eq_iff {a b : Write Doc} (h : a.collection = b.collection) :
    a.key = b.key ↔ a.Clashes b := by
  unfold Write.key Write.Clashes
  rw [← h]
  cases a.collection with dsimp only
  | content => exact generateContentKey_inj
  | facts => exact ofList_take_twelve_inj
  | tasks => exact ofList_take_twelve_inj
  | auditLog => exact ofList_take_twelve_inj

def requestsFor (collection : Collection) (writes : List (Write Doc)) : List (Write Doc) :=
  writes.filter fun write ↦ write.collection = collection

/-- The documents that a sequence of requests asks for. -/
def requested (writes : List (Write Doc)) : Documents Doc :=
  fun collection ↦ (requestsFor collection writes).map fun write ↦ (write.key, write.doc)

/-- The keys within each collection are distinct, every request creates its document, and all documents are
stored. -/
structure NothingLost (writes : List (Write Doc)) : Prop where
  keys : ∀ collection, ((requestsFor collection writes).map Write.key).Nodup
  created : ∀ outcome ∈ (handleAll writes fun _ ↦ []).1, outcome = .created
  stored : (handleAll writes fun _ ↦ []).2 = requested writes

/-- No two requests for the same collection clash. -/
def Spread (writes : List (Write Doc)) : Prop :=
  writes.Pairwise fun a b ↦ a.collection = b.collection → ¬a.Clashes b

theorem keys_nodup_iff (writes : List (Write Doc)) :
    (∀ collection, ((requestsFor collection writes).map Write.key).Nodup) ↔ Spread writes := by
  simp only [List.Nodup, requestsFor, List.pairwise_map, List.pairwise_filter, decide_eq_true_eq, Spread]
  simp only [List.pairwise_iff_forall_sublist]
  constructor
  · intro h a b hsub hcollection
    rw [← Write.key_eq_iff hcollection]
    exact h a.collection hsub rfl hcollection.symm
  · rintro h _ a b hsub rfl hb
    have hclash := h hsub hb.symm
    rwa [← Write.key_eq_iff hb.symm] at hclash

/-- A document with a new key is created. -/
theorem handle_of_notMem {write : Write Doc} (h : write.key ∉ (documents write.collection).map Prod.fst) :
    handle write documents =
      (.created, fun collection ↦ documents collection ++ requested [write] collection) := by
  have hresult : (if write.collection = .tasks
      then upsertDocument write.key write.doc (documents write.collection)
      else insertDocument write.key write.doc (documents write.collection)) =
      (.created, documents write.collection ++ [(write.key, write.doc)]) := by
    rw [upsertDocument, insertDocument, if_neg h, if_neg h, ite_self]
  rw [handle, hresult]
  refine Prod.ext rfl (funext fun collection ↦ ?_)
  by_cases hcollection : collection = write.collection
  · simp [hcollection, requested, requestsFor]
  · simp [hcollection, requested, requestsFor, Ne.symm hcollection]

theorem requestsFor_cons (collection : Collection) (write : Write Doc) (rest : List (Write Doc)) :
    requestsFor collection (write :: rest) = requestsFor collection [write] ++ requestsFor collection rest :=
  List.filter_append [write] rest

/-- Documents whose keys are distinct and new are all created. -/
theorem handleAll_of_nodup {writes : List (Write Doc)}
    (h : ∀ collection, ((documents collection).map Prod.fst ++
      (requestsFor collection writes).map Write.key).Nodup) :
    handleAll writes documents = (writes.map fun _ ↦ .created,
      fun collection ↦ documents collection ++ requested writes collection) := by
  induction writes generalizing documents with
  | nil => simp [handleAll, requested, requestsFor]
  | cons write rest ih =>
    have hnew : write.key ∉ (documents write.collection).map Prod.fst := by
      intro hmem
      refine (List.nodup_append.mp (h write.collection)).2.2 _ hmem write.key ?_ rfl
      rw [requestsFor_cons]
      simp [requestsFor]
    have hrest : ∀ collection, ((documents collection ++ requested [write] collection).map Prod.fst ++
        (requestsFor collection rest).map Write.key).Nodup := by
      intro collection
      have hcollection := h collection
      rw [requestsFor_cons, List.map_append, ← List.append_assoc] at hcollection
      simpa [requested, Function.comp_def] using hcollection
    rw [handleAll, handle_of_notMem hnew]
    dsimp only
    rw [ih hrest]
    refine Prod.ext rfl (funext fun collection ↦ ?_)
    simp only [requested, requestsFor_cons _ write rest, List.map_append, List.append_assoc]

/-- Exactly if no two requests clash, all keys are distinct and no document is lost. -/
theorem nothingLost_iff (writes : List (Write Doc)) : NothingLost writes ↔ Spread writes := by
  constructor
  · intro h
    exact (keys_nodup_iff writes).mp h.keys
  · intro h
    have hkeys := (keys_nodup_iff writes).mpr h
    have hrun : handleAll writes (fun _ ↦ []) = (writes.map fun _ ↦ .created, requested writes) :=
      handleAll_of_nodup hkeys
    refine ⟨hkeys, ?_, ?_⟩
    · rw [hrun]
      intro outcome hmem
      obtain ⟨_, -, rfl⟩ := List.mem_map.mp hmem
      rfl
    · rw [hrun]

/-- A message, a second one half a second later, and two tasks in one millisecond. -/
def hurriedWrites : List (Write String) :=
  let today : Day := ⟨2024, 3, 9, by decide, by decide, by decide⟩
  [⟨.content, today, ⟨1709985792000, 5, by decide, by decide⟩, "hello"⟩,
   ⟨.content, today, ⟨1709985792500, 9 * 2 ^ 70, by decide, by decide⟩, "are you there?"⟩,
   ⟨.tasks, today, ⟨1709985792600, 7 * 2 ^ 70, by decide, by decide⟩, "call back"⟩,
   ⟨.tasks, today, ⟨1709985792600, 7 * 2 ^ 70 + 1, by decide, by decide⟩, "send the report"⟩]

/-- The second message is refused, and the second task replaces the first. -/
theorem hurriedWrites_lost :
    (hurriedWrites.map Write.ulid).Nodup ∧ ¬NothingLost hurriedWrites ∧
      (handleAll hurriedWrites fun _ ↦ []).1 = [.created, .refused, .created, .updated] ∧
      ((handleAll hurriedWrites fun _ ↦ []).2 .tasks).map Prod.snd = ["send the report"] := by
  have houtcomes : (handleAll hurriedWrites fun _ ↦ []).1 = [.created, .refused, .created, .updated] := by
    decide +kernel
  refine ⟨by decide +kernel, fun h ↦ ?_, houtcomes, by decide +kernel⟩
  have hcreated := h.created .refused (by rw [houtcomes]; decide)
  exact absurd hcreated (by decide)

end Seidrum.Kernel.DocumentKeys
