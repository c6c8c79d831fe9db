import Mathlib.Data.List.AList
import Mathlib.Data.List.Induction
import Seidrum.Foundation.OrderedTable

/-!
# Turn stores

The records of a session's turns are kept in memory, a list for each session, or in one redb table
of all sessions under ascending keys.  Reading a session from the table filters the records and
sorts them by the number each was given when it was written; the lists are read as they are.
-/

namespace Seidrum.Agent

open Seidrum.Foundation

inductive RuntimeError
  | provider (message : String)
  | tool (toolName message : String)
  | store (message : String)
  | toolNotRegistered (toolName : String)
  | iterationLimit (iterations : ℕ)
  deriving DecidableEq, Repr

protected def RuntimeError.toString : RuntimeError → String
  | provider message => "provider error: " ++ message
  | tool toolName message => "tool `" ++ toolName ++ "` failed: " ++ message
  | store message => "store error: " ++ message
  | toolNotRegistered toolName => "tool `" ++ toolName ++ "` is not registered"
  | iterationLimit iterations =>
      "provider did not return a final response within " ++ toString iterations ++ " iterations"

inductive StoredTurnRecord (Value : Type)
  | userMessage (recordId : String) (sequence : ℕ) (sessionId agentId content : String)
  | assistantToolCall (recordId : String) (sequence : ℕ) (sessionId agentId callId toolName : String)
      (arguments : Value)
  | toolResult (recordId : String) (sequence : ℕ) (sessionId agentId callId toolName content : String)
      (isError : Bool)
  | assistantMessage (recordId : String) (sequence : ℕ) (sessionId agentId content : String)
  deriving DecidableEq, Repr

namespace StoredTurnRecord

variable {Value : Type}

def sequence : StoredTurnRecord Value → ℕ
  | userMessage _ sequence _ _ _ | assistantToolCall _ sequence _ _ _ _ _
  | toolResult _ sequence _ _ _ _ _ _ | assistantMessage _ sequence _ _ _ => sequence

def sessionId : StoredTurnRecord Value → String
  | userMessage _ _ sessionId _ _ | assistantToolCall _ _ sessionId _ _ _ _
  | toolResult _ _ sessionId _ _ _ _ _ | assistantMessage _ _ sessionId _ _ => sessionId

/-- What a store goes by. -/
def header (record : StoredTurnRecord Value) : String × ℕ := (record.sessionId, record.sequence)

end StoredTurnRecord

/-- A store of turn records whose appends succeed.  Beside the two calls it tells, for reasoning
only, the numbers of each session's records in the order in which they were appended; what is read
carries these numbers. -/
structure RuntimeStore (Value σ : Type) where
  append : StoredTurnRecord Value → σ → σ
  records : String → σ → Except RuntimeError (List (StoredTurnRecord Value))
  sequences : String → σ → List ℕ
  sequences_append : ∀ sessionId record store, sequences sessionId (append record store) =
    sequences sessionId store ++ if record.sessionId = sessionId then [record.sequence] else []
  records_perm : ∀ {sessionId store records'}, records sessionId store = .ok records' →
    (records'.map StoredTurnRecord.sequence).Perm (sequences sessionId store)

structure InMemoryTurnStore (Value : Type) where
  recordsBySession : AList fun _ : String ↦ List (StoredTurnRecord Value)

namespace InMemoryTurnStore

variable {Value : Type}

def empty : InMemoryTurnStore Value := ⟨∅⟩

def append (record : StoredTurnRecord Value) (store : InMemoryTurnStore Value) :
    InMemoryTurnStore Value :=
  ⟨store.recordsBySession.insert record.sessionId
    ((store.recordsBySession.lookup record.sessionId).getD [] ++ [record])⟩

def records (sessionId : String) (store : InMemoryTurnStore Value) :
    Except RuntimeError (List (StoredTurnRecord Value)) :=
  .ok ((store.recordsBySession.lookup sessionId).getD [])

theorem lookup_append (sessionId : String) (record : StoredTurnRecord Value)
    (store : InMemoryTurnStore Value) :
    ((store.append record).recordsBySession.lookup sessionId).getD [] =
      (store.recordsBySession.lookup sessionId).getD [] ++
        if record.sessionId = sessionId then [record] else [] := by
  unfold append
  by_cases hsession : record.sessionId = sessionId
  · subst hsession
    rw [AList.lookup_insert, if_pos rfl, Option.getD_some]
  · rw [AList.lookup_insert_ne (Ne.symm hsession), if_neg hsession, List.append_nil]

/-- The lists are the append order themselves. -/
def runtimeStore : RuntimeStore Value (InMemoryTurnStore Value) where
  append := append
  records := records
  sequences sessionId store :=
    ((store.recordsBySession.lookup sessionId).getD []).map StoredTurnRecord.sequence
  sequences_append sessionId record store := by
    rw [lookup_append, List.map_append]
    split_ifs <;> rfl
  records_perm h := by
    obtain rfl := Except.ok.inj h
    exact List.Perm.refl _

end InMemoryTurnStore

/-- JSON serialization: reading may fail, and a fraction may come back one unit off. -/
structure Serialization (Record Bytes : Type) where
  toVec : Record → Bytes
  fromSlice : Bytes → Except String Record

/-- Serialization of records without fractions: what was written is read back unchanged. -/
structure Codec (Record Bytes : Type) extends Serialization Record Bytes where
  fromSlice_toVec : ∀ record, fromSlice (toVec record) = .ok record

attribute [simp] Codec.fromSlice_toVec

/-- Serialization that keeps the record itself. -/
def Codec.structural {Record : Type} : Codec Record Record := ⟨⟨id, .ok⟩, fun _ ↦ rfl⟩

/-- Serialization of turn records.  The arguments of a call may be read back changed, or not at all
where they are nested too deep; session and number stand in the text and are read from there. -/
structure TurnCodec (Value Bytes : Type) extends Serialization (StoredTurnRecord Value) Bytes where
  header : Bytes → Option (String × ℕ)
  header_toVec : ∀ record, header (toVec record) = some record.header
  header_of_fromSlice : ∀ {data record}, fromSlice data = .ok record →
    header data = some record.header

namespace TurnCodec

variable {Value Bytes : Type}

/-- Serialization that keeps the record itself. -/
def structural : TurnCodec Value (StoredTurnRecord Value) :=
  ⟨⟨id, .ok⟩, fun record ↦ some record.header, fun _ ↦ rfl,
    fun h ↦ congrArg (some ∘ StoredTurnRecord.header) (Except.ok.inj h)⟩

/-- What is written of a record is read as another one. -/
def Reads (codec : TurnCodec Value Bytes) (record read : StoredTurnRecord Value) : Prop :=
  codec.fromSlice (codec.toVec record) = .ok read

/-- All records can be read, and those of the session are read back unchanged. -/
structure Legible (codec : TurnCodec Value Bytes) (appends : List (StoredTurnRecord Value))
    (sessionId : String) : Prop where
  reads : ∀ record ∈ appends, ∃ read, codec.Reads record read
  unchanged : ∀ record ∈ appends, record.sessionId = sessionId → codec.Reads record record

variable {codec : TurnCodec Value Bytes} {record read : StoredTurnRecord Value}

theorem Reads.header_eq (h : codec.Reads record read) : read.header = record.header :=
  Option.some.inj ((codec.header_of_fromSlice h).symm.trans (codec.header_toVec record))

theorem Reads.sessionId_eq (h : codec.Reads record read) : read.sessionId = record.sessionId :=
  congrArg Prod.fst h.header_eq

theorem Reads.sequence_eq (h : codec.Reads record read) : read.sequence = record.sequence :=
  congrArg Prod.snd h.header_eq

theorem reads_unique : Relator.RightUnique codec.Reads :=
  fun _ _ _ h h' ↦ Except.ok.inj (h.symm.trans h')

end TurnCodec

section ReadTable

variable {Record Bytes : Type} {codec : Serialization Record Bytes} {subject : String}

/-- Deserialize the entries of a table in key order, up to the first that cannot be read. -/
def readTable (codec : Serialization Record Bytes) (subject : String) :
    List (ℕ × Bytes) → Except RuntimeError (List Record)
  | [] => .ok []
  | (_, data) :: rest =>
      match codec.fromSlice data with
      | .error error => .error (.store ("failed to deserialize " ++ subject ++ ": " ++ error))
      | .ok record => (readTable codec subject rest).map (record :: ·)

theorem readTable_eq_ok_iff {entries : List (ℕ × Bytes)} {all : List Record} :
    readTable codec subject entries = .ok all ↔
      List.Forall₂ (fun entry record ↦ codec.fromSlice entry.2 = .ok record) entries all := by
  induction entries generalizing all with
  | nil => simp [readTable, eq_comm]
  | cons entry rest ih =>
    rw [List.forall₂_cons_left_iff, readTable]
    cases codec.fromSlice entry.2 with
    | error error => simp
    | ok record =>
      simp only [Except.ok.injEq, ← ih]
      cases readTable codec subject rest with
      | error error => simp [Except.map]
      | ok others => simp [Except.map, eq_comm]

/-- The readable records, in table order. -/
def readable (codec : Serialization Record Bytes) (entries : List (ℕ × Bytes)) : List Record :=
  entries.filterMap fun entry ↦ (codec.fromSlice entry.2).toOption

theorem readTable_eq_readable {entries : List (ℕ × Bytes)} {all : List Record}
    (h : readTable codec subject entries = .ok all) : all = readable codec entries := by
  rw [readTable_eq_ok_iff] at h
  induction h with
  | nil => rfl
  | @cons entry record entries all hread _ ih =>
    rw [readable, List.filterMap_cons, ih]
    simp [hread, Except.toOption, readable]

theorem readable_insert_nextKey (codec : Codec Record Bytes) (table : Table ℕ Bytes)
    (record : Record) :
    readable codec.toSerialization (table.insert table.nextKey (codec.toVec record)).entries =
      readable codec.toSerialization table.entries ++ [record] := by
  rw [Table.entries_insert_nextKey, readable, List.filterMap_append]
  simp [readable, Except.toOption]

end ReadTable

structure RedbTurnStore (Bytes : Type) where
  runtimeRecords : Table ℕ Bytes

namespace RedbTurnStore

variable {Value Bytes : Type} (codec : TurnCodec Value Bytes)

/-- A freshly created database. -/
def create : RedbTurnStore Bytes := ⟨Table.empty⟩

/-- Opening an existing file keeps its committed tables. -/
def reopen (store : RedbTurnStore Bytes) : RedbTurnStore Bytes := store

def append (record : StoredTurnRecord Value) (store : RedbTurnStore Bytes) : RedbTurnStore Bytes :=
  ⟨store.runtimeRecords.insert store.runtimeRecords.nextKey (codec.toVec record)⟩

def records (sessionId : String) (store : RedbTurnStore Bytes) :
    Except RuntimeError (List (StoredTurnRecord Value)) := do
  let all ← readTable codec.toSerialization "turn record" store.runtimeRecords.entries
  -- `sort_by_key` is stable: records of one number keep their table order
  return (all.filter fun record ↦ record.sessionId = sessionId).insertionSort
    fun a b ↦ a.sequence ≤ b.sequence

/-- The numbers of a session's records in the order of the table. -/
def sequences (sessionId : String) (store : RedbTurnStore Bytes) : List ℕ :=
  ((store.runtimeRecords.entries.filterMap fun entry ↦ codec.header entry.2).filter
    fun header ↦ header.1 = sessionId).map Prod.snd

theorem sequences_append (sessionId : String) (record : StoredTurnRecord Value)
    (store : RedbTurnStore Bytes) :
    (store.append codec record).sequences codec sessionId = store.sequences codec sessionId ++
      if record.sessionId = sessionId then [record.sequence] else [] := by
  have hheader : codec.header (codec.toVec record) = some (record.sessionId, record.sequence) :=
    codec.header_toVec record
  rw [sequences, append, Table.entries_insert_nextKey, List.filterMap_append, List.filter_append,
    List.map_append]
  by_cases hsession : record.sessionId = sessionId <;> simp [sequences, hheader, hsession]

theorem map_sequence_filter {entries : List (ℕ × Bytes)} {all : List (StoredTurnRecord Value)}
    (h : List.Forall₂ (fun entry record ↦ codec.fromSlice entry.2 = .ok record) entries all)
    (sessionId : String) :
    (all.filter fun record ↦ record.sessionId = sessionId).map StoredTurnRecord.sequence =
      ((entries.filterMap fun entry ↦ codec.header entry.2).filter
        fun header ↦ header.1 = sessionId).map Prod.snd := by
  induction h with
  | nil => rfl
  | @cons entry record entries all hread _ ih =>
    have hheader : codec.header entry.2 = some (record.sessionId, record.sequence) :=
      codec.header_of_fromSlice hread
    by_cases hsession : record.sessionId = sessionId <;> simp [hheader, hsession, ih]

theorem records_eq_ok_iff {codec : TurnCodec Value Bytes} {sessionId : String}
    {store : RedbTurnStore Bytes} {records' : List (StoredTurnRecord Value)} :
    store.records codec sessionId = .ok records' ↔
      ∃ all, List.Forall₂ (fun entry record ↦ codec.fromSlice entry.2 = .ok record)
          store.runtimeRecords.entries all ∧
        ((all.filter fun record ↦ record.sessionId = sessionId).insertionSort
          fun a b ↦ a.sequence ≤ b.sequence) = records' := by
  have hreads : ∀ all, List.Forall₂ (fun entry record ↦ codec.fromSlice entry.2 = .ok record)
      store.runtimeRecords.entries all ↔
        readTable codec.toSerialization "turn record" store.runtimeRecords.entries = .ok all :=
    fun _ ↦ readTable_eq_ok_iff.symm
  simp only [records, hreads]
  cases readTable codec.toSerialization "turn record" store.runtimeRecords.entries with
  | error error => simp [bind, Except.bind]
  | ok all => simp [bind, Except.bind, pure, Except.pure]

/-- The table holds the records of all sessions in append order. -/
def runtimeStore (codec : TurnCodec Value Bytes) : RuntimeStore Value (RedbTurnStore Bytes) where
  append := append codec
  records := records codec
  sequences := sequences codec
  sequences_append := sequences_append codec
  records_perm {sessionId store records'} h := by
    obtain ⟨all, hall, rfl⟩ := records_eq_ok_iff.mp h
    rw [sequences, ← map_sequence_filter codec hall]
    exact (List.perm_insertionSort _ _).map _

end RedbTurnStore

theorem exists_forall₂_iff {α β : Type*} {R : α → β → Prop} {l : List α} :
    (∃ l', List.Forall₂ R l l') ↔ ∀ a ∈ l, ∃ b, R a b := by
  induction l with
  | nil => simp
  | cons a l ih => simp [List.forall₂_cons_left_iff, ← ih]

section Agreement

variable {Value Bytes : Type}

def InMemoryTurnStore.ofAppends (appends : List (StoredTurnRecord Value)) :
    InMemoryTurnStore Value :=
  appends.foldl (fun store record ↦ store.append record) empty

/-- The store on disk after a list of appends. -/
def RedbTurnStore.ofAppends (codec : TurnCodec Value Bytes)
    (appends : List (StoredTurnRecord Value)) : RedbTurnStore Bytes :=
  appends.foldl (fun store record ↦ store.append codec record) create

theorem InMemoryTurnStore.records_ofAppends (appends : List (StoredTurnRecord Value))
    (sessionId : String) :
    (ofAppends appends).records sessionId =
      .ok (appends.filter fun record ↦ record.sessionId = sessionId) := by
  have hlookup : ((ofAppends appends).recordsBySession.lookup sessionId).getD [] =
      appends.filter fun record ↦ record.sessionId = sessionId := by
    induction appends using List.reverseRecOn with
    | nil => rfl
    | append_singleton appends record ih =>
      rw [ofAppends, List.foldl_concat, lookup_append, ← ofAppends, ih, List.filter_append]
      by_cases hsession : record.sessionId = sessionId <;> simp [hsession]
  exact congrArg Except.ok hlookup

namespace RedbTurnStore

variable {codec : TurnCodec Value Bytes} {appends : List (StoredTurnRecord Value)}
variable {sessionId : String} {records' : List (StoredTurnRecord Value)}

theorem data_ofAppends (codec : TurnCodec Value Bytes) (appends : List (StoredTurnRecord Value)) :
    (ofAppends codec appends).runtimeRecords.entries.map Prod.snd = appends.map codec.toVec := by
  induction appends using List.reverseRecOn with
  | nil => rfl
  | append_singleton appends record ih =>
    rw [ofAppends, List.foldl_concat, ← ofAppends, append, Table.entries_insert_nextKey,
      List.map_append, List.map_append, ih]
    rfl

theorem records_ofAppends_eq_ok_iff :
    (ofAppends codec appends).records codec sessionId = .ok records' ↔
      ∃ all, List.Forall₂ codec.Reads appends all ∧
        ((all.filter fun record ↦ record.sessionId = sessionId).insertionSort
          fun a b ↦ a.sequence ≤ b.sequence) = records' := by
  rw [records_eq_ok_iff]
  apply exists_congr
  intro all
  apply and_congr_left'
  calc List.Forall₂ (fun entry record ↦ codec.fromSlice entry.2 = .ok record)
        (ofAppends codec appends).runtimeRecords.entries all
      ↔ List.Forall₂ (fun data record ↦ codec.fromSlice data = .ok record)
        ((ofAppends codec appends).runtimeRecords.entries.map Prod.snd) all := by
        rw [List.forall₂_map_left_iff]
    _ ↔ List.Forall₂ (fun data record ↦ codec.fromSlice data = .ok record)
        (appends.map codec.toVec) all := by rw [data_ofAppends]
    _ ↔ List.Forall₂ codec.Reads appends all := by
        rw [List.forall₂_map_left_iff]
        rfl

theorem sequences_ofAppends (codec : TurnCodec Value Bytes)
    (appends : List (StoredTurnRecord Value)) (sessionId : String) :
    (ofAppends codec appends).sequences codec sessionId =
      (appends.filter fun record ↦ record.sessionId = sessionId).map StoredTurnRecord.sequence := by
  induction appends using List.reverseRecOn with
  | nil => rfl
  | append_singleton appends record ih =>
    rw [ofAppends, List.foldl_concat, ← ofAppends, sequences_append, ih, List.filter_append]
    by_cases hsession : record.sessionId = sessionId <;> simp [hsession]

/-- Whatever the records are read as, none is lost. -/
theorem length_records_ofAppends (h : (ofAppends codec appends).records codec sessionId = .ok records') :
    records'.length = (appends.filter fun record ↦ record.sessionId = sessionId).length := by
  have hperm := ((runtimeStore codec).records_perm h).length_eq
  change _ = ((ofAppends codec appends).sequences codec sessionId).length at hperm
  rwa [sequences_ofAppends, List.length_map, List.length_map] at hperm

theorem sorted_records (h : (ofAppends codec appends).records codec sessionId = .ok records') :
    (records'.map StoredTurnRecord.sequence).Pairwise (· ≤ ·) := by
  obtain ⟨all, -, rfl⟩ := records_eq_ok_iff.mp h
  rw [List.pairwise_map]
  exact List.pairwise_insertionSort (fun a b : StoredTurnRecord Value ↦ a.sequence ≤ b.sequence) _

/-- A session whose records were appended in ascending order reads as it was appended exactly when its
records are read back unchanged and no other session's stops the reading. -/
theorem records_eq_filter_iff (hsorted : ((appends.filter fun record ↦ record.sessionId = sessionId).map
      StoredTurnRecord.sequence).Pairwise (· ≤ ·)) :
    (ofAppends codec appends).records codec sessionId =
        .ok (appends.filter fun record ↦ record.sessionId = sessionId) ↔
      codec.Legible appends sessionId := by
  have hfilter : ∀ {all}, List.Forall₂ codec.Reads appends all →
      List.Forall₂ codec.Reads (appends.filter fun record ↦ record.sessionId = sessionId)
        (all.filter fun record ↦ record.sessionId = sessionId) :=
    fun hall ↦ List.rel_filter (fun record read hread ↦ by simp [hread.sessionId_eq]) hall
  have hunsorted : ∀ {all}, List.Forall₂ codec.Reads appends all →
      ((all.filter fun record ↦ record.sessionId = sessionId).insertionSort
        fun a b ↦ a.sequence ≤ b.sequence) = all.filter fun record ↦ record.sessionId = sessionId := by
    intro all hall
    have hnumbers : List.Forall₂ (· = ·)
        ((appends.filter fun record ↦ record.sessionId = sessionId).map StoredTurnRecord.sequence)
        ((all.filter fun record ↦ record.sessionId = sessionId).map StoredTurnRecord.sequence) := by
      rw [List.forall₂_map_left_iff, List.forall₂_map_right_iff]
      exact (hfilter hall).imp fun record read hread ↦ hread.sequence_eq.symm
    rw [List.forall₂_eq_eq_eq] at hnumbers
    rw [hnumbers, List.pairwise_map] at hsorted
    exact hsorted.insertionSort_eq
  rw [records_ofAppends_eq_ok_iff]
  constructor
  · rintro ⟨all, hall, hsame⟩
    rw [hunsorted hall] at hsame
    have hown := hfilter hall
    rw [hsame, List.forall₂_same] at hown
    refine ⟨exists_forall₂_iff.mp ⟨all, hall⟩, fun record hmem hsession ↦ hown record ?_⟩
    exact List.mem_filter.mpr ⟨hmem, decide_eq_true hsession⟩
  · intro h
    obtain ⟨all, hall⟩ := exists_forall₂_iff.mpr h.reads
    refine ⟨all, hall, ?_⟩
    rw [hunsorted hall]
    apply TurnCodec.reads_unique.forall₂ (hfilter hall)
    rw [List.forall₂_same]
    intro record hmem
    obtain ⟨hmem, hsession⟩ := List.mem_filter.mp hmem
    exact h.unchanged record hmem (of_decide_eq_true hsession)

end RedbTurnStore

/-- A session reads the same from both stores, also after a restart, exactly when its records were
appended in ascending order of their numbers and are read back from their text unchanged, with no other
session's stopping the reading. -/
theorem records_eq_iff_sorted (codec : TurnCodec Value Bytes)
    (appends : List (StoredTurnRecord Value)) (sessionId : String) :
    (InMemoryTurnStore.ofAppends appends).records sessionId =
        (RedbTurnStore.ofAppends codec appends).reopen.records codec sessionId ↔
      ((appends.filter fun record ↦ record.sessionId = sessionId).map
        StoredTurnRecord.sequence).Pairwise (· ≤ ·) ∧ codec.Legible appends sessionId := by
  rw [InMemoryTurnStore.records_ofAppends, RedbTurnStore.reopen, eq_comm]
  constructor
  · intro h
    have hsorted := RedbTurnStore.sorted_records h
    exact ⟨hsorted, (RedbTurnStore.records_eq_filter_iff hsorted).mp h⟩
  · exact fun ⟨hsorted, hlegible⟩ ↦ (RedbTurnStore.records_eq_filter_iff hsorted).mpr hlegible

/-- Two records of one session appended against their numbers come back in two orders. -/
theorem records_differ :
    let appends : List (StoredTurnRecord Unit) :=
      [.userMessage "r1" 2 "s" "a" "second", .userMessage "r2" 1 "s" "a" "first"]
    (InMemoryTurnStore.ofAppends appends).records "s" ≠
      (RedbTurnStore.ofAppends TurnCodec.structural appends).reopen.records TurnCodec.structural "s" := by
  decide +kernel

end Agreement

end Seidrum.Agent
