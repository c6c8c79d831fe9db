import Seidrum.Kernel.Events

/-!
# The client of the database

The client puts the key of a document as it is in the path `/_api/document/{collection}/{key}`; which
document is read is up to how the server reads the path.  A query is answered by the first batch of its
cursor.
-/

namespace Seidrum.Kernel

open EventBus (Value)

structure Document where
  collection : String
  key : String
  fields : List (String × Value)

namespace Document

def id (doc : Document) : String := doc.collection ++ "/" ++ doc.key

/-- The document with its system attributes. -/
def value (doc : Document) : Value :=
  .object (("_id", .string doc.id) :: ("_key", .string doc.key) :: doc.fields)

/-- A field, `null` when there is none. -/
def field (doc : Document) (name : String) : Value := (doc.value.get name).getD .null

end Document

/-- The identifier of the document that a path after `/_api/document/` is read as, if of any. -/
abbrev PathReading := String → Option String

/-- A path is read up to the query or the fragment. -/
def untilQuery : PathReading := fun path ↦
  some (String.ofList (path.toList.takeWhile fun c ↦ c ≠ '?' ∧ c ≠ '#'))

/-- How many results the server answers a query with; the rest is left in its cursor. -/
def firstBatch : ℕ := 1000

def batch {α : Type*} (results : List α) : List α := results.take firstBatch

@[simp]
theorem batch_eq_nil {α : Type*} {results : List α} : batch results = [] ↔ results = [] := by
  simp [batch, firstBatch]

/-- A collection's documents are answered in full if there are no more than in a batch. -/
theorem batch_eq_self {α : Type*} {results : List α} (h : results.length ≤ firstBatch) :
    batch results = results :=
  List.take_of_length_le h

/-- A document with `error` set is taken for an error of the server. -/
def Document.marked (doc : Document) : Bool := ((doc.value.get "error").bind Value.asBool).getD false

def getDocument (documents : List Document) (reading : PathReading) (collection key : String) :
    Option Document :=
  (documents.find? fun doc ↦ reading (collection ++ "/" ++ key) = some doc.id).filter (¬ ·.marked)

end Seidrum.Kernel
