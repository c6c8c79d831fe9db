import Seidrum.Kernel.DatabaseClient
import Seidrum.Plugins.CapabilityCalls

/-!
# Whose conversations an agent uses

An agent looks up the conversation of an event by the chat or the subject the event comes from, and loads
its history.  Its model may ask for a conversation by its id, or for the latest ones.  The brain compares
owners where a request names a user, and none of these requests does: users share a conversation exactly
if their events are of one chat, and a model is told of whatever conversations there are.
-/

namespace Seidrum.Plugins

open EventBus (Value SerdeJson)
open Foundation Kernel

/-- A message of a conversation.  Its author is history: the user whose event it was appended for. -/
structure StoredMessage where
  message : ConversationMessage
  author : Option String
  deriving DecidableEq, Repr

structure ConversationDoc where
  id : String
  platform : String
  participants : List String
  agentId : String
  scope : String
  messages : List StoredMessage
  metadata : List (String × String)
  state : String
  userId : Option String
  createdAt : ℕ
  updatedAt : ℕ
  deriving DecidableEq, Repr

structure ConversationGetRequest where
  conversationId : String
  maxMessages : ℕ
  userId : Option String

structure ConversationFindRequest where
  agentId : String
  platform : String
  metadataKey : String
  metadataValue : String
  userId : Option String

abbrev Docs := List ConversationDoc

def conversationPath (id : String) : String := "conversations/" ++ id

/-- An id is read as itself.  Those of conversations are ULIDs that the brain generates. -/
def PlainId (reading : PathReading) (id : String) : Prop :=
  reading (conversationPath id) = some (conversationPath id)

/-- A new conversation, with the id the brain generates. -/
def newConversation (request : ConversationCreateRequest) (id : String) (now : ℕ) : ConversationDoc where
  id := id
  platform := request.platform
  participants := request.participants
  agentId := request.agentId
  scope := request.scope
  messages := []
  metadata := request.metadata
  state := "active"
  userId := request.userId
  createdAt := now
  updatedAt := now

namespace Docs

def ids (docs : Docs) : List String := docs.map ConversationDoc.id

/-- `handle_conversation_append`. -/
def append (docs : Docs) (conversationId : String) (message : StoredMessage) (now : ℕ) : Docs :=
  docs.map fun doc ↦
    if doc.id = conversationId then
      { doc with messages := doc.messages ++ [message], updatedAt := now }
    else doc

/-- The conversation that the path with an id is read as. -/
def read (docs : Docs) (reading : PathReading) (conversationId : String) : Option ConversationDoc :=
  docs.find? fun doc ↦ reading (conversationPath conversationId) = some (conversationPath doc.id)

/-- `handle_conversation_get`: a request that names a user gets nothing of others. -/
def get (docs : Docs) (reading : PathReading) (request : ConversationGetRequest) :
    Option ConversationDoc :=
  (docs.read reading request.conversationId).bind fun doc ↦
    let trimmed := if 0 < request.maxMessages then
      { doc with messages := doc.messages.drop (doc.messages.length - request.maxMessages) } else doc
    match request.userId with
    | some expected => if doc.userId.getD "" = expected then some trimmed else none
    | none => some trimmed

/-- What the query of `handle_conversation_find` filters by. -/
def Finds (request : ConversationFindRequest) (doc : ConversationDoc) : Prop :=
  doc.agentId = request.agentId ∧ doc.platform = request.platform ∧
    doc.metadata.lookup request.metadataKey = some request.metadataValue ∧ doc.state = "active" ∧
    ∀ userId ∈ request.userId, doc.userId = some userId

instance (request : ConversationFindRequest) (doc : ConversationDoc) : Decidable (Finds request doc) :=
  inferInstanceAs (Decidable (_ ∧ _ ∧ _ ∧ _ ∧ ∀ userId ∈ request.userId, _))

/-- The document is one the query may return: none it finds was updated later. -/
def Found (docs : Docs) (request : ConversationFindRequest) (conversationId : String) : Prop :=
  ∃ doc ∈ docs, doc.id = conversationId ∧ Finds request doc ∧
    ∀ other ∈ docs, Finds request other → other.updatedAt ≤ doc.updatedAt

instance (docs : Docs) (request : ConversationFindRequest) (conversationId : String) :
    Decidable (docs.Found request conversationId) :=
  inferInstanceAs (Decidable (∃ doc ∈ docs, _ ∧ _ ∧ ∀ other ∈ docs, _ → _))

/-- `handle_conversation_list`: the conversations that were updated last. -/
def list (docs : Docs) (request : ConversationListRequest) : Docs :=
  topByKey ConversationDoc.updatedAt (min (if request.limit = 0 then 20 else request.limit) firstBatch)
    (docs.filter fun doc ↦
      (request.agentId = "" ∨ doc.agentId = request.agentId) ∧
        (∀ platform ∈ request.platform, doc.platform = platform) ∧
        ∀ userId ∈ request.userId, doc.userId = some userId)

end Docs

/-! ## The agents -/

def userOf (event : ConsciousnessEvent) : Option String :=
  ((event.payload.get "user_id").bind Value.asStr).filter (· ≠ "")

def extractUserText (json : SerdeJson) (event : ConsciousnessEvent) : String :=
  match (event.payload.get "text").bind Value.asStr, (event.payload.get "message").bind Value.asStr,
      (event.payload.get "reason").bind Value.asStr with
  | some text, _, _ => text
  | none, some message, _ => message
  | none, none, some reason => "[" ++ event.eventType ++ "] " ++ reason
  | none, none, none => "[" ++ event.eventType ++ "] " ++ json.toString event.payload

/-- Where an event comes from: the platform, and a key and value of a conversation's metadata. -/
def conversationKey (event : ConsciousnessEvent) : String × String × String :=
  match event.origin, event.sourceSubject with
  | some origin, _ => (origin.platform, "chat_id", origin.chatId)
  | none, some source => ("internal", "source_subject", source)
  | none, none => ("internal", "event_type", event.eventType)

def findRequest (agentId : String) (event : ConsciousnessEvent) : ConversationFindRequest where
  agentId := agentId
  platform := (conversationKey event).1
  metadataKey := (conversationKey event).2.1
  metadataValue := (conversationKey event).2.2
  userId := none

def createRequest (agentId scope : String) (event : ConsciousnessEvent) : ConversationCreateRequest where
  platform := (conversationKey event).1
  participants := (event.origin.toList.map fun origin ↦ "user:" ++ origin.chatId) ++ ["agent:" ++ agentId]
  agentId := agentId
  scope := scope
  metadata := [((conversationKey event).2.1, (conversationKey event).2.2)]
  userId := none

/-- The answer to a find request; a request that fails is taken for one that finds nothing. -/
inductive FindAnswer
  | found (conversationId : String)
  | nothing
  | failed
  deriving DecidableEq, Repr

/-- An event an agent works on. -/
structure Processing where
  agentId : String
  user : Option String
  userText : String
  conversationId : String

/-- An event's use of a conversation. -/
structure Use where
  user : Option String
  conversationId : String
  deriving DecidableEq, Repr

/-- The history of a request to a model. -/
structure BuiltRequest where
  user : Option String
  history : List StoredMessage
  deriving DecidableEq, Repr

/-- The owners of the conversations a call returned. -/
structure Returned where
  user : Option String
  owners : List (Option String)
  deriving DecidableEq, Repr

/-- The conversations and the events the agents work on.  The conversations that were used, the requests
that were built and the conversations that were returned are history. -/
structure Talks where
  docs : Docs
  active : List Processing
  used : List Use
  built : List BuiltRequest
  returned : List Returned

inductive TalkLabel
  /-- An agent takes the next event; the answer to its find request, and the id of a new conversation. -/
  | take (agentId scope : String) (event : ConsciousnessEvent) (find : FindAnswer) (newId : String)
      (now : ℕ)
  /-- The model of an agent calls a tool. -/
  | call (agentId : String) (toolCall : UnifiedToolCall)
  /-- The model answers, or fails; which of the two messages are appended. -/
  | finish (agentId : String) (answer : Option String) (userKept answerKept : Bool) (now : ℕ)
  /-- Somebody else creates a conversation. -/
  | create (request : ConversationCreateRequest) (newId : String) (now : ℕ)
  /-- Somebody else appends a message. -/
  | append (conversationId : String) (message : ConversationMessage) (now : ℕ)

namespace Talks

/-- A database as the agents find it. -/
def init (docs : Docs) : Talks where
  docs := docs.map fun doc ↦
    { doc with messages := doc.messages.map fun stored ↦ { stored with author := none } }
  active := []
  used := []
  built := []
  returned := []

/-- An agent goes on with a conversation: it loads the history and asks its model. -/
def begin (json : SerdeJson) (reading : PathReading) (state : Talks) (agentId : String)
    (event : ConsciousnessEvent) (conversationId : String) : Talks :=
  let history := ((state.docs.get reading ⟨conversationId, 20, none⟩).map ConversationDoc.messages).getD []
  { state with
    active := state.active ++ [⟨agentId, userOf event, extractUserText json event, conversationId⟩]
    used := state.used ++ [⟨userOf event, conversationId⟩]
    built := state.built ++ [⟨userOf event, history⟩] }

/-- A conversation is created under an id that is new. -/
def created (state : Talks) (request : ConversationCreateRequest) (newId : String) (now : ℕ) :
    Option Talks :=
  if newId ∈ state.docs.ids then none
  else some { state with docs := state.docs ++ [newConversation request newId now] }

/-- What a call returns. -/
def answerCall (docs : Docs) (reading : PathReading) (request : ToolCallRequest) : Docs :=
  match BuiltinRequest.read request with
  | some (.getConversation conversationId maxMessages) =>
      (docs.get reading ⟨conversationId, maxMessages, none⟩).toList
  | some (.act (.listConversations platform limit)) =>
      docs.list ⟨builtinAgent request, platform, limit.getD 20, none⟩
  | _ => []

/-- Append a message of an event or the answer to it; an empty one is not sent. -/
def appended (docs : Docs) (processing : Processing) (role content : String) (kept : Bool) (now : ℕ) :
    Docs :=
  if kept ∧ content ≠ "" then
    docs.append processing.conversationId ⟨⟨role, some content, now⟩, processing.user⟩ now
  else docs

def step (json : SerdeJson) (reading : PathReading) : Steps Talks TalkLabel
  | state, .take agentId scope event find newId now =>
      if ∃ processing ∈ state.active, processing.agentId = agentId then none
      else match event.conversationId.filter (· ≠ ""), find with
        | some conversationId, _ => some (state.begin json reading agentId event conversationId)
        | none, .found conversationId =>
            if state.docs.Found (findRequest agentId event) conversationId then
              some (state.begin json reading agentId event conversationId)
            else none
        | none, .nothing =>
            if ∃ doc ∈ state.docs, Docs.Finds (findRequest agentId event) doc then none
            else (state.created (createRequest agentId scope event) newId now).map fun state ↦
              state.begin json reading agentId event newId
        | none, .failed =>
            (state.created (createRequest agentId scope event) newId now).map fun state ↦
              state.begin json reading agentId event newId
  | state, .call agentId toolCall =>
      (state.active.find? fun processing ↦ processing.agentId = agentId).map fun processing ↦
        let docs := answerCall state.docs reading (toolCallToDispatchRequest toolCall none)
        { state with returned := state.returned ++ [⟨processing.user, docs.map ConversationDoc.userId⟩] }
  | state, .finish agentId answer userKept answerKept now =>
      (state.active.find? fun processing ↦ processing.agentId = agentId).map fun processing ↦
        let docs := match answer with
          | some text => appended (appended state.docs processing "user" processing.userText userKept now)
              processing "assistant" text answerKept now
          | none => state.docs
        { state with
          docs := docs
          active := state.active.filter fun processing ↦ processing.agentId ≠ agentId }
  | state, .create request newId now => state.created request newId now
  | state, .append conversationId message now =>
      some { state with docs := state.docs.append conversationId ⟨message, none⟩ now }

/-- Events of different users use different conversations, the history of a request has no messages of
another user's events, and calls return conversations of the user alone. -/
structure Separate (state : Talks) : Prop where
  used : ∀ use ∈ state.used, ∀ other ∈ state.used, use.user ≠ other.user →
    use.conversationId ≠ other.conversationId
  histories : ∀ request ∈ state.built, ∀ stored ∈ request.history, ∀ author ∈ stored.author,
    request.user = some author
  returned : ∀ call ∈ state.returned, ∀ owner ∈ call.owners, owner = call.user

/-- An event without a conversation of its own, and with a user; new ids are read as they are. -/
def Named (reading : PathReading) : TalkLabel → Prop
  | .take _ _ event _ newId _ => ((event.conversationId = none ∨ event.conversationId = some "") ∧
      (userOf event).isSome) ∧ PlainId reading newId
  | .create _ newId _ => PlainId reading newId
  | _ => True

/-- The conversations a call asks for, whoever owns them. -/
def asked (docs : Docs) (reading : PathReading) (toolCall : UnifiedToolCall) : Docs :=
  match BuiltinRequest.read (toolCallToDispatchRequest toolCall none) with
  | some (.getConversation conversationId _) => (docs.read reading conversationId).toList
  | some (.act (.listConversations platform limit)) =>
      topByKey ConversationDoc.updatedAt
        (min (if limit.getD 20 = 0 then 20 else limit.getD 20) firstBatch)
        (docs.filter fun doc ↦ ∀ name ∈ platform, doc.platform = name)
  | _ => []

/-- The conversation that is found was not used for another user, and the conversations a call asks for
are the user's. -/
def OwnersOnly (reading : PathReading) (state : Talks) : TalkLabel → Prop
  | .take _ _ event (.found conversationId) _ _ => ∀ use ∈ state.used,
      use.conversationId = conversationId → use.user = userOf event
  | .call agentId toolCall =>
      ∀ processing ∈ state.active.find? fun processing ↦ processing.agentId = agentId,
        ∀ doc ∈ asked state.docs reading toolCall, doc.userId = processing.user
  | _ => True

instance (reading : PathReading) (state : Talks) (label : TalkLabel) :
    Decidable (OwnersOnly reading state label) := by
  unfold OwnersOnly
  split <;> infer_instance

/-- Ids are read as they are, the conversations that were used exist, and authors of messages used the
conversation. -/
structure Recorded (reading : PathReading) (state : Talks) : Prop where
  plain : ∀ doc ∈ state.docs, PlainId reading doc.id
  known : ∀ use ∈ state.used, use.conversationId ∈ state.docs.ids
  authors : ∀ doc ∈ state.docs, ∀ stored ∈ doc.messages, ∀ author ∈ stored.author,
    ⟨some author, doc.id⟩ ∈ state.used
  active : ∀ processing ∈ state.active, ⟨processing.user, processing.conversationId⟩ ∈ state.used

variable {json : SerdeJson} {reading : PathReading} {state next : Talks}

theorem recorded_init {docs : Docs} (hplain : ∀ doc ∈ docs, PlainId reading doc.id) :
    Recorded reading (init docs) := by
  refine ⟨fun doc hdoc ↦ ?_, fun _ hmem ↦ absurd hmem List.not_mem_nil, ?_,
    fun _ hmem ↦ absurd hmem List.not_mem_nil⟩
  · obtain ⟨original, horiginal, rfl⟩ := List.mem_map.mp hdoc
    exact hplain original horiginal
  intro doc hdoc stored hstored author hauthor
  obtain ⟨original, -, rfl⟩ := List.mem_map.mp hdoc
  obtain ⟨plain, -, rfl⟩ := List.mem_map.mp hstored
  cases hauthor

theorem separate_init (docs : Docs) : Separate (init docs) :=
  ⟨fun _ hmem ↦ absurd hmem List.not_mem_nil, fun _ hmem ↦ absurd hmem List.not_mem_nil,
    fun _ hmem ↦ absurd hmem List.not_mem_nil⟩

variable {conversationId : String} {request : ConversationCreateRequest} {newId : String} {now : ℕ}
  {agentId : String}

/-- A conversation that is got without a user has the owner and messages of the stored one. -/
theorem exists_of_get {docs : Docs} {maxMessages : ℕ} {doc : ConversationDoc}
    (hplain : PlainId reading conversationId)
    (h : docs.get reading ⟨conversationId, maxMessages, none⟩ = some doc) :
    ∃ original ∈ docs, original.id = conversationId ∧ doc.userId = original.userId ∧
      doc.messages ⊆ original.messages := by
  obtain ⟨original, hfind, htrim⟩ := Option.bind_eq_some_iff.mp h
  have hread := List.find?_some hfind
  simp only [decide_eq_true_eq] at hread
  have hid : original.id = conversationId :=
    String.append_right_inj _ |>.mp (Option.some.inj (hread.symm.trans hplain))
  have hmem := List.mem_of_find?_eq_some hfind
  cases htrim
  refine ⟨original, hmem, hid, ?_, ?_⟩
  · split_ifs <;> rfl
  · split_ifs
    · exact fun _ hdrop ↦ List.mem_of_mem_drop hdrop
    · exact fun _ hsame ↦ hsame

theorem userId_get (docs : Docs) (conversationId : String) (maxMessages : ℕ) :
    (docs.get reading ⟨conversationId, maxMessages, none⟩).map ConversationDoc.userId =
      (docs.read reading conversationId).map ConversationDoc.userId := by
  unfold Docs.get
  cases docs.read reading conversationId with
  | none => rfl
  | some doc =>
    simp only [Option.bind_some, Option.map_some]
    split_ifs <;> rfl

theorem list_nameless (docs : Docs) (platform : Option String) (limit : ℕ) :
    docs.list ⟨"", platform, limit, none⟩ =
      topByKey ConversationDoc.updatedAt (min (if limit = 0 then 20 else limit) firstBatch)
        (docs.filter fun doc ↦ ∀ name ∈ platform, doc.platform = name) := by
  unfold Docs.list
  congr 1
  refine List.filter_congr fun doc _ ↦ ?_
  simp

/-- The owners of what a call returns are the owners of what it asks for. -/
theorem owners_answerCall (docs : Docs) (toolCall : UnifiedToolCall) :
    (answerCall docs reading (toolCallToDispatchRequest toolCall none)).map ConversationDoc.userId =
      (asked docs reading toolCall).map ConversationDoc.userId := by
  unfold answerCall asked
  cases BuiltinRequest.read (toolCallToDispatchRequest toolCall none) with
  | none => rfl
  | some request =>
    cases request with
    | getConversation conversationId maxMessages =>
      simp only [← Option.toList_map, userId_get]
    | act call =>
      cases call with
      | listConversations platform limit => exact congrArg _ (list_nameless docs platform _)
      | _ => rfl
    | _ => rfl

/-! ## One step -/

section

variable (h : Recorded reading state)
include h

/-- A change of the conversations that keeps their ids, and adds messages of users of theirs. -/
theorem Recorded.append {stored : StoredMessage}
    (hauthor : ∀ author ∈ stored.author, ⟨some author, conversationId⟩ ∈ state.used) (now : ℕ) :
    Recorded reading { state with docs := state.docs.append conversationId stored now } := by
  have hids : (state.docs.append conversationId stored now).ids = state.docs.ids := by
    unfold Docs.append Docs.ids
    rw [List.map_map]
    refine List.map_congr_left fun doc _ ↦ ?_
    simp only [Function.comp_apply]
    split_ifs <;> rfl
  refine ⟨fun doc hdoc ↦ ?_, fun use hmem ↦ hids ▸ h.known use hmem, ?_, h.active⟩
  · obtain ⟨original, horiginal, rfl⟩ := List.mem_map.mp hdoc
    split_ifs <;> exact h.plain original horiginal
  intro doc hdoc message hmessage author hwritten
  obtain ⟨original, horiginal, rfl⟩ := List.mem_map.mp hdoc
  split_ifs at hmessage ⊢ with hid
  · obtain hold | rfl := mem_of_concat hmessage
    · exact h.authors original horiginal message hold author hwritten
    · exact hid ▸ hauthor author hwritten
  · exact h.authors original horiginal message hmessage author hwritten

theorem Recorded.appended {processing : Processing}
    (hactive : ⟨processing.user, processing.conversationId⟩ ∈ state.used) (role content : String)
    (kept : Bool) (now : ℕ) :
    Recorded reading { state with docs := Talks.appended state.docs processing role content kept now } := by
  unfold Talks.appended
  split_ifs
  · refine h.append (fun author hauthor ↦ ?_) now
    rw [← Option.mem_def.mp hauthor]
    exact hactive
  · exact h

theorem Recorded.created (hplain : PlainId reading newId)
    (hcreated : state.created request newId now = some next) : Recorded reading next := by
  obtain ⟨-, hnext⟩ := Option.ite_none_left_eq_some.mp hcreated
  cases hnext
  refine ⟨fun doc hdoc ↦ ?_, fun use hmem ↦ ?_, fun doc hdoc stored hstored author hauthor ↦ ?_, h.active⟩
  · obtain hold | rfl := mem_of_concat hdoc
    · exact h.plain doc hold
    · exact hplain
  · unfold Docs.ids
    rw [List.map_append]
    exact List.mem_append_left _ (h.known use hmem)
  · obtain hold | rfl := mem_of_concat hdoc
    · exact h.authors doc hold stored hstored author hauthor
    · exact absurd hstored List.not_mem_nil

theorem Recorded.begin (agentId : String) (event : ConsciousnessEvent)
    (hknown : conversationId ∈ state.docs.ids) :
    Recorded reading (state.begin json reading agentId event conversationId) := by
  refine ⟨h.plain, fun use hmem ↦ ?_, fun doc hdoc stored hstored author hauthor ↦ ?_,
    fun processing hmem ↦ ?_⟩
  · obtain hold | rfl := mem_of_concat hmem
    · exact h.known use hold
    · exact hknown
  · exact List.mem_append_left _ (h.authors doc hdoc stored hstored author hauthor)
  · obtain hold | rfl := mem_of_concat hmem
    · exact List.mem_append_left _ (h.active processing hold)
    · exact List.mem_append_right _ (List.mem_singleton.mpr rfl)

/-- An event goes on with a conversation: users stay separate exactly if nobody else used it. -/
theorem separate_begin_iff (hseparate : Separate state) (agentId : String) (event : ConsciousnessEvent)
    {conversationId : String} (hplain : PlainId reading conversationId) :
    Separate (state.begin json reading agentId event conversationId) ↔
      ∀ use ∈ state.used, use.conversationId = conversationId → use.user = userOf event := by
  constructor
  · intro hnext use hmem hsame
    by_contra hother
    exact hnext.used use (List.mem_append_left _ hmem) ⟨userOf event, conversationId⟩
      (List.mem_append_right _ (List.mem_singleton.mpr rfl)) hother hsame
  · intro hsole
    refine ⟨fun use huse other hother hne hsame ↦ ?_, fun request hrequest stored hstored author hauthor ↦ ?_,
      hseparate.returned⟩
    · rcases List.mem_append.mp huse with hold | hnew <;> rcases List.mem_append.mp hother with hold' | hnew'
      · exact hseparate.used use hold other hold' hne hsame
      · obtain rfl := List.mem_singleton.mp hnew'
        exact hne (hsole use hold hsame)
      · obtain rfl := List.mem_singleton.mp hnew
        exact hne (hsole other hold' hsame.symm).symm
      · obtain rfl := List.mem_singleton.mp hnew
        obtain rfl := List.mem_singleton.mp hnew'
        exact hne rfl
    · obtain hold | rfl := mem_of_concat hrequest
      · exact hseparate.histories request hold stored hstored author hauthor
      · cases hget : state.docs.get reading ⟨conversationId, 20, none⟩ with
        | none =>
          rw [hget] at hstored
          exact absurd hstored List.not_mem_nil
        | some doc =>
          rw [hget] at hstored
          obtain ⟨original, horiginal, hid, -, hmessages⟩ := exists_of_get hplain hget
          have huse := h.authors original horiginal stored (hmessages hstored) author hauthor
          exact (hsole _ huse hid).symm

/-- Nobody used a conversation that is created. -/
theorem begin_created {middle : Talks} (hplain : PlainId reading newId)
    (hcreated : state.created request newId now = some middle) (agentId : String) (event : ConsciousnessEvent) :
    Recorded reading (middle.begin json reading agentId event newId) ∧
      (Separate state → Separate (middle.begin json reading agentId event newId)) := by
  have hmiddle := h.created hplain hcreated
  obtain ⟨hnew, hdocs⟩ := Option.ite_none_left_eq_some.mp hcreated
  cases hdocs
  refine ⟨hmiddle.begin agentId event ?_, fun hseparate ↦ ?_⟩
  · exact List.mem_map.mpr ⟨_, List.mem_append_right _ (List.mem_singleton.mpr rfl), rfl⟩
  · refine (separate_begin_iff hmiddle ⟨hseparate.used, hseparate.histories, hseparate.returned⟩ agentId
      event hplain).mpr fun use huse hsame ↦ ?_
    exact absurd (hsame ▸ h.known use huse) hnew

theorem take_spec {scope : String} {event : ConsciousnessEvent} {find : FindAnswer}
    (hnamed : Named reading (.take agentId scope event find newId now))
    (hstep : step json reading state (.take agentId scope event find newId now) = some next) :
    Recorded reading next ∧ (Separate state →
      (Separate next ↔ OwnersOnly reading state (.take agentId scope event find newId now))) := by
  obtain ⟨-, htaken⟩ := Option.ite_none_left_eq_some.mp hstep
  have hnone : event.conversationId.filter (· ≠ "") = none := by
    rcases hnamed.1.1 with hid | hid <;> rw [hid] <;> rfl
  rw [hnone] at htaken
  cases find with
  | found conversationId =>
    obtain ⟨⟨doc, hdoc, hid, -⟩, hbegin⟩ := Option.ite_none_right_eq_some.mp htaken
    cases hbegin
    exact ⟨h.begin agentId event (List.mem_map.mpr ⟨doc, hdoc, hid⟩),
      fun hseparate ↦ separate_begin_iff h hseparate agentId event (hid ▸ h.plain doc hdoc)⟩
  | nothing =>
    obtain ⟨-, hcreate⟩ := Option.ite_none_left_eq_some.mp htaken
    obtain ⟨middle, hcreated, rfl⟩ := Option.map_eq_some_iff.mp hcreate
    obtain ⟨hrecorded, hkept⟩ := begin_created h hnamed.2 hcreated agentId event
    exact ⟨hrecorded, fun hseparate ↦ iff_of_true (hkept hseparate) trivial⟩
  | failed =>
    obtain ⟨middle, hcreated, rfl⟩ := Option.map_eq_some_iff.mp htaken
    obtain ⟨hrecorded, hkept⟩ := begin_created h hnamed.2 hcreated agentId event
    exact ⟨hrecorded, fun hseparate ↦ iff_of_true (hkept hseparate) trivial⟩

theorem call_spec {toolCall : UnifiedToolCall}
    (hstep : step json reading state (.call agentId toolCall) = some next) :
    Recorded reading next ∧ (Separate state → (Separate next ↔ OwnersOnly reading state (.call agentId toolCall))) := by
  obtain ⟨processing, hactive, rfl⟩ := Option.map_eq_some_iff.mp hstep
  refine ⟨⟨h.plain, h.known, h.authors, h.active⟩, fun hseparate ↦ ?_⟩
  have howners : (answerCall state.docs reading (toolCallToDispatchRequest toolCall none)).map
      ConversationDoc.userId = (asked state.docs reading toolCall).map ConversationDoc.userId :=
    owners_answerCall state.docs toolCall
  constructor
  · intro hnext other hother doc hdoc
    obtain rfl := Option.some.inj (hactive.symm.trans hother)
    refine hnext.returned _ (List.mem_append_right _ (List.mem_singleton.mpr rfl)) _ ?_
    rw [howners]
    exact List.mem_map_of_mem hdoc
  · intro honly
    refine ⟨hseparate.used, hseparate.histories, fun call hcall owner howner ↦ ?_⟩
    obtain hold | rfl := mem_of_concat hcall
    · exact hseparate.returned call hold owner howner
    · rw [howners] at howner
      obtain ⟨doc, hdoc, rfl⟩ := List.mem_map.mp howner
      exact honly processing hactive doc hdoc

theorem finish_spec {answer : Option String} {userKept answerKept : Bool}
    (hstep : step json reading state (.finish agentId answer userKept answerKept now) = some next) :
    Recorded reading next ∧ (Separate state → Separate next) := by
  obtain ⟨processing, hactive, rfl⟩ := Option.map_eq_some_iff.mp hstep
  have hused := h.active processing (List.mem_of_find?_eq_some hactive)
  refine ⟨?_, fun hseparate ↦ ⟨hseparate.used, hseparate.histories, hseparate.returned⟩⟩
  cases answer with
  | none => exact ⟨h.plain, h.known, h.authors, fun other hmem ↦ h.active other (List.mem_filter.mp hmem).1⟩
  | some text =>
    have hkept := (h.appended hused "user" processing.userText userKept now).appended hused "assistant"
      text answerKept now
    exact ⟨hkept.plain, hkept.known, hkept.authors, fun other hmem ↦ hkept.active other (List.mem_filter.mp hmem).1⟩

/-- What can be told of one step: the record is kept, and users stay separate exactly if the step is for
owners only. -/
theorem step_spec {label : TalkLabel} (hnamed : Named reading label) (hstep : step json reading state label = some next) :
    Recorded reading next ∧ (Separate state → (Separate next ↔ OwnersOnly reading state label)) := by
  cases label with
  | take agentId scope event find newId now => exact take_spec h hnamed hstep
  | call agentId toolCall => exact call_spec h hstep
  | finish agentId answer userKept answerKept now =>
    obtain ⟨hrecorded, hkept⟩ := finish_spec h hstep
    exact ⟨hrecorded, fun hseparate ↦ iff_of_true (hkept hseparate) trivial⟩
  | create request newId now =>
    have hrecorded := h.created hnamed hstep
    obtain ⟨-, hdocs⟩ := Option.ite_none_left_eq_some.mp hstep
    cases hdocs
    exact ⟨hrecorded, fun hseparate ↦
      iff_of_true ⟨hseparate.used, hseparate.histories, hseparate.returned⟩ trivial⟩
  | append conversationId message now =>
    cases hstep
    exact ⟨h.append (fun _ hauthor ↦ by cases hauthor) now, fun hseparate ↦
      iff_of_true ⟨hseparate.used, hseparate.histories, hseparate.returned⟩ trivial⟩

end

theorem always_iff_of_separate {labels : List TalkLabel} (h : Recorded reading state) (hseparate : Separate state)
    (hnamed : ∀ label ∈ labels, Named reading label)
    (hrun : ((step json reading).execute state labels).isSome) :
    (step json reading).Always Separate state labels ↔ (step json reading).Guarded (OwnersOnly reading) state labels := by
  induction labels generalizing state with
  | nil => exact iff_of_true hseparate trivial
  | cons label rest ih =>
    obtain ⟨final, hfinal⟩ := Option.isSome_iff_exists.mp hrun
    obtain ⟨middle, hstep, hrest⟩ := Option.bind_eq_some_iff.mp hfinal
    obtain ⟨hrecorded, honly⟩ := step_spec h (hnamed label List.mem_cons_self) hstep
    have hlater (hmiddle : Separate middle) := ih hrecorded hmiddle
      (fun other hmem ↦ hnamed other (List.mem_cons_of_mem _ hmem)) (Option.isSome_iff_exists.mpr ⟨_, hrest⟩)
    constructor
    · rintro ⟨-, halways⟩
      have hmiddle := (halways middle hstep).first
      refine ⟨(honly hseparate).mp hmiddle, fun other hother ↦ ?_⟩
      obtain rfl := Option.some.inj (hstep.symm.trans hother)
      exact (hlater hmiddle).mp (halways middle hstep)
    · rintro ⟨hguard, hguarded⟩
      refine ⟨hseparate, fun other hother ↦ ?_⟩
      obtain rfl := Option.some.inj (hstep.symm.trans hother)
      exact (hlater ((honly hseparate).mpr hguard)).mpr (hguarded middle hstep)

/-- Users stay separate all along a run exactly if every step is for owners only. -/
theorem always_separate_iff (json : SerdeJson) (reading : PathReading) (docs : Docs)
    (hplain : ∀ doc ∈ docs, PlainId reading doc.id) {labels : List TalkLabel}
    (hnamed : ∀ label ∈ labels, Named reading label)
    (hrun : ((step json reading).execute (init docs) labels).isSome) :
    (step json reading).Always Separate (init docs) labels ↔
      (step json reading).Guarded (OwnersOnly reading) (init docs) labels :=
  always_iff_of_separate (recorded_init hplain) (separate_init docs) hnamed hrun

def plainJson : SerdeJson := ⟨fun _ ↦ none, fun _ ↦ ""⟩

def chatEvent (userId chatId text : String) : ConsciousnessEvent where
  agentId := "assistant"
  eventType := "user_message"
  sourceSubject := some "channel.telegram.events"
  conversationId := none
  payload := .object [("text", .string text), ("user_id", .string userId)]
  origin := some ⟨"telegram", chatId, none, none⟩

/-- Alice asks in a chat and gets an answer, then Bob asks. -/
def chatLabels (aliceChat bobChat : String) (find : FindAnswer) : List TalkLabel :=
  [.take "assistant" "scope_root" (chatEvent "alice" aliceChat "my PIN is 1234") .nothing "01A" 1,
   .finish "assistant" (some "noted") true true 2,
   .take "assistant" "scope_root" (chatEvent "bob" bobChat "what is her PIN?") find "01B" 3,
   .finish "assistant" (some "no idea") true true 4]

theorem named_chatLabels (aliceChat bobChat : String) (find : FindAnswer) :
    ∀ label ∈ chatLabels aliceChat bobChat find, Named untilQuery label := by
  simp only [chatLabels, List.forall_mem_cons]
  refine ⟨⟨⟨.inl rfl, rfl⟩, ?_⟩, trivial, ⟨⟨.inl rfl, rfl⟩, ?_⟩, trivial,
    fun _ h ↦ absurd h List.not_mem_nil⟩
  all_goals
    unfold PlainId
    decide +kernel

/-- In chats of their own they stay separate. -/
theorem always_separate_ownChats :
    (step plainJson untilQuery).Always Separate (init []) (chatLabels "1" "2" .nothing) :=
  (always_separate_iff plainJson untilQuery [] (fun _ hdoc ↦ absurd hdoc List.not_mem_nil)
    (named_chatLabels "1" "2" .nothing) (by decide +kernel)).mpr (by decide +kernel)

/-- In one chat, the request for Bob has what Alice said in its history. -/
theorem exists_shared_conversation : ¬ ∀ (docs : Docs) (labels : List TalkLabel) (state : Talks),
    (∀ label ∈ labels, Named untilQuery label) →
      (step plainJson untilQuery).execute (init docs) labels = some state → Separate state := by
  intro hall
  have hexecute : ∃ state ∈ (step plainJson untilQuery).execute (init [])
      (chatLabels "1" "1" (.found "01A")), ∃ request ∈ state.built, ∃ stored ∈ request.history,
        ∃ author ∈ stored.author, request.user ≠ some author := by
    decide +kernel
  obtain ⟨state, hstate, request, hrequest, stored, hstored, author, hauthor, hne⟩ := hexecute
  exact hne ((hall [] _ state (named_chatLabels "1" "1" (.found "01A")) hstate).histories request
    hrequest stored hstored author hauthor)

end Talks

end Seidrum.Plugins
