import Seidrum.Client.Session
import Seidrum.EventBus.Transport.Answering

/-!
# Who is meant by a correlation id

Correlation ids and stable ids are generated and never repeat.  Whatever is under way between a
client and its server carries the correlation id of a call, or that of a resubscription, which looks
different; so a new call is not confused with anything that was there before it.
-/

namespace Seidrum.Client

open Seidrum.Foundation Seidrum.EventBus

variable {c : Char}

theorem isUlid_eq_false_of_mem {id : String} (hmem : c ∈ id.toList) (hc : c ∉ crockfordBase32) :
    isUlid id = false := by
  by_contra h
  rw [Bool.not_eq_false] at h
  simp only [isUlid, Bool.and_eq_true, List.all_eq_true] at h
  exact hc (by simpa using h.2 c hmem)

theorem not_isUlid_resubscribeCid (stableId ulid : String) :
    isUlid (resubscribeCid stableId ulid) = false := by
  have hmem : '_' ∈ resubscribeCidPrefix.toList := by decide
  refine isUlid_eq_false_of_mem (c := '_') ?_ (by decide)
  simp [resubscribeCid, hmem]

/-- A generated identifier is not the correlation id of a resubscription. -/
theorem resubscribeTarget_of_isUlid {cid : String} (h : isUlid cid = true) :
    resubscribeTarget cid = none := by
  have hnot : resubscribeCidPrefix.toList.isPrefixOf? cid.toList = none := by
    cases hlist : cid.toList with
    | nil => rfl
    | cons c rest =>
      have hne : c ≠ '_' := by
        rintro rfl
        have hfalse := isUlid_eq_false_of_mem (hlist ▸ List.mem_cons_self) (by decide)
        simp [hfalse] at h
      have hfirst : resubscribeCidPrefix.toList = '_' :: (resubscribeCidPrefix.toList.drop 1) := by
        decide
      rw [hfirst, List.isPrefixOf?]
      simp [hne.symm]
  rw [resubscribeTarget, hnot]
  rfl

theorem splitOnce_append {chars : List Char} (h : c ∉ chars) (rest : List Char) :
    splitOnce c (chars ++ c :: rest) = some chars := by
  induction chars with
  | nil => simp [splitOnce]
  | cons d chars ih =>
    rw [List.mem_cons, not_or] at h
    simp [splitOnce, Ne.symm h.1, ih h.2]

theorem isPrefixOf?_append (first rest : List Char) :
    first.isPrefixOf? (first ++ rest) = some rest := by
  induction first with
  | nil => rfl
  | cons c first ih => simp [List.isPrefixOf?, ih]

/-- The stable id can be read off the correlation id of a resubscription. -/
theorem resubscribeTarget_resubscribeCid {stableId : String} (h : isUlid stableId = true)
    (ulid : String) : resubscribeTarget (resubscribeCid stableId ulid) = some stableId := by
  have hcolon : ':' ∉ stableId.toList := by
    intro hmem
    have hfalse := isUlid_eq_false_of_mem hmem (by decide)
    simp [hfalse] at h
  have hlist : (resubscribeCid stableId ulid).toList =
      resubscribeCidPrefix.toList ++ (stableId.toList ++ ':' :: ulid.toList) := by
    have hsep : ":".toList = [':'] := by decide
    simp [resubscribeCid, hsep]
  rw [resubscribeTarget, hlist, isPrefixOf?_append, Option.bind_some, splitOnce_append hcolon,
    Option.map_some, String.ofList_toList]

namespace Session

variable {env : SessionEnv} {state next : Session} {label : SessionLabel}

def cids (state : Session) : List String := state.calls.map (·.cid)

def stableIds (state : Session) : List String := state.calls.map (·.stableId)

/-- The correlation ids that are under way, waited on, or were told something. -/
def mentioned (state : Session) : List String :=
  (state.queue ++ state.toServer).filterMap (·.correlationId) ++
    (state.toClient.filterMap (·.correlationId) ++ (state.given.filterMap Prod.snd ++
      (state.pending ++ state.replies.map Prod.fst)))

variable {cid : String} {first second : Call}

theorem mem_mentioned :
    cid ∈ state.mentioned ↔
      (∃ operation ∈ state.queue ++ state.toServer, operation.correlationId = some cid) ∨
      (∃ message ∈ state.toClient, message.correlationId = some cid) ∨
      (∃ entry ∈ state.given, entry.2 = some cid) ∨ cid ∈ state.pending ∨
      ∃ entry ∈ state.replies, entry.1 = cid := by
  simp only [mentioned, List.mem_append, List.mem_filterMap, List.mem_map]

theorem setStage_names (c : ℕ) (stage : CallStage) (state : Session) :
    (state.setStage c stage).cids = state.cids ∧
      (state.setStage c stage).stableIds = state.stableIds :=
  ⟨map_modify fun _ ↦ rfl, map_modify fun _ ↦ rfl⟩

/-- Only a new call brings new names. -/
theorem Change.names (hchange : Change env state label next) :
    (next.cids = state.cids ∧ next.stableIds = state.stableIds ∧ state.usedIds ⊆ next.usedIds) ∨
      ∃ call cid stableId, label = .call call cid stableId ∧
        state.freshIds [cid, stableId] = true ∧ next = state.startCall call cid stableId := by
  cases hchange with
  | call fresh => exact .inr ⟨_, _, _, rfl, fresh, rfl⟩
  | insertPending at_c stage | enqueueRefused at_c stage exited failed
  | enqueue at_c stage running | wake at_c stage told | wakeLost at_c stage untold gone failed
  | register at_c stage subscribes =>
    exact .inl ⟨(setStage_names _ _ _).1, (setStage_names _ _ _).2, List.Subset.refl _⟩
  | resubscribe manager fresh => exact .inl ⟨rfl, rfl, List.subset_cons_self _ _⟩
  | read manager toClient received =>
    left
    cases received <;> exact ⟨rfl, rfl, List.Subset.refl _⟩
  | _ => exact .inl ⟨rfl, rfl, List.Subset.refl _⟩

/-- A call after a step. -/
inductive CallAfter (state : Session) (label : SessionLabel) (call : Call) : Prop
  | kept (before : call ∈ state.calls)
  | new {clientCall : ClientCall} {cid stableId : String}
      (label_eq : label = .call clientCall cid stableId)
      (fresh : state.freshIds [cid, stableId] = true)
      (call_eq : call = ⟨clientCall, cid, stableId,
        if state.connected then .checked else .returned (.error "WsClient is reconnecting")⟩)
  | inserted {c : ℕ} {old : Call} (before : state.calls[c]? = some old)
      (stage : old.stage = .checked) (call_eq : call = { old with stage := .inserted })
  | enqueued {c : ℕ} {old : Call} (before : state.calls[c]? = some old)
      (stage : old.stage = .inserted) (call_eq : call = { old with stage := .waiting })
  | told {c : ℕ} {old : Call} {reply : PendingReply} (before : state.calls[c]? = some old)
      (stage : old.stage = .waiting) (told : state.replies.lookup old.cid = some reply)
      (call_eq : call = { old with stage := old.call.onReply reply })
  | failed {c : ℕ} {old : Call} {result : CallResult} (before : state.calls[c]? = some old)
      (stage : old.stage = .inserted ∨ old.stage = .waiting) (isError : result.isOk = false)
      (call_eq : call = { old with stage := .returned result })
  | registered {c : ℕ} {old : Call} {id pattern : String} (before : state.calls[c]? = some old)
      (label_eq : label = .register c) (stage : old.stage = .subscribed id)
      (subscribes : old.call = .subscribe pattern)
      (call_eq : call = { old with stage := .returned (.ok none) })

theorem CallAfter.of_setStage {c : ℕ} {before call : Call} {stage : CallStage}
    (hat : state.calls[c]? = some before) (h : CallAfter state label { before with stage })
    (hmem : call ∈ (state.setStage c stage).calls) : CallAfter state label call := by
  obtain hkept | ⟨old, hold, rfl⟩ := mem_setStage hmem
  · exact .kept hkept
  · obtain rfl := Option.some.inj (hat.symm.trans hold)
    exact h

theorem Change.callAfter (hchange : Change env state label next) {call : Call}
    (hmem : call ∈ next.calls) : CallAfter state label call := by
  cases hchange with
  | call fresh =>
    rcases List.mem_append.mp hmem with hbefore | hnew
    · exact .kept hbefore
    · exact .new rfl fresh (List.mem_singleton.mp hnew)
  | insertPending at_c stage => exact .of_setStage at_c (.inserted at_c stage rfl) hmem
  | enqueueRefused at_c stage exited failed =>
    exact .of_setStage at_c (.failed at_c (.inl stage) failed rfl) hmem
  | enqueue at_c stage running => exact .of_setStage at_c (.enqueued at_c stage rfl) hmem
  | wake at_c stage told => exact .of_setStage at_c (.told at_c stage told rfl) hmem
  | wakeLost at_c stage untold gone failed =>
    exact .of_setStage at_c (.failed at_c (.inr stage) failed rfl) hmem
  | register at_c stage subscribes =>
    exact .of_setStage at_c (.registered at_c rfl stage subscribes rfl) hmem
  | read manager toClient received => cases received <;> exact .kept hmem
  | _ => exact .kept hmem

theorem correlationId_operation (env : SessionEnv) (cid : String) (call : ClientCall) :
    (call.operation env cid).correlationId = some cid := by
  cases call <;> rfl

/-- What a server sends for an operation echoes the correlation id of the operation. -/
theorem correlationId_of_mem_served {bus : BusAnswers} {operation : ClientOperation}
    {message : ServerMessage} (hmem : message ∈ (state.served env bus operation).1)
    (hcid : message.correlationId = some cid) : operation.correlationId = some cid := by
  unfold served Connection.serveFrame at hmem
  split_ifs at hmem
  · obtain rfl := List.mem_singleton.mp hmem
    simp [ServerMessage.correlationId] at hcid
  · cases Connection.outcome env.base64 bus state.connection operation with
    | answered _ hanswer heq =>
      simp only [heq, List.mem_singleton] at hmem
      rw [← hcid, hmem, hanswer.correlationId_eq]
    | refused _ hsilent => simp [hsilent.correlationId_eq hmem] at hcid

theorem mem_issuedIn {messages : List ServerMessage} {entry : String × Option String} :
    entry ∈ issuedIn messages ↔ .subscribed entry.1 entry.2 ∈ messages := by
  simp only [issuedIn, List.mem_filterMap]
  constructor
  · rintro ⟨message, hmem, hentry⟩
    split at hentry
    · cases hentry
      exact hmem
    · simp at hentry
  · exact fun hmem ↦ ⟨_, hmem, rfl⟩

/-- A correlation id that is mentioned was mentioned before, or is that of a call, or that of a
resubscription. -/
theorem Change.mentioned (hchange : Change env state label next) (hmem : cid ∈ next.mentioned) :
    cid ∈ state.mentioned ∨ cid ∈ state.cids ∨ isUlid cid = false := by
  have hcall {c : ℕ} {call : Call} (hat : state.calls[c]? = some call) : call.cid ∈ state.cids :=
    List.mem_map_of_mem (List.mem_of_getElem? hat)
  cases hchange with
  | insertPending at_c stage =>
    simp only [mem_mentioned, setStage, List.mem_cons] at hmem ⊢
    grind
  | enqueueRefused at_c stage exited failed =>
    simp only [mem_mentioned, setStage, List.mem_filter] at hmem ⊢
    grind
  | enqueue at_c stage running =>
    simp only [mem_mentioned, setStage] at hmem ⊢
    grind [correlationId_operation]
  | sendUnsubscribe at_i running =>
    simp only [mem_mentioned] at hmem ⊢
    grind [ClientOperation.correlationId]
  | discard manager queue | send manager queue =>
    simp only [mem_mentioned, queue] at hmem ⊢
    grind
  | exit manager | giveUp manager | disconnect up | failPending manager =>
    simp only [mem_mentioned, failAllPending] at hmem ⊢
    grind
  | resubscribe manager fresh =>
    simp only [mem_mentioned] at hmem ⊢
    grind [ClientOperation.correlationId, not_isUlid_resubscribeCid]
  | read manager toClient received =>
    cases received with
    | answered answers waits =>
      simp only [mem_mentioned, toClient, List.mem_filter] at hmem ⊢
      grind
    | _ =>
      simp only [mem_mentioned, toClient] at hmem ⊢
      grind
  | @serve bus operation rest up toServer short fresh =>
    have hserved : ∀ message ∈ (state.served env bus operation).1,
        message.correlationId = some cid → operation.correlationId = some cid :=
      fun message hmessage ↦ correlationId_of_mem_served hmessage
    have hissued : ∀ entry ∈ issuedIn (state.served env bus operation).1, entry.2 = some cid →
        operation.correlationId = some cid :=
      fun entry hentry hcid ↦ hserved _ (mem_issuedIn.mp hentry) hcid
    simp only [mem_mentioned, toServer] at hmem ⊢
    grind
  | event up issued =>
    simp only [mem_mentioned] at hmem ⊢
    grind [ServerMessage.correlationId]
  | _ => exact .inl hmem

/-- Calls have ids of their own, and no generated id is mentioned that was not made here. -/
structure Identified (state : Session) : Prop where
  generated : ∀ id ∈ state.cids ++ state.stableIds, isUlid id = true ∧ id ∈ state.usedIds
  cids : state.cids.Nodup
  stableIds : state.stableIds.Nodup
  pending : ∀ cid ∈ state.pending, cid ∈ state.cids
  mentioned : ∀ cid ∈ state.mentioned, isUlid cid = true → cid ∈ state.usedIds

theorem identified_start (env : SessionEnv) : Identified (start env) where
  generated _ hmem := absurd hmem List.not_mem_nil
  cids := List.nodup_nil
  stableIds := List.nodup_nil
  pending _ hmem := absurd hmem List.not_mem_nil
  mentioned _ hmem := absurd hmem List.not_mem_nil

theorem Change.pending_subset (hchange : Change env state label next)
    (h : ∀ cid ∈ state.pending, cid ∈ state.cids) : ∀ cid ∈ next.pending, cid ∈ state.cids := by
  cases hchange with
  | insertPending at_c stage =>
    intro cid hmem
    rcases List.mem_cons.mp hmem with rfl | hbefore
    · exact List.mem_map_of_mem (List.mem_of_getElem? at_c)
    · exact h cid hbefore
  | enqueueRefused at_c stage exited failed =>
    exact fun cid hmem ↦ h cid (List.mem_of_mem_filter hmem)
  | giveUp manager | failPending manager => exact fun _ hmem ↦ absurd hmem List.not_mem_nil
  | read manager toClient received =>
    cases received with
    | answered => exact fun cid hmem ↦ h cid (List.mem_of_mem_filter hmem)
    | _ => exact h
  | _ => exact h

theorem Identified.change (h : Identified state) (hchange : Change env state label next) :
    Identified next := by
  rcases hchange.names with ⟨hcids, hstable, hused⟩ | ⟨call, cid, stableId, rfl, hfresh, rfl⟩
  · constructor
    · rw [hcids, hstable]
      exact fun id hmem ↦ ⟨(h.generated id hmem).1, hused (h.generated id hmem).2⟩
    · exact hcids ▸ h.cids
    · exact hstable ▸ h.stableIds
    · exact hcids ▸ hchange.pending_subset h.pending
    · intro cid hmem hulid
      rcases hchange.mentioned hmem with hbefore | hcall | hother
      · exact hused (h.mentioned cid hbefore hulid)
      · exact hused (h.generated cid (List.mem_append_left _ hcall)).2
      · simp [hulid] at hother
  · simp only [freshIds, List.all_cons, List.all_nil, Bool.and_true, Bool.and_eq_true,
      decide_eq_true_eq] at hfresh
    obtain ⟨⟨⟨hcid, hcidNew⟩, hstable, hstableNew⟩, _⟩ := hfresh
    have hcids : (state.startCall call cid stableId).cids = state.cids ++ [cid] := by
      simp [Session.cids, startCall]
    have hstables : (state.startCall call cid stableId).stableIds = state.stableIds ++ [stableId] := by
      simp [Session.stableIds, startCall]
    have hgenerated := h.generated
    constructor
    · rw [hcids, hstables]
      intro id hmem
      simp only [startCall, List.mem_append, List.mem_cons] at hmem ⊢ hgenerated
      grind
    · rw [hcids]
      refine List.nodup_append.mpr ⟨h.cids, List.nodup_singleton _, ?_⟩
      rintro id hmem _ hnew rfl
      obtain rfl := List.mem_singleton.mp hnew
      exact hcidNew (h.generated id (List.mem_append_left _ hmem)).2
    · rw [hstables]
      refine List.nodup_append.mpr ⟨h.stableIds, List.nodup_singleton _, ?_⟩
      rintro id hmem _ hnew rfl
      obtain rfl := List.mem_singleton.mp hnew
      exact hstableNew (h.generated id (List.mem_append_right _ hmem)).2
    · rw [hcids]
      exact fun id hmem ↦ List.mem_append_left _ (h.pending id hmem)
    · exact fun id hmem hulid ↦ List.mem_cons_of_mem _ (List.mem_cons_of_mem _ (h.mentioned id hmem hulid))

theorem Identified.eq_of_cid (h : Identified state) (hfirst : first ∈ state.calls)
    (hsecond : second ∈ state.calls) (heq : first.cid = second.cid) : first = second :=
  List.inj_on_of_nodup_map h.cids hfirst hsecond heq

theorem Identified.eq_of_stableId (h : Identified state) (hfirst : first ∈ state.calls)
    (hsecond : second ∈ state.calls) (heq : first.stableId = second.stableId) : first = second :=
  List.inj_on_of_nodup_map h.stableIds hfirst hsecond heq

end Session

end Seidrum.Client
