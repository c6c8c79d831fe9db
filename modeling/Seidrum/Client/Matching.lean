import Seidrum.Client.InProcess
import Seidrum.EventBus.Concerns

/-!
# What an in-process subscription receives

Everything that reaches a client through a subscription was published on a subject that the pattern
of the subscription matches, as long as compaction deletes no event that a dispatch or the retry task
is working on: the number of a deleted event may be given out again.
-/

namespace Seidrum.Client.InProcess

open Seidrum.Foundation Seidrum.EventBus

variable {config : Config} {state next : InProcess} {label : InProcessLabel}

/-- Compaction removes no event in use. -/
def Spares (state : InProcess) : InProcessLabel → Prop
  | .core label => state.core.SparesInUse label
  | _ => True

instance : DecidableRel Spares := fun state label ↦ by
  cases label <;> unfold Spares <;> infer_instance

/-- The subject may reach the id: it was given out, and if a client subscribed under it, the pattern
matches. -/
def Fits (bus : Bus) (subscriptions : List Bridged) (id subject : String) : Prop :=
  id ∈ bus.usedIds ∧ ∀ sub ∈ subscriptions, sub.id = id →
    patternMatches (tokens sub.pattern) (tokens subject) = true

variable {bus : Bus} {id subject : String} {k : ℕ} {sub : Bridged} {pattern : String}

theorem Fits.set {subscriptions : List Bridged} (h : Fits bus subscriptions id subject)
    {sub' : Bridged} (hat : subscriptions[k]? = some sub)
    (hsame : sub'.id = sub.id ∧ sub'.pattern = sub.pattern) :
    Fits bus (subscriptions.set k sub') id subject := by
  refine ⟨h.1, fun other hother hid ↦ ?_⟩
  obtain hold | rfl := List.mem_or_eq_of_mem_set hother
  · exact h.2 other hold hid
  · rw [hsame.2]
    exact h.2 sub (List.mem_of_getElem? hat) (hsame.1 ▸ hid)

/-- The messages on their way to the client are on subjects that the pattern matches. -/
structure Matched (sub : Bridged) : Prop where
  queued : ∀ message ∈ sub.queue,
    patternMatches (tokens sub.pattern) (tokens message.subject) = true
  sending : ∀ message, sub.bridge = .sending message →
    patternMatches (tokens sub.pattern) (tokens message.subject) = true

structure Matching (config : Config) (state : InProcess) : Prop where
  disjoint : state.core.Disjoint config
  sound : state.Sound
  concerns : state.core.Concerns (Fits state.core.bus state.subscriptions)
  matched : ∀ sub ∈ state.subscriptions, Matched sub

theorem matching_start (config : Config) (clock : ℕ) : Matching config (start .empty clock) where
  disjoint := System.disjoint_build config clock
  sound := sound_start _ _
  concerns := System.concerns_build clock
  matched := by simp [start]

/-- A lookup finds subscriptions that the subject fits. -/
theorem fits_of_lookup (hsound : state.Sound) {found : SubscriptionEntry}
    (hfound : found ∈ state.core.bus.index.lookup subject) :
    Fits state.core.bus state.subscriptions found.id subject := by
  obtain ⟨live, hlive, hdistinct, hused⟩ := hsound.index
  obtain ⟨hmem, hmatches⟩ := hlive.mem_lookup_iff.mp hfound
  refine ⟨hused found hmem, fun sub hsub hid ↦ ?_⟩
  have hlisted := hlive.walk.mem_iff.mp (hsound.kept sub hsub).holds.listed
  have hsame : found = entry sub.id sub.pattern :=
    List.inj_on_of_nodup_map hdistinct hmem hlisted hid.symm
  rw [hsame] at hmatches
  exact hmatches

theorem Matching.core {stepLabel : Label} {core : System} (h : state.Matching config)
    (hspares : state.core.SparesInUse stepLabel)
    (hstep : System.step config state.core stepLabel = some core) :
    core.Disjoint config ∧ core.Concerns (Fits core.bus state.subscriptions) := by
  refine ⟨h.disjoint.step hspares hstep, ?_⟩
  have hconcerns := h.concerns.step h.disjoint
    (fun subject found hfound ↦ fits_of_lookup h.sound hfound) hstep
  exact hconcerns.mono fun id subject hfits ↦ ⟨System.used_of_step hstep id hfits.1, hfits.2⟩

theorem Matching.step (h : state.Matching config) (hspares : Spares state label)
    (hstep : step config state label = some next) : next.Matching config := by
  have hset {k : ℕ} {sub' : Bridged} (hmatched : Matched sub') :
      ∀ other ∈ state.subscriptions.set k sub', Matched other := by
    intro other hother
    obtain hold | rfl := List.mem_or_eq_of_mem_set hother
    · exact h.matched other hold
    · exact hmatched
  obtain rfl | hmoves := moves_of_step hstep
  · exact h
  have hsound := h.sound.moves hmoves
  cases hmoves with
  | bus stepped apart =>
    obtain ⟨hdisjoint, hconcerns⟩ := h.core hspares stepped
    exact ⟨hdisjoint, hsound, hconcerns, h.matched⟩
  | @subscribe _ id pattern bus fresh subscribed stepped =>
    have hspares : state.core.SparesInUse (.subscribe (entry id pattern)) := trivial
    obtain ⟨hdisjoint, hconcerns⟩ := h.core hspares stepped
    refine ⟨hdisjoint, hsound, ?_, fun sub hsub ↦ ?_⟩
    · -- nothing is on its way to an id that was not given out before
      have hbefore := h.concerns.step h.disjoint
        (fun subject found hfound ↦ fits_of_lookup h.sound hfound) stepped
      refine hbefore.mono fun other subject hfits ↦ ⟨System.used_of_step stepped other hfits.1,
        fun sub hsub hid ↦ ?_⟩
      obtain hold | rfl := mem_of_concat hsub
      · exact hfits.2 sub hold hid
      · obtain rfl : id = other := hid
        exact absurd hfits.1 fresh
    · obtain hold | rfl := mem_of_concat hsub
      · exact h.matched sub hold
      · exact ⟨nofun, nofun⟩
  | @client _ k sub sub' at_k same bridge queue sending =>
    have hmatched := h.matched sub (List.mem_of_getElem? at_k)
    refine ⟨h.disjoint, hsound, h.concerns.mono fun _ _ hfits ↦ hfits.set at_k same,
      hset ⟨fun message hmem ↦ ?_, fun message hsending ↦ ?_⟩⟩
    · rw [same.2]
      obtain hold | hsent := queue message hmem
      · exact hmatched.queued message hold
      · exact hmatched.sending message hsent
    · rw [same.2]
      exact hmatched.sending message (sending message hsending)
  | @receive _ k sub event core at_k queued stepped =>
    have hspares : state.core.SparesInUse (.receive sub.id) := trivial
    obtain ⟨hdisjoint, hconcerns⟩ := h.core hspares stepped
    have hsub := List.mem_of_getElem? at_k
    refine ⟨hdisjoint, hsound, hconcerns.mono fun _ _ hfits ↦ hfits.set at_k ⟨rfl, rfl⟩,
      hset ⟨(h.matched sub hsub).queued, fun message hsending ↦ ?_⟩⟩
    obtain rfl := Bridge.sending.inj hsending
    exact (h.concerns.waiting sub.id event queued).2 sub hsub rfl
  | @finish _ k sub core at_k stepped =>
    have hspares : state.core.SparesInUse (.closeChannel sub.id) := trivial
    obtain ⟨hdisjoint, hconcerns⟩ := h.core hspares stepped
    exact ⟨hdisjoint, hsound, hconcerns.mono fun _ _ hfits ↦ hfits.set at_k ⟨rfl, rfl⟩,
      hset ⟨(h.matched sub (List.mem_of_getElem? at_k)).queued, nofun⟩⟩

/-- A subscription stays where it is, with its pattern. -/
theorem pattern_of_step (hat : state.subscriptions[k]? = some sub)
    (hstep : step config state label = some next) :
    ∃ sub', next.subscriptions[k]? = some sub' ∧ sub'.pattern = sub.pattern := by
  have hset {j : ℕ} {before after : Bridged} (hbefore : state.subscriptions[j]? = some before)
      (hsame : after.pattern = before.pattern) :
      ∃ sub', (state.subscriptions.set j after)[k]? = some sub' ∧ sub'.pattern = sub.pattern := by
    by_cases hj : j = k
    · subst hj
      obtain rfl := Option.some.inj (hbefore.symm.trans hat)
      have hlt := (List.getElem?_eq_some_iff.mp hat).1
      exact ⟨after, List.getElem?_set_self hlt, hsame⟩
    · exact ⟨sub, by rw [List.getElem?_set_ne hj]; exact hat, rfl⟩
  obtain rfl | hmoves := moves_of_step hstep
  · exact ⟨sub, hat, rfl⟩
  cases hmoves with
  | bus => exact ⟨sub, hat, rfl⟩
  | subscribe => exact ⟨sub, at_concat hat _, rfl⟩
  | client at_k same => exact hset at_k same.2
  | receive at_k | finish at_k => exact hset at_k rfl

/-- The bus accepts the pattern. -/
def Subscribable (pattern : String) : Prop :=
  Bus.validateSubject pattern = .ok () ∧ validatePattern (tokens pattern) = .ok ()

instance : DecidablePred Subscribable := fun pattern ↦ by
  unfold Subscribable
  infer_instance

theorem subscribable_of_ok {after : Bus} (h : bus.subscribe (entry id pattern) = .ok after) :
    Subscribable pattern := by
  unfold Bus.subscribe at h
  cases hvalid : Bus.validateSubject (entry id pattern).subjectPattern with
  | error error => simp [hvalid, bind, Except.bind] at h
  | ok _ =>
    refine ⟨hvalid, ?_⟩
    cases hindex : validatePattern (tokens pattern) with
    | error error =>
      rw [entry] at hvalid
      simp [hvalid, bind, Except.bind, SubjectIndex.subscribe, entry, hindex] at h
    | ok _ => rfl

theorem subscribe_cases (hstep : step config state (.subscribe id pattern) = some next) :
    next.subscriptions.length = state.subscriptions.length ∨
      Subscribable pattern ∧ ∃ sub,
        next.subscriptions = state.subscriptions ++ [sub] ∧ sub.pattern = pattern := by
  obtain ⟨result, hresult, rfl⟩ := Option.map_eq_some_iff.mp hstep
  obtain ⟨_, rfl | ⟨bus, hbus, rfl⟩⟩ := System.register_eq hresult
  · exact .inl rfl
  · exact .inr ⟨subscribable_of_ok hbus, _, rfl, rfl⟩

end Seidrum.Client.InProcess
