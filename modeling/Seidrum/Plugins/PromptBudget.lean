import Mathlib.Algebra.Order.BigOperators.Group.List
import Seidrum.Plugins.PromptAssembly

/-!
# The budget of the prompt

Each section has a share of the tokens that the prompt with all sections in full and the message of the
user leave, and is cut at a line if it exceeds that share.  Two messages stay before the user's, however
long they are.  Everything else together keeps the window, if the prompt without sections does.
-/

namespace Seidrum.Plugins

open Foundation Kernel

/-- The tokens of lines, one more each for its line break. -/
def lineTokens (countTokens : String → ℕ) (texts : List String) : ℕ :=
  (texts.map fun text ↦ countTokens text + 1).sum

/-- A section within its share is kept in full, and of any other the longest end of its lines that is. -/
structure FitsShare (countTokens : String → ℕ) (share : ℕ) (whole kept : String) : Prop where
  full (fits : countTokens whole ≤ share) : kept = whole
  cut (exceeds : share < countTokens whole) : kept = "\n".intercalate
    (lastFitting (fun last ↦ lineTokens countTokens last ≤ share) (lines whole))

variable {countTokens : String → ℕ}

theorem lineTokens_reverse (texts : List String) :
    lineTokens countTokens texts.reverse = lineTokens countTokens texts := by
  rw [lineTokens, List.map_reverse, List.sum_reverse, lineTokens]

theorem takeLines_prefix (budget running : ℕ) (texts : List String) :
    takeLines countTokens budget running texts <+: texts := by
  induction texts generalizing running with
  | nil => exact List.prefix_refl []
  | cons text rest ih =>
    simp only [takeLines]
    split_ifs
    · exact List.nil_prefix
    · exact (List.prefix_cons_inj text).mpr (ih _)

/-- The lines taken are within the budget, together with what was taken before. -/
theorem takeLines_within {budget running : ℕ} (hrunning : running ≤ budget) (texts : List String) :
    running + lineTokens countTokens (takeLines countTokens budget running texts) ≤ budget := by
  induction texts generalizing running with
  | nil => exact hrunning
  | cons text rest ih =>
    simp only [takeLines]
    split_ifs with hbudget
    · exact hrunning
    · have hrest := ih (Nat.le_of_not_lt hbudget)
      rw [lineTokens] at hrest ⊢
      rw [List.map_cons, List.sum_cons]
      omega

/-- No more lines are within the budget. -/
theorem prefix_takeLines {budget running : ℕ} {texts first : List String} (hfirst : first <+: texts)
    (hfits : running + lineTokens countTokens first ≤ budget) :
    first <+: takeLines countTokens budget running texts := by
  induction texts generalizing running first with
  | nil => exact hfirst
  | cons text rest ih =>
    cases first with
    | nil => exact List.nil_prefix
    | cons other more =>
      obtain ⟨rfl, hmore⟩ := List.cons_prefix_cons.mp hfirst
      rw [lineTokens, List.map_cons, List.sum_cons] at hfits
      rw [takeLines, if_neg (by omega)]
      exact (List.prefix_cons_inj other).mpr (ih hmore (by rw [lineTokens]; omega))

theorem takeLines_reverse_eq (budget : ℕ) (texts : List String) :
    (takeLines countTokens budget 0 texts.reverse).reverse =
      lastFitting (fun last ↦ lineTokens countTokens last ≤ budget) texts := by
  have htaken : (takeLines countTokens budget 0 texts.reverse).reverse <:+ texts :=
    List.reverse_prefix.mp (by rw [List.reverse_reverse]; exact takeLines_prefix budget 0 _)
  have hwithin : lineTokens countTokens (takeLines countTokens budget 0 texts.reverse).reverse ≤
      budget := by
    rw [lineTokens_reverse, ← Nat.zero_add (lineTokens _ _)]
    exact takeLines_within (Nat.zero_le budget) _
  have hlast : lineTokens countTokens
      (lastFitting (fun last ↦ lineTokens countTokens last ≤ budget) texts) ≤ budget :=
    @fits_lastFitting _ (fun last ↦ lineTokens countTokens last ≤ budget) _ (Nat.zero_le budget) texts
  rw [← lineTokens_reverse, ← Nat.zero_add (lineTokens _ _)] at hlast
  refine (suffix_lastFitting htaken hwithin).eq_of_length_le ?_
  have hinside := prefix_takeLines (List.reverse_prefix.mpr (lastFitting_suffix texts)) hlast
  simpa using hinside.length_le

theorem fitsShare_truncateToBudget (text : String) (budget : ℕ) :
    FitsShare countTokens budget text (truncateToBudget countTokens text budget) := by
  unfold truncateToBudget
  constructor
  · exact fun hfits ↦ if_pos hfits
  · intro hexceeds
    rw [if_neg (Nat.not_le_of_lt hexceeds), takeLines_reverse_eq]

/-- Nothing is kept of a section without a share. -/
theorem FitsShare.eq_empty {text kept : String} (h : FitsShare countTokens 0 text kept)
    (hcounts : text ≠ "" → countTokens text ≠ 0) : kept = "" := by
  by_cases hfits : countTokens text ≤ 0
  · rw [h.full hfits]
    by_contra hne
    exact hcounts hne (Nat.le_zero.mp hfits)
  · rw [h.cut (Nat.lt_of_not_le hfits)]
    have hnone : lineTokens countTokens
        (lastFitting (fun last ↦ lineTokens countTokens last ≤ 0) (lines text)) ≤ 0 :=
      @fits_lastFitting _ (fun last ↦ lineTokens countTokens last ≤ 0) _ le_rfl (lines text)
    cases hlast : lastFitting (fun last ↦ lineTokens countTokens last ≤ 0) (lines text) with
    | nil => rfl
    | cons line rest =>
      rw [hlast, lineTokens, List.map_cons, List.sum_cons] at hnone
      omega

/-! ## The whole prompt -/

theorem contents_le_messageTokens (messages : List SimpleMessage) :
    (messages.map fun message ↦ countTokens message.content).sum ≤
      messageTokens countTokens messages :=
  List.sum_le_sum fun _ _ ↦ Nat.le_add_right _ 4

/-- The sections of the prompt in full. -/
def PromptServices.fullSections (services : PromptServices) (context : AgentContextLoaded) :
    List String :=
  [formatFacts services.confidenceText context.facts, formatTasks context.activeTasks,
    formatHistory context.conversationHistory, formatSkills context.skillSnippets]

/-- What an assembled prompt keeps of its context, where a number of tokens is left for that: its
sections, and the longest end of the similar content's exchange followed by the history that fits. -/
structure Shared (services : PromptServices) (config : ContextConfig) (context : AgentContextLoaded)
    (remaining : ℕ) (assembled : AssembledContext) : Prop where
  sections : ∃ facts tasks history skills,
    services.render config.promptTemplate
      (services.promptVariables context facts tasks history skills) = some assembled.systemPrompt ∧
    FitsShare services.countTokens (20 * remaining / 100)
      (formatFacts services.confidenceText context.facts) facts ∧
    FitsShare services.countTokens (5 * remaining / 100) (formatTasks context.activeTasks) tasks ∧
    FitsShare services.countTokens (35 * remaining / 100) (formatHistory context.conversationHistory)
      history ∧
    FitsShare services.countTokens (10 * remaining / 100) (formatSkills context.skillSnippets) skills
  similarContent : ∃ similar, FitsShare services.countTokens (15 * remaining / 100)
      (formatSimilarContent services.relevanceText context.similarContent) similar ∧
    assembled.messages.dropLast =
      lastFitting (Fits services.countTokens (35 * remaining / 100 + 15 * remaining / 100))
        (ragMessages similar ++ context.conversationHistory.filterMap historyMessage)

variable {services : PromptServices} {config : ContextConfig} {context : AgentContextLoaded}
  {assembled : AssembledContext} {remaining : ℕ} {userText emptyPrompt fullPrompt : String}

/-- The sections of the prompt that is rendered again are the cut ones. -/
theorem assembleContext_cases (hassembled : services.assembleContext config context = some assembled)
    (hremaining : services.remainingTokens config context = some remaining)
    (huser : services.extractUserText context = some userText) :
    services.renderBudgetedSystemPrompt config.promptTemplate remaining context =
        some assembled.systemPrompt ∧
      assembled.messages = services.earlierMessages remaining context ++ [⟨"user", userText⟩] := by
  simp only [PromptServices.assembleContext, hremaining, huser, Option.bind_eq_bind,
    Option.bind_some, Option.bind_eq_some_iff, Option.pure_def, Option.some.injEq] at hassembled
  obtain ⟨systemPrompt, hprompt, rfl⟩ := hassembled
  exact ⟨hprompt, rfl⟩

theorem shared_of_assembled
    (hpercent : ∀ share budget, services.percent share budget = share * budget / 100)
    (hassembled : services.assembleContext config context = some assembled)
    (hremaining : services.remainingTokens config context = some remaining)
    (huser : services.extractUserText context = some userText) :
    Shared services config context remaining assembled := by
  obtain ⟨hprompt, hmessages⟩ := assembleContext_cases hassembled hremaining huser
  have hearlier : assembled.messages.dropLast = services.earlierMessages remaining context := by
    rw [hmessages, List.dropLast_concat]
  have hcut (text : String) (share : ℕ) : FitsShare services.countTokens (share * remaining / 100)
      text (truncateToBudget services.countTokens text (services.percent share remaining)) := by
    rw [hpercent]
    exact fitsShare_truncateToBudget text _
  refine { sections := ⟨_, _, _, _, hprompt, hcut _ 20, hcut _ 5, hcut _ 35, hcut _ 10⟩,
           similarContent := ⟨_, hcut _ 15, ?_⟩ }
  rw [hearlier, PromptServices.earlierMessages, truncateMessages_eq, PromptServices.messagesBudget,
    PromptServices.historyBudget, PromptServices.ragBudget, hpercent, hpercent]

theorem Shared.systemPrompt_eq (h : Shared services config context 0 assembled)
    (hcounts : ∀ text ∈ services.fullSections context, text ≠ "" → services.countTokens text ≠ 0) :
    services.render config.promptTemplate (services.promptVariables context "" "" "" "") =
      some assembled.systemPrompt := by
  obtain ⟨facts, tasks, history, skills, hprompt, hfacts, htasks, hhistory, hskills⟩ := h.sections
  simp only [PromptServices.fullSections, List.forall_mem_cons, List.not_mem_nil] at hcounts
  obtain ⟨hfactsCount, htasksCount, hhistoryCount, hskillsCount, -⟩ := hcounts
  obtain rfl := hfacts.eq_empty hfactsCount
  obtain rfl := htasks.eq_empty htasksCount
  obtain rfl := hhistory.eq_empty hhistoryCount
  obtain rfl := hskills.eq_empty hskillsCount
  exact hprompt

/-- If the prompt without sections, the message of the user and the response fit in the window, the
sections of the assembled prompt are cut only where they exceed their shares, and the prompt and the
messages stay within the window, unless cutting sections makes the prompt longer, or at most two
messages come before the user's and exceed their share, or a section is there that counts for nothing. -/
theorem assembled_within_window
    (hpercent : ∀ share budget, services.percent share budget = share * budget / 100)
    (hassembled : services.assembleContext config context = some assembled)
    (huser : services.extractUserText context = some userText)
    (hempty : services.render config.promptTemplate
      (services.promptVariables context "" "" "" "") = some emptyPrompt)
    (hfull : services.renderPrompt config.promptTemplate context = some fullPrompt)
    (hfits : services.countTokens emptyPrompt + services.countTokens userText +
      config.maxResponseTokens ≤ config.maxContextTokens) :
    let remaining := config.maxContextTokens - config.maxResponseTokens -
      services.countTokens fullPrompt - services.countTokens userText
    Shared services config context remaining assembled ∧
      (services.countTokens assembled.systemPrompt +
          (assembled.messages.map fun message ↦ services.countTokens message.content).sum ≤
            config.maxContextTokens - config.maxResponseTokens ∨
        services.countTokens fullPrompt < services.countTokens assembled.systemPrompt ∨
        (assembled.messages.length ≤ 3 ∧ 35 * remaining / 100 + 15 * remaining / 100 <
          messageTokens services.countTokens assembled.messages.dropLast) ∨
        ∃ text ∈ services.fullSections context, text ≠ "" ∧ services.countTokens text = 0) := by
  intro remaining
  have hremaining : services.remainingTokens config context = some remaining := by
    simp only [PromptServices.remainingTokens, hfull, huser, Option.bind_eq_bind, Option.bind_some,
      Option.pure_def, remaining]
  have hshared := shared_of_assembled hpercent hassembled hremaining huser
  refine ⟨hshared, ?_⟩
  obtain ⟨-, hmessages⟩ := assembleContext_cases hassembled hremaining huser
  have hearlier : assembled.messages.dropLast = services.earlierMessages remaining context := by
    rw [hmessages, List.dropLast_concat]
  obtain ⟨similar, -, hlast⟩ := hshared.similarContent
  have hkept : Fits services.countTokens (35 * remaining / 100 + 15 * remaining / 100)
      assembled.messages.dropLast := hlast ▸ fits_lastFitting fits_nil _
  by_cases hshares : messageTokens services.countTokens assembled.messages.dropLast ≤
      35 * remaining / 100 + 15 * remaining / 100
  · by_cases hlonger : services.countTokens fullPrompt < services.countTokens assembled.systemPrompt
    · exact .inr (.inl hlonger)
    · have hcontents : ((services.earlierMessages remaining context).map fun message ↦
          services.countTokens message.content).sum ≤ messageTokens services.countTokens
            (services.earlierMessages remaining context) := contents_le_messageTokens _
      rw [hearlier] at hshares
      simp only [hmessages, List.map_append, List.sum_append, List.map_singleton, List.sum_singleton]
      by_cases hzero : remaining = 0
      · by_cases hcounts : ∃ text ∈ services.fullSections context,
            text ≠ "" ∧ services.countTokens text = 0
        · exact .inr (.inr (.inr hcounts))
        · -- nothing is left for the context
          left
          simp only [not_exists, not_and] at hcounts
          rw [hzero] at hshared
          obtain rfl := Option.some.inj ((hshared.systemPrompt_eq hcounts).symm.trans hempty)
          omega
      · left
        omega
  · have hshort : assembled.messages.dropLast.length ≤ 2 := hkept.resolve_right hshares
    rw [List.length_dropLast] at hshort
    exact .inr (.inr (.inl ⟨by omega, Nat.lt_of_not_le hshares⟩))

/-- A loaded context with a conversation and nothing else. -/
def conversationContext (texts : List String) : AgentContextLoaded where
  originalEvent := inboundEnvelope
  entities := []
  facts := []
  similarContent := []
  activeTasks := []
  conversationHistory := texts.map fun text ↦ .object [("content", .string text), ("role", .string "user")]
  skillSnippets := []

/-- A template that ends with the history. -/
def historyPrompt : PromptServices :=
  { plainPrompt with render := fun template vars ↦ some (template ++ vars.conversationHistory) }

def sixMessages : AgentContextLoaded :=
  conversationContext ["one", "two", "three", "four", "five", "six"]

/-- What is assembled of a conversation that is cut in the prompt and before the user's message. -/
def cutAssembled : AssembledContext :=
  ⟨"Be brief.\nuser: five\nuser: six",
    ["three", "four", "five", "six", "hello"].map (⟨"user", ·⟩), 71⟩

theorem assembled_within_window_cut :
    Shared historyPrompt ⟨150, 5, "Be brief.\n"⟩ sixMessages 67 cutAssembled ∧
      (historyPrompt.countTokens cutAssembled.systemPrompt +
          (cutAssembled.messages.map fun message ↦
            historyPrompt.countTokens message.content).sum ≤ 145 ∨
        73 < historyPrompt.countTokens cutAssembled.systemPrompt ∨
        (cutAssembled.messages.length ≤ 3 ∧ 35 * 67 / 100 + 15 * 67 / 100 <
          messageTokens historyPrompt.countTokens cutAssembled.messages.dropLast) ∨
        ∃ text ∈ historyPrompt.fullSections sixMessages,
          text ≠ "" ∧ historyPrompt.countTokens text = 0) := by
  have huser : historyPrompt.extractUserText sixMessages = some "hello" := by decide +kernel
  have hfull : historyPrompt.renderPrompt "Be brief.\n" sixMessages =
      some "Be brief.\nuser: one\nuser: two\nuser: three\nuser: four\nuser: five\nuser: six" := by
    decide +kernel
  have hassembled : historyPrompt.assembleContext ⟨150, 5, "Be brief.\n"⟩ sixMessages =
      some cutAssembled := by decide +kernel
  have hempty : historyPrompt.render "Be brief.\n"
      (historyPrompt.promptVariables sixMessages "" "" "" "") = some "Be brief.\n" := by
    decide +kernel
  have hfits : historyPrompt.countTokens "Be brief.\n" + historyPrompt.countTokens "hello" + 5 ≤ 150 := by
    decide +kernel
  exact assembled_within_window (fun _ _ ↦ rfl) hassembled huser hempty hfull hfits

/-- The prompt without sections, the message of the user and the response fit, and the prompt and the
messages do not. -/
def Exceeds (services : PromptServices) (config : ContextConfig) (context : AgentContextLoaded) : Prop :=
  ∃ userText ∈ services.extractUserText context,
    ∃ emptyPrompt ∈ services.render config.promptTemplate
      (services.promptVariables context "" "" "" ""),
      services.countTokens emptyPrompt + services.countTokens userText + config.maxResponseTokens ≤
        config.maxContextTokens ∧
      ∃ assembled ∈ services.assembleContext config context,
        config.maxContextTokens - config.maxResponseTokens <
          services.countTokens assembled.systemPrompt +
            (assembled.messages.map fun message ↦ services.countTokens message.content).sum

instance (services : PromptServices) (config : ContextConfig) (context : AgentContextLoaded) :
    Decidable (Exceeds services config context) := by
  unfold Exceeds
  infer_instance

/-- A template that is long where it has facts but no tasks. -/
def branchingPrompt : PromptServices :=
  { plainPrompt with
    render := fun _ vars ↦
      if vars.currentFacts ≠ "" ∧ vars.activeTasks = "" then
        some (String.ofList (List.replicate 200 'x'))
      else some "" }

/-- A counter that counts one letter, for which the facts count for nothing. -/
def countingPrompt : PromptServices :=
  { plainPrompt with
    countTokens := fun text ↦ (text.toList.filter (· = 'x')).length
    render := fun _ vars ↦
      some (if vars.currentFacts = "" then "" else String.ofList (List.replicate 200 'x')) }

/-- One message of the conversation that is longer than the window, a template that is longer with its
tasks cut, and one that is long where it has facts that count for nothing. -/
theorem assembled_exceeds :
    Exceeds plainPrompt ⟨20, 5, "Be."⟩ (conversationContext ["what is longer than the window"]) ∧
      Exceeds branchingPrompt ⟨160, 5, ""⟩ (conversationContext []) ∧
      Exceeds countingPrompt ⟨160, 5, ""⟩ (conversationContext []) := by
  decide +kernel

end Seidrum.Plugins
