import Mathlib.Data.List.Induction
import SqlLineage.Proofs.Collector.Run

/-!
# Preferences in a run

A collector keeps the policy of its preferences and not the preferences. The last preference for the
grammar always counts. Scanning alone is the policy of two pairs of preferences, so that a
preference against scanning is forgotten as soon as the grammar is not preferred, and does not count
when the grammar is preferred again.
-/

namespace SqlLineage

namespace ExtractionPolicy

/-- A policy is that of its preferences. -/
theorem ofPreferences_prefers (policy : ExtractionPolicy) :
    ofPreferences policy.prefersGrammar policy.prefersPattern = policy := by
  cases policy <;> rfl

@[simp] theorem prefersGrammar_ofPreferences (grammar pattern : Bool) :
    (ofPreferences grammar pattern).prefersGrammar = grammar := by
  cases grammar <;> cases pattern <;> rfl

/-- Scanning is used if it is preferred, and if nothing else is left. -/
@[simp] theorem prefersPattern_ofPreferences (grammar pattern : Bool) :
    (ofPreferences grammar pattern).prefersPattern = (!grammar || pattern) := by
  cases grammar <;> cases pattern <;> rfl

/-- No other way to change the preference for the grammar of a policy would keep the preference for
scanning. -/
theorem not_exists_change_keeping_pattern :
    ¬∃ change : ExtractionPolicy → Bool → ExtractionPolicy, ∀ grammar pattern prefer,
      change (ofPreferences grammar pattern) prefer = ofPreferences prefer pattern := by
  rintro ⟨change, keeps⟩
  have scanned : change patternOnly true = grammarWithPatternFallback := keeps false true true
  have unscanned : change patternOnly true = grammarOnly := keeps false false true
  cases scanned.symm.trans unscanned

end ExtractionPolicy

namespace Collector

open ExtractionPolicy

/-- The preference for the grammar that a request gives. -/
def Request.grammarPreference? : Request → Option Bool
  | .preferGrammar prefer => some prefer
  | _ => none

/-- The preference for scanning that a request gives. -/
def Request.patternPreference? : Request → Option Bool
  | .preferPattern prefer => some prefer
  | _ => none

/-- The last preference that requests give. -/
def lastPreference? (preference? : Request → Option Bool) (requests : List Request) : Option Bool :=
  (requests.filterMap preference?).getLast?

/-- The grammar is not preferred when requests give their last preference for scanning, or at some
time behind. -/
def DropsGrammar (collector : Collector) (requests : List Request) : Prop :=
  ∃ front prefer behind, requests = front ++ .preferPattern prefer :: behind ∧
    (∀ request ∈ behind, request.patternPreference? = none) ∧
    ((lastPreference? Request.grammarPreference? front).getD collector.policy.prefersGrammar =
        false ∨
      .preferGrammar false ∈ behind)

/-! ## Steps -/

theorem policy_foldl_adopt (collector : Collector) (found : List JobFindings) :
    (found.foldl adopt collector).policy = collector.policy := by
  induction found generalizing collector with
  | nil => rfl
  | cons findings found inductionHypothesis => exact inductionHypothesis (collector.adopt findings)

/-- A request changes the policy by the preference that it gives. -/
theorem policy_perform (collector : Collector) (request : Request) :
    (collector.perform request).policy =
      ofPreferences (request.grammarPreference?.getD collector.policy.prefersGrammar)
        (request.patternPreference?.getD collector.policy.prefersPattern) := by
  have kept := (ofPreferences_prefers collector.policy).symm
  cases request with
  | collect job => exact kept
  | search pattern onlyLatest =>
      rw [perform, search]
      cases collector.repository.select pattern onlyLatest with
      | error error => exact kept
      | ok jobs => exact (collector.policy_foldl_adopt (jobs.map collector.inspect)).trans kept
  | preferGrammar prefer | preferPattern prefer => rfl

theorem lastPreference?_concat
    (preference? : Request → Option Bool)
    (requests : List Request)
    (request : Request) :
    lastPreference? preference? (requests ++ [request]) =
      (preference? request).or (lastPreference? preference? requests) := by
  rw [lastPreference?, lastPreference?, List.filterMap_append, List.getLast?_append]
  cases given : preference? request with
  | none => rw [List.filterMap_cons_none given]; rfl
  | some prefer => rw [List.filterMap_cons_some given]; rfl

/-! ## Runs -/

/-- The last preference for the grammar counts. -/
theorem prefersGrammar_performAll (collector : Collector) (requests : List Request) :
    (collector.performAll requests).policy.prefersGrammar =
      (lastPreference? Request.grammarPreference? requests).getD
        collector.policy.prefersGrammar := by
  induction requests using List.reverseRecOn with
  | nil => rfl
  | append_singleton requests request inductionHypothesis =>
      rw [lastPreference?_concat, performAll, List.foldl_append, List.foldl_cons, List.foldl_nil,
        policy_perform, prefersGrammar_ofPreferences, ← performAll, inductionHypothesis]
      cases request.grammarPreference? <;> rfl

/-- As long as no preference for scanning is given, scanning is used if it was used or if the
grammar is not preferred at some time. -/
theorem prefersPattern_performAll_of_silent
    {requests : List Request}
    (silent : ∀ request ∈ requests, request.patternPreference? = none)
    (collector : Collector) :
    (collector.performAll requests).policy.prefersPattern = true ↔
      collector.policy.prefersPattern = true ∨ .preferGrammar false ∈ requests := by
  induction requests generalizing collector with
  | nil => simp [performAll]
  | cons request requests inductionHypothesis =>
      obtain ⟨first, rest⟩ := List.forall_mem_cons.1 silent
      have step : (collector.perform request).policy.prefersPattern = true ↔
          collector.policy.prefersPattern = true ∨ .preferGrammar false = request := by
        have scans : (!collector.policy.prefersGrammar || collector.policy.prefersPattern) =
            collector.policy.prefersPattern := by
          cases collector.policy <;> rfl
        rw [policy_perform, first, prefersPattern_ofPreferences]
        cases request with
        | collect | search => simp [Request.grammarPreference?, scans]
        | preferGrammar prefer => cases prefer <;> simp [Request.grammarPreference?]
        | preferPattern prefer => cases first
      rw [performAll, List.foldl_cons, ← performAll, inductionHypothesis rest, step,
        List.mem_cons, or_assoc]

/-- Behind the last preference for scanning, scanning is used if it was preferred or if the grammar
is not preferred then or at some time behind. -/
theorem prefersPattern_performAll_of_last
    (collector : Collector)
    (front : List Request)
    (prefer : Bool)
    {behind : List Request}
    (silent : ∀ request ∈ behind, request.patternPreference? = none) :
    (collector.performAll (front ++ .preferPattern prefer :: behind)).policy.prefersPattern = true ↔
      prefer = true ∨
        (lastPreference? Request.grammarPreference? front).getD collector.policy.prefersGrammar =
            false ∨
          .preferGrammar false ∈ behind := by
  have run : collector.performAll (front ++ .preferPattern prefer :: behind) =
      ((collector.performAll front).perform (.preferPattern prefer)).performAll behind := by
    simp [performAll]
  rw [run, prefersPattern_performAll_of_silent silent, policy_perform, prefersPattern_ofPreferences,
    ← prefersGrammar_performAll]
  simp only [Request.grammarPreference?, Request.patternPreference?, Option.getD_none,
    Option.getD_some, Bool.or_eq_true, Bool.not_eq_true']
  tauto

/-- Requests that give a preference for scanning have a last one that does. -/
theorem exists_last_of_lastPreference?
    {requests : List Request}
    {prefer : Bool}
    (last : lastPreference? Request.patternPreference? requests = some prefer) :
    ∃ front behind, requests = front ++ .preferPattern prefer :: behind ∧
      ∀ request ∈ behind, request.patternPreference? = none := by
  obtain ⟨given, split⟩ := List.getLast?_eq_some_iff.1 last
  obtain ⟨front, back, rfl, -, lastOfBack⟩ := List.filterMap_eq_append_iff.1 split
  obtain ⟨silentFront, request, behind, rfl, -, gives, silent⟩ :=
    List.filterMap_eq_cons_iff.1 lastOfBack
  have isLast : request = .preferPattern prefer := by
    cases request with
    | preferPattern given => rw [Option.some.inj gives]
    | _ => cases gives
  exact ⟨front ++ silentFront, behind, by rw [isLast, List.append_assoc],
    List.filterMap_eq_nil_iff.1 silent⟩

/-- Scanning is used if it is preferred last, and if the grammar is dropped. -/
theorem prefersPattern_performAll_iff
    (collector : Collector)
    {requests : List Request}
    {pattern : Bool}
    (last : lastPreference? Request.patternPreference? requests = some pattern) :
    (collector.performAll requests).policy.prefersPattern = true ↔
      pattern = true ∨ collector.DropsGrammar requests := by
  obtain ⟨front, behind, rfl, silent⟩ := exists_last_of_lastPreference? last
  constructor
  · intro scans
    exact ((prefersPattern_performAll_of_last collector front pattern silent).1 scans).imp_right
      fun dropped => ⟨front, pattern, behind, rfl, silent, dropped⟩
  · rintro (rfl | ⟨front', prefer, behind', same, silent', dropped⟩)
    · exact (prefersPattern_performAll_of_last collector front true silent).2 (.inl rfl)
    · rw [same]
      exact (prefersPattern_performAll_of_last collector front' prefer silent').2 (.inr dropped)

/-- **The last preferences make the policy, unless a preference against scanning is forgotten.** If
requests give both preferences, the policy is that of the last ones, in whatever order and with
whatever other requests they come, except exactly if the grammar is preferred and scanning is not,
and the grammar was not preferred when the preference against scanning was given or at some time
behind. Then the policy is that of both preferences. -/
theorem policy_of_last_preferences_iff
    (collector : Collector)
    (requests : List Request)
    {grammar pattern : Bool}
    (lastGrammar : lastPreference? Request.grammarPreference? requests = some grammar)
    (lastPattern : lastPreference? Request.patternPreference? requests = some pattern) :
    ((collector.performAll requests).policy = ofPreferences grammar pattern ↔
        ¬(grammar = true ∧ pattern = false ∧ collector.DropsGrammar requests)) ∧
      (grammar = true ∧ pattern = false ∧ collector.DropsGrammar requests →
        (collector.performAll requests).policy = grammarWithPatternFallback) := by
  have usesGrammar := prefersGrammar_performAll collector requests
  rw [lastGrammar, Option.getD_some] at usesGrammar
  have scans := prefersPattern_performAll_iff collector lastPattern
  rw [← ofPreferences_prefers (collector.performAll requests).policy, usesGrammar]
  by_cases drops : collector.DropsGrammar requests
  · rw [scans.2 (.inr drops)]
    cases grammar <;> cases pattern <;> simp [ofPreferences, drops]
  · have last : (collector.performAll requests).policy.prefersPattern = pattern := by
      rw [Bool.eq_iff_iff, scans, or_iff_left drops]
    rw [last]
    simp [drops]

/-- A collector without jobs that uses the grammar and scanning. -/
def standing : Collector :=
  new (.ofDocuments .empty) .generic grammarWithPatternFallback

/-- Requests that prefer the grammar last, and scanning first not and then again. -/
def switching : List Request :=
  [.preferPattern false, .preferGrammar false, .preferPattern true, .preferGrammar true]

/-- Requests that prefer the grammar again behind a preference against scanning. -/
def dropping : List Request :=
  [.preferPattern false, .preferGrammar false, .preferGrammar true]

theorem dropsGrammar_dropping : standing.DropsGrammar dropping :=
  ⟨[], false, _, rfl, by decide, .inr (.head _)⟩

theorem policy_of_switching_and_dropping :
    (lastPreference? Request.grammarPreference? switching = some true ∧
        lastPreference? Request.patternPreference? switching = some true ∧
        (standing.performAll switching).policy = ofPreferences true true) ∧
      lastPreference? Request.grammarPreference? dropping = some true ∧
        lastPreference? Request.patternPreference? dropping = some false ∧
        (standing.performAll dropping).policy = grammarWithPatternFallback := by
  have switchedGrammar : lastPreference? Request.grammarPreference? switching = some true := rfl
  have switchedPattern : lastPreference? Request.patternPreference? switching = some true := rfl
  have droppedGrammar : lastPreference? Request.grammarPreference? dropping = some true := rfl
  have droppedPattern : lastPreference? Request.patternPreference? dropping = some false := rfl
  have switched := standing.policy_of_last_preferences_iff switching switchedGrammar switchedPattern
  have dropped := standing.policy_of_last_preferences_iff dropping droppedGrammar droppedPattern
  exact ⟨⟨switchedGrammar, switchedPattern, switched.1.2 (by simp)⟩, droppedGrammar, droppedPattern,
    dropped.2 ⟨rfl, rfl, dropsGrammar_dropping⟩⟩

/-- The last preferences do not always make the policy: when the grammar is preferred again, a
preference against scanning is forgotten. -/
theorem preference_against_scanning_forgotten :
    ¬∀ (collector : Collector) (requests : List Request) (grammar pattern : Bool),
      lastPreference? Request.grammarPreference? requests = some grammar →
        lastPreference? Request.patternPreference? requests = some pattern →
          (collector.performAll requests).policy = ofPreferences grammar pattern := by
  intro always
  have unscanned : (standing.performAll dropping).policy = grammarOnly :=
    always standing dropping true false rfl rfl
  have scanned : (standing.performAll dropping).policy = grammarWithPatternFallback := rfl
  cases scanned.symm.trans unscanned

end Collector
end SqlLineage
