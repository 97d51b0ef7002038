import LatexSnippets.Proofs.Anchoring
import LatexSnippets.Proofs.Expr.Numbers
import LatexSnippets.Proofs.Pattern.Counts
import LatexSnippets.Proofs.Source.Rules

/-!
How loading a source of rules can fail. What is wrong with a rule is reported with its place, unless
it is the size of a number in it.
-/

namespace LatexSnippets

theorem Trigger.isMalformed_of_options {flags : Text} {e : Pattern.Error}
    (h : options flags = .error e) : e.isMalformed = true := by
  induction flags with
  | nil => contradiction
  | cons c flags ih =>
    rw [options] at h
    split at h
    · exact ih (map_eq_error.1 h)
    · rw [← Except.error.inj h]
      rfl

/-- A trigger whose counts are short fails to compile only for its form or its options. -/
theorem Trigger.isMalformed_of_compile {source flags : Text} {e : Pattern.Error}
    (hc : Pattern.HasShortCounts source) (h : compile source flags = .error e) :
    e.isMalformed = true := by
  rcases bind_eq_error.1 h with ho | ⟨o, ho, h⟩
  · exact isMalformed_of_options ho
  · rw [Pattern.malformed_of_compile_anchored hc (spaced_options ho) h]
    rfl

namespace Source

/-- The source of a pattern that a rule is triggered by, its variables not yet replaced. -/
def RuleRecord.patternSource? (r : RuleRecord) : Option Text :=
  match r.trigger with
  | .text t => if Rule.regex r.options then some t else none
  | .literal _ => none
  | .pattern source _ => some source

/-- The source of a template with expressions. -/
def RuleRecord.expressionSource? (r : RuleRecord) : Option Text :=
  match r.template with
  | .text _ => none
  | .expression source => some source

/-- A record whose pattern has no count and whose template no number that is too large. -/
def RuleRecord.HasShortNumbers (r : RuleRecord) : Prop :=
  (∀ t ∈ r.patternSource?, Pattern.HasShortCounts (Variables.expandStandard t)) ∧
    ∀ t ∈ r.expressionSource?, Interpolated.HasShortNumbers t

/-- Whether a failure to load is told as one, with the place of what is wrong. -/
def RulesError.isReported : RulesError → Bool
  | .invalid .. | .badPattern .. | .badExpression .. | .unwritable .. => true
  | .pattern _ | .numeral _ => false

def RuleError.isReported : RuleError → Bool
  | .pattern e => e.isMalformed
  | .expression (.numeral _) => false
  | .expression _ => true

theorem RuleError.isReported_at (index : Nat) (label : Text) (e : RuleError) :
    (e.at index label).isReported = e.isReported := by
  cases e with
  | pattern e =>
    rw [RuleError.at, isReported]
    split
    · next h => exact h.symm
    · next h => exact (Bool.not_eq_true _ ▸ h).symm
  | expression e => cases e <;> rfl

theorem isReported_of_buildPattern {source flags : Text} {e : RuleError}
    (hc : Pattern.HasShortCounts (Variables.expandStandard source))
    (h : RuleRecord.buildPattern source flags = .error e) : e.isReported = true := by
  rcases bind_eq_error.1 h with h | ⟨_, _, h⟩
  · obtain ⟨e, he, rfl⟩ := mapError_eq_error.1 h
    exact Trigger.isMalformed_of_compile hc he
  · contradiction

theorem isReported_of_buildTrigger {r : RuleRecord} {e : RuleError} (hr : r.HasShortNumbers)
    (h : r.buildTrigger = .error e) : e.isReported = true := by
  have hp := hr.1
  rw [RuleRecord.buildTrigger] at h
  rw [RuleRecord.patternSource?] at hp
  split at h
  · split at h
    · exact isReported_of_buildPattern (hp _ (by simp_all)) h
    · contradiction
  · contradiction
  · exact isReported_of_buildPattern (hp _ (by simp_all)) h

theorem isReported_of_buildTemplate {r : RuleRecord} {e : RuleError} (hr : r.HasShortNumbers)
    (h : r.buildTemplate = .error e) : e.isReported = true := by
  have he := hr.2
  rw [RuleRecord.buildTemplate] at h
  rw [RuleRecord.expressionSource?] at he
  split at h
  · contradiction
  · next source _ =>
    obtain ⟨e, he', rfl⟩ := mapError_eq_error.1 (map_eq_error.1 h)
    have hc := Interpolated.holds_compile (he source (by simp_all))
    rw [he'] at hc
    cases e with
    | numeral n => exact absurd rfl (hc n)
    | _ => rfl

theorem isReported_of_build {r : RuleRecord} {e : RuleError} (hr : r.HasShortNumbers)
    (h : r.build = .error e) : e.isReported = true := by
  rcases bind_eq_error.1 h with h | ⟨_, _, h⟩
  · exact isReported_of_buildTrigger hr h
  rcases bind_eq_error.1 h with h | ⟨_, _, h⟩
  · exact isReported_of_buildTemplate hr h
  · contradiction

theorem isReported_of_buildFrom {i : Nat} {rs : List RuleRecord} {e : RulesError}
    (hr : ∀ r ∈ rs, r.HasShortNumbers) (h : buildFrom i rs = .error e) : e.isReported = true := by
  induction rs generalizing i with
  | nil => contradiction
  | cons r rs ih =>
    rw [List.forall_mem_cons] at hr
    rcases bind_eq_error.1 h with h | ⟨_, _, h⟩
    · obtain ⟨e, he, rfl⟩ := mapError_eq_error.1 h
      rw [RuleError.isReported_at]
      exact isReported_of_build hr.1 he
    rcases bind_eq_error.1 h with h | ⟨_, _, h⟩
    · exact ih hr.2 h
    · contradiction

/-- Loading a source gives its rules or a report, if no number in it is too large. -/
theorem readRules_reports {source : Text}
    (h : ∀ rs, records ruleRecord source = .ok rs → ∀ r ∈ rs, r.HasShortNumbers) :
    (∃ rules, readRules source = .ok rules) ∨
      ∃ e, readRules source = .error e ∧ e.isReported = true := by
  rw [readRules]
  cases hr : records ruleRecord source with
  | error issues => exact .inr ⟨_, rfl, rfl⟩
  | ok rs =>
    simp only
    cases hb : buildFrom 0 rs with
    | ok rules => exact .inl ⟨rules, rfl⟩
    | error e => exact .inr ⟨e, rfl, isReported_of_buildFrom (h rs hr) hb⟩

/-- A pattern with a count and a group left open, which is what is reported. -/
theorem readRules_reports_open_group :
    let source : Text := "[\x7b\"trigger\":\x7b\"type\":\"pattern\",\"source\":\"(a\x7b2\x7d\"\x7d," ++
      "\"template\":\x7b\"type\":\"expression\",\"source\":\"\x7b\x7b[[1]]\x7d\x7d\"\x7d\x7d]"
    ∃ rs, records ruleRecord source = .ok rs ∧ (∀ r ∈ rs, r.HasShortNumbers) ∧
      ∃ e, readRules source = .error e ∧ e.isReported = true := by
  intro source
  let r : RuleRecord :=
    ⟨.pattern "(a\x7b2\x7d" [], .expression "\x7b\x7b[[1]]\x7d\x7d", [], 0, []⟩
  have hr : records ruleRecord source = .ok [r] := toOption_eq_some.1 (by decide +kernel)
  have hs : ∀ r' ∈ [r], r'.HasShortNumbers := by
    rw [List.forall_mem_singleton]
    refine ⟨?_, ?_⟩
    · rintro t ⟨⟩
      exact .of_length (by decide +kernel)
    · rintro t ⟨⟩
      exact .of_length (by decide +kernel)
  refine ⟨[r], hr, hs, (readRules_reports ?_).resolve_left ?_⟩
  · intro rs hrs
    exact Except.ok.inj (hr.symm.trans hrs) ▸ hs
  · rintro ⟨rules, hrules⟩
    have hn : (readRules source).toOption = none := by decide +kernel
    rw [hrules] at hn
    exact Option.some_ne_none rules hn

/-- Whether loading gave rules or a report. -/
def isSettled : Except RulesError (List Rule) → Bool
  | .ok _ => true
  | .error e => e.isReported

theorem isSettled_iff {result : Except RulesError (List Rule)} :
    isSettled result = true ↔
      (∃ rules, result = .ok rules) ∨ ∃ e, result = .error e ∧ e.isReported = true := by
  cases result <;> simp [isSettled]

/-- A count that is too large ends loading without a report. -/
theorem readRules_count_escapes :
    let source : Text := "[\x7b\"trigger\":\"a\x7b4294967295\x7d\",\"template\":\"x\"," ++
      "\"options\":\"r\"\x7d]"
    ¬((∃ rules, readRules source = .ok rules) ∨
      ∃ e, readRules source = .error e ∧ e.isReported = true) := by
  intro source
  rw [← isSettled_iff, Bool.not_eq_true]
  decide +kernel

end Source

end LatexSnippets
