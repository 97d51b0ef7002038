import LatexSnippets.Proofs.Except
import LatexSnippets.Proofs.Json.Writing
import LatexSnippets.Proofs.Variables
import LatexSnippets.Source.Rules

/-!
Rules kept as text. What can be kept is what reading a source gives, and it is read back as it was.
-/

namespace LatexSnippets

/-- A trigger that a source can hold: a pattern is compiled when it is read, its variables replaced.
-/
def Trigger.Storable : Trigger → Prop
  | .literal _ => True
  | .pattern source flags =>
    (∃ p, Trigger.compile source flags = .ok p) ∧ Variables.IsExpanded source

/-- A template that a source can hold: one computed by the host is not, and one with expressions is
what its source compiles to. -/
def Template.Storable : Template → Prop
  | .text _ => True
  | .interpolated i => Interpolated.compile i.source = .ok i
  | .host _ => False

/-- A priority that can be written and read. -/
def Rule.HasShortPriority (r : Rule) : Prop :=
  (Numeral.ofNat r.priority.natAbs).length ≤ Numeral.maxDigits

structure Rule.Storable (r : Rule) : Prop where
  trigger : r.trigger.Storable
  template : r.template.Storable
  priority : r.HasShortPriority

namespace Source

variable {path : List Text} {ms : Assoc Json} {name : Text} {v : Json} {α : Type}
  {check : List Text → Json → Checked α}

theorem required_of_get? (h : ms.get? name = some v) :
    required path ms name check = check (path ++ [name]) v := by
  rw [required, h]

theorem optional_of_get? {default : α} (h : ms.get? name = some v) :
    optional path ms name check default = check (path ++ [name]) v := by
  rw [optional, h]

theorem optional_of_missing {default : α} (h : ms.get? name = none) :
    optional path ms name check default = .ok default := by
  rw [optional, h]

section Writing

/-- The record that a trigger is written as. -/
def triggerRecordOf (options : Text) : Trigger → TriggerRecord
  | .literal t => if Rule.regex options then .literal t else .text t
  | .pattern source flags => .pattern source flags

/-- The record that a template is written as, if it can be. -/
def templateRecordOf? : Template → Option TemplateRecord
  | .text t => some (.text t)
  | .interpolated i => some (.expression i.source)
  | .host _ => none

theorem triggerRecord_triggerJson (options : Text) (t : Trigger) :
    triggerRecord path (triggerJson options t) = .ok (triggerRecordOf options t) := by
  cases t with
  | literal t =>
    rw [triggerJson, triggerRecordOf]
    split <;> rfl
  | pattern source flags => rfl

theorem templateRecord_templateJson {index : Nat} {trigger : Trigger} {t : Template} {v : Json}
    (h : templateJson index trigger t = .ok v) :
    ∃ r, templateRecordOf? t = some r ∧ ∀ path, templateRecord path v = .ok r := by
  cases t with
  | text t =>
    obtain rfl := Except.ok.inj h
    exact ⟨_, rfl, fun _ => rfl⟩
  | interpolated i =>
    obtain rfl := Except.ok.inj h
    exact ⟨_, rfl, fun _ => rfl⟩
  | host f => contradiction

/-- The record of a rule, given its trigger and its template as values. -/
def ruleObject (r : Rule) (trigger template : Json) : Json :=
  .object
    ([("trigger".toList, trigger), ("template".toList, template),
        ("options".toList, Json.text r.options)] ++
      (if r.priority = 0 then [] else [("priority".toList, Json.int r.priority)]) ++
      (if r.description.isEmpty then [] else [("description".toList, Json.text r.description)]))

theorem ruleJson_eq {index : Nat} {r : Rule} {template : Json}
    (h : templateJson index r.trigger r.template = .ok template) :
    ruleJson index r = .ok (ruleObject r (triggerJson r.options r.trigger) template) := by
  rw [ruleJson, h]
  rfl

/-- The record of a rule is read as its fields, those left out with the values they stand for. -/
theorem ruleRecord_ruleObject (r : Rule) {trigger template : Json} {t : TriggerRecord}
    {u : TemplateRecord} (ht : ∀ path, triggerRecord path trigger = .ok t)
    (hu : ∀ path, templateRecord path template = .ok u) :
    ruleRecord path (ruleObject r trigger template) =
      .ok ⟨t, u, r.options, r.priority, r.description⟩ := by
  rw [ruleObject]
  by_cases hp : r.priority = 0 <;> by_cases hd : r.description.isEmpty
  all_goals
    simp only [hp, hd, if_true, if_false, List.append_nil, List.cons_append, List.nil_append]
    rw [ruleRecord, record, required_of_get? (v := trigger) rfl,
      required_of_get? (v := template) rfl, ht, hu, optional_of_get? (v := .text r.options) rfl]
  · rw [optional_of_missing rfl, optional_of_missing rfl, List.isEmpty_iff.1 hd]
    rfl
  · rw [optional_of_missing rfl, optional_of_get? (v := .text r.description) rfl]
    rfl
  · rw [optional_of_get? (v := .int r.priority) rfl, optional_of_missing rfl,
      List.isEmpty_iff.1 hd]
    rfl
  · rw [optional_of_get? (v := .int r.priority) rfl,
      optional_of_get? (v := .text r.description) rfl]
    rfl

end Writing

section Building

theorem buildPattern_eq_ok {source flags : Text} {t : Trigger} :
    RuleRecord.buildPattern source flags = .ok t ↔
      (∃ p, Trigger.compile (Variables.expandStandard source) flags = .ok p) ∧
        t = .pattern (Variables.expandStandard source) flags := by
  simp only [RuleRecord.buildPattern, bind_eq_ok, mapError_eq_ok, exists_and_right, pure,
    Except.pure, Except.ok.injEq]
  exact and_congr_right fun _ => eq_comm

theorem storable_of_buildPattern {source flags : Text} {t : Trigger}
    (h : RuleRecord.buildPattern source flags = .ok t) : t.Storable := by
  obtain ⟨hc, rfl⟩ := buildPattern_eq_ok.1 h
  exact ⟨hc, Variables.isExpanded_expandStandard source⟩

theorem buildTrigger_triggerRecordOf {t : Trigger} (h : t.Storable) (u : TemplateRecord)
    (options : Text) (priority : Int) (description : Text) :
    RuleRecord.buildTrigger ⟨triggerRecordOf options t, u, options, priority, description⟩ =
      .ok t := by
  cases t with
  | literal t =>
    rw [triggerRecordOf]
    split
    · rfl
    · next hr => exact if_neg hr
  | pattern source flags =>
    refine buildPattern_eq_ok.2 ?_
    rw [Variables.expandStandard_of_isExpanded h.2]
    exact ⟨h.1, rfl⟩

theorem buildTemplate_templateRecordOf {t : Template} (h : t.Storable) {r : RuleRecord}
    (hr : templateRecordOf? t = some r.template) : r.buildTemplate = .ok t := by
  cases t with
  | text t =>
    rw [RuleRecord.buildTemplate, ← Option.some.inj hr]
  | interpolated i =>
    have hi : Interpolated.compile i.source = .ok i := h
    rw [RuleRecord.buildTemplate, ← Option.some.inj hr]
    simp only [hi]
    rfl
  | host f => contradiction

theorem storable_of_buildTrigger {r : RuleRecord} {t : Trigger} (h : r.buildTrigger = .ok t) :
    t.Storable := by
  rw [RuleRecord.buildTrigger] at h
  split at h
  · split at h
    · exact storable_of_buildPattern h
    · rw [← Except.ok.inj h]
      trivial
  · rw [← Except.ok.inj h]
    trivial
  · exact storable_of_buildPattern h

theorem source_of_compile {source : Text} {i : Interpolated}
    (h : Interpolated.compile source = .ok i) : i.source = source := by
  obtain ⟨segments, -, rfl⟩ := map_eq_ok.1 h
  rfl

theorem storable_of_buildTemplate {r : RuleRecord} {t : Template} (h : r.buildTemplate = .ok t) :
    t.Storable := by
  rw [RuleRecord.buildTemplate] at h
  split at h
  · rw [← Except.ok.inj h]
    trivial
  · obtain ⟨i, hi, rfl⟩ := map_eq_ok.1 h
    have hc := mapError_eq_ok.1 hi
    rwa [Template.Storable, source_of_compile hc]

theorem build_eq_ok {r : RuleRecord} {rule : Rule} (h : r.build = .ok rule) :
    ∃ trigger template, r.buildTrigger = .ok trigger ∧ r.buildTemplate = .ok template ∧
      rule = ⟨trigger, template, r.options, r.priority, r.description⟩ := by
  obtain ⟨trigger, ht, h⟩ := bind_eq_ok.1 h
  obtain ⟨template, hu, h⟩ := bind_eq_ok.1 h
  exact ⟨trigger, template, ht, hu, (Except.ok.inj h).symm⟩

end Building

section Rules

variable {rules : List Rule}

theorem fits_taggedJson {depth : Nat} (kind : Text) (fields : List (Text × Text)) :
    (taggedJson kind fields).Fits (depth + 1) := by
  refine .object fun m hm => ?_
  rcases List.mem_cons.1 hm with rfl | hm
  · exact .text kind
  · obtain ⟨f, -, rfl⟩ := List.mem_map.1 hm
    exact .text f.2

theorem fits_triggerJson {depth : Nat} (options : Text) (t : Trigger) :
    (triggerJson options t).Fits (depth + 1) := by
  cases t with
  | literal t =>
    rw [triggerJson]
    split
    · exact fits_taggedJson _ _
    · exact .text t
  | pattern source flags => exact fits_taggedJson _ _

theorem exists_templateJson {t : Template} (h : t.Storable) (index : Nat) (trigger : Trigger) :
    ∃ v, templateJson index trigger t = .ok v ∧ ∀ depth, v.Fits (depth + 1) := by
  cases t with
  | text t => exact ⟨_, rfl, fun _ => .text t⟩
  | interpolated i => exact ⟨_, rfl, fun _ => fits_taggedJson _ _⟩
  | host f => cases h

theorem fits_ruleObject {r : Rule} (h : r.HasShortPriority) {trigger template : Json} {depth : Nat}
    (ht : trigger.Fits depth) (hu : template.Fits depth) :
    (ruleObject r trigger template).Fits (depth + 1) := by
  refine .object fun m hm => ?_
  simp only [List.mem_append, List.mem_cons, List.not_mem_nil, or_false] at hm
  rcases hm with ((rfl | rfl | rfl) | hm) | hm
  · exact ht
  · exact hu
  · exact .text _
  · split at hm
    · cases hm
    · rw [List.mem_singleton.1 hm]
      exact .int h
  · split at hm
    · cases hm
    · rw [List.mem_singleton.1 hm]
      exact .text _

/-- A rule that a source can hold is written, and its record is read as what builds the rule. -/
theorem exists_ruleJson {r : Rule} (h : r.Storable) (index : Nat) :
    ∃ v record, ruleJson index r = .ok v ∧ (∀ depth, v.Fits (depth + 2)) ∧
      (∀ path, ruleRecord path v = .ok record) ∧ record.build = .ok r := by
  obtain ⟨template, ht, hf⟩ := exists_templateJson h.template index r.trigger
  obtain ⟨u, hu, hr⟩ := templateRecord_templateJson ht
  refine ⟨_, _, ruleJson_eq ht,
    fun depth => fits_ruleObject h.priority (fits_triggerJson _ _) (hf depth),
    fun _ => ruleRecord_ruleObject r (fun _ => triggerRecord_triggerJson _ _) hr, ?_⟩
  rw [RuleRecord.build, buildTrigger_triggerRecordOf h.trigger,
    buildTemplate_templateRecordOf h.template hu]
  rfl

/-- Rules that a source can hold are written and read back. -/
theorem exists_ruleJsonFrom (h : ∀ r ∈ rules, r.Storable) (i : Nat) :
    ∃ vs records, ruleJsonFrom i rules = .ok vs ∧ (∀ v ∈ vs, ∀ depth, v.Fits (depth + 2)) ∧
      (∀ j, itemsFrom ruleRecord j vs = .ok records) ∧ ∀ j, buildFrom j records = .ok rules := by
  induction rules generalizing i with
  | nil => exact ⟨[], [], rfl, (by simp), fun _ => rfl, fun _ => rfl⟩
  | cons r rules ih =>
    rw [List.forall_mem_cons] at h
    obtain ⟨v, record, hv, hf, hr, hb⟩ := exists_ruleJson h.1 i
    obtain ⟨vs, records, hvs, hfs, hrs, hbs⟩ := ih h.2 (i + 1)
    refine ⟨v :: vs, record :: records, ?_, List.forall_mem_cons.2 ⟨hf, hfs⟩, fun j => ?_,
      fun j => ?_⟩
    · rw [ruleJsonFrom, hv, hvs]
      rfl
    · rw [itemsFrom, hr, hrs]
      rfl
    · rw [buildFrom, hb, hbs]
      rfl

end Rules

end Source

end LatexSnippets
