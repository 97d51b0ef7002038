import LatexSnippets.Library
import LatexSnippets.Proofs.Source.Reloading
import LatexSnippets.Proofs.Store.Holding

/-!
The rules that a store keeps. Their patterns hold no variables, those of the built-in rules neither,
so that loading changes none of them: rules that were loaded are saved, and loaded as they were.
-/

namespace LatexSnippets

/-- A trigger whose pattern, if it has one, refers to no standard variable. -/
def Trigger.IsExpanded : Trigger → Prop
  | .literal _ => True
  | .pattern source _ => Variables.IsExpanded source

instance : DecidablePred Trigger.IsExpanded
  | .literal _ => .isTrue trivial
  | .pattern source _ => inferInstanceAs (Decidable (Variables.IsExpanded source))

theorem Trigger.Storable.isExpanded {t : Trigger} (h : t.Storable) : t.IsExpanded := by
  cases t with
  | literal t => trivial
  | pattern source flags => exact h.2

namespace RuleTable

@[simp] theorem isExpanded_pattern (source template options : String) :
    (pattern source template options).trigger.IsExpanded :=
  Variables.isExpanded_expandStandard _

@[simp] theorem isExpanded_computed (source template options : String) :
    (computed source template options).trigger.IsExpanded := by
  rw [computed]
  split <;> exact isExpanded_pattern source template options

theorem isExpanded_accents : ∀ r ∈ accents, r.trigger.IsExpanded := by
  simp only [accents, List.forall_mem_cons, isExpanded_pattern, true_and]
  decide +kernel

theorem isExpanded_backslashes : ∀ r ∈ backslashes, r.trigger.IsExpanded := by
  simp [backslashes]

theorem isExpanded_suffixes : ∀ r ∈ suffixes, r.trigger.IsExpanded := by
  simp [suffixes]

theorem isExpanded_others : ∀ r ∈ others, r.trigger.IsExpanded := by
  simp only [others, List.forall_mem_cons, isExpanded_computed, true_and]
  decide

/-- The patterns of the other rules are written out. -/
theorem isExpanded_all : ∀ r ∈ all, r.trigger.IsExpanded := by
  unfold all
  simp only [List.forall_mem_append]
  and_intros
  all_goals first
    | with_reducible exact isExpanded_accents
    | with_reducible exact isExpanded_backslashes
    | with_reducible exact isExpanded_suffixes
    | with_reducible exact isExpanded_others
    | decide +kernel

end RuleTable

namespace Library

variable {α : Type} {s s' : Store} {rules : List Rule} {source : Text}

theorem run_ofStore {x : StoreM α} {r : Except StoreError α} (h : x.run.run s = (r, s')) :
    (ofStore x).run.run s = (r.mapError .store, s') := by
  have hm := StateT.run_map (Except.mapError LibraryError.store) x.run s
  rw [h] at hm
  exact hm

/-- Rules are kept as a source that they are read from. -/
theorem run_keptRules? (h : (Store.value? rulesKey).run.run s = (.ok (some source), s')) :
    keptRules?.run.run s = (((Source.readRules source).mapError .rules).map some, s') := by
  rw [keptRules?, rulesSource?, run_bind_ok (run_ofStore h)]
  dsimp only
  cases Source.readRules source <;> rfl

theorem exists_of_keptRules? (h : keptRules?.run.run s = (.ok (some rules), s')) :
    ∃ source, (Store.value? rulesKey).run.run s = (.ok (some source), s') ∧
      Source.readRules source = .ok rules := by
  obtain ⟨r, s₁, hv⟩ : ∃ r s₁, (Store.value? rulesKey).run.run s = (r, s₁) := ⟨_, _, rfl⟩
  rcases r with e | _ | source
  · rw [keptRules?, rulesSource?, run_bind_error (run_ofStore hv)] at h
    exact nomatch h
  · rw [keptRules?, rulesSource?, run_bind_ok (run_ofStore hv)] at h
    exact nomatch h
  · rw [run_keptRules? hv] at h
    obtain ⟨hr, rfl⟩ := Prod.mk.inj h
    obtain ⟨rules', hr, he⟩ := map_eq_ok.1 hr
    exact ⟨source, hv, Option.some.inj he ▸ mapError_eq_ok.1 hr⟩

theorem run_saveRules {t : Text} (hw : Source.writeRules rules = .ok t)
    (hp : (Store.put rulesKey t).run.run s = (.ok (), s')) :
    (saveRules rules).run.run s = (.ok (), s') := by
  rw [saveRules, hw]
  exact run_ofStore hp

/-- Rules that were loaded are saved, and from then on loaded as they were. -/
theorem exists_saveRules (h : keptRules?.run.run s = (.ok (some rules), s')) :
    ∃ s'', (saveRules rules).run.run s' = (.ok (), s'') ∧
      keptRules?.run.run s'' = (.ok (some rules), s'') := by
  obtain ⟨source, hv, hr⟩ := exists_of_keptRules? h
  obtain ⟨rfl, entries, hs, -⟩ := Store.exists_holds_of_value? hv
  obtain ⟨t, hw, hr⟩ := Source.exists_writeRules_of_readRules hr
  obtain ⟨s'', hp, hs⟩ := hs.exists_put rulesKey t
  refine ⟨s'', run_saveRules hw hp, ?_⟩
  have hv := hs.value? rulesKey
  rw [Assoc.get?_put_self] at hv
  rw [run_keptRules? hv, hr]
  rfl

/-- No trigger of the rules in force, kept or built in, refers to a variable. -/
theorem isExpanded_of_rules (h : Library.rules.run.run s = (.ok rules, s')) :
    ∀ r ∈ rules, r.trigger.IsExpanded := by
  obtain ⟨r, s₁, hk⟩ : ∃ r s₁, keptRules?.run.run s = (r, s₁) := ⟨_, _, rfl⟩
  rcases r with e | _ | kept
  · rw [Library.rules, run_bind_error hk] at h
    exact nomatch h
  · rw [Library.rules, run_bind_ok hk] at h
    rw [← Except.ok.inj (Prod.mk.inj h).1]
    exact RuleTable.isExpanded_all
  · rw [Library.rules, run_bind_ok hk] at h
    obtain ⟨source, -, hr⟩ := exists_of_keptRules? hk
    rw [← Except.ok.inj (Prod.mk.inj h).1]
    exact fun r hm => (Source.storable_of_readRules hr r hm).trigger.isExpanded

/-- Expanding leaves no reference to a standard variable, so that expanding again changes nothing.
The patterns of the rules in force are left as they are, and rules that are kept come back with
theirs, however often they are loaded and saved. -/
theorem expansion_is_final :
    (∀ source : Text,
      ∀ w ∈ (["$\x7bGREEK\x7d", "$\x7bSYMBOL\x7d", "$\x7bMORE_SYMBOLS\x7d"] : List Text),
        ¬w <:+: Variables.expandStandard source) ∧
    (∀ source : Text, Variables.expandStandard (Variables.expandStandard source) =
      Variables.expandStandard source) ∧
    (∀ s s' rules, Library.rules.run.run s = (.ok rules, s') →
      ∀ r ∈ rules, ∀ source flags, r.trigger = .pattern source flags →
        Variables.expandStandard source = source) ∧
    ∀ s s' rules, keptRules?.run.run s = (.ok (some rules), s') →
      ∃ s'', (saveRules rules).run.run s' = (.ok (), s'') ∧
        keptRules?.run.run s'' = (.ok (some rules), s'') := by
  have he := Variables.isExpanded_expandStandard
  refine ⟨fun source w hw => ?_, fun source => Variables.expandStandard_of_isExpanded (he source),
    fun s s' rules h r hr source flags ht => ?_, fun s s' rules h => exists_saveRules h⟩
  · obtain ⟨v, hv, rfl⟩ : ∃ v ∈ Variables.standard, Variables.reference v.1 = w := List.mem_map.1 hw
    exact Text.contains_eq_false.1 (he source v hv)
  · have hx := isExpanded_of_rules h r hr
    rw [ht] at hx
    exact Variables.expandStandard_of_isExpanded hx

/-- A reference inside a reference: what is put in for the inner one does not complete the outer. -/
theorem expansion_is_final_nested :
    let source : Text := "[\x7b\"trigger\":\"($\x7bGRE$\x7bMORE_SYMBOLS\x7dEK\x7d)\"," ++
      "\"template\":\"x\",\"options\":\"r\"\x7d]"
    let pattern : Text := "($\x7bGREint|sum|prod|limEK\x7d)"
    let rules : List Rule := [⟨.pattern pattern [], .text "x", "r", 0, []⟩]
    let s := Store.memory [(rulesKey, source)]
    keptRules?.run.run s = (.ok (some rules), s) ∧ Library.rules.run.run s = (.ok rules, s) ∧
      Variables.expandStandard pattern = pattern ∧
      ∃ s', (saveRules rules).run.run s = (.ok (), s') ∧
        keptRules?.run.run s' = (.ok (some rules), s') := by
  intro source pattern rules s
  let nested : Text := "($\x7bGRE$\x7bMORE_SYMBOLS\x7dEK\x7d)"
  let record : Source.RuleRecord := ⟨.text nested, .text "x", "r", 0, []⟩
  have hx : Variables.expandStandard nested = pattern := by decide +kernel
  have ht : record.buildTrigger = .ok (.pattern pattern []) := by
    obtain ⟨p, hp⟩ := Option.isSome_iff_exists.1
      (show (Trigger.compile pattern []).toOption.isSome by decide +kernel)
    refine Source.buildPattern_eq_ok.2 ?_
    rw [hx]
    exact ⟨⟨p, toOption_eq_some.1 hp⟩, rfl⟩
  have hr : Source.readRules source = .ok rules := by
    have hs : Source.records Source.ruleRecord source = .ok [record] :=
      toOption_eq_some.1 (by decide +kernel)
    rw [Source.readRules, hs]
    simp only [Source.buildFrom, Source.RuleRecord.build, ht]
    rfl
  have hk : keptRules?.run.run s = (.ok (some rules), s) := by
    have hv : (Store.value? rulesKey).run.run s = (.ok (some source), s) := rfl
    rw [run_keptRules? hv, hr]
    rfl
  have hf : Library.rules.run.run s = (.ok rules, s) := run_bind_ok hk _
  obtain ⟨-, -, hp, hs⟩ := expansion_is_final
  exact ⟨hk, hf, hp s s rules hf _ List.mem_cons_self pattern [] rfl, hs s s rules hk⟩

end Library

end LatexSnippets
