import LatexSnippets.Proofs.Ranking
import LatexSnippets.Rule.Surround

/-!
Rules that fail. A pattern that does not compile counts as no rule at all, and a template that
cannot be computed as one that gives the mark of failure.
-/

namespace LatexSnippets

/-- The template with the mark of failure for what it cannot compute. -/
def Template.mended : Template → Template
  | .text t => .text t
  | .interpolated i => .host fun captures => some ((i.render captures).toOption.getD failure)
  | .host f => .host fun captures => some ((f captures).getD failure)

namespace Template

/-- Whether the template cannot be computed. -/
def fails (captures : Captures) : Template → Bool
  | .text _ => false
  | .interpolated i => (i.render captures).toOption.isNone
  | .host f => (f captures).isNone

theorem mended_fails (t : Template) (captures : Captures) : t.mended.fails captures = false := by
  cases t <;> rfl

theorem compile_mended (t : Template) (captures : Captures) (visual : Text) :
    t.mended.compile captures visual = t.compile captures visual := by
  cases t <;> rfl

theorem usesVisual_mended (t : Template) : t.mended.usesVisual = t.usesVisual := by
  cases t <;> rfl

theorem mended_of_usesVisual {t : Template} (h : t.usesVisual = true) : t.mended = t := by
  cases t with
  | text => rfl
  | interpolated | host => contradiction

theorem HasShortNumbers.mended {t : Template} (h : t.HasShortNumbers) :
    t.mended.HasShortNumbers := by
  cases t with
  | text => exact h
  | interpolated | host => trivial

end Template

/-- Whether the trigger can be searched for. -/
def Trigger.compiles : Trigger → Bool
  | .literal _ => true
  | .pattern source flags => (compile source flags).toBool

namespace Rule

/-- A rule in which no number is too large: its pattern is fit to be compiled or malformed, and its
template asks for captures by short numbers. -/
structure Tractable (r : Rule) : Prop where
  trigger : r.trigger.canBeTried = true
  template : r.template.HasShortNumbers

def mended (r : Rule) : Rule := { r with template := r.template.mended }

/-- The rules whose trigger compiles, with templates that do not fail. -/
def mend (rules : List Rule) : List Rule := (rules.filter (·.trigger.compiles)).map mended

variable {r : Rule} {rules : List Rule}

theorem Tractable.mended (h : r.Tractable) : r.mended.Tractable := ⟨h.trigger, h.template.mended⟩

theorem tractable_mend (h : ∀ r ∈ rules, r.Tractable) : ∀ r ∈ mend rules, r.Tractable := by
  intro r hr
  obtain ⟨r, hm, rfl⟩ := List.mem_map.1 hr
  exact (h r (List.mem_filter.1 hm).1).mended

theorem mend_never_fails : ∀ r ∈ mend rules, r.trigger.compiles = true ∧
    ∀ captures, r.template.fails captures = false := by
  intro r hr
  obtain ⟨r, hm, rfl⟩ := List.mem_map.1 hr
  exact ⟨(List.mem_filter.1 hm).2, r.template.mended_fails⟩

theorem capturesFor_mended (m : Pattern.Match) (t : Template) :
    capturesFor m t.mended = capturesFor m t := by
  cases t <;> rfl

theorem hit_mended (r : Rule) (before : Text) : r.mended.hit before = r.hit before := by
  simp only [hit, mended, patternHit?, capturesFor_mended]

theorem usesVisual_mended (r : Rule) : r.mended.usesVisual = r.usesVisual :=
  r.template.usesVisual_mended

theorem isEligible_mended (r : Rule) (s : Situation) : r.mended.isEligible s = r.isEligible s := by
  simp only [isEligible, usesVisual_mended]
  rfl

theorem fires_mended (r : Rule) (s : Situation) (before : Text) :
    r.mended.fires s before = r.fires s before := by
  simp only [fires, hits, isEligible_mended, hit_mended]

theorem worth_mended (r : Rule) : r.mended.worth = r.worth := rfl

theorem surrounds_mended (r : Rule) (key : Text) (inMath : Bool) :
    r.mended.surrounds key inMath = r.surrounds key inMath := by
  simp only [surrounds, usesVisual_mended]
  rfl

theorem compiles_of_hits {before : Text} (h : r.hits before = true) :
    r.trigger.compiles = true := by
  obtain ⟨hit, hh⟩ := hits_iff.1 h
  cases ht : r.trigger with
  | literal t => rfl
  | pattern source flags =>
    obtain ⟨p, -, hp, -⟩ := hit_pattern ht hh
    rw [Trigger.compiles, hp]
    rfl

theorem compiles_of_surrounds {key : Text} {inMath : Bool} (h : r.surrounds key inMath = true) :
    r.trigger.compiles = true := by
  simp only [surrounds, Bool.and_eq_true, decide_eq_true_eq] at h
  rw [h.1.2]
  rfl

/-- A property that mending keeps, and that no rule has whose trigger does not compile, picks the
same rules. -/
theorem filter_mend {p : Rule → Bool} (hm : ∀ r, p r.mended = p r)
    (hc : ∀ r, p r = true → r.trigger.compiles = true) (rules : List Rule) :
    (mend rules).filter p = (rules.filter p).map mended := by
  rw [mend, List.filter_map, List.filter_filter]
  congr 1
  refine List.filter_congr fun r _ => ?_
  rw [Function.comp_apply, hm]
  cases h : p r with
  | false => rfl
  | true => rw [hc r h, Bool.and_true]

theorem filter_fires_mend (rules : List Rule) (s : Situation) (before : Text) :
    (mend rules).filter (·.fires s before) = (rules.filter (·.fires s before)).map mended := by
  refine filter_mend (fun r => r.fires_mended s before) (fun r h => ?_) rules
  rw [fires, Bool.and_eq_true] at h
  exact compiles_of_hits h.2

theorem best?_map_mended (rules : List Rule) :
    best? (rules.map mended) = (best? rules).map mended := by
  induction rules with
  | nil => rfl
  | cons r rules ih =>
    rw [List.map_cons, best?, best?, ih]
    cases best? rules with
    | none => rfl
    | some b =>
      simp only [Option.map_some, worth_mended]
      rw [apply_ite (Option.map mended)]
      rfl

end Rule

open Rule Ranked

variable {rules : List Rule}

theorem Ranked.GivesAt.mended {t : Text} {caret : Int} {r r' : Ranked} {f f' : Fired}
    (h : r.GivesAt t caret f) (h' : r'.GivesAt t caret f') (hr : r'.rule = r.rule.mended) :
    f' = { f with rule := r' } := by
  obtain ⟨hit, x, h₁, h₂, rfl⟩ := h
  obtain ⟨hit', x', h₁', h₂', rfl⟩ := h'
  rw [hr, hit_mended, h₁] at h₁'
  obtain rfl := Option.some.inj (Except.ok.inj h₁')
  have hc : r.rule.mended.template.compile hit.captures [] = .ok x :=
    (r.rule.template.compile_mended ..).trans h₂
  rw [hr, hc] at h₂'
  obtain rfl := Except.ok.inj h₂'
  rfl

/-- What fires is the same with mended rules, the name of the rule apart. -/
theorem fire_mend (h : ∀ r ∈ rules, r.Tractable) (t : Text) (caret : Int)
    (forceMath auto manual : Bool) :
    fire t caret rules forceMath auto manual = .ok none ∧
        fire t caret (mend rules) forceMath auto manual = .ok none ∨
      ∃ f r, fire t caret rules forceMath auto manual = .ok (some f) ∧
        fire t caret (mend rules) forceMath auto manual = .ok (some { f with rule := r }) := by
  have h' := tractable_mend h
  have hb := best?_map_mended
    (rules.filter (·.fires ⟨forceMath || Latex.insideMath t caret, auto, manual⟩ (t.upTo caret)))
  rw [← filter_fires_mend] at hb
  rcases fire_cases t caret forceMath auto manual (fun r hr => (h r hr).template)
      (fun r hr => (h r hr).trigger) rfl with ⟨hf, hn⟩ | ⟨r, f, hf, hr, hg⟩ <;>
    rcases fire_cases t caret forceMath auto manual (fun r hr => (h' r hr).template)
      (fun r hr => (h' r hr).trigger) rfl with ⟨hf', hn'⟩ | ⟨r', f', hf', hr', hg'⟩
  · exact .inl ⟨hf, hf'⟩
  · rw [hr'.best?, List.filter_eq_nil_iff.2 fun r hr => by simp [hn r hr]] at hb
    contradiction
  · rw [hr.best?, List.filter_eq_nil_iff.2 fun r hr => by simp [hn' r hr]] at hb
    contradiction
  · rw [hr.best?, hr'.best?] at hb
    obtain rfl := hg.mended hg' (Option.some.inj hb)
    exact .inr ⟨f, r', hf, hf'⟩

/-- The rule that wraps a selection, its place apart. -/
def Rule.wrapper? : List Rule → Option Rule
  | [] => none
  | r :: rest =>
    some (rest.foldl (fun best r => if best.priority ≤ r.priority then r else best) r)

theorem Rule.mem_of_wrapper? {r : Rule} (h : wrapper? rules = some r) : r ∈ rules := by
  cases rules with
  | nil => contradiction
  | cons first rest =>
    obtain rfl := Option.some.inj h
    refine List.foldlRecOn (motive := (· ∈ first :: rest)) rest _ List.mem_cons_self ?_
    intro best hb r hr
    split
    · exact List.mem_cons_of_mem first hr
    · exact hb

theorem Ranked.map_rule_surround? (key : Text) (rules : List Rule) (inMath : Bool) :
    (surround? key rules inMath).map rule = wrapper? (rules.filter (·.surrounds key inMath)) := by
  have hm : rules.filter (·.surrounds key inMath) =
      ((all rules).filter (·.rule.surrounds key inMath)).map rule := by
    conv_lhs => rw [← map_rule_all rules, List.filter_map]
    rfl
  rw [hm, surround?]
  cases (all rules).filter (·.rule.surrounds key inMath) with
  | nil => rfl
  | cons r rest =>
    simp only [Option.map_some, List.map_cons, wrapper?, List.foldl_map]
    refine congrArg some (List.foldl_hom rule fun best r => ?_).symm
    rw [better, apply_ite rule]

theorem Ranked.mem_of_surround? {key : Text} {inMath : Bool} {r : Ranked}
    (h : surround? key rules inMath = some r) : r.rule ∈ rules := by
  have hw := map_rule_surround? key rules inMath
  rw [h, Option.map_some] at hw
  exact (List.mem_filter.1 (mem_of_wrapper? hw.symm)).1

/-- The rule that wraps a selection is the same with mended rules. -/
theorem Ranked.surround?_mend (key : Text) (rules : List Rule) (inMath : Bool) :
    (surround? key (mend rules) inMath).map rule = (surround? key rules inMath).map rule := by
  have hm : (rules.filter (·.surrounds key inMath)).map mended =
      rules.filter (·.surrounds key inMath) := by
    refine (List.map_congr_left fun r hr => ?_).trans (List.map_id _)
    have hs := (List.mem_filter.1 hr).2
    simp only [surrounds, Bool.and_eq_true] at hs
    rw [mended, Template.mended_of_usesVisual hs.1.1]
    rfl
  rw [map_rule_surround?, map_rule_surround?,
    filter_mend (fun r => r.surrounds_mended key inMath) fun r => compiles_of_surrounds, hm]

/-- Two lists of rules that fire and wrap without failing, and alike, the names of the rules apart.
-/
structure Rule.Alike (rules rules' : List Rule) : Prop where
  fire (t : Text) (caret : Int) (forceMath auto manual : Bool) :
    fire t caret rules forceMath auto manual = .ok none ∧
        fire t caret rules' forceMath auto manual = .ok none ∨
      ∃ f r, fire t caret rules forceMath auto manual = .ok (some f) ∧
        fire t caret rules' forceMath auto manual = .ok (some { f with rule := r })
  wrap (key : Text) (inMath : Bool) :
    Option.Rel (fun r r' => ∀ visual, ∃ x,
        r.rule.template.compile [] visual = .ok x ∧ r'.rule.template.compile [] visual = .ok x)
      (surround? key rules inMath) (surround? key rules' inMath)

theorem Rule.alike_mend (h : ∀ r ∈ rules, r.Tractable) : Alike rules (mend rules) where
  fire := fire_mend h
  wrap key inMath := by
    have hm := surround?_mend key rules inMath
    cases hs : surround? key rules inMath with
    | none =>
      rw [hs, Option.map_none, Option.map_eq_none_iff] at hm
      rw [hm]
      exact .none
    | some r =>
      rw [hs, Option.map_some, Option.map_eq_some_iff] at hm
      obtain ⟨r', hs', hr⟩ := hm
      rw [hs']
      refine .some fun visual => ?_
      obtain ⟨x, hx⟩ := (h r.rule (mem_of_surround? hs)).template.compile [] visual
      exact ⟨x, hx, hr ▸ hx⟩

end LatexSnippets
