import Mathlib.Data.Prod.Lex
import LatexSnippets.Proofs.Firing
import LatexSnippets.Proofs.Template.Placeholder

/-!
Which rule fires: of the eligible rules whose trigger ends at the caret, the greatest by priority,
length of a literal trigger and place in the list.
-/

namespace LatexSnippets

/-- No capture is asked for by a number too long to be read. -/
def Template.HasShortNumbers : Template → Prop
  | .text t => ∀ digits, digits.all Unicode.isDecimal = true →
      Placeholder.captureMark digits <:+: t → digits.length ≤ Numeral.maxDigits
  | _ => True

theorem Template.HasShortNumbers.compile {t : Template} (h : t.HasShortNumbers)
    (captures : Captures) (visual : Text) : ∃ x, t.compile captures visual = .ok x := by
  cases t with
  | text t =>
    refine Template.exists_compile_text.2 fun digits hd => ?_
    exact h digits (Placeholder.all_isDecimal_of_mem hd) (Placeholder.written_infix hd)
  | interpolated | host => exact ⟨_, rfl⟩

theorem Template.hasShortNumbers_of_not_mem {t : Text} (h : '[' ∉ t) :
    (Template.text t).HasShortNumbers := by
  intro digits _ hi
  exact absurd (hi.subset List.mem_cons_self) h

/-- A pattern can be searched for, or is malformed and passed over. -/
def Trigger.canBeTried : Trigger → Bool
  | .literal _ => true
  | .pattern source flags =>
    match compile source flags with
    | .ok _ => true
    | .error x => x.isMalformed

namespace Rule

theorem hit_eq_ok {r : Rule} (h : r.trigger.canBeTried = true) (before : Text) :
    ∃ o, r.hit before = .ok o := by
  unfold hit
  split
  · exact ⟨_, rfl⟩
  · next source flags ht =>
    rw [ht, Trigger.canBeTried] at h
    split
    · exact ⟨_, rfl⟩
    · next x hx =>
      rw [hx] at h
      rw [if_pos h]
      exact ⟨_, rfl⟩

/-- Whether the trigger ends the text before the caret. -/
def hits (r : Rule) (before : Text) : Bool :=
  match r.hit before with
  | .ok (some _) => true
  | _ => false

theorem hits_iff {r : Rule} {before : Text} :
    r.hits before = true ↔ ∃ h, r.hit before = .ok (some h) := by
  unfold hits
  split <;> simp_all

/-- What a rule is ranked by, its place apart. -/
def worth (r : Rule) : Int ×ₗ Nat := toLex (r.priority, r.trigger.length)

def fires (r : Rule) (s : Situation) (before : Text) : Bool := r.isEligible s && r.hits before

theorem isEligible_or (r : Rule) (inMath : Bool) :
    r.isEligible ⟨inMath, false, false⟩ =
      (r.isEligible ⟨inMath, true, false⟩ || r.isEligible ⟨inMath, false, true⟩) := by
  simp only [isEligible]
  cases autoFire r.options <;> simp

theorem fires_or (r : Rule) (inMath : Bool) (before : Text) :
    r.fires ⟨inMath, false, false⟩ before =
      (r.fires ⟨inMath, true, false⟩ before || r.fires ⟨inMath, false, true⟩ before) := by
  rw [fires, isEligible_or, Bool.and_or_distrib_right]
  rfl

end Rule

namespace Ranked

def key (r : Ranked) : Int ×ₗ Nat ×ₗ Nat :=
  toLex (r.rule.priority, toLex (r.rule.trigger.length, r.index))

theorem key_le_iff {a b : Ranked} :
    a.key ≤ b.key ↔ a.rule.worth < b.rule.worth ∨
      a.rule.worth = b.rule.worth ∧ a.index ≤ b.index := by
  simp only [key, Rule.worth, Prod.Lex.toLex_le_toLex, Prod.Lex.toLex_lt_toLex, toLex_inj,
    Prod.mk.injEq]
  omega

theorem precedes_iff {a b : Ranked} : a.precedes b = true ↔ b.key ≤ a.key := by
  simp only [precedes, key, Prod.Lex.toLex_le_toLex]
  split
  · rw [decide_eq_true_eq]
    omega
  · split
    · rw [decide_eq_true_eq]
      omega
    · rw [decide_eq_true_eq]
      omega

theorem pairwise_rank (rules : List Rule) (s : Situation) :
    (rank rules s).Pairwise fun a b => b.key ≤ a.key := by
  refine (List.pairwise_mergeSort ?_ ?_ _).imp precedes_iff.1
  · intro a b c hab hbc
    rw [precedes_iff] at *
    exact hbc.trans hab
  · intro a b
    simp only [Bool.or_eq_true, precedes_iff]
    exact le_total b.key a.key

theorem mem_rank {rules : List Rule} {s : Situation} {r : Ranked} :
    r ∈ rank rules s ↔ r ∈ all rules ∧ r.rule.isEligible s = true := by
  rw [rank, List.mem_mergeSort, List.mem_filter]

theorem mem_all {rules : List Rule} {r : Ranked} :
    r ∈ all rules ↔ rules[r.index]? = some r.rule := by
  rw [all, List.mem_map]
  constructor
  · rintro ⟨⟨x, i⟩, hx, rfl⟩
    exact List.mem_zipIdx_iff_getElem?.1 hx
  · intro h
    exact ⟨(r.rule, r.index), List.mem_zipIdx_iff_getElem?.2 h, rfl⟩

theorem rule_mem {rules : List Rule} {r : Ranked} (h : r ∈ all rules) : r.rule ∈ rules :=
  List.mem_of_getElem? (mem_all.1 h)

theorem eq_of_key {rules : List Rule} {a b : Ranked} (ha : a ∈ all rules) (hb : b ∈ all rules)
    (h : a.key = b.key) : a = b := by
  have hi : a.index = b.index := congrArg (fun k => (ofLex (ofLex k).2).2) h
  have hr := (mem_all.1 ha).symm.trans (hi ▸ mem_all.1 hb)
  cases a
  cases b
  simp_all

theorem map_rule_all (rules : List Rule) : (all rules).map rule = rules := by
  rw [all, List.map_map]
  exact List.zipIdx_map_fst 0 rules

theorem map_index_all (rules : List Rule) :
    (all rules).map index = List.range' 0 rules.length := by
  rw [all, List.map_map]
  exact List.zipIdx_map_snd 0 rules

theorem pairwise_all (rules : List Rule) : (all rules).Pairwise fun a b => a.index < b.index := by
  rw [← List.pairwise_map (f := index) (R := (· < ·)), map_index_all]
  exact List.pairwise_lt_range'

theorem exists_of_mem {rules : List Rule} {r : Rule} (h : r ∈ rules) :
    ∃ x ∈ all rules, x.rule = r := by
  rw [← map_rule_all rules] at h
  exact List.mem_map.1 h

end Ranked

open Ranked

/-- A rule of a list that fires, and none that fires ranks higher. -/
structure IsBest (rules : List Rule) (s : Situation) (before : Text) (r : Ranked) : Prop where
  mem : r ∈ all rules
  fires : r.rule.fires s before = true
  greatest : ∀ x ∈ all rules, x.rule.fires s before = true → x.key ≤ r.key

variable {rules : List Rule} {s : Situation} {before : Text}

theorem IsBest.unique {a b : Ranked} (ha : IsBest rules s before a) (hb : IsBest rules s before b) :
    a = b :=
  eq_of_key ha.mem hb.mem
    (le_antisymm (hb.greatest a ha.mem ha.fires) (ha.greatest b hb.mem hb.fires))

section Split

variable {inMath : Bool} {r : Ranked}

theorem IsBest.of_auto (h : IsBest rules ⟨inMath, true, false⟩ before r)
    (hm : ∀ x ∈ all rules, x.rule.fires ⟨inMath, false, true⟩ before = true → x.key ≤ r.key) :
    IsBest rules ⟨inMath, false, false⟩ before r where
  mem := h.mem
  fires := by rw [Rule.fires_or, h.fires, Bool.true_or]
  greatest := by
    intro x hx hf
    rw [Rule.fires_or, Bool.or_eq_true] at hf
    exact hf.elim (h.greatest x hx) (hm x hx)

theorem IsBest.of_manual (h : IsBest rules ⟨inMath, false, true⟩ before r)
    (ha : ∀ x ∈ all rules, x.rule.fires ⟨inMath, true, false⟩ before = true → x.key ≤ r.key) :
    IsBest rules ⟨inMath, false, false⟩ before r where
  mem := h.mem
  fires := by rw [Rule.fires_or, h.fires, Bool.or_true]
  greatest := by
    intro x hx hf
    rw [Rule.fires_or, Bool.or_eq_true] at hf
    exact hf.elim (ha x hx) (h.greatest x hx)

end Split

/-- A search down a ranked list stops at the best rule of those that hit. -/
theorem firstHit_cases {rs : List Ranked} (hok : ∀ r ∈ rs, ∃ o, r.rule.hit before = .ok o)
    (hs : rs.Pairwise fun a b => b.key ≤ a.key) :
    firstHit before rs = .ok none ∧ (∀ r ∈ rs, r.rule.hits before = false) ∨
      ∃ r h, firstHit before rs = .ok (some (r, h)) ∧ r ∈ rs ∧ r.rule.hit before = .ok (some h) ∧
        ∀ x ∈ rs, x.rule.hits before = true → x.key ≤ r.key := by
  induction rs with
  | nil => exact .inl ⟨rfl, by simp⟩
  | cons r rs ih =>
    obtain ⟨hr, hs⟩ := List.pairwise_cons.1 hs
    obtain ⟨o, ho⟩ := hok r List.mem_cons_self
    cases o with
    | some h =>
      right
      refine ⟨r, h, ?_, List.mem_cons_self, ho, ?_⟩
      · rw [firstHit, ho]
        rfl
      · intro x hx _
        rcases List.mem_cons.1 hx with rfl | hx
        · exact le_rfl
        · exact hr x hx
    | none =>
      have hn : r.rule.hits before = false := by simp [Rule.hits, ho]
      have hf : firstHit before (r :: rs) = firstHit before rs := by
        rw [firstHit, ho]
        rfl
      rw [hf]
      refine (ih (fun r hr => hok r (List.mem_cons_of_mem _ hr)) hs).imp ?_ ?_
      · rintro ⟨h₁, h₂⟩
        exact ⟨h₁, List.forall_mem_cons.2 ⟨hn, h₂⟩⟩
      · rintro ⟨x, h, h₁, h₂, h₃, h₄⟩
        refine ⟨x, h, h₁, List.mem_cons_of_mem r h₂, h₃, List.forall_mem_cons.2 ⟨?_, h₄⟩⟩
        intro ht
        simp [hn] at ht

theorem Ranked.GivesAt.unique {t : Text} {caret : Int} {r : Ranked} {f g : Fired}
    (hf : r.GivesAt t caret f) (hg : r.GivesAt t caret g) : f = g := by
  obtain ⟨h, x, h₁, h₂, rfl⟩ := hf
  obtain ⟨h', x', h₁', h₂', rfl⟩ := hg
  simp_all

section Fire

variable {t : Text} {caret : Int} {forceMath auto manual : Bool}

/-- Only rules that are tried can fail. -/
theorem fire_cases_of_eligible (t : Text) (caret : Int) (forceMath auto manual : Bool)
    (ht : ∀ r ∈ rules, r.isEligible s = true → r.template.HasShortNumbers)
    (hp : ∀ r ∈ rules, r.isEligible s = true → r.trigger.canBeTried = true)
    (hs : s = ⟨forceMath || Latex.insideMath t caret, auto, manual⟩) :
    fire t caret rules forceMath auto manual = .ok none ∧
        (∀ r ∈ rules, r.fires s (t.upTo caret) = false) ∨
      ∃ r f, fire t caret rules forceMath auto manual = .ok (some f) ∧
        IsBest rules s (t.upTo caret) r ∧ r.GivesAt t caret f := by
  subst hs
  have hok : ∀ r ∈ rank rules ⟨forceMath || Latex.insideMath t caret, auto, manual⟩,
      ∃ o, r.rule.hit (t.upTo caret) = .ok o := by
    intro r hr
    obtain ⟨hm, he⟩ := mem_rank.1 hr
    exact r.rule.hit_eq_ok (hp r.rule (rule_mem hm) he) _
  rcases firstHit_cases hok (pairwise_rank rules _) with ⟨h, hn⟩ | ⟨r, h, hf, hr, hh, hg⟩
  · left
    refine ⟨?_, ?_⟩
    · simp only [fire, h]
      rfl
    · intro r hr
      obtain ⟨x, hx, rfl⟩ := exists_of_mem hr
      cases he : x.rule.isEligible _ with
      | false => rw [Rule.fires, he, Bool.false_and]
      | true => rw [Rule.fires, hn x (mem_rank.2 ⟨hx, he⟩), Bool.and_false]
  · right
    rw [mem_rank] at hr
    obtain ⟨x, hx⟩ := (ht r.rule (rule_mem hr.1) hr.2).compile h.captures []
    refine ⟨r, _, ?_, ⟨hr.1, ?_, ?_⟩, h, x, hh, hx, rfl⟩
    · simp only [fire, hf, bind, Except.bind, hx]
      rfl
    · rw [Rule.fires, hr.2, Rule.hits_iff.2 ⟨h, hh⟩]
      rfl
    · intro y hy hfy
      rw [Rule.fires, Bool.and_eq_true] at hfy
      exact hg y (mem_rank.2 ⟨hy, hfy.1⟩) hfy.2

theorem fire_cases (t : Text) (caret : Int) (forceMath auto manual : Bool)
    (ht : ∀ r ∈ rules, r.template.HasShortNumbers)
    (hp : ∀ r ∈ rules, r.trigger.canBeTried = true)
    (hs : s = ⟨forceMath || Latex.insideMath t caret, auto, manual⟩) :
    fire t caret rules forceMath auto manual = .ok none ∧
        (∀ r ∈ rules, r.fires s (t.upTo caret) = false) ∨
      ∃ r f, fire t caret rules forceMath auto manual = .ok (some f) ∧
        IsBest rules s (t.upTo caret) r ∧ r.GivesAt t caret f :=
  fire_cases_of_eligible t caret forceMath auto manual (fun r hr _ => ht r hr)
    (fun r hr _ => hp r hr) hs

theorem fire_of_isBest (ht : ∀ r ∈ rules, r.template.HasShortNumbers)
    (hp : ∀ r ∈ rules, r.trigger.canBeTried = true)
    (hs : s = ⟨forceMath || Latex.insideMath t caret, auto, manual⟩) {r : Ranked} {f : Fired}
    (hb : IsBest rules s (t.upTo caret) r) (hf : r.GivesAt t caret f) :
    fire t caret rules forceMath auto manual = .ok (some f) := by
  rcases fire_cases t caret forceMath auto manual ht hp hs with ⟨-, hn⟩ | ⟨x, g, h, hx, hg⟩
  · exact absurd hb.fires (by simp [hn r.rule (rule_mem hb.mem)])
  · obtain rfl := hb.unique hx
    rw [h, hf.unique hg]

theorem fire_of_none (ht : ∀ r ∈ rules, r.template.HasShortNumbers)
    (hp : ∀ r ∈ rules, r.trigger.canBeTried = true)
    (hs : s = ⟨forceMath || Latex.insideMath t caret, auto, manual⟩)
    (hn : ∀ r ∈ rules, r.fires s (t.upTo caret) = false) :
    fire t caret rules forceMath auto manual = .ok none := by
  rcases fire_cases t caret forceMath auto manual ht hp hs with ⟨h, -⟩ | ⟨r, -, -, hb, -⟩
  · exact h
  · exact absurd hb.fires (by simp [hn r.rule (rule_mem hb.mem)])

/-- The better of two results. -/
def Fired.better (f g : Fired) : Fired := if g.rule.key ≤ f.rule.key then f else g

/-- With all rules allowed, the better of what the rules that fire while typing give and of what the
others give. -/
theorem fire_merge (ht : ∀ r ∈ rules, r.template.HasShortNumbers)
    (hp : ∀ r ∈ rules, r.trigger.canBeTried = true) :
    ∃ a m, fire t caret rules forceMath true false = .ok a ∧
      fire t caret rules forceMath false true = .ok m ∧
      fire t caret rules forceMath false false = .ok (a.merge Fired.better m) := by
  have ha := fire_cases t caret forceMath true false ht hp rfl
  have hm := fire_cases t caret forceMath false true ht hp rfl
  rcases ha with ⟨ha, na⟩ | ⟨a, f, ha, ba, fa⟩ <;> rcases hm with ⟨hm, nm⟩ | ⟨m, g, hm, bm, fm⟩
  · refine ⟨none, none, ha, hm, fire_of_none ht hp rfl ?_⟩
    intro r hr
    rw [Rule.fires_or, na r hr, nm r hr, Bool.or_false]
  · refine ⟨none, some g, ha, hm, fire_of_isBest ht hp rfl (bm.of_manual ?_) fm⟩
    intro x hx hf
    simp [na x.rule (rule_mem hx)] at hf
  · refine ⟨some f, none, ha, hm, fire_of_isBest ht hp rfl (ba.of_auto ?_) fa⟩
    intro x hx hf
    simp [nm x.rule (rule_mem hx)] at hf
  · refine ⟨some f, some g, ha, hm, ?_⟩
    rw [Option.merge, Fired.better, fa.rule, fm.rule]
    split
    · next h =>
      have hb := ba.of_auto fun x hx hf => (bm.greatest x hx hf).trans h
      exact fire_of_isBest ht hp rfl hb fa
    · next h =>
      have hb := bm.of_manual fun x hx hf => (ba.greatest x hx hf).trans (le_of_not_ge h)
      exact fire_of_isBest ht hp rfl hb fm

end Fire

namespace Rule

/-- The best of some rules: of those on a par, the last. -/
def best? : List Rule → Option Rule
  | [] => none
  | r :: rest =>
    match best? rest with
    | none => some r
    | some b => if b.worth < r.worth then some r else some b

theorem mem_of_best? {rs : List Rule} {b : Rule} (h : best? rs = some b) : b ∈ rs := by
  induction rs with
  | nil => contradiction
  | cons r rs ih =>
    rw [best?] at h
    split at h
    · exact Option.some.inj h ▸ List.mem_cons_self
    · next hb =>
      split at h
      · exact Option.some.inj h ▸ List.mem_cons_self
      · exact List.mem_cons_of_mem r (ih (hb.trans h))

theorem best?_map {rs : List Ranked} (hi : rs.Pairwise fun a b => a.index < b.index)
    {r : Ranked} (hr : r ∈ rs) (hg : ∀ x ∈ rs, x.key ≤ r.key) :
    best? (rs.map Ranked.rule) = some r.rule := by
  induction rs with
  | nil => simp at hr
  | cons a rs ih =>
    obtain ⟨ha, hi⟩ := List.pairwise_cons.1 hi
    rw [List.map_cons, best?]
    rcases List.mem_cons.1 hr with rfl | hr
    · split
      · rfl
      · next b hb =>
        obtain ⟨x, hx, rfl⟩ := List.mem_map.1 (mem_of_best? hb)
        have hlt : x.rule.worth < r.rule.worth := by
          rcases key_le_iff.1 (hg x (List.mem_cons_of_mem r hx)) with h | ⟨-, h⟩
          · exact h
          · exact absurd h (Nat.not_le.2 (ha x hx))
        rw [if_pos hlt]
    · rw [ih hi hr fun x hx => hg x (List.mem_cons_of_mem a hx)]
      have hle : ¬r.rule.worth < a.rule.worth := by
        rcases key_le_iff.1 (hg a List.mem_cons_self) with h | ⟨h, -⟩
        · exact not_lt_of_gt h
        · exact h ▸ lt_irrefl _
      simp only [if_neg hle]

end Rule

/-- The rule that fires is the best of those that fire, whatever stands between them. -/
theorem IsBest.best? {r : Ranked} (h : IsBest rules s before r) :
    Rule.best? (rules.filter (·.fires s before)) = some r.rule := by
  have hm : rules.filter (·.fires s before) =
      ((all rules).filter (·.rule.fires s before)).map Ranked.rule := by
    conv_lhs => rw [← map_rule_all rules, List.filter_map]
    rfl
  rw [hm]
  apply Rule.best?_map
  · exact (pairwise_all rules).filter _
  · exact List.mem_filter.2 ⟨h.mem, h.fires⟩
  · intro x hx
    obtain ⟨h₁, h₂⟩ := List.mem_filter.1 hx
    exact h.greatest x h₁ h₂

/-- What has fired, whatever the place of the rule in the list. -/
def Fired.unplaced (f : Fired) : Fired := { f with rule := ⟨f.rule.rule, 0⟩ }

theorem Ranked.GivesAt.unplaced {t : Text} {caret : Int} {r r' : Ranked} {f f' : Fired}
    (h : r.GivesAt t caret f) (h' : r'.GivesAt t caret f') (hr : r.rule = r'.rule) :
    f.unplaced = f'.unplaced := by
  obtain ⟨hit, x, h₁, h₂, rfl⟩ := h
  obtain ⟨hit', x', h₁', h₂', rfl⟩ := h'
  rw [← hr, h₁] at h₁'
  obtain rfl := Option.some.inj (Except.ok.inj h₁')
  rw [← hr, h₂] at h₂'
  obtain rfl := Except.ok.inj h₂'
  simp only [Fired.unplaced, Fired.ofExpansion, hr]

/-- Rules that do not fire make no difference. -/
theorem fire_congr {t : Text} {caret : Int} {forceMath auto manual : Bool} {rules' : List Rule}
    (ht : ∀ r ∈ rules, r.template.HasShortNumbers) (hp : ∀ r ∈ rules, r.trigger.canBeTried = true)
    (ht' : ∀ r ∈ rules', r.template.HasShortNumbers)
    (hp' : ∀ r ∈ rules', r.trigger.canBeTried = true)
    (hs : s = ⟨forceMath || Latex.insideMath t caret, auto, manual⟩)
    (h : rules'.filter (·.fires s (t.upTo caret)) = rules.filter (·.fires s (t.upTo caret))) :
    (fire t caret rules' forceMath auto manual).map (·.map Fired.unplaced) =
      (fire t caret rules forceMath auto manual).map (·.map Fired.unplaced) := by
  have none_of {rs : List Rule} (hn : ∀ r ∈ rs, r.fires s (t.upTo caret) = false) :
      Rule.best? (rs.filter (·.fires s (t.upTo caret))) = none := by
    rw [List.filter_eq_nil_iff.2 fun r hr => by simp [hn r hr]]
    rfl
  rcases fire_cases t caret forceMath auto manual ht hp hs with ⟨hf, hn⟩ | ⟨r, f, hf, hb, hg⟩ <;>
    rcases fire_cases t caret forceMath auto manual ht' hp' hs with
      ⟨hf', hn'⟩ | ⟨r', f', hf', hb', hg'⟩
  · rw [hf, hf']
  · have := hb'.best?
    rw [h, none_of hn] at this
    contradiction
  · have := hb.best?
    rw [← h, none_of hn'] at this
    contradiction
  · have hr : r'.rule = r.rule := by
      apply Option.some.inj
      rw [← hb'.best?, ← hb.best?, h]
    rw [hf, hf']
    simp only [Except.map, Option.map_some, hg'.unplaced hg hr]

/-- Unless a count in a pattern or the number of a capture is too large, the rule that fires is the
best of those that do, the rules for typing and the others can be tried apart, and rules that do not
fire make no difference. -/
theorem best_rule_fires (t : Text) (caret : Int) (forceMath : Bool) {rules : List Rule}
    (ht : ∀ r ∈ rules, r.template.HasShortNumbers)
    (hp : ∀ r ∈ rules, r.trigger.canBeTried = true) :
    let situation (auto manual : Bool) : Situation :=
      ⟨forceMath || Latex.insideMath t caret, auto, manual⟩
    (∀ auto manual, ∃ o, fire t caret rules forceMath auto manual = .ok o ∧
        (o = none ↔ ∀ r ∈ rules, r.fires (situation auto manual) (t.upTo caret) = false) ∧
        ∀ f ∈ o, IsBest rules (situation auto manual) (t.upTo caret) f.rule) ∧
      (∃ a m, fire t caret rules forceMath true false = .ok a ∧
        fire t caret rules forceMath false true = .ok m ∧
        fire t caret rules forceMath false false = .ok (a.merge Fired.better m)) ∧
      ∀ auto manual rules', (∀ r ∈ rules', r.template.HasShortNumbers) →
        (∀ r ∈ rules', r.trigger.canBeTried = true) →
        rules'.filter (·.fires (situation auto manual) (t.upTo caret)) =
          rules.filter (·.fires (situation auto manual) (t.upTo caret)) →
        (fire t caret rules' forceMath auto manual).map (·.map Fired.unplaced) =
          (fire t caret rules forceMath auto manual).map (·.map Fired.unplaced) := by
  intro situation
  refine ⟨?_, fire_merge ht hp, ?_⟩
  · intro auto manual
    rcases fire_cases _ _ _ _ _ ht hp rfl with ⟨h, hn⟩ | ⟨r, f, h, hb, hf⟩
    · exact ⟨none, h, iff_of_true rfl hn, by simp⟩
    · refine ⟨some f, h, iff_of_false (by simp) ?_, ?_⟩
      · intro hn
        exact absurd hb.fires (by simp [situation, hn r.rule (rule_mem hb.mem)])
      · intro g hg
        obtain rfl := Option.some.inj hg
        exact hf.rule ▸ hb
  · intro auto manual rules' ht' hp' h
    exact fire_congr ht hp ht' hp' rfl h

/-- A pattern with a group left open is passed over, and the longer of two triggers fires. -/
theorem best_rule_fires_longer :
    let rules : List Rule := [⟨.pattern "(" [], .text "x", [], 2, []⟩,
      ⟨.literal "ba", .text "y", ['A'], 0, []⟩, ⟨.literal "a", .text "z", [], 0, []⟩]
    ∃ f, fire "ba" 2 rules false false false = .ok (some f) ∧ f.rule.index = 1 := by
  intro rules
  have ht : ∀ r ∈ rules, r.template.HasShortNumbers := by
    simp only [rules, List.forall_mem_cons]
    refine ⟨?_, ?_, ?_, by simp⟩ <;> exact Template.hasShortNumbers_of_not_mem (by decide)
  obtain ⟨h, -, -⟩ := best_rule_fires "ba" 2 false ht (by decide +kernel)
  obtain ⟨o, ho, hn, hb⟩ := h false false
  cases o with
  | none => exact absurd (hn.1 rfl) (by decide +kernel)
  | some f =>
    obtain ⟨hm, hf, hg⟩ := hb f rfl
    refine ⟨f, ho, ?_⟩
    rw [mem_all] at hm
    match hi : f.rule.index with
    | 1 => rfl
    | 0 =>
      rw [hi] at hm
      rw [← Option.some.inj hm] at hf
      exact absurd hf (by decide +kernel)
    | 2 =>
      rw [hi] at hm
      have hk := key_le_iff.1 (hg ⟨⟨.literal "ba", .text "y", ['A'], 0, []⟩, 1⟩
        (mem_all.2 rfl) (by decide +kernel))
      rw [← Option.some.inj hm, hi] at hk
      exact absurd hk (by decide)
    | n + 3 =>
      rw [hi] at hm
      simp [rules] at hm

/-- A count that is too large keeps every rule from being tried, and none that fires is found. -/
theorem oversized_count_stops_firing :
    let r : Rule := ⟨.pattern "a\x7b4294967295\x7d" [], .text "x", [], 0, []⟩
    r.template.HasShortNumbers ∧ r.fires ⟨false, false, false⟩ "a" = false ∧
      fire "a" 1 [r] false false false ≠ .ok none := by
  refine ⟨Template.hasShortNumbers_of_not_mem (by decide), by decide +kernel, ?_⟩
  intro h
  have hn := congrArg Except.toBool h
  revert hn
  decide +kernel

end LatexSnippets
