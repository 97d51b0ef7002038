import LatexSnippets.Rule.Firing
import LatexSnippets.Proofs.Fields
import LatexSnippets.Proofs.Pattern.Search
import LatexSnippets.Proofs.Template.Placeholder

/-!
What a fired rule leaves behind: the text before its trigger, the expansion of its template and the
text after the caret.
-/

namespace LatexSnippets

namespace Rule

theorem hit_pattern {r : Rule} {source flags before : Text} {h : Hit}
    (hr : r.trigger = .pattern source flags) (hh : r.hit before = .ok (some h)) :
    ∃ p m, Trigger.compile source flags = .ok p ∧ p.search before = some m ∧ m.start ≠ m.stop ∧
      h = ⟨m.start, capturesFor m r.template⟩ := by
  rw [hit, hr] at hh
  cases hp : Trigger.compile source flags with
  | error e =>
    simp only [hp] at hh
    split at hh <;> simp at hh
  | ok p =>
    simp only [hp, Except.ok.injEq, patternHit?] at hh
    split at hh
    · contradiction
    · next m hm =>
      split at hh
      · contradiction
      · next hne => exact ⟨p, m, rfl, hm, hne, (Option.some.inj hh).symm⟩

theorem hit_of_search {r : Rule} {source flags before : Text} {p : Pattern.Compiled}
    {m : Pattern.Match} (hr : r.trigger = .pattern source flags)
    (hp : Trigger.compile source flags = .ok p) (hm : p.search before = some m)
    (hne : m.start ≠ m.stop) :
    r.hit before = .ok (some ⟨m.start, capturesFor m r.template⟩) := by
  simp only [hit, hr, hp, patternHit?, hm, if_neg hne]

/-- A trigger is never empty. -/
theorem start_hit {r : Rule} {before : Text} {h : Hit} (hh : r.hit before = .ok (some h)) :
    h.start < before.length := by
  cases hr : r.trigger with
  | literal t =>
    simp only [hit, hr, Except.ok.injEq, literalHit?] at hh
    split at hh
    · contradiction
    · next ht =>
      obtain ⟨hne, hs⟩ : t ≠ [] ∧ t <:+ before := by simpa using ht
      split at hh
      · contradiction
      · obtain rfl := Option.some.inj hh
        have := List.length_pos_iff.2 hne
        have := hs.length_le
        simp only
        omega
  | pattern source flags =>
    obtain ⟨p, m, -, hm, hne, rfl⟩ := hit_pattern hr hh
    obtain ⟨x, y, rfl, hx, hy⟩ := Pattern.Compiled.text_eq_of_search hm
    simp only [hx, hy, List.length_append] at hne ⊢
    omega

end Rule

theorem hit_of_firstHit {before : Text} {rs : List Ranked} {r : Ranked} {h : Hit}
    (hr : firstHit before rs = .ok (some (r, h))) : r ∈ rs ∧ r.rule.hit before = .ok (some h) := by
  induction rs with
  | nil => simp [firstHit] at hr
  | cons a rs ih =>
    rw [firstHit] at hr
    cases ha : a.rule.hit before with
    | error e => simp [ha, bind, Except.bind] at hr
    | ok o =>
      cases o with
      | none =>
        simp only [ha, bind, Except.bind] at hr
        exact ⟨List.mem_cons_of_mem a (ih hr).1, (ih hr).2⟩
      | some h' =>
        simp only [ha, bind, Except.bind, pure, Except.pure, Except.ok.injEq, Option.some.injEq,
          Prod.mk.injEq] at hr
        obtain ⟨rfl, rfl⟩ := hr
        exact ⟨List.mem_cons_self, ha⟩

/-- What a rule gives whose trigger ends at the caret. -/
def Ranked.GivesAt (t : Text) (caret : Int) (r : Ranked) (f : Fired) : Prop :=
  ∃ h x, r.rule.hit (t.upTo caret) = .ok (some h) ∧
    r.rule.template.compile h.captures [] = .ok x ∧
    f = .ofExpansion (t.upTo caret) (t.onward caret) caret r h.start x

theorem Ranked.GivesAt.rule {t : Text} {caret : Int} {r : Ranked} {f : Fired}
    (h : r.GivesAt t caret f) : f.rule = r := by
  obtain ⟨_, _, -, -, rfl⟩ := h
  rfl

theorem exists_of_fire {t : Text} {caret : Int} {rules : List Rule} {forceMath auto manual : Bool}
    {f : Fired} (h : fire t caret rules forceMath auto manual = .ok (some f)) :
    ∃ hit x, firstHit (t.upTo caret)
        (Ranked.rank rules ⟨forceMath || Latex.insideMath t caret, auto, manual⟩) =
          .ok (some (f.rule, hit)) ∧
      f.rule.rule.template.compile hit.captures [] = .ok x ∧
      f = .ofExpansion (t.upTo caret) (t.onward caret) caret f.rule hit.start x := by
  unfold fire at h
  simp only [bind, Except.bind, pure, Except.pure] at h
  split at h
  · contradiction
  · split at h
    · simp at h
    · next o r hit _ =>
      split at h
      · contradiction
      · next x hx =>
        simp only [Except.ok.injEq, Option.some.injEq] at h
        exact h ▸ ⟨hit, x, ‹_›, hx, rfl⟩

theorem givesAt_of_fire {t : Text} {caret : Int} {rules : List Rule} {forceMath auto manual : Bool}
    {f : Fired} (h : fire t caret rules forceMath auto manual = .ok (some f)) :
    f.rule.GivesAt t caret f := by
  obtain ⟨hit, x, hh, hx, hf⟩ := exists_of_fire h
  exact ⟨hit, x, (hit_of_firstHit hh).2, hx, hf⟩

/-- A fired rule put the expansion of a template in place of what lies between the start of its
trigger and the caret. -/
theorem fire_eq_some {t : Text} {caret : Int} {rules : List Rule} {forceMath auto manual : Bool}
    {f : Fired} (h : fire t caret rules forceMath auto manual = .ok (some f)) :
    ∃ (r : Ranked) (k : Nat) (raw : Text), k ≤ (t.upTo caret).length ∧
      f = .ofExpansion (t.upTo caret) (t.onward caret) caret r k (.ofText raw) := by
  obtain ⟨hit, x, hh, hx, hf⟩ := givesAt_of_fire h
  obtain ⟨raw, -, rfl⟩ := Template.compile_eq_ok.1 hx
  exact ⟨f.rule, hit.start, raw, (Rule.start_hit hh).le, hf⟩

theorem Ranked.rank_singleton (r : Rule) (s : Situation) :
    rank [r] s = if r.isEligible s then [⟨r, 0⟩] else [] := by
  cases h : r.isEligible s <;> simp [rank, all, h]

/-- A rule that waits to be asked for does not fire while typing. -/
theorem fire_auto_manual {r : Rule} (h : Rule.autoFire r.options = false) (t : Text) (caret : Int)
    (forceMath : Bool) : fire t caret [r] forceMath true false = .ok none := by
  simp only [fire, Ranked.rank_singleton, Rule.isEligible, h]
  rfl

theorem fire_singleton {r : Rule} {t : Text} {caret : Int} {forceMath auto manual : Bool}
    {hit : Hit} {x : Expansion}
    (he : r.isEligible ⟨forceMath || Latex.insideMath t caret, auto, manual⟩ = true)
    (hh : r.hit (t.upTo caret) = .ok (some hit))
    (hx : r.template.compile hit.captures [] = .ok x) :
    fire t caret [r] forceMath auto manual =
      .ok (some (.ofExpansion (t.upTo caret) (t.onward caret) caret ⟨r, 0⟩ hit.start x)) := by
  simp only [fire, Ranked.rank_singleton, he, if_true, firstHit, hh, bind, Except.bind, pure,
    Except.pure, hx]

theorem fire_literal (before after : Text) (priority : Int) (description : Text)
    {trigger raw : Text} (ht : trigger ≠ []) (hv : Placeholder.usesVisual raw = false)
    (hs : Placeholder.substitute raw [] [] = .ok raw) (forceMath : Bool) :
    ∃ f, fire (before ++ trigger ++ after) (before.length + trigger.length)
        [⟨.literal trigger, .text raw, [], priority, description⟩] forceMath false true =
          .ok (some f) ∧
      f.text = before ++ (Expansion.ofText raw).text ++ after ∧
      f.selection = (Expansion.ofText raw).entry.shift before.length ∧
      f.fields = (Expansion.ofText raw).remaining.map (·.shift before.length) := by
  have hu : (before ++ trigger ++ after).upTo (before.length + trigger.length) =
      before ++ trigger := by
    rw [← Int.natCast_add, ← List.length_append, Text.upTo_left]
  have ho : (before ++ trigger ++ after).onward (before.length + trigger.length) = after := by
    rw [← Int.natCast_add, ← List.length_append, Text.onward_left]
  have hh : Rule.hit ⟨.literal trigger, .text raw, [], priority, description⟩
      ((before ++ trigger ++ after).upTo (before.length + trigger.length)) =
        .ok (some ⟨before.length, []⟩) := by
    rw [hu]
    simp [Rule.hit, Rule.literalHit?, ht, Rule.wordBoundary]
  have he : ∀ m, Rule.isEligible ⟨.literal trigger, .text raw, [], priority, description⟩
      ⟨m, false, true⟩ = true := by
    simp [Rule.isEligible, Rule.autoFire, Rule.allowsMode, Rule.mathOnly, Rule.textOnly,
      Rule.usesVisual, Template.usesVisual, hv]
  have hc : (Template.text raw).compile [] [] = .ok (.ofText raw) := by
    rw [Template.compile, Template.render, hs]
    rfl
  refine ⟨_, fire_singleton (he _) hh hc, ?_, rfl, rfl⟩
  rw [Fired.ofExpansion, hu, ho, List.take_left]

/-- What a rule that fired in `t` put in place of its trigger. -/
def Fired.put (f : Fired) (t : Text) : Text :=
  f.text.slice f.start (f.text.length - (t.length - f.stop))

/-- The trigger ends at the caret, and nothing but the trigger is replaced. -/
theorem Fired.text_eq_splice {t : Text} {caret : Int} {rules : List Rule}
    {forceMath auto manual : Bool} {f : Fired}
    (h : fire t caret rules forceMath auto manual = .ok (some f)) (h₀ : 0 ≤ caret)
    (hc : caret ≤ t.length) :
    f.stop = caret ∧ 0 ≤ f.start ∧ f.start ≤ caret ∧
      f.text = t.splice f.start caret (f.put t) := by
  obtain ⟨r, k, raw, hk, rfl⟩ := fire_eq_some h
  have hp := Text.place_eq h₀ hc
  rw [Text.length_upTo] at hk
  refine ⟨rfl, ?_, ?_, ?_⟩
  · simp only [ofExpansion]
    omega
  · simp only [ofExpansion]
    omega
  · have hu : (t.upTo caret).take k = t.upTo k := by
      rw [Text.upTo, Text.upTo, List.take_take]
      have := Text.place_eq (n := t.length) (i := k) (by omega) (by omega)
      congr 1
      omega
    have ht : (ofExpansion (t.upTo caret) (t.onward caret) caret r k (.ofText raw)).text =
        t.splice k caret (Expansion.ofText raw).text := by
      simp only [ofExpansion, hu, Text.splice]
    rw [put, ht]
    exact congrArg (t.splice k caret) (Text.slice_splice (by omega) (by omega) hc).symm

theorem Fired.proper_fields {t : Text} {caret : Int} {rules : List Rule}
    {forceMath auto manual : Bool} {f : Fired}
    (h : fire t caret rules forceMath auto manual = .ok (some f)) :
    ∀ s ∈ f.fields, s.Proper := by
  obtain ⟨r, k, raw, -, rfl⟩ := fire_eq_some h
  intro s hs
  obtain ⟨s, hx, rfl⟩ := List.mem_map.1 hs
  have hp := ((Expansion.within_ofText raw).2 s hx).proper
  have := hp.1
  exact hp.shift (by omega)

end LatexSnippets
