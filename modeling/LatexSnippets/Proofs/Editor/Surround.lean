import LatexSnippets.Proofs.Editor.Recording
import LatexSnippets.Proofs.Template.Substitution
import LatexSnippets.Rule.Table

/-!
Wrapping a selection. The rule that does it puts the selected text, escaped, into its template. The
text is kept and adds no field of its own, unless the template stops in the midst of field syntax
before it.
-/

namespace LatexSnippets

theorem Ranked.surrounds_of_surround? {key : Text} {rules : List Rule} {inMath : Bool} {r : Ranked}
    (h : surround? key rules inMath = some r) : r.rule.surrounds key inMath = true := by
  have hmem : ∀ s ∈ (all rules).filter (·.rule.surrounds key inMath),
      s.rule.surrounds key inMath = true := fun s hs => (List.mem_filter.1 hs).2
  unfold surround? at h
  split at h
  · contradiction
  · next first rest hf =>
    obtain rfl := Option.some.inj h
    rw [hf] at hmem
    refine List.foldlRecOn (motive := (·.rule.surrounds key inMath = true)) rest better
      (hmem first List.mem_cons_self) ?_
    intro best hb s hs
    unfold better
    split
    · exact hmem s (List.mem_cons_of_mem first hs)
    · exact hb

namespace Editor

variable {e : Editor} {k : KeyEvent} {c : Char} {r : Ranked}

theorem surround?_eq_some (hs : e.selection.isEmpty = false)
    (hr : Ranked.surround? [c] e.config.rules e.inMath = some r) :
    e.surround? c = some (match r.rule.template.compile [] (Piece.escape e.selected) with
      | .error x => ⟨e, .error (.numeral x)⟩
      | .ok x => ⟨e.applyExpansion e.selection.start e.selection.stop x, .ok true⟩) := by
  rw [surround?, if_neg (by simp [hs]), hr, selected]
  simp only
  split <;> simp [*]

theorem press_surround (hk : e.Types k c) (hp : e.pair? c = none)
    (hs : e.selection.isEmpty = false)
    (hr : Ranked.surround? [c] e.config.rules e.inMath = some r) :
    e.press k = match r.rule.template.compile [] (Piece.escape e.selected) with
      | .error x => ⟨e, .error (.numeral x)⟩
      | .ok x => ⟨e.applyExpansion e.selection.start e.selection.stop x, .ok true⟩ := by
  have ho : e.overtype? c = none := by simp [overtype?, hs]
  simp only [hk.press, type, hp, ho, surround?_eq_some hs hr]

/-- Wrapped by a rule whose template does not stop in the midst of field syntax before it, a
selected text is kept, and the fields are the same for every text. -/
theorem surrounding_keeps_selection {t : Text} {ids : List Nat} (hk : e.Types k c)
    (hp : e.pair? c = none) (hs : e.selection.isEmpty = false)
    (hr : Ranked.surround? [c] e.config.rules e.inMath = some r)
    (ht : r.rule.template = .text t) (hi : Placeholder.idsAroundSelection? t = some ids)
    (ha : (e.press k).answer = .ok true) :
    ∃ x, r.rule.template.compile [] (Piece.escape e.selected) = .ok x ∧
      (e.press k).editor.text = e.text.splice e.selection.start e.selection.stop x.text ∧
      e.selected <:+: x.text ∧
      ∀ v, ∃ y, r.rule.template.compile [] (Piece.escape v) = .ok y ∧ v <:+: y.text ∧
        y.fields.ids = x.fields.ids := by
  have hu : Placeholder.usesVisual t = true := by
    have := Ranked.surrounds_of_surround? hr
    simp only [Rule.surrounds, Rule.usesVisual, ht, Template.usesVisual, Bool.and_eq_true] at this
    exact this.1.1
  rw [press_surround hk hp hs hr] at ha ⊢
  rw [ht] at ha ⊢
  cases hx : (Template.text t).compile [] (Piece.escape e.selected) with
  | error x => simp [hx] at ha
  | ok x =>
    obtain ⟨hkept, hids⟩ := Placeholder.selection_shown hi hu hx
    refine ⟨x, rfl, ?_, hkept, ?_⟩
    · simp only [applyExpansion]
      split <;> rfl
    · intro v
      obtain ⟨y, hy⟩ := Template.exists_compile_text.2 (Template.exists_compile_text.1 ⟨x, hx⟩)
      obtain ⟨hkept', hids'⟩ := Placeholder.selection_shown hi hu hy
      exact ⟨y, hy, hkept', Fields.ids_congr fun j => (hids' j).trans (hids j).symm⟩

example : RuleTable.wrappers.all fun r =>
    match r.template with
    | .text t => (Placeholder.idsAroundSelection? t).isSome
    | _ => false := by
  decide +kernel

/-- A selected text with an escape, field syntax and a brace, under a rule with a field. -/
theorem surrounding_keeps_selection_lookalike :
    let e := (ofText ⟨RuleTable.wrappers, .standard, true, "  ", " & "⟩ 1 0 "a\\$1\x7d" none).select
      ⟨1, 5⟩
    ∃ r x, Ranked.surround? ['U'] RuleTable.wrappers true = some r ∧
      r.rule.template.compile [] (Piece.escape e.selected) = .ok x ∧
      (e.press (.ofChar 'U')).editor.text = e.text.splice 1 5 x.text ∧ e.selected <:+: x.text ∧
      ∀ v, ∃ y, r.rule.template.compile [] (Piece.escape v) = .ok y ∧ v <:+: y.text ∧
        y.fields.ids = x.fields.ids := by
  intro e
  have hr : Ranked.surround? ['U'] RuleTable.wrappers true = some ⟨RuleTable.wrappers[1], 1⟩ := rfl
  have hi : (Placeholder.idsAroundSelection? "\\underbrace\x7b $\x7bVISUAL\x7d \x7d_\x7b $0 \x7d") =
      some [0] := by decide +kernel
  have hk : e.Types (.ofChar 'U') 'U' := ⟨by decide +kernel, by decide +kernel, by decide +kernel⟩
  obtain ⟨x, hx, hrest⟩ := surrounding_keeps_selection hk (by decide +kernel) (by decide +kernel)
    (r := ⟨RuleTable.wrappers[1], 1⟩) hr rfl hi (by decide +kernel)
  exact ⟨_, x, hr, hx, hrest⟩

/-- Directly after a dollar sign, a selected text that begins with a digit makes a field and loses
that digit. -/
theorem surrounding_takes_selection_as_field :
    let rule : Rule := ⟨.literal ['m'], .text "$$\x7bVISUAL\x7d$", [], 0, []⟩
    let e := (ofText ⟨[rule], .standard, false, "  ", " & "⟩ 1 0 "2x" none).select ⟨0, 2⟩
    ∃ x y, e.Types (.ofChar 'm') 'm' ∧ e.pair? 'm' = none ∧ e.selected = ['2', 'x'] ∧
      Ranked.surround? ['m'] [rule] e.inMath = some ⟨rule, 0⟩ ∧
      (e.press (.ofChar 'm')).answer = .ok true ∧
      (e.press (.ofChar 'm')).editor.text = ['x', '$'] ∧
      rule.template.compile [] (Piece.escape ['2', 'x']) = .ok x ∧ ¬['2', 'x'] <:+: x.text ∧
      rule.template.compile [] (Piece.escape ['x']) = .ok y ∧ y.fields.ids ≠ x.fields.ids := by
  intro rule e
  refine ⟨.ofText ['$', '2', 'x', '$'], .ofText ['$', 'x', '$'], ?_⟩
  refine ⟨⟨by decide +kernel, by decide +kernel, by decide +kernel⟩, by decide +kernel,
    by decide +kernel, rfl, ?_⟩
  decide +kernel

end Editor

end LatexSnippets
