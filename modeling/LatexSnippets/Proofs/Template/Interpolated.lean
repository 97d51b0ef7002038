import LatexSnippets.Proofs.Template.Outline
import LatexSnippets.Template.Basic

/-!
The values of expressions are escaped, so that the fields are those that the template itself writes,
unless an expression stands in the midst of field syntax.
-/

namespace LatexSnippets

open Template

/-- The value of an expression can be any text, escaped. -/
def Segment.item : Segment → Outline.Item
  | .char c => .char c
  | .expr _ => .gap true false

namespace Interpolated

/-- The numbers of the fields that a template itself writes. There is no answer where an expression
stands in the midst of field syntax. -/
def ids? (i : Interpolated) : Option (List Nat) := Outline.ids? (i.segments.map Segment.item)

theorem exists_part {cs : Captures} {s : Segment} {t : Text} (h : renderSegment cs s = .ok t) :
    ∃ p : Part, p.item = s.item ∧ p.written = t := by
  cases s with
  | char c =>
    cases h
    exact ⟨.char c, rfl, rfl⟩
  | expr e =>
    simp only [renderSegment, bind, Except.bind, pure, Except.pure] at h
    split at h
    · contradiction
    · split at h
      · contradiction
      · next w _ =>
        cases h
        exact ⟨.value (.escaped w), rfl, rfl⟩

theorem exists_parts {cs : Captures} {ss : List Segment} {ts : List Text}
    (h : ss.mapM (renderSegment cs) = .ok ts) :
    ∃ ps : List Part, ps.map Part.item = ss.map Segment.item ∧ Part.write ps = ts.flatten := by
  induction ss generalizing ts with
  | nil =>
    cases h
    exact ⟨[], rfl, rfl⟩
  | cons s ss ih =>
    simp only [List.mapM_cons, bind, Except.bind, pure, Except.pure] at h
    split at h
    · contradiction
    · next t ht =>
      split at h
      · contradiction
      · next ts hts =>
        cases h
        obtain ⟨p, hp, hw⟩ := exists_part ht
        obtain ⟨ps, hps, hws⟩ := ih hts
        refine ⟨p :: ps, by rw [List.map_cons, List.map_cons, hp, hps], ?_⟩
        rw [List.flatten_cons, ← hw, ← hws]
        rfl

theorem render_eq_ok {i : Interpolated} {cs : Captures} {t : Text} (h : i.render cs = .ok t) :
    ∃ ps : List Part, ps.map Part.item = i.segments.map Segment.item ∧ Part.write ps = t := by
  simp only [render, bind, Except.bind] at h
  split at h
  · contradiction
  · next ts hts =>
    rw [Expr.checked] at h
    split at h
    · contradiction
    · cases h
      exact exists_parts hts

end Interpolated

/-- Whatever the expressions of a template yield, its fields are those that it writes itself. -/
theorem interpolated_values_define_no_fields {i : Interpolated} {ids : List Nat}
    {cs cs' : Captures} {t t' visual visual' : Text} (hi : i.ids? = some ids)
    (h : i.render cs = .ok t) (h' : i.render cs' = .ok t') :
    ∃ x x', (Template.interpolated i).compile cs visual = .ok x ∧
      (Template.interpolated i).compile cs' visual' = .ok x' ∧ x.fields.ids = x'.fields.ids ∧
      ∀ j : Int, j ∈ x.fields.ids ↔ ∃ d ∈ ids, (d : Int) = j := by
  obtain ⟨ps, hps, rfl⟩ := Interpolated.render_eq_ok h
  obtain ⟨qs, hqs, rfl⟩ := Interpolated.render_eq_ok h'
  have hs := Outline.shows hi hps
  have hs' := Outline.shows hi hqs
  refine ⟨.ofText (Part.write ps), .ofText (Part.write qs), ?_, ?_, hs.ids_eq hs',
    fun j => hs.mem_ids⟩
  · rw [compile, render, h]
    rfl
  · rw [compile, render, h']
    rfl

/-- Values that look like fields or close a default, after a stop, in a default and after an escaped
backslash. -/
theorem interpolated_values_define_no_fields_lookalike :
    let source : Text :=
      "$2\x7b\x7b [[0]] \x7d\x7d$\x7b1:\x7b\x7b [[0]] \x7d\x7d\x7d\\\\\x7b\x7b [[0]] \x7d\x7d"
    let value : Segment := .expr (.capture 0)
    let i : Interpolated := ⟨source, [.char '$', .char '2', value, .char '$', .char '\x7b',
      .char '1', .char ':', value, .char '\x7d', .char '\\', .char '\\', value]⟩
    ∃ x x', Interpolated.compile source = .ok i ∧
      (Template.interpolated i).compile [some ['$', '3', '\x7d']] [] = .ok x ∧
      (Template.interpolated i).compile [some ['\\']] [] = .ok x' ∧
      x.fields.ids = x'.fields.ids := by
  intro source value i
  have hi : i.ids? = some [2, 1] := by decide +kernel
  have hc : Interpolated.compile source = .ok i := by decide +kernel
  have h : i.render [some ['$', '3', '\x7d']] =
      .ok "$2\\$3\\\x7d$\x7b1:\\$3\\\x7d\x7d\\\\\\$3\\\x7d".toList := by decide +kernel
  have h' : i.render [some ['\\']] = .ok "$2\\\\$\x7b1:\\\\\x7d\\\\\\\\".toList := by
    decide +kernel
  obtain ⟨x, x', hx, hx', he, -⟩ := interpolated_values_define_no_fields hi h h'
  exact ⟨x, x', hc, hx, hx', he⟩

/-- Directly after a dollar sign, a value that begins with a digit makes a field. -/
theorem interpolated_value_makes_field :
    ∃ i x x', Interpolated.compile "$\x7b\x7b [[0]] \x7d\x7d$" = .ok i ∧
      (i.render [some ['2', 'x']]).isOk ∧ (i.render [some ['x']]).isOk ∧
      (Template.interpolated i).compile [some ['2', 'x']] [] = .ok x ∧
      (Template.interpolated i).compile [some ['x']] [] = .ok x' ∧
      x.fields.ids ≠ x'.fields.ids := by
  refine ⟨⟨"$\x7b\x7b [[0]] \x7d\x7d$", [.char '$', .expr (.capture 0), .char '$']⟩,
    .ofText ['$', '2', 'x', '$'], .ofText ['$', 'x', '$'], ?_⟩
  decide +kernel

end LatexSnippets
