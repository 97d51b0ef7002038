import LatexSnippets.Proofs.Editor.Stops

/-!
Where the pending stops are after an edit that keeps them and is clear of them.
-/

namespace LatexSnippets.Editor

open Replacement

variable {e e' : Editor} {q : FieldQueue} {r : Replacement}

/-- One part of the text is replaced, and each stop that is clear of it stays with the text around
it, in the order that the stops had. -/
theorem stops_follow_replacement (he : e.Reachable) (h : e.Replaces q r e') :
    (0 ≤ r.start ∧ r.start ≤ r.stop ∧ r.stop ≤ e.text.length) ∧
      e'.text = e.text.upTo r.start ++ r.word ++ e.text.onward r.stop ∧
      (q = e.fields ∨ q = e.fields.skipConsumed e.selection.start) ∧
      ∃ f, e'.fields = q.filterMap f ∧ ∀ s ∈ q,
        (r.stop ≤ s.start → f s = some (s.shift (r.word.length - (r.stop - r.start)))) ∧
        (s.start < r.start → s.stop ≤ r.start → f s = some s) := by
  obtain ⟨hin, ht, hf⟩ := h.made he.sound
  have hij := Int.le_trans hin.start_le_pivot hin.pivot_le_stop
  refine ⟨⟨hin.start_nonneg, hij, hin.stop_le⟩, ht, ?_, r.carry, hf, ?_⟩
  · cases h with
    | separator | indent | tabExpanded => exact .inr rfl
    | _ => exact .inl rfl
  · intro s _
    refine ⟨carry_beyond hin, ?_⟩
    intro ha _
    exact carry_before (Int.lt_of_lt_of_le ha hin.start_le_pivot)

/-- The text `ab` with the caret behind it, and one stop before and one stop behind the `b`. -/
def betweenStops : Editor := (withRule "t" "a$2b$1" "t").perform .nextField

theorem reachable_betweenStops : betweenStops.Reachable :=
  (reachable_withRule ..).step 0 .nextField

theorem betweenStops_fields : betweenStops.fields = [⟨1, 1⟩, ⟨2, 2⟩] := by decide +kernel

theorem betweenStops_newline :
    betweenStops.Replaces betweenStops.fields (.plain 2 2 ['\n']) betweenStops.newline.1 := by
  have h : betweenStops.overSelection betweenStops.lineBreak = .plain 2 2 ['\n'] := by
    decide +kernel
  rw [← h]
  exact .newline

theorem stops_follow_newline : betweenStops.Reachable ∧
    betweenStops.Replaces betweenStops.fields (.plain 2 2 ['\n']) betweenStops.newline.1 ∧
      betweenStops.newline.1.fields = [⟨1, 1⟩, ⟨3, 3⟩] := by
  obtain ⟨-, -, -, f, hf, hs⟩ :=
    stops_follow_replacement reachable_betweenStops betweenStops_newline
  rw [betweenStops_fields] at hf hs
  have h₁ : f ⟨1, 1⟩ = some ⟨1, 1⟩ := (hs _ (by simp)).2 (by decide) (by decide)
  have h₂ : f ⟨2, 2⟩ = some ⟨3, 3⟩ := (hs _ (by simp)).1 (by decide)
  refine ⟨reachable_betweenStops, betweenStops_newline, ?_⟩
  rw [hf]
  simp [h₁, h₂]

end LatexSnippets.Editor
