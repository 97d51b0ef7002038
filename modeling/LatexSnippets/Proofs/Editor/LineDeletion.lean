import LatexSnippets.Proofs.Editor.Caret
import LatexSnippets.Proofs.Text.Line

/-!
Deleting lines. The lines that the selection touches are taken out of the list of lines, and the
caret goes to the beginning of the line that follows them, or else of the one before.
-/

namespace LatexSnippets.Editor

open Text

variable {e e' : Editor} {before before' after after' : List Text} {p p' s s' : Text}

section Deletion

variable (h : e.Sound) (hs : e.text.Cut e.selection.start before p s' after')
  (hq : e.text.Cut e.selection.stop before' p' s after)

include h hs hq

theorem deleteLine_of_ne_nil (ha : after ≠ []) :
    ∃ e', e.deleteLine = (e', true) ∧ e'.Parts (ended before) (unlines after) := by
  obtain ⟨⟨h₀, h₁⟩, h₂⟩ := h.selection
  have hl := hq.lineEnd_lt (Int.le_trans h₀ h₁) h₂ ha
  have ht : e.text ≠ [] := by
    intro ht
    simp [ht] at hl
  have hd : e.deleteLine = (e.splice (ended before).length (e.selection.stop + s.length + 1) []
      (ended before).length none, true) := by
    rw [deleteLine, if_neg (by simpa using ht)]
    simp only [if_pos hl, hs.lineStart, hq.lineEnd (Int.le_trans h₀ h₁) h₂]
  refine ⟨_, hd, parts_splice ?_ rfl⟩
  rw [Text.splice, hs.upTo_lineStart, hq.onward_lineEnd (Int.le_trans h₀ h₁) h₂ ha, List.append_nil]

/-- What is left at the end of the text has no newline at its end, so that the lines before the last
one are still whole. -/
theorem deleteLine_of_nil (ht : e.text ≠ []) (ha : after = []) :
    ∃ e', e.deleteLine = (e', true) ∧
      e'.Parts (ended before.dropLast) (before.getLast?.getD []) := by
  obtain ⟨⟨h₀, h₁⟩, h₂⟩ := h.selection
  have hl : e.text.lineEnd e.selection.stop = e.text.length := by
    have := hq.lineEnd (Int.le_trans h₀ h₁) h₂
    have := hq.length (Int.le_trans h₀ h₁) h₂
    rw [ha, unlines_singleton] at this
    omega
  have hj : e.text.onward e.text.length = [] := by
    simpa using onward_left e.text []
  rw [deleteLine, if_neg (by simpa using ht)]
  simp only [hl, Nat.lt_irrefl, if_false, hs.lineStart]
  obtain rfl | ⟨before, l, rfl⟩ := List.eq_nil_or_concat' before
  · refine ⟨_, rfl, parts_splice ?_ rfl⟩
    simp [Text.splice, hj, upTo, place]
  · have hc := cut_concat hs.not_mem_before
    have hcut : (ended (before ++ [l])).length - 1 = (ended before ++ l).length := by
      rw [length_ended_concat, List.length_append, Nat.add_sub_cancel]
    have ht' : e.text.splice (ended before ++ l).length e.text.length [] = ended before ++ l := by
      rw [Text.splice, hs.upTo_above, hj, List.append_nil, List.append_nil]
    rw [hcut, ht', if_pos (by simp), hc.lineStart]
    refine ⟨_, rfl, parts_splice ?_ ?_⟩
    · simpa using ht'
    · simp

/-- The lines between those before the selection and those behind it are gone, whatever part of them
was selected. -/
theorem deleteLine_eq (ht : e.text ≠ []) : ∃ e', e.deleteLine = (e', true) ∧
    e'.text = unlines (before ++ after) ∧
    e'.selection = .caret (lineOffset (before ++ after)
      (if after = [] then before.length - 1 else before.length)) := by
  by_cases ha : after = []
  · obtain ⟨e', hd, hp⟩ := deleteLine_of_nil h hs hq ht ha
    refine ⟨e', hd, ?_, ?_⟩
    · rw [hp.text, ha, List.append_nil]
      obtain rfl | ⟨before, l, rfl⟩ := List.eq_nil_or_concat' before <;> simp [unlines_concat]
    · rw [hp.selection, if_pos ha, lineOffset, ha, List.append_nil, List.dropLast_eq_take]
  · obtain ⟨e', hd, hp⟩ := deleteLine_of_ne_nil h hs hq ha
    refine ⟨e', hd, ?_, ?_⟩
    · rw [hp.text, unlines_append _ ha]
    · rw [hp.selection, if_neg ha, lineOffset, List.take_left]

end Deletion

/-- Whatever is selected, deleting takes the lines from the first one that it touches to the last out
of the text. The caret stands at the beginning of the line that followed them then, or of the one
before them if they were the last. -/
theorem deleteLine_joins (he : e.Reachable) (ht : e.text ≠ []) :
    let first := e.text.lineIndex e.selection.start
    let last := e.text.lineIndex e.selection.stop
    let remaining := e.text.lines.take first ++ e.text.lines.drop (last + 1)
    ∃ e', e.deleteLine = (e', true) ∧ e'.text = unlines remaining ∧
      e'.selection = .caret (lineOffset remaining
        (if last + 1 < e.text.lines.length then first else first - 1)) := by
  intro first last remaining
  obtain ⟨before, p, s', after', hs⟩ := exists_cut e.text e.selection.start
  obtain ⟨before', p', s, after, hq⟩ := exists_cut e.text e.selection.stop
  have hfirst : first = before.length := hs.lineIndex
  have hlast : last = before'.length := hq.lineIndex
  have hr : remaining = before ++ after := by
    rw [← hs.take_lines, ← hq.drop_lines, ← hfirst, ← hlast]
  have ha : last + 1 < e.text.lines.length ↔ ¬after = [] := by
    rw [hq.lines, hlast, ← List.length_eq_zero_iff, List.length_append, List.length_cons]
    omega
  obtain ⟨e', hd, htext, hsel⟩ := deleteLine_eq he.sound hs hq ht
  refine ⟨e', hd, ?_, ?_⟩
  · rw [htext, hr]
  · simp only [hsel, hr, ha, hfirst, ite_not]

/-- The last two lines of three are selected in part. -/
theorem deleteLine_joins_last :
    let e := withSelection "one\ntwo\nthree" 5 9
    e.Reachable ∧ e.text ≠ [] ∧ ∃ e', e.deleteLine = (e', true) ∧ e'.text = "one".toList ∧
      e'.selection = .caret 0 := by
  intro e
  have ht : e.text ≠ [] := by decide +kernel
  obtain ⟨e', hd, htext, hsel⟩ := deleteLine_joins (reachable_withSelection ..) ht
  refine ⟨reachable_withSelection .., ht, e', hd, ?_, ?_⟩
  · rw [htext]
    decide +kernel
  · rw [hsel]
    decide +kernel

end LatexSnippets.Editor
