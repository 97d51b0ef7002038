import LatexSnippets.Proofs.Editor.Caret
import LatexSnippets.Proofs.Editor.Edits
import LatexSnippets.Proofs.Latex.Operand

/-!
The fraction command. Whatever text it takes for the numerator, dollar signs, braces and backslashes
included, stands unchanged between the first braces afterwards, and the stops are where the clean
text has them.
-/

namespace LatexSnippets.Editor

variable {e : Editor} {s : Int}

/-- The numerator of a fraction begins at `s`, with the selection or else with the operand before
the caret. -/
def NumeratorFrom (e : Editor) (s : Int) : Prop :=
  if e.selection.isEmpty then Latex.operandStart e.text e.selection.stop = .ok s
  else s = e.selection.start

theorem ofText_fraction {w inner : Text}
    (hi : inner = "\\frac\x7b".toList ++ w ++ "\x7d\x7b".toList) :
    Expansion.ofText (fraction (Piece.escape w)) =
      ⟨inner ++ ['\x7d'], .caret inner.length, [.caret (inner.length + 1)],
        [(1, .caret inner.length), (0, .caret (inner.length + 1))]⟩ := by
  have hf : Fields.ofPieces 0 (inner.map .char ++ [.stop 1, .char '\x7d', .stop 0]) =
      [(1, .caret inner.length), (0, .caret (inner.length + 1))] := by
    rw [Fields.ofPieces_chars, Nat.zero_add]
    rfl
  have ht : (inner.map Piece.char ++ [Piece.stop 1, .char '\x7d', .stop 0]).flatMap Piece.text =
      inner ++ ['\x7d'] := by
    simp [List.flatMap_map, Piece.text]
  rw [Expansion.ofText, readAll_fraction, ← hi, Expansion.ofPieces, hf, ht]
  rfl

/-- An expansion with stops that is put between two places of the text: the stop to enter first is
selected, and the others are pending. -/
theorem applyExpansion_shows {i j : Int} {x : Expansion} (h₀ : 0 ≤ i) (hij : i ≤ j)
    (hj : j ≤ e.text.length) (hx : x.entry.Within x.text.length) (hr : x.remaining ≠ []) :
    let e' := e.applyExpansion i j x
    e'.text = e.text.splice i j x.text ∧ e'.selection = x.entry.shift i ∧
      e'.fields = x.remaining.map (·.shift i) := by
  intro e'
  have hw : (x.entry.shift i).Within (e.text.splice i j x.text).length := by
    obtain ⟨⟨hx₀, hx₁⟩, hx₂⟩ := hx
    rw [Text.length_splice h₀ hij hj]
    simp only [Span.Within, Span.Proper, Span.shift_start, Span.shift_stop]
    omega
  simp only [e', applyExpansion, if_neg (show x.remaining.isEmpty ≠ true by simpa using hr)]
  exact ⟨rfl, Span.clamp_eq hw, rfl⟩

theorem numeratorFrom_start (h : e.Sound) : e.NumeratorFrom e.numeratorStart := by
  obtain ⟨⟨h₀, h₁⟩, h₂⟩ := h.selection
  by_cases hs : e.selection.start = e.selection.stop
  · rw [NumeratorFrom, numeratorStart, if_pos hs, if_pos (by simpa [Span.isEmpty] using hs),
      Latex.operandStart_eq (Int.le_trans h₀ h₁) h₂]
  · rw [NumeratorFrom, numeratorStart, if_neg hs, if_neg (by simpa [Span.isEmpty] using hs)]

/-- The numerator is wrapped as it is, whatever it is made of. The caret is between the second braces
then, and the only stop left is right behind them. Without a numerator nothing happens. -/
theorem smartFraction_wraps (he : e.Reachable) :
    ∃ s, e.NumeratorFrom s ∧ 0 ≤ s ∧ s ≤ e.selection.stop ∧
      (s = e.selection.stop → e.smartFraction = (e, false)) ∧
      (s < e.selection.stop →
        let inner := "\\frac\x7b".toList ++ e.text.slice s e.selection.stop ++ "\x7d\x7b".toList
        ∃ e', e.smartFraction = (e', true) ∧
          e'.Parts (e.text.upTo s ++ inner) ('\x7d' :: e.text.onward e.selection.stop) ∧
          e'.fields = [.caret (s + inner.length + 1)]) := by
  have h₂ := he.sound.selection.2
  have hf := smartFraction_eq e
  have hs := numeratorFrom_start he.sound
  obtain ⟨hs₀, hs₁⟩ := numeratorStart_le he.sound
  generalize e.numeratorStart = s at hf hs hs₀ hs₁
  refine ⟨s, hs, hs₀, hs₁, fun h => by rw [hf, if_pos h], fun h => ?_⟩
  intro inner
  have hx := ofText_fraction (w := e.text.slice s e.selection.stop) (rfl : inner = _)
  have hw := (Expansion.within_ofText
    (fraction (Piece.escape (e.text.slice s e.selection.stop)))).1
  rw [hx] at hw
  rw [if_neg (Int.ne_of_lt h), hx] at hf
  obtain ⟨text, selection, fields⟩ := applyExpansion_shows hs₀ hs₁ h₂ hw (List.cons_ne_nil _ _)
  refine ⟨_, hf, ⟨?_, ?_⟩, ?_⟩
  · rw [text]
    simp [Text.splice]
  · have hl : ((e.text.upTo s ++ inner).length : Int) = inner.length + s := by
      have := Text.place_eq hs₀ (Int.le_trans hs₁ h₂)
      rw [List.length_append, Text.length_upTo]
      omega
    rw [selection, hl]
    rfl
  · rw [fields, Int.add_assoc, Int.add_comm s]
    rfl

/-- What is selected looks like a stop and an escaped brace. -/
theorem smartFraction_wraps_lookalike :
    ∃ e', (withSelection "a$1\\\x7db" 1 5).smartFraction = (e', true) ∧
      e'.text = "a\\frac\x7b$1\\\x7d\x7d\x7b\x7db".toList ∧ e'.selection = .caret 13 ∧
      e'.fields = [.caret 14] := by
  obtain ⟨s, hs, -, -, -, hw⟩ := smartFraction_wraps (e := withSelection "a$1\\\x7db" 1 5)
    (reachable_withSelection ..)
  rw [NumeratorFrom, if_neg (by decide +kernel)] at hs
  have hsel : (withSelection "a$1\\\x7db" 1 5).selection = ⟨1, 5⟩ := by decide +kernel
  rw [hsel] at hs
  obtain rfl : s = 1 := hs
  obtain ⟨e', he', parts, fields⟩ := hw (by rw [hsel]; decide)
  refine ⟨e', he', ?_, ?_, ?_⟩
  · rw [parts.text]
    decide +kernel
  · rw [parts.selection]
    decide +kernel
  · rw [fields]
    decide +kernel

end LatexSnippets.Editor
