import LatexSnippets.Proofs.Editor.Snippet
import LatexSnippets.Proofs.Editor.Stops

/-!
Typing and deleting at a caret: what a press of a key makes of the text before the caret, the text
after it and the pending stops.
-/

namespace LatexSnippets

namespace FieldQueue

@[simp] theorem shift_zero (q : FieldQueue) (at_ : Int) : q.shift 0 at_ = q := if_pos rfl

/-- Stops that have made room for something go back to where they were when it is taken out. -/
theorem shift_shift_neg {q : FieldQueue} {d at_ : Int} (hd : 0 ≤ d) (h : ∀ s ∈ q, 0 ≤ s.start) :
    (q.shift d at_).shift (-d) at_ = q := by
  have hback : ∀ s ∈ q, (move d at_ s).bind (move (-d) at_) = some s := by
    intro s hs
    have h₀ := h s hs
    by_cases ha : at_ ≤ s.start
    · rw [move_of_le ha (by omega), Option.bind_some, move_of_le]
      · rw [Span.shift_shift, Int.add_right_neg, Span.shift_zero]
      · rw [Span.shift_start]
        omega
      · rw [Span.shift_start]
        omega
    · rw [move_of_lt (Int.not_le.1 ha) h₀, Option.bind_some, move_of_lt (Int.not_le.1 ha) h₀]
  rw [shift_shift_eq hback, List.filterMap_some]

end FieldQueue

namespace Editor

/-- The caret stands between two parts of the text. -/
structure Parts (e : Editor) (before after : Text) : Prop where
  text : e.text = before ++ after
  selection : e.selection = .caret before.length

/-- The caret stands between these parts now, and the stops have moved by `d` from the offset `at_`
on. -/
structure Becomes (e : Editor) (d at_ : Int) (before after : Text) (e' : Editor) : Prop
    extends e'.Parts before after where
  config : e'.config = e.config
  fields : e'.fields = e.fields.shift d at_

variable {e e' : Editor} {before after : Text} {c close : Char}

theorem Sound.parts (h : e.Sound) (hs : e.selection.isEmpty = true) :
    e.Parts (e.text.upTo e.selection.start) (e.text.onward e.selection.start) := by
  obtain ⟨⟨h₀, h₁⟩, h₂⟩ := h.selection
  have hp := Text.place_eq h₀ (Int.le_trans h₁ h₂)
  have he : e.selection.start = e.selection.stop := by simpa [Span.isEmpty] using hs
  refine ⟨(Text.upTo_append_onward ..).symm, ?_⟩
  rw [Text.length_upTo, hp, Span.caret]
  cases hsel : e.selection
  simp_all

namespace Parts

variable (h : e.Parts before after)

include h

theorem start : e.selection.start = before.length := by rw [h.selection, Span.caret]

theorem stop : e.selection.stop = before.length := by rw [h.selection, Span.caret]

theorem isEmpty : e.selection.isEmpty = true := by simp [h.selection, Span.isEmpty, Span.caret]

theorem upTo : e.text.upTo before.length = before := by rw [h.text, Text.upTo_left]

theorem nextChar? : e.nextChar? = after.head? := by
  rw [Editor.nextChar?, h.start, h.text, Text.onward_left]

theorem splice (w : Text) :
    e.text.splice e.selection.start e.selection.stop w = before ++ w ++ after := by
  have := Text.splice_middle before [] after w
  rw [h.start, h.stop, h.text]
  simpa using this

theorem length : (e.text.length : Int) = before.length + after.length := by
  rw [h.text, List.length_append, Int.natCast_add]

end Parts

theorem becomes_edit (before after : Text) (at_ d : Int) (immediate : Bool) :
    e.Becomes d at_ before after
      (e.edit (before ++ after) before.length at_ d immediate none) where
  text := rfl
  selection := by
    apply caret_record
    · omega
    · rw [List.length_append]
      omega
  config := rfl
  fields := rfl

theorem parts_splice {i j caret : Int} {w x y : Text} (ht : e.text.splice i j w = x ++ y)
    (hc : caret = x.length) : (e.splice i j w caret none).Parts x y := by
  rw [Editor.splice, ht, hc]
  exact (becomes_edit ..).toParts

theorem surround?_of_isEmpty (h : e.selection.isEmpty = true) (c : Char) : e.surround? c = none := by
  rw [surround?, if_pos h]

section Typing

variable (h : e.Parts before after)

include h

/-- A character is put in at the caret, and no rule fires on it. -/
theorem Parts.insert
    (hf : e.fire (before ++ [c] ++ after) (before.length + 1) true false = .ok none) :
    ∃ e', e.insert [c] = ⟨e', .ok true⟩ ∧ e.Becomes 1 before.length (before ++ [c]) after e' := by
  have hb := becomes_edit (e := e) (before ++ [c]) after before.length 1 false
  refine ⟨_, ?_, hb⟩
  rw [← h.start] at hf
  rw [insert_eq (h.splice [c]).symm hf, h.start, h.text]
  simp only [List.length_append, List.length_singleton, Int.natCast_add, Int.natCast_one]
  rw [show (before.length + 1 + after.length - (before.length + after.length) : Int) = 1 by omega]
  rfl

theorem Parts.pair (hc : closer? c = some close) (hn : c = close → after.head? ≠ some c) :
    ∃ e', e.pair? c = some e' ∧ e.Becomes 2 before.length (before ++ [c]) (close :: after) e' := by
  have hb := becomes_edit (e := e) (before ++ [c]) (close :: after) before.length 2 true
  refine ⟨_, ?_, hb⟩
  have hs := h.splice [c, close]
  rw [h.start, h.stop] at hs
  have hi : e.text.slice before.length before.length = [] := by
    rw [Text.slice, h.upTo, h.text, Text.place_left, List.drop_length]
  have hn' : ¬(c = close ∧ e.nextChar? = some c) := by
    rw [h.nextChar?]
    exact fun hcc => hn hcc.1 hcc.2
  simp only [pair?, hc, h.start, h.stop, hi, Editor.splice]
  rw [if_neg (by simpa using hn')]
  simp [hs]

end Typing

/-- A closing character that stands there already is stepped over. -/
theorem Parts.overtype (h : e.Parts before (c :: after)) (hc : isOvertyped c = true) :
    ∃ e', e.overtype? c = some e' ∧ e.Becomes 0 before.length (before ++ [c]) after e' := by
  have hn : e.nextChar? = some c := by rw [h.nextChar?, List.head?_cons]
  have ho : (e.selection.isEmpty && isOvertyped c && decide (e.nextChar? = some c)) = true := by
    simp [h.isEmpty, hc, hn]
  refine ⟨e.select (.caret (e.selection.start + 1)), by rw [overtype?, if_pos ho], ⟨?_, ?_⟩, rfl,
    (FieldQueue.shift_zero _ _).symm⟩
  · rw [Editor.select, h.text]
    simp
  · rw [Editor.select, h.start, h.text]
    simp only [Span.clamp, Span.caret, List.length_append, List.length_cons, List.length_nil,
      Span.mk.injEq]
    omega

theorem Parts.selection_concat (h : e.Parts (before ++ [c]) after) :
    e.selection = ⟨before.length + 1, before.length + 1⟩ := by
  simp [h.selection, Span.caret]

theorem Parts.inPair (h : e.Parts (before ++ [c]) (close :: after)) (hc : closer? c = some close) :
    e.InPair := by
  refine ⟨c, close, ?_, hc, ?_⟩
  · rw [h.start, h.upTo, List.getLast?_concat]
  · rw [h.nextChar?, List.head?_cons]

/-- Backspace takes an empty pair away from around the caret. -/
theorem Parts.backspace_pair (h : e.Parts (before ++ [c]) (close :: after))
    (hc : closer? c = some close) :
    ∃ e', e.backspace = ⟨e', .ok true⟩ ∧ e.Becomes (-2) before.length before after e' := by
  have hb := becomes_edit (e := e) before after before.length (-2) true
  have hp := isPair_iff.2 (h.inPair hc)
  have hs := h.selection_concat
  have ht : e.text.splice before.length (before.length + 1 + 1) [] = before ++ after := by
    have := Text.splice_middle before [c, close] after []
    rw [h.text]
    simpa [Int.add_assoc] using this
  have hd : (([] : Text).length : Int) - (before.length + 1 + 1 - before.length) = -2 := by
    simp only [List.length_nil]
    omega
  refine ⟨_, ?_, hb⟩
  rw [hs] at hp
  simp only [Editor.backspace, hs, ne_eq, not_true_eq_false, if_false, if_pos hp,
    Int.add_sub_cancel, Editor.splice, ht, hd]
  exact if_neg (by omega)

/-- Backspace takes away the character before the caret, unless it takes an empty pair. -/
theorem Parts.backspace (h : e.Parts (before ++ [c]) after)
    (hc : ∀ close, closer? c = some close → after.head? ≠ some close) :
    ∃ e', e.backspace = ⟨e', .ok true⟩ ∧ e.Becomes (-1) before.length before after e' := by
  have hb := becomes_edit (e := e) before after before.length (-1) false
  have hs := h.selection_concat
  have hp : ¬e.InPair := by
    rintro ⟨d, close, hd, hcl, hn⟩
    rw [h.start, h.upTo, List.getLast?_concat, Option.some.injEq] at hd
    rw [h.nextChar?] at hn
    exact hc close (hd ▸ hcl) hn
  have ht : e.text.splice before.length (before.length + 1) [] = before ++ after := by
    have := Text.splice_middle before [c] after []
    rw [h.text]
    simpa using this
  have hd : ((before ++ after).length : Int) - e.text.length = -1 := by
    simp only [h.text, List.length_append, List.length_singleton]
    omega
  refine ⟨_, ?_, hb⟩
  rw [← isPair_iff, hs] at hp
  simp only [Editor.backspace, hs, ne_eq, not_true_eq_false, if_false, if_neg hp,
    Int.add_sub_cancel, erase, changed, ht, hd]
  exact if_neg (by omega)

end Editor

end LatexSnippets
