import LatexSnippets.Proofs.Editor.TakingBack
import LatexSnippets.Proofs.Latex.Math

/-!
Typing a dollar sign. It is stepped over where it stands already, and else brings a second one, so
that the rest of the text stays in its mode. Backslashes before the place are not looked at, though:
behind an odd number of them the first sign is escaped and only the second one counts.
-/

namespace LatexSnippets

namespace Editor

/-- Whether the text ends in math mode, which is the mode for whatever is written behind it. -/
def endsInMath (e : Editor) : Bool := Latex.insideMath e.text e.text.length

variable {e : Editor} {k : KeyEvent}

theorem Sound.text_eq (h : e.Sound) : e.text =
    e.text.upTo e.selection.start ++ (e.selected ++ e.text.onward e.selection.stop) := by
  obtain ⟨⟨h₀, h₁⟩, h₂⟩ := h.selection
  rw [← List.append_assoc, selected, Text.upTo_append_slice h₀ h₁ h₂, Text.upTo_append_onward]

/-- The caret stands before a dollar sign, which another one steps over. -/
def AtDollar (e : Editor) : Prop := e.selection.isEmpty = true ∧ e.nextChar? = some '$'

theorem type_dollar_over (h : e.AtDollar) :
    e.type '$' = ⟨e.select (.caret (e.selection.start + 1)), .ok true⟩ := by
  obtain ⟨hs, hn⟩ := h
  have he : e.selection.start = e.selection.stop := by simpa [Span.isEmpty] using hs
  have hp : e.pair? '$' = none := by simp [pair?, closer?, he, hn]
  have ho : e.overtype? '$' = some (e.select (.caret (e.selection.start + 1))) := by
    simp [overtype?, isOvertyped, hs, hn]
  simp only [type, hp, ho]

theorem type_dollar_pair (h : ¬e.AtDollar) : ∃ e', e.type '$' = ⟨e', .ok true⟩ ∧
    e'.text = e.text.upTo e.selection.start ++
      '$' :: (e.selected ++ '$' :: e.text.onward e.selection.stop) := by
  have hn : ¬(e.selection.start = e.selection.stop ∧ e.nextChar? = some '$') := by
    simpa [AtDollar, Span.isEmpty] using h
  have hp : e.pair? '$' = some (e.splice e.selection.start e.selection.stop
      ('$' :: (e.selected ++ ['$'])) (e.selection.start + 1 + e.selected.length) none) := by
    simp only [pair?, closer?, selected]
    rw [if_neg (by simpa using hn)]
  have ht : e.type '$' = ⟨e.splice e.selection.start e.selection.stop
      ('$' :: (e.selected ++ ['$'])) (e.selection.start + 1 + e.selected.length) none,
      .ok true⟩ := by
    simp only [type, hp]
  refine ⟨_, ht, ?_⟩
  show e.text.splice _ _ _ = _
  simp [Text.splice]

/-- With the standard keys, a dollar sign is stepped over or put around the selection with another
one. Stepping over changes nothing, and the pair leaves the end of the text in its mode if and only
if the signs that backslashes reach are even in number; so it does if neither end of the selection
is right behind an odd number of backslashes. -/
theorem press_dollar_keeps_mode (he : e.Reachable) (hk : e.config.keymap = .standard)
    (hc : k.char? = some '$') :
    let before := e.text.upTo e.selection.start
    let after := e.text.onward e.selection.stop
    ∃ e', e.press k = ⟨e', .ok true⟩ ∧
      (e.AtDollar ∧ e'.text = e.text ∨
        ¬e.AtDollar ∧ e'.text = before ++ '$' :: (e.selected ++ '$' :: after)) ∧
      (e'.endsInMath = e.endsInMath ↔
        e.AtDollar ∨ Latex.keepsMode before e.selected after = true) ∧
      (Latex.escapes before = false → Latex.escapes (before ++ e.selected) = false →
        e'.endsInMath = e.endsInMath) := by
  intro before after
  rw [(types_of_char? hk hc).press]
  by_cases hd : e.AtDollar
  · refine ⟨_, type_dollar_over hd, .inl ⟨hd, rfl⟩, ?_, fun _ _ => rfl⟩
    exact iff_of_true rfl (.inl hd)
  · obtain ⟨e', hp, ht⟩ := type_dollar_pair hd
    have hm : e'.endsInMath = e.endsInMath ↔ Latex.keepsMode before e.selected after = true := by
      have hm := Latex.mathAfter_paired before e.selected after
      rw [← show e.text = before ++ (e.selected ++ after) from he.sound.text_eq] at hm
      rwa [endsInMath, endsInMath, Latex.insideMath_length, Latex.insideMath_length, ht]
    refine ⟨e', hp, .inr ⟨hd, ht⟩, ?_, fun h₁ h₂ => ?_⟩
    · rw [hm, or_iff_right hd]
    · exact hm.2 (Latex.keepsMode_of_unescaped h₁ h₂ after)

/-- What is selected begins and ends with an escaped dollar sign. -/
theorem press_dollar_keeps_mode_escaped :
    let e := withSelection "a\\$b\\$c" 1 6
    ∃ e', e.press (.ofChar '$') = ⟨e', .ok true⟩ ∧ e'.text = "a$\\$b\\$$c".toList ∧
      e'.endsInMath = e.endsInMath := by
  intro e
  have hd : ¬e.AtDollar := fun h => absurd h.1 (by decide +kernel)
  obtain ⟨e', hp, ht, -, hm⟩ := press_dollar_keeps_mode (e := e) (k := .ofChar '$')
    (reachable_withSelection ..) rfl (by decide +kernel)
  refine ⟨e', hp, ?_, hm (by decide +kernel) (by decide +kernel)⟩
  rw [(ht.resolve_left fun h => hd h.1).2]
  decide +kernel

/-- After a backslash the first dollar sign is escaped, and the second one switches to math mode all
that is written behind it. -/
theorem press_dollar_switches_mode :
    let e := withSelection "\\" 1 1
    e.Reachable ∧ e.config.keymap = .standard ∧ (KeyEvent.ofChar '$').char? = some '$' ∧
      (e.press (.ofChar '$')).editor.text = "\\$$".toList ∧
      (e.press (.ofChar '$')).editor.endsInMath ≠ e.endsInMath :=
  ⟨reachable_withSelection .., rfl, by decide +kernel, by decide +kernel, by decide +kernel⟩

end Editor

end LatexSnippets
