import LatexSnippets.Editor.Typing
import LatexSnippets.Proofs.Key

/-!
Presses of the keys that type a character, with the standard keys.
-/

namespace LatexSnippets

namespace KeyEvent

variable {c : Char}

theorem ofChar_eq (h : c ≠ '\n') : ofChar c = plain [c] := by
  rw [ofChar, if_neg h]

@[simp] theorem name_plain (t : Text) : (plain t).name = Key.normalizeName t := rfl

@[simp] theorem isCommand_plain (t : Text) : (plain t).isCommand = false := rfl

theorem identifier_plain (t : Text) : (plain t).identifier = (plain t).name := by
  simp [identifier, Key.identifier, plain, Modifiers.toList, Modifier.all, Modifiers.has,
    Modifiers.none, Text.joinWith]

theorem char?_ofChar (h : c ≠ '\n') : (ofChar c).char? = some c := by
  rw [ofChar_eq h, char?, isCommand_plain, if_neg Bool.false_ne_true, name_plain]
  rcases Key.normalizeName_singleton c with hn | ⟨rfl, hn⟩
  · rw [if_neg]
    · rfl
    · intro hs
      rw [hs] at hn
      contradiction
  · rw [if_pos hn]

theorem name_of_char? {k : KeyEvent} (h : k.char? = some c) :
    k.name.length ≤ 2 ∨ k.name = "space".toList := by
  rw [char?] at h
  split at h
  · contradiction
  · split at h
    · exact .inr ‹_›
    · split at h
      · next d hd =>
        rw [name, hd]
        exact (Key.normalizeName_singleton d).imp_right And.right
      · contradiction

/-- None of the standard keys types a character. -/
theorem actionFor?_of_char? {k : KeyEvent} (h : k.char? = some c) :
    Keymap.standard.actionFor? k = none := by
  have hn := name_of_char? h
  have hm : k.isCommand = false := by
    cases hm : k.isCommand with
    | false => rfl
    | true => simp [char?, hm] at h
  have hb : ∀ b ∈ Keymap.standard,
      2 < b.1.length ∧ b.1 ≠ "space".toList ∧ b.1.head? ≠ some 's' := by decide +kernel
  rw [Keymap.actionFor?, Assoc.get?, List.find?_eq_none.2]
  · rfl
  · intro b hmem heq
    obtain ⟨hl, hs, hh⟩ := hb b hmem
    obtain ⟨key, ctrl, alt, shift, metaKey⟩ := k
    simp only [isCommand, Bool.or_eq_false_iff] at hm
    obtain ⟨⟨rfl, rfl⟩, rfl⟩ := hm
    rw [decide_eq_true_eq] at heq
    cases shift with
    | false =>
      have hp : b.1 = (plain key).name := heq.trans (identifier_plain key)
      rw [hp] at hl hs
      exact hn.elim (Nat.not_le.2 hl) hs
    | true =>
      rw [heq] at hh
      exact hh rfl

theorem actionFor?_ofChar (h : c ≠ '\n') : Keymap.standard.actionFor? (ofChar c) = none :=
  actionFor?_of_char? (char?_ofChar h)

end KeyEvent

namespace Editor

variable {e : Editor} {c : Char}

theorem press_ofChar (hk : e.config.keymap = .standard) (hc : c ≠ '\n') :
    e.press (.ofChar c) = e.type c := by
  have hn : (KeyEvent.ofChar c).name ≠ "escape".toList := by
    rw [KeyEvent.ofChar_eq hc]
    exact Key.normalizeName_ne (by decide) (by decide)
  simp only [press, hk, KeyEvent.actionFor?_ofChar hc, if_neg hn, KeyEvent.char?_ofChar hc]

theorem press_tab (hk : e.config.keymap = .standard) :
    e.press (.plain "tab") = e.nextField.map fun _ => true := by
  have ha : Keymap.standard.actionFor? (.plain "tab") = some .nextField := by decide +kernel
  simp only [press, hk, ha]
  rfl

theorem type_eq_insert (h₁ : closer? c = none) (h₂ : isOvertyped c = false)
    (h₃ : e.surround? c = none) : e.type c = e.insert [c] := by
  have hp : e.pair? c = none := by rw [pair?, h₁]
  have ho : e.overtype? c = none := by simp [overtype?, h₂]
  simp only [type, hp, ho, h₃]

theorem pressAll_append (ks ls : List KeyEvent) {e' : Editor} (h : e.pressAll ks = ⟨e', .ok ()⟩) :
    e.pressAll (ks ++ ls) = e'.pressAll ls := by
  induction ks generalizing e with
  | nil =>
    simp only [pressAll, Outcome.mk.injEq, and_true] at h
    rw [List.nil_append, h]
  | cons k ks ih =>
    simp only [List.cons_append, pressAll] at *
    split at h
    · simp at h
    · exact ih h

end Editor

end LatexSnippets
