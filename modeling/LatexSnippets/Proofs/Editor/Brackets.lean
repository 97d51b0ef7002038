import LatexSnippets.Proofs.Editor.Caret

/-!
Typing brackets. An opening bracket brings the closing one with it, which is then stepped over, so
that bracketed text comes out as it is typed.
-/

namespace LatexSnippets.Editor

def brackets : List (Char × Char) := [('(', ')'), ('[', ']'), ('\x7b', '\x7d')]

/-- Text whose brackets match, with nothing else that typing pairs or steps over. -/
inductive Bracketed : Text → Prop
  | nil : Bracketed []
  | char {w : Text} {c : Char} (hw : Bracketed w) (hc : c ∉ special) : Bracketed (w ++ [c])
  | group {w v : Text} {b : Char × Char} (hw : Bracketed w) (hv : Bracketed v)
      (hb : b ∈ brackets) : Bracketed (w ++ (b.1 :: v ++ [b.2]))

/-- Nothing is bound but the standard keys, and no rule can fire. -/
structure Plain (e : Editor) : Prop where
  keymap : e.config.keymap = .standard
  rules : e.config.rules = []

variable {e : Editor} {before after w : Text} {c : Char}

theorem Plain.congr {e' : Editor} (h : e.Plain) (hc : e'.config = e.config) : e'.Plain :=
  ⟨by rw [hc, h.keymap], by rw [hc, h.rules]⟩

theorem Plain.fire (h : e.Plain) (t : Text) (caret : Int) (auto manual : Bool) :
    e.fire t caret auto manual = .ok none := by
  have hr : ∀ s, Ranked.rank [] s = [] := fun s => by simp [Ranked.rank, Ranked.all]
  simp only [Editor.fire, h.rules, LatexSnippets.fire, hr]
  rfl

theorem closer?_of_bracket {b : Char × Char} (h : b ∈ brackets) :
    closer? b.1 = some b.2 ∧ b.1 ≠ b.2 ∧ closer? b.2 = none ∧ isOvertyped b.2 = true := by
  revert b
  decide

theorem ne_newline_of_bracket {b : Char × Char} (h : b ∈ brackets) : b.1 ≠ '\n' ∧ b.2 ≠ '\n' := by
  revert b
  decide

section Press

variable (h : e.Parts before after) (hp : e.Plain)

include h hp

theorem Parts.press_char (hc : c ∉ special) :
    ∃ e', e.press (.ofChar c) = ⟨e', .ok true⟩ ∧ e'.Plain ∧ e'.Parts (before ++ [c]) after := by
  obtain ⟨e', hi, hb⟩ := h.insert (c := c) (hp.fire ..)
  refine ⟨e', ?_, hp.congr hb.config, hb.toParts⟩
  rw [press_ofChar hp.keymap (fun hn => hc (by simp [hn, special])),
    type_eq_insert (closer?_of_not_special hc) (isOvertyped_of_not_special hc)
      (surround?_of_isEmpty h.isEmpty c), hi]

theorem Parts.press_open {b : Char × Char} (hb : b ∈ brackets) :
    ∃ e', e.press (.ofChar b.1) = ⟨e', .ok true⟩ ∧ e'.Plain ∧
      e'.Parts (before ++ [b.1]) (b.2 :: after) := by
  obtain ⟨hc, hn, -, -⟩ := closer?_of_bracket hb
  obtain ⟨e', hpair, hb'⟩ := h.pair hc (fun h => absurd h hn)
  refine ⟨e', ?_, hp.congr hb'.config, hb'.toParts⟩
  simp only [press_ofChar hp.keymap (ne_newline_of_bracket hb).1, type, hpair]

end Press

theorem Parts.press_close {b : Char × Char} (h : e.Parts before (b.2 :: after)) (hp : e.Plain)
    (hb : b ∈ brackets) :
    ∃ e', e.press (.ofChar b.2) = ⟨e', .ok true⟩ ∧ e'.Plain ∧ e'.Parts (before ++ [b.2]) after := by
  obtain ⟨-, -, hc, ho⟩ := closer?_of_bracket hb
  obtain ⟨e', hover, hb'⟩ := h.overtype ho
  have hpair : e.pair? b.2 = none := by rw [pair?, hc]
  refine ⟨e', ?_, hp.congr hb'.config, hb'.toParts⟩
  simp only [press_ofChar hp.keymap (ne_newline_of_bracket hb).2, type, hpair, hover]

theorem typeText_append {e₁ : Editor} {v : Text} (h : e.typeText w = ⟨e₁, .ok ()⟩) :
    e.typeText (w ++ v) = e₁.typeText v := by
  rw [typeText, List.map_append]
  exact pressAll_append _ _ h

theorem typeText_singleton {e₁ : Editor} (h : e.press (.ofChar c) = ⟨e₁, .ok true⟩) :
    e.typeText [c] = ⟨e₁, .ok ()⟩ := by
  simp only [typeText, List.map_cons, List.map_nil, pressAll, h]

/-- The closing brackets that are still to be typed stand at the head of what follows the caret. -/
theorem Bracketed.typed (hw : Bracketed w) (h : e.Parts before after) (hp : e.Plain) :
    ∃ e', e.typeText w = ⟨e', .ok ()⟩ ∧ e'.Plain ∧ e'.Parts (before ++ w) after := by
  induction hw generalizing e before after with
  | nil => exact ⟨e, rfl, hp, by rwa [List.append_nil]⟩
  | char hw hc ih =>
    obtain ⟨e₁, h₁, hp₁, hs₁⟩ := ih h hp
    obtain ⟨e₂, h₂, hp₂, hs₂⟩ := hs₁.press_char hp₁ hc
    refine ⟨e₂, ?_, hp₂, by rwa [List.append_assoc] at hs₂⟩
    rw [typeText_append h₁, typeText_singleton h₂]
  | @group w v b hw hv hb ihw ihv =>
    obtain ⟨e₁, h₁, hp₁, hs₁⟩ := ihw h hp
    obtain ⟨e₂, h₂, hp₂, hs₂⟩ := hs₁.press_open hp₁ hb
    obtain ⟨e₃, h₃, hp₃, hs₃⟩ := ihv hs₂ hp₂
    obtain ⟨e₄, h₄, hp₄, hs₄⟩ := hs₃.press_close hp₃ hb
    refine ⟨e₄, ?_, hp₄, by simpa using hs₄⟩
    rw [typeText_append h₁, List.cons_append, ← List.singleton_append,
      typeText_append (typeText_singleton h₂), typeText_append h₃, typeText_singleton h₄]

/-- Without rules and with the standard keys, bracketed text comes out as it is typed, whatever
stands around the caret, and the caret is right after it. -/
theorem typeText_bracketed (hw : Bracketed w) (hk : e.config.keymap = .standard)
    (hr : e.config.rules = []) (ht : e.text = before ++ after)
    (hs : e.selection = .caret before.length) :
    ∃ e', e.typeText w = ⟨e', .ok ()⟩ ∧ e'.text = before ++ w ++ after ∧
      e'.selection = .caret (before ++ w).length := by
  obtain ⟨e', h, -, hp⟩ := hw.typed ⟨ht, hs⟩ ⟨hk, hr⟩
  exact ⟨e', h, hp.text, hp.selection⟩

/-- The caret stands between a letter and a closing bracket that is not the typed one. -/
def besideBracket : Editor :=
  ofText ⟨[], .standard, false, "  ".toList, " & ".toList⟩ 0 0 "x)".toList (some 1)

theorem typeText_nested_brackets :
    Bracketed "(a[])".toList ∧ ∃ e', besideBracket.typeText "(a[])".toList = ⟨e', .ok ()⟩ ∧
      e'.text = "x(a[]))".toList ∧ e'.selection = .caret 6 := by
  have hb : Bracketed "(a[])".toList :=
    .group (b := ('(', ')')) .nil (.group (b := ('[', ']')) (.char .nil (by decide)) .nil (by decide))
      (by decide)
  have hx : besideBracket.text = ['x'] ++ [')'] := rfl
  obtain ⟨e', h, ht, hs⟩ := typeText_bracketed hb rfl rfl hx rfl
  exact ⟨hb, e', h, ht, hs⟩

end LatexSnippets.Editor
