import LatexSnippets.Proofs.Editor.Caret
import LatexSnippets.Proofs.Editor.Failures
import LatexSnippets.Proofs.Editor.Recording

/-!
Typing the last character of a trigger. A key that is not bound does to the text what a change from
outside does, and so fires the rule, unless its character is paired or stepped over.
-/

namespace LatexSnippets

/-- The selection that a fired rule leaves lies in its text. -/
theorem Fired.selection_within {t : Text} {caret : Int} {rules : List Rule}
    {forceMath auto manual : Bool} {f : Fired}
    (h : fire t caret rules forceMath auto manual = .ok (some f)) :
    f.selection.Within f.text.length := by
  obtain ⟨r, k, raw, hk, rfl⟩ := fire_eq_some h
  obtain ⟨⟨h₀, h₁⟩, h₂⟩ := (Expansion.within_ofText raw).1
  simp only [Fired.ofExpansion, Span.Within, Span.Proper, Span.shift_start, Span.shift_stop,
    List.length_append, List.length_take]
  omega

namespace Editor

/-- The key is not bound and writes a character: it stands for one, or it is Enter or Tab. -/
inductive Writes (e : Editor) : KeyEvent → Char → Prop
  | char {k : KeyEvent} {c : Char} (h : e.Types k c) : Writes e k c
  | enter {k : KeyEvent} (h : e.Sends k "enter") : Writes e k '\n'
  | tab {k : KeyEvent} (h : e.Sends k "tab") : Writes e k '\t'

variable {e : Editor} {k : KeyEvent} {c : Char} {f : Fired}

theorem Writes.inserts (h : e.Writes k c) (hs : e.selection.isEmpty = true)
    (hc : closer? c = none) (ho : e.overtype? c = none) : e.Inserts k c := by
  cases h with
  | char h => exact .typed h (by rw [pair?, hc]) ho (surround?_of_isEmpty hs c)
  | enter h => exact .enter h
  | tab h => exact .tab h

/-- Of a text with one more character before the caret, the place of the change is guessed right. -/
theorem change_at_caret (he : e.Sound) (hs : e.selection.isEmpty = true) (c : Char) :
    e.change (e.text.splice e.selection.start e.selection.stop [c]) (e.selection.start + 1) none
        none =
      e.changed (e.text.splice e.selection.start e.selection.stop [c]) (e.selection.start + 1)
        e.selection.start true := by
  obtain ⟨⟨h₀, h₁⟩, h₂⟩ := he.selection
  have hst : e.selection.start = e.selection.stop := by simpa [Span.isEmpty] using hs
  have hd : ((e.text.splice e.selection.start e.selection.stop [c]).length : Int) -
      e.text.length = 1 := by
    rw [Text.length_splice h₀ h₁ h₂, List.length_singleton]
    omega
  simp only [change, hd, Option.getD_none, if_pos Int.one_pos, decide_eq_true Int.one_pos,
    Int.add_sub_cancel]

theorem applyFired_shows (hf : f.selection.Within f.text.length) :
    (e.applyFired f).text = f.text ∧ (e.applyFired f).selection = f.selection := by
  unfold applyFired
  split <;> exact ⟨rfl, Span.clamp_eq hf⟩

/-- An unbound key that writes the last character of a trigger fires the rule, as the same change
from outside does, if the character opens no pair and is not stepped over. -/
theorem press_fires_trigger (he : e.Reachable) (hs : e.selection.isEmpty = true)
    (hk : e.Writes k c) (hc : closer? c = none) (ho : e.overtype? c = none)
    (hf : e.fire (e.text.splice e.selection.start e.selection.stop [c]) (e.selection.start + 1) true
      false = .ok (some f)) :
    ∃ e', e.press k = ⟨e', .ok true⟩ ∧
      e.change (e.text.splice e.selection.start e.selection.stop [c]) (e.selection.start + 1) none
        none = ⟨e', .ok (some f)⟩ ∧
      e'.text = f.text ∧ e'.selection = f.selection := by
  have hch := change_at_caret he.sound hs c
  have hp : e.press k = (e.changed (e.text.splice e.selection.start e.selection.stop [c])
      (e.selection.start + 1) e.selection.start true).map fun _ => true :=
    (hk.inserts hs hc ho).press
  rw [changed_fired hf] at hch hp
  exact ⟨_, hp, hch, applyFired_shows (Fired.selection_within hf)⟩

theorem exists_fired {o : Except FiringError (Option Fired)} {t : Text}
    (h : o.toOption.join.map (·.text) = some t) : ∃ f, o = .ok (some f) ∧ f.text = t := by
  match o, h with
  | .ok (some f), h => exact ⟨f, rfl, Option.some.inj h⟩

/-- A new editor with the standard keys and one rule that fires while typing. -/
def withTrigger (trigger template text : String) (caret : Int) : Editor :=
  ofText ⟨[.ofTexts trigger template ['A']], .standard, false, "  ", " & "⟩ 1 0 text (some caret)

theorem reachable_withTrigger (trigger template text : String) (caret : Int) :
    (withTrigger trigger template text caret).Reachable :=
  ⟨_, _, _, _, _, [], rfl⟩

theorem press_fires_trigger_slash :
    let e := withTrigger "//" "\\frac\x7b$1\x7d\x7b$2\x7d$0" "a/b" 2
    ∃ f e', e.fire "a//b" 3 true false = .ok (some f) ∧ f.text = "a\\frac\x7b\x7d\x7b\x7db".toList ∧
      e.press (.ofChar '/') = ⟨e', .ok true⟩ ∧ e.change "a//b" 3 none none = ⟨e', .ok (some f)⟩ ∧
      e'.text = f.text ∧ e'.selection = f.selection := by
  intro e
  obtain ⟨f, hf, ht⟩ := exists_fired (o := e.fire "a//b" 3 true false)
    (t := "a\\frac\x7b\x7d\x7b\x7db".toList) (by decide +kernel)
  have hk : e.Writes (.ofChar '/') '/' :=
    .char ⟨by decide +kernel, by decide +kernel, by decide +kernel⟩
  obtain ⟨e', h⟩ := press_fires_trigger (reachable_withTrigger ..) (by decide +kernel) hk
    (by decide) (by decide +kernel) hf
  exact ⟨f, e', hf, ht, h⟩

/-- The text with the character at the caret ends a trigger there, and the key gives something else
than the rule. -/
def Misses (e : Editor) (k : KeyEvent) (c : Char) : Prop :=
  e.Reachable ∧ e.selection.isEmpty = true ∧ e.Writes k c ∧
    ∃ f, e.fire (e.text.splice e.selection.start e.selection.stop [c]) (e.selection.start + 1) true
      false = .ok (some f) ∧ (e.press k).editor.text ≠ f.text

/-- A closing bracket is stepped over, and an opening one paired, where each ends a trigger. -/
theorem brackets_miss :
    (withTrigger "x)" "y" "x)" 1).Misses (.ofChar ')') ')' ∧
      (withTrigger "lr(" "\\left( $1 \\right) $0" "lr" 2).Misses (.ofChar '(') '(' := by
  refine ⟨⟨reachable_withTrigger .., by decide +kernel,
    .char ⟨by decide +kernel, by decide +kernel, by decide +kernel⟩, ?_⟩,
    ⟨reachable_withTrigger .., by decide +kernel,
    .char ⟨by decide +kernel, by decide +kernel, by decide +kernel⟩, ?_⟩⟩
  · obtain ⟨f, hf, ht⟩ := exists_fired (t := "y)".toList)
      (o := (withTrigger "x)" "y" "x)" 1).fire "x))" 2 true false) (by decide +kernel)
    exact ⟨f, hf, by rw [ht]; decide +kernel⟩
  · obtain ⟨f, hf, ht⟩ := exists_fired (t := "\\left(  \\right) ".toList)
      (o := (withTrigger "lr(" "\\left( $1 \\right) $0" "lr" 2).fire "lr(" 3 true false)
      (by decide +kernel)
    exact ⟨f, hf, by rw [ht]; decide +kernel⟩

end Editor

end LatexSnippets
