import LatexSnippets.Proofs.Editor.Caret
import LatexSnippets.Proofs.Editor.Failures
import LatexSnippets.Proofs.Editor.Recording

/-!
Backspace right after a typed character. It takes back what the character has put in, a pair as well
as a single character, and the pending stops go back to where they were.
-/

namespace LatexSnippets.Editor

variable {e e₁ e₂ : Editor} {before after before' after' : Text} {k : KeyEvent} {c close : Char}
  {d at_ : Int}

section Keys

variable (hk : e.config.keymap = .standard)

include hk

theorem types_of_char? (hc : k.char? = some c) : e.Types k c where
  unbound := by rw [hk, KeyEvent.actionFor?_of_char? hc]
  notEscape := by
    intro hn
    rcases KeyEvent.name_of_char? hc with h | h
    · rw [hn] at h
      exact absurd h (by decide)
    · rw [hn] at h
      exact absurd h (by decide)
  char := hc

theorem sends_backspace : e.Sends (.plain "backspace") "backspace" where
  unbound := by
    rw [hk]
    decide +kernel
  char := by decide +kernel
  plain := rfl
  named := by decide +kernel

end Keys

theorem isOvertyped_of_closer?_self (h : closer? c = some c) : isOvertyped c = true := by
  unfold closer? at h
  split at h <;> simp_all [isOvertyped]

/-- A character that is not stepped over and closes itself does not stand after the caret. -/
theorem head?_ne_of_overtype? (h : e.Parts before after) (ho : e.overtype? c = none)
    (hc : closer? c = some close) : c = close → after.head? ≠ some c := by
  rintro rfl hn
  rw [← h.nextChar?] at hn
  simp [overtype?, h.isEmpty, isOvertyped_of_closer?_self hc, hn] at ho

theorem fire_of_tractable
    (hr : ∀ r ∈ e.config.rules, Rule.autoFire r.options = true → r.Tractable) {t : Text}
    {caret : Int} (hf : ∀ f, e.fire t caret true false ≠ .ok (some f)) :
    e.fire t caret true false = .ok none := by
  have ha {r : Rule} {inMath : Bool} (h : r.isEligible ⟨inMath, true, false⟩ = true) :
      Rule.autoFire r.options = true := by
    simp only [Rule.isEligible, Bool.and_eq_true] at h
    simpa using h.1.1.1
  rcases fire_cases_of_eligible t caret e.config.forceMath true false
      (fun r hm he => (hr r hm (ha he)).template) (fun r hm he => (hr r hm (ha he)).trigger) rfl
    with ⟨hn, -⟩ | ⟨-, f, hs, -, -⟩
  · exact hn
  · exact absurd hs (hf f)

/-- After the character has been typed, Backspace leads back to the text, the selection and the
pending stops from before. -/
def TakesBack (e : Editor) (c : Char) : Prop :=
  ∃ e₁ e₂, e.type c = ⟨e₁, .ok true⟩ ∧ e₁.backspace = ⟨e₂, .ok true⟩ ∧ e₁.config = e.config ∧
    e₂.text = e.text ∧ e₂.selection = e.selection ∧ e₂.fields = e.fields

section TakesBack

variable (h : e.Parts before after) (hq : ∀ s ∈ e.fields, s.Proper)

include h hq

theorem takesBack_of_becomes (hd : 0 ≤ d) (ht : e.type c = ⟨e₁, .ok true⟩)
    (h₁ : e.Becomes d at_ before' after' e₁) (hb : e₁.backspace = ⟨e₂, .ok true⟩)
    (h₂ : e₁.Becomes (-d) at_ before after e₂) : e.TakesBack c := by
  refine ⟨e₁, e₂, ht, hb, h₁.config, by rw [h₂.text, h.text], by rw [h₂.selection, h.selection], ?_⟩
  rw [h₂.fields, h₁.fields]
  exact FieldQueue.shift_shift_neg hd fun s hs => (hq s hs).1

theorem takesBack_pair (ho : e.overtype? c = none) (hc : closer? c = some close) :
    e.TakesBack c := by
  obtain ⟨e₁, hp, h₁⟩ := h.pair hc (head?_ne_of_overtype? h ho hc)
  obtain ⟨e₂, hb, h₂⟩ := h₁.toParts.backspace_pair hc
  exact takesBack_of_becomes h hq (by decide) (by simp only [type, hp]) h₁ hb h₂

theorem takesBack_single (ho : e.overtype? c = none) (hc : closer? c = none)
    (hf : e.fire (before ++ [c] ++ after) (before.length + 1) true false = .ok none) :
    e.TakesBack c := by
  obtain ⟨e₁, hi, h₁⟩ := h.insert hf
  obtain ⟨e₂, hb, h₂⟩ := h₁.toParts.backspace (by simp [hc])
  have hp : e.pair? c = none := by rw [pair?, hc]
  have ht : e.type c = e.insert [c] := by
    simp only [type, hp, ho, surround?_of_isEmpty h.isEmpty c]
  exact takesBack_of_becomes h hq (by decide) (ht.trans hi) h₁ hb h₂

end TakesBack

/-- Unless a number is too large in a rule that fires while typing, a typed character that steps
over nothing and fires no rule is taken back by Backspace: text, caret and all pending stops are as
before. -/
theorem backspace_takes_back (he : e.Reachable) (hk : e.config.keymap = .standard)
    (hr : e.pair? c = none →
      ∀ r ∈ e.config.rules, Rule.autoFire r.options = true → r.Tractable)
    (hs : e.selection.isEmpty = true) (hc : k.char? = some c) (ho : e.overtype? c = none)
    (hf : e.pair? c = none → ∀ f,
      e.fire (e.text.splice e.selection.start e.selection.stop [c]) (e.selection.start + 1) true
        false ≠ .ok (some f)) :
    ∃ e₁ e₂, e.press k = ⟨e₁, .ok true⟩ ∧ e₁.press (.plain "backspace") = ⟨e₂, .ok true⟩ ∧
      e₂.text = e.text ∧ e₂.selection = e.selection ∧ e₂.fields = e.fields := by
  obtain ⟨before, after, h⟩ : ∃ before after, e.Parts before after := ⟨_, _, he.sound.parts hs⟩
  have hq := he.sound.pending
  have htakes : e.TakesBack c := by
    cases hcl : closer? c with
    | some close => exact takesBack_pair h hq ho hcl
    | none =>
      have hp : e.pair? c = none := by rw [pair?, hcl]
      have hn := fire_of_tractable (hr hp) (hf hp)
      rw [h.splice, h.start] at hn
      exact takesBack_single h hq ho hcl hn
  obtain ⟨e₁, e₂, ht, hb, hconfig, hsame⟩ := htakes
  refine ⟨e₁, e₂, (types_of_char? hk hc).press.trans ht, ?_, hsame⟩
  rw [(sends_backspace (by rw [hconfig, hk])).backspace, hb]

/-- The caret stands before a letter, with two pending stops behind it. -/
theorem backspace_takes_back_letter :
    let e := (withRule "t" "$1b$2" "t").perform (.press (.plain "tab"))
    e.Reachable ∧ e.text = ['b'] ∧ e.fields = [⟨1, 1⟩, ⟨1, 1⟩] ∧
      ∃ e₁ e₂, e.press (.ofChar 'a') = ⟨e₁, .ok true⟩ ∧
        e₁.press (.plain "backspace") = ⟨e₂, .ok true⟩ ∧ e₂.text = ['b'] ∧
        e₂.selection = .caret 0 ∧ e₂.fields = [⟨1, 1⟩, ⟨1, 1⟩] := by
  intro e
  have he : e.Reachable := ⟨_, 1, 0, "t", none, [(0, .press (.plain "tab"))], rfl⟩
  have hr : ∀ r ∈ (withRule "t" "$1b$2" "t").config.rules, r.Tractable := by
    rw [withRule, ofText, List.forall_mem_singleton]
    exact ⟨by decide +kernel, Template.hasShortNumbers_of_not_mem (by decide)⟩
  have hconfig : e.config = (withRule "t" "$1b$2" "t").config :=
    (agrees_press (Rule.alike_mend hr) (.plain "tab")).config
  have ht : e.text = ['b'] := by decide +kernel
  have hs : e.selection = .caret 0 := by decide +kernel
  have hfields : e.fields = [⟨1, 1⟩, ⟨1, 1⟩] := by decide +kernel
  have hf : ∀ t caret, e.fire t caret true false = .ok none := by
    intro t caret
    rw [Editor.fire, hconfig]
    exact fire_auto_manual rfl ..
  obtain ⟨e₁, e₂, h₁, h₂, ht₂, hs₂, hf₂⟩ := backspace_takes_back (k := .ofChar 'a') (c := 'a') he
    (by rw [hconfig]; rfl) (fun _ r hm _ => hr r (hconfig ▸ hm)) (by rw [hs]; decide)
    (by decide +kernel) (by simp [overtype?, isOvertyped]) (fun _ f => by simp [hf])
  exact ⟨he, ht, hfields, e₁, e₂, h₁, h₂, ht₂.trans ht, hs₂.trans hs, hf₂.trans hfields⟩

/-- A rule with too large a count is tried when a letter is typed: the press fails, the text is left
as it was, and Backspace takes a character away that was there before. -/
theorem backspace_after_failure :
    let e := ofText ⟨[⟨.pattern "a\x7b4294967295\x7d" [], .text "x", ['A'], 0, []⟩], .standard, false,
      "  ", " & "⟩ 1 0 "b" none
    let e₁ := (e.press (.ofChar 'a')).editor
    e.Reachable ∧ e.config.keymap = .standard ∧ e.selection = .caret 1 ∧
      e.overtype? 'a' = none ∧ (∀ f, e.fire "ba" 2 true false ≠ .ok (some f)) ∧
      (e.press (.ofChar 'a')).answer.toBool = false ∧ e₁.text = ['b'] ∧
      (e₁.press (.plain "backspace")).editor.text = [] := by
  intro e e₁
  have hf : ∀ f, e.fire "ba" 2 true false ≠ .ok (some f) := by
    intro f hf
    have hn : (e.fire "ba" 2 true false).toBool = false := by decide +kernel
    rw [hf] at hn
    contradiction
  exact ⟨⟨_, 1, 0, "b", none, [], rfl⟩, rfl, by decide +kernel, by simp [overtype?, isOvertyped],
    hf, by decide +kernel, by decide +kernel, by decide +kernel⟩

end LatexSnippets.Editor
