import Mathlib.Data.List.Forall2
import LatexSnippets.Proofs.Keymap
import LatexSnippets.Proofs.Text

/-!
Combinations by every spelling of their modifiers. A spelled combination is read as the identifier
of the press that it means, so that the press finds what was last bound under any spelling.
-/

namespace LatexSnippets

open Unicode

/-- A name of a modifier in any case: its own or another one. -/
def Modifier.Spells (m : Modifier) (t : Text) : Prop :=
  lower t = m.name ∨ (lower t, m) ∈ Modifier.aliases

namespace Key

open Text

/-- A combination as people write it: names of modifiers, then the key. -/
def spell (names : List Text) (key : Text) : Text := joinWith ['+'] (names ++ [key])

/-- The key of a combination: a plus sign or a text without one, with no blank at either end. -/
structure IsSpelledKey (key : Text) : Prop where
  ne_nil : key ≠ []
  eq_or_not_mem : key = ['+'] ∨ '+' ∉ key
  startsBlank_eq : key.startsBlank = false
  endsBlank_eq : key.endsBlank = false

variable {m : Modifier} {ms : List Modifier} {names : List Text} {t key : Text}

theorem known_name {name : Text} (h : name = m.name ∨ (name, m) ∈ Modifier.aliases) :
    Modifier.ofName? name = some m ∧ '+' ∉ name ∧ name.startsBlank = false ∧ name ≠ [] := by
  rcases h with rfl | h
  · cases m <;> decide
  · have : ∀ a ∈ Modifier.aliases, Modifier.ofName? a.1 = some a.2 ∧ '+' ∉ a.1 ∧
        a.1.startsBlank = false ∧ a.1 ≠ [] := by
      decide
    exact this _ h

/-- The case of a name hides no plus sign and no blank. -/
theorem spelled_name (h : m.Spells t) :
    Modifier.ofName? (lower t) = some m ∧ '+' ∉ t ∧ t.startsBlank = false ∧ t ≠ [] := by
  obtain ⟨hm, hp, hb, hn⟩ := known_name h
  refine ⟨hm, fun hc => hp (mem_lowerFrom (by decide +kernel) hc), ?_, ?_⟩
  · cases t with
    | nil => rfl
    | cons c t =>
      by_contra hc
      rw [Bool.not_eq_false, startsBlank, List.head?_cons, Option.any_some] at hc
      rw [lower, lowerFrom_cons_of_isLower (isLower_of_isBlank hc), startsBlank, List.head?_cons,
        Option.any_some, hc] at hb
      contradiction
  · rintro rfl
    exact hn rfl

theorem readModifiers_spelled (combination : Text) (h : List.Forall₂ Modifier.Spells ms names) :
    readModifiers combination names = .ok ms := by
  induction h with
  | nil => rfl
  | @cons m name ms names hm _ ih =>
    obtain ⟨hm, -, -, hn⟩ := spelled_name hm
    rw [readModifiers, hm]
    · simp only [ih]
      rfl
    · exact hn

theorem spelled_names (h : List.Forall₂ Modifier.Spells ms names) :
    ∀ t ∈ names, '+' ∉ t ∧ t.startsBlank = false ∧ t ≠ [] := by
  induction h with
  | nil => exact fun _ h => by cases h
  | cons hm _ ih => exact List.forall_mem_cons.2 ⟨(spelled_name hm).2, ih⟩

theorem readModifiers_joinWith (combination : Text) (h : List.Forall₂ Modifier.Spells ms names) :
    readModifiers combination (splitAt '+' (joinWith ['+'] names)) = .ok ms := by
  by_cases hn : names = []
  · subst hn
    cases h
    rfl
  · rw [splitAt_joinWith hn fun t ht => (spelled_names h t ht).1, readModifiers_spelled _ h]

theorem spell_nil (key : Text) : spell [] key = key := by
  rw [spell, List.nil_append, joinWith, List.intercalate_singleton]

theorem spell_of_ne_nil (h : names ≠ []) (key : Text) :
    spell names key = joinWith ['+'] names ++ '+' :: key := by
  rw [spell, joinWith_concat h, List.append_assoc, List.singleton_append]

theorem splitCombination_spell (hk : IsSpelledKey key) :
    splitCombination (spell names key) = (joinWith ['+'] names, key) := by
  by_cases hn : names = []
  · subst hn
    rw [spell, List.nil_append, joinWith, joinWith, List.intercalate_singleton]
    rcases hk.eq_or_not_mem with rfl | hp
    · rfl
    · exact splitCombination_of_not_mem hp
  · rw [spell_of_ne_nil hn]
    rcases hk.eq_or_not_mem with rfl | hp
    · exact splitCombination_append_plus _
    · exact splitCombination_append hp hk.ne_nil

theorem trim_spell (h : List.Forall₂ Modifier.Spells ms names) (hk : IsSpelledKey key) :
    (spell names key).trim = spell names key := by
  cases h with
  | nil =>
    rw [spell_nil]
    exact trim_eq_self hk.startsBlank_eq hk.endsBlank_eq
  | @cons _ name _ names hm h =>
    obtain ⟨-, -, hb, hn⟩ := spelled_name hm
    rw [spell_of_ne_nil (List.cons_ne_nil name names)]
    refine trim_eq_self ?_ ?_
    · obtain ⟨c, t, rfl⟩ := List.exists_cons_of_ne_nil hn
      cases names <;> exact hb
    · rw [List.append_cons, endsBlank_append _ hk.ne_nil, hk.endsBlank_eq]

/-- A spelled combination is read as the identifier of the press with its modifiers and its key. -/
theorem normalizeCombination_spell (h : List.Forall₂ Modifier.Spells ms names)
    (hk : IsSpelledKey key) :
    normalizeCombination (spell names key) = .ok (KeyEvent.identifier ⟨key, .ofList ms⟩) := by
  have hn : spell names key ≠ [] := by
    by_cases hn : names = []
    · subst hn
      rw [spell_nil]
      exact hk.ne_nil
    · rw [spell_of_ne_nil hn]
      simp
  rw [normalizeCombination_eq (by rwa [trim_spell h hk]), trim_spell h hk, splitCombination_spell hk,
    readModifiers_joinWith _ h]
  rfl

end Key

namespace Keymap

/-- What changes a keymap. -/
inductive Change
  | bind (combination action : Text)
  | unbind (combination : Text)
  | reset

/-- The keymap after a change. One that fails leaves it as it is. -/
def changed (m : Keymap) : Change → Keymap
  | .bind combination action =>
    match m.bind combination action with
    | .ok (_, m') => m'
    | .error _ => m
  | .unbind combination =>
    match m.unbind combination with
    | .ok (_, m') => m'
    | .error _ => m
  | .reset => .standard

def changedAll (m : Keymap) (changes : List Change) : Keymap := changes.foldl changed m

/-- Whether a change sets what an identifier is bound to. -/
def Change.Concerns (k : Text) : Change → Prop
  | .bind combination action =>
    Key.normalizeCombination combination = .ok k ∧ ∃ a : Action, action = a.name
  | .unbind combination => Key.normalizeCombination combination = .ok k
  | .reset => True

variable {m m' : Keymap} {k : Text} {x : Change} {changes : List Change}

theorem get?_changed_bind {combination : Text} (h : Key.normalizeCombination combination = .ok k)
    (a : Action) : (m.changed (.bind combination a.name)).get? k = some a := by
  rw [changed, bind_name a h]
  exact Assoc.get?_put_self m k a

theorem get?_changed (h : ¬ x.Concerns k) : (m.changed x).get? k = m.get? k := by
  cases x with
  | bind combination action =>
    rw [changed]
    split
    · next k' m' hb =>
      obtain ⟨hk, a, ha, rfl⟩ := exists_of_bind hb
      refine Assoc.get?_put_of_ne ?_ m a
      rintro rfl
      exact h ⟨hk, a, ha⟩
    · rfl
  | unbind combination =>
    rw [changed]
    split
    · next wasBound m' hu =>
      obtain ⟨k', hk, rfl⟩ := exists_of_unbind hu
      refine Assoc.get?_erase_of_ne ?_ m
      rintro rfl
      exact h hk
    · rfl
  | reset => exact absurd trivial h

theorem get?_changedAll (h : ∀ x ∈ changes, ¬ x.Concerns k) :
    (m.changedAll changes).get? k = m.get? k := by
  induction changes generalizing m with
  | nil => rfl
  | cons x changes ih =>
    rw [List.forall_mem_cons] at h
    exact (ih h.2).trans (get?_changed h.1)

/-- Every spelling of a combination is read as the press that it means, and that press finds what
was last bound under one of them, whatever else was changed before and since. -/
theorem press_finds_last_bound {ms : List Modifier} {names : List Text} {key : Text}
    (h : List.Forall₂ Modifier.Spells ms names) (hk : Key.IsSpelledKey key) :
    let e : KeyEvent := ⟨key, .ofList ms⟩
    Key.normalizeCombination (Key.spell names key) = .ok e.identifier ∧
      ∀ (m : Keymap) (before after : List Change) (a : Action),
        (∀ x ∈ after, ¬ x.Concerns e.identifier) →
        (m.changedAll (before ++ .bind (Key.spell names key) a.name :: after)).actionFor? e =
          some a := by
  intro e
  have hs := Key.normalizeCombination_spell h hk
  refine ⟨hs, fun m before after a ha => ?_⟩
  rw [changedAll, List.foldl_append, List.foldl_cons]
  exact (get?_changedAll ha).trans (get?_changed_bind hs a)

/-- Two names of one modifier around another, in mixed case, and a key by its long name. -/
theorem press_finds_last_bound_aliases :
    let ms : List Modifier := [.ctrl, .shift, .ctrl]
    let names : List Text := ["CONTROL".toList, "Shift".toList, "cTRL".toList]
    let key : Text := "ARROWUP".toList
    let after : List Change := [.unbind "up", .bind "ctrl+shift+z" "undo"]
    List.Forall₂ Modifier.Spells ms names ∧ Key.IsSpelledKey key ∧
      Key.spell names key = "CONTROL+Shift+cTRL+ARROWUP".toList ∧
      Key.normalizeCombination "CONTROL+Shift+cTRL+ARROWUP" = .ok "ctrl+shift+up".toList ∧
      (∀ x ∈ after, ¬ x.Concerns "ctrl+shift+up") ∧
      (Keymap.standard.changedAll (.bind "shift+ctrl+up" "undo" ::
        .bind (Key.spell names key) "redo" :: after)).actionFor? ⟨key, .ofList ms⟩ =
          some .redo := by
  intro ms names key after
  have h : List.Forall₂ Modifier.Spells ms names :=
    .cons (.inr (by decide +kernel)) (.cons (.inl (by decide +kernel))
      (.cons (.inl (by decide +kernel)) .nil))
  have hk : Key.IsSpelledKey key :=
    ⟨by decide, .inr (by decide), by decide +kernel, by decide +kernel⟩
  have hi : KeyEvent.identifier ⟨key, .ofList ms⟩ = "ctrl+shift+up".toList := by decide +kernel
  have ha : ∀ x ∈ after, ¬ x.Concerns "ctrl+shift+up" := by
    simp only [after, List.forall_mem_cons, List.not_mem_nil, false_implies, implies_true, and_true]
    exact ⟨fun hc => absurd (toOption_eq_some.2 hc) (by decide +kernel),
      fun hc => absurd (toOption_eq_some.2 hc.1) (by decide +kernel)⟩
  obtain ⟨hs, hl⟩ := press_finds_last_bound h hk
  rw [hi] at hs hl
  exact ⟨h, hk, by decide +kernel, hs, ha, hl .standard [.bind "shift+ctrl+up" "undo"] after .redo ha⟩

end Keymap

end LatexSnippets
