import LatexSnippets.FieldQueue
import LatexSnippets.Proofs.Latex.Closing

/-!
Going on from a field inside an environment with columns or rows. A stop behind the environment is
kept back for a column separator. Where the environment ends is looked up as the next closing tag of
its name, so that it is its own only if no environment of the same name follows inside.
-/

namespace LatexSnippets.FieldQueue

open Latex

variable {E : Latex.Environment} {caret : Nat} {s : Span} {rest : FieldQueue} {t : Text}

theorem advance_cons (h : ¬(s.isEmpty = true ∧ s.start = caret)) :
    advance (s :: rest) caret (some t) =
      if closesBefore t caret s = true then (.separator, s :: rest) else (.stop s, rest) := by
  have hk : skipConsumed (s :: rest) caret = s :: rest := by
    rw [skipConsumed, List.dropWhile_cons_of_neg]
    simpa using h
  rw [advance, hk]
  rfl

theorem closesBefore_iff (hT : isTabular E.name = true) (hE : E.IsInnermost caret) (s : Span) :
    closesBefore E.text caret s = true ↔
      ∃ i, tabularEnd? E.text caret E.name = some i ∧ (i : Int) ≤ s.start := by
  have he : enclosingTabular? E.text caret = some E.name := by
    rw [enclosingTabular?, Int.toNat_natCast, hE.innermost?_eq, Option.filter_some, if_pos hT]
  rw [closesBefore, he]
  cases hf : tabularEnd? E.text caret E.name with
  | none => simp [hf]
  | some i => simp [hf]

/-- In a well nested text nothing is kept back outside the environments with columns or rows. -/
theorem advance_outside (hn : Tag.Nested (Tag.readAll t))
    (hs : ¬(s.isEmpty = true ∧ s.start = caret))
    (h : ∀ E : Latex.Environment, E.text = t → E.IsInnermost caret → isTabular E.name = false) :
    advance (s :: rest) caret (some t) = (.stop s, rest) := by
  have he : enclosingTabular? t caret = none := by
    rw [Option.eq_none_iff_forall_ne_some]
    intro name hname
    obtain ⟨hT, E, ht, rfl, hE⟩ := (enclosingTabular?_eq_some_iff hn).1 hname
    rw [h E ht hE] at hT
    contradiction
  rw [advance_cons hs, closesBefore, he]
  rfl

/-- A separator is due exactly before the stops behind the environment around the caret, for every
queue, if and only if the next closing tag of its name is its own: the caret has not entered it, and
no environment of the same name opens behind the caret inside. -/
theorem advance_in_environment_iff (hT : isTabular E.name = true) (hE : E.IsInnermost caret) :
    (∀ (s : Span) (rest : FieldQueue), ¬(s.isEmpty = true ∧ s.start = caret) →
      advance (s :: rest) caret (some E.text) =
        if (E.stop : Int) ≤ s.start then (.separator, s :: rest) else (.stop s, rest)) ↔
      caret ≤ E.stop ∧ ⟨true, E.name⟩ ∉ E.tagsAfter caret := by
  rw [← hE.tabularEnd?_eq_stop_iff]
  constructor
  · intro h
    -- Stops that are one character wide tell where the closing tag is found.
    have hclose (i : Nat) : closesBefore E.text caret ⟨i, i + 1⟩ = true ↔ E.stop ≤ i := by
      have hs : ¬((⟨i, i + 1⟩ : Span).isEmpty = true ∧ (i : Int) = caret) := by
        rintro ⟨he, -⟩
        simp only [Span.isEmpty, decide_eq_true_iff] at he
        omega
      have ha := h ⟨i, i + 1⟩ [] hs
      rw [advance_cons hs] at ha
      by_cases hc : closesBefore E.text caret ⟨i, i + 1⟩ = true <;>
        by_cases hi : E.stop ≤ i <;> simp_all
    obtain ⟨m, hf, hm⟩ := (closesBefore_iff hT hE _).1 ((hclose E.stop).2 (Nat.le_refl _))
    have hstop := (hclose m).1 ((closesBefore_iff hT hE _).2 ⟨m, hf, Int.le_refl _⟩)
    rw [hf, Nat.le_antisymm (Int.ofNat_le.1 hm) hstop]
  · intro hf s rest hs
    have hc : closesBefore E.text caret s = true ↔ (E.stop : Int) ≤ s.start := by
      rw [closesBefore_iff hT hE, hf]
      simp
    rw [advance_cons hs, if_congr hc rfl rfl]

/-- An environment that has one other in it, with a letter before and behind. -/
def casesAround (name : Text) (h : Tag.readAll ('a' :: (Tag.text ⟨true, name⟩ ++ 'b' ::
    (Tag.text ⟨false, name⟩ ++ ['c']))) = [⟨true, name⟩, ⟨false, name⟩]) : Latex.Environment where
  front := []
  name := "cases".toList
  inner := 'a' :: (Tag.text ⟨true, name⟩ ++ 'b' :: (Tag.text ⟨false, name⟩ ++ ['c']))
  behind := []
  named := ⟨by decide, List.all_eq_true.1 (by decide)⟩
  nested := h ▸ .environment .nil .nil

/-- An environment of another name inside does not matter: the stop before the closing tag is taken,
and the one behind it waits for a separator. -/
theorem advance_in_environment_iff_split :
    let E := casesAround "split".toList (by decide +kernel)
    E.text =
        "\\begin\x7bcases\x7da\\begin\x7bsplit\x7db\\end\x7bsplit\x7dc\\end\x7bcases\x7d".toList ∧
      isTabular E.name = true ∧ E.IsInnermost 14 ∧ E.stop = 40 ∧
      advance [⟨39, 39⟩] (14 : Nat) (some E.text) = (.stop ⟨39, 39⟩, []) ∧
      advance [⟨40, 40⟩] (14 : Nat) (some E.text) = (.separator, [⟨40, 40⟩]) := by
  intro E
  have hT : isTabular E.name = true := by decide
  have hb : E.tagsBefore 14 = [] := by decide +kernel
  have hE : E.IsInnermost 14 := ⟨by decide, by decide, hb ▸ .nil⟩
  have h := (advance_in_environment_iff hT hE).2 (by decide +kernel)
  exact ⟨by decide, hT, hE, by decide, h ⟨39, 39⟩ [] (by decide), h ⟨40, 40⟩ [] (by decide)⟩

/-- With an environment of the same name inside, its closing tag is taken for that of the outer one,
and the stop between the two waits for a separator. -/
theorem separator_inside_environment :
    let E := casesAround "cases".toList (by decide +kernel)
    E.text =
        "\\begin\x7bcases\x7da\\begin\x7bcases\x7db\\end\x7bcases\x7dc\\end\x7bcases\x7d".toList ∧
      Tag.Nested (Tag.readAll E.text) ∧ isTabular E.name = true ∧ E.IsInnermost 14 ∧ E.stop = 40 ∧
      advance [⟨39, 39⟩] (14 : Nat) (some E.text) = (.separator, [⟨39, 39⟩]) := by
  intro E
  have hn : Tag.readAll E.text = [⟨true, E.name⟩, ⟨true, E.name⟩, ⟨false, E.name⟩,
    ⟨false, E.name⟩] := by decide +kernel
  have hb : E.tagsBefore 14 = [] := by decide +kernel
  exact ⟨by decide, hn ▸ .environment (.environment .nil .nil) .nil, by decide,
    ⟨by decide, by decide, hb ▸ .nil⟩, by decide, by decide +kernel⟩

end LatexSnippets.FieldQueue
