import LatexSnippets.Proofs.Editor.Sound
import LatexSnippets.Proofs.Text.Line

/-!
The lines that a selection covers. Its ends are counted from the beginning of these lines, so that a
selection that moves with its lines keeps its place in them.
-/

namespace LatexSnippets

namespace Text

/-- Two places in a block of lines, the first in its first line and the second in its last or behind
the newline that ends it. The second is not at the beginning of its line unless that is the only
one. -/
structure Encloses (block : List Text) (a c : Nat) : Prop where
  first : ∃ l ∈ block.head?, a ≤ l.length
  le : a ≤ c
  last : block.length = 1 ∨ (ended block.dropLast).length < c
  within : c ≤ (ended block).length

namespace Encloses

variable {block mid after after' : List Text} {a c : Nat} {p p' s s' : Text}

theorem ne_nil (h : Encloses block a c) : block ≠ [] := by
  rintro rfl
  obtain ⟨l, hl, -⟩ := h.first
  contradiction

theorem lt_length (h : Encloses block a c) : a < (ended block).length := by
  obtain ⟨l, hl, ha⟩ := h.first
  obtain ⟨more, rfl⟩ := List.head?_eq_some_iff.1 hl
  rw [ended_cons, List.length_append, List.length_cons]
  omega

theorem whole (p s : Text) (more : List Text) :
    Encloses ((p ++ s) :: more) p.length (ended ((p ++ s) :: more)).length where
  first := ⟨p ++ s, rfl, by simp⟩
  le := by
    simp only [ended_cons, List.length_append]
    omega
  last := .inr (length_ended_dropLast_lt (List.cons_ne_nil _ _))
  within := Nat.le_refl _

theorem part (hm : (p ++ s) :: after' = mid ++ (p' ++ s') :: after)
    (hle : p.length ≤ (ended mid).length + p'.length) (hp : p' = [] → mid = []) :
    Encloses (mid ++ [p' ++ s']) p.length ((ended mid).length + p'.length) where
  first := by
    have hl : (mid ++ [p' ++ s']).head? = some (p ++ s) := by
      have := congrArg List.head? hm
      cases mid <;> simpa using this.symm
    exact ⟨p ++ s, hl, by simp⟩
  le := hle
  last := by
    by_cases hmid : mid = []
    · exact .inl (by rw [hmid]; rfl)
    · have : 0 < p'.length := List.length_pos_iff.2 (mt hp hmid)
      rw [List.dropLast_concat]
      omega
  within := by
    rw [length_ended_concat, List.length_append]
    omega

/-- The place before the last newline lies in the last line, unless that is blank and only the lines
before it are enclosed. -/
theorem without_newline (h : Encloses block a (ended block).length) :
    ∃ block' after', block = block' ++ after' ∧ Encloses block' a ((ended block).length - 1) ∧
      ((ended block).length - 1 < (ended block').length ∨ after' ≠ []) := by
  have hlt := h.lt_length
  obtain ⟨init, m, rfl⟩ := (List.eq_nil_or_concat' block).resolve_left h.ne_nil
  rw [length_ended_concat, Nat.add_sub_cancel] at *
  by_cases hm : m = [] ∧ init ≠ []
  · obtain ⟨rfl, hne⟩ := hm
    have hfirst := h.first
    rw [List.head?_append_of_ne_nil _ hne] at hfirst
    exact ⟨init, [[]], rfl, ⟨hfirst, Nat.le_of_lt_succ hlt, .inr (length_ended_dropLast_lt hne),
      Nat.le_refl _⟩, .inr (List.cons_ne_nil _ _)⟩
  · refine ⟨init ++ [m], [], by simp, ⟨h.first, Nat.le_of_lt_succ hlt, ?_, ?_⟩, ?_⟩
    · by_cases hne : init = []
      · exact .inl (by rw [hne]; rfl)
      · have : 0 < m.length := List.length_pos_iff.2 fun hm' => hm ⟨hm', hne⟩
        rw [List.dropLast_concat]
        omega
    · rw [length_ended_concat]
      omega
    · rw [length_ended_concat]
      omega

end Encloses

end Text

namespace Editor

open Text

/-- The selection ends right behind a newline and begins before it. -/
def StopsBehindNewline (e : Editor) : Prop :=
  e.selection.start < e.selection.stop ∧ (e.text.upTo e.selection.stop).getLast? = some '\n'

/-- A block of lines is selected, from the place `a` in it to the place `c`. That is behind the block
only if another line begins there. -/
structure Selects (e : Editor) (before block after : List Text) (a c : Nat) : Prop where
  lines : e.text.lines = before ++ (block ++ after)
  selection : e.selection = ⟨(ended before).length + a, (ended before).length + c⟩
  encloses : Encloses block a c
  room : c < (ended block).length ∨ after ≠ []

variable {e : Editor} {before block after : List Text} {a c : Nat}

namespace Selects

variable (h : e.Selects before block after a c)

include h

theorem ne_nil : block ≠ [] := h.encloses.ne_nil

theorem text : e.text = unlines (before ++ (block ++ after)) := by rw [← h.lines, unlines_lines]

theorem start_eq : e.selection.start = (ended before).length + a := by rw [h.selection]

theorem stop_eq : e.selection.stop = (ended before).length + c := by rw [h.selection]

theorem exists_cut_start : ∃ p s after', e.text.Cut e.selection.start before p s after' := by
  obtain ⟨l, hl, ha⟩ := h.encloses.first
  obtain ⟨more, rfl⟩ := List.head?_eq_some_iff.1 hl
  rw [h.start_eq]
  exact ⟨_, _, _, cut_line h.lines ha⟩

/-- Within the lines, the selection ends in the last one. -/
theorem exists_cut_stop (hc : c < (ended block).length) :
    ∃ p s, e.text.Cut e.selection.stop (before ++ block.dropLast) p s after ∧ (p = [] → a = c) := by
  obtain ⟨init, m, rfl⟩ := (List.eq_nil_or_concat' block).resolve_left h.ne_nil
  have hlast := h.encloses.last
  have hle := h.encloses.le
  rw [List.dropLast_concat, List.length_append, List.length_singleton] at hlast
  have hinit : (ended init).length ≤ c := by
    rcases hlast with h₁ | h₁
    · simp [List.length_eq_zero_iff.1 (Nat.succ.inj h₁)]
    · exact Nat.le_of_lt h₁
  rw [length_ended_concat] at hc
  have hl : e.text.lines = (before ++ init) ++ m :: after := by simp [h.lines]
  have hm : c - (ended init).length ≤ m.length := by omega
  have hstop : e.selection.stop =
      (ended (before ++ init)).length + (c - (ended init).length : Nat) := by
    rw [h.stop_eq, ended_append, List.length_append]
    omega
  rw [List.dropLast_concat, hstop]
  refine ⟨_, _, cut_line hl hm, fun hp => ?_⟩
  -- With nothing of the last line selected, there is only this line.
  have hp := congrArg List.length hp
  rw [List.length_take, List.length_nil] at hp
  rcases hlast with h₁ | h₁
  · rw [List.length_eq_zero_iff.1 (Nat.succ.inj h₁), ended_nil, List.length_nil] at hp hm
    omega
  · omega

theorem exists_cut_stop_behind (hc : c = (ended block).length) :
    ∃ n rest, after = n :: rest ∧ e.text.Cut e.selection.stop (before ++ block) [] n rest := by
  obtain ⟨n, rest, rfl⟩ := List.exists_cons_of_ne_nil (h.room.resolve_left (by omega))
  have hl := h.lines
  rw [← List.append_assoc] at hl
  have hs := cut_line hl (Nat.zero_le n.length)
  refine ⟨n, rest, rfl, ?_⟩
  rw [h.stop_eq, hc, ← Int.natCast_add, ← List.length_append, ← ended_append]
  simpa using hs

theorem stopsBehindNewline_iff : e.StopsBehindNewline ↔ c = (ended block).length := by
  have hlt : e.selection.start < e.selection.stop ↔ a < c := by
    rw [h.selection]
    simp
  rw [StopsBehindNewline, hlt]
  constructor
  · rintro ⟨hac, hn⟩
    refine (Nat.lt_or_eq_of_le h.encloses.within).resolve_left fun hc => ?_
    obtain ⟨p, s, hs, hp⟩ := h.exists_cut_stop hc
    exact Nat.ne_of_lt hac (hp (hs.getLast?_upTo.1 hn).1)
  · intro hc
    obtain ⟨n, rest, -, hs⟩ := h.exists_cut_stop_behind hc
    refine ⟨hc ▸ h.encloses.lt_length, hs.getLast?_upTo.2 ⟨rfl, ?_⟩⟩
    exact List.append_ne_nil_of_right_ne_nil _ h.ne_nil

theorem lineIndex_start : e.text.lineIndex e.selection.start = before.length := by
  obtain ⟨p, s, after', hs⟩ := h.exists_cut_start
  exact hs.lineIndex

/-- The line in which the selection ends is the last of the block, or the one behind it. -/
theorem lineIndex_stop : e.text.lineIndex e.selection.stop =
    before.length + block.length - if c = (ended block).length then 0 else 1 := by
  have hb := List.length_pos_iff.2 h.ne_nil
  by_cases hc : c = (ended block).length
  · obtain ⟨n, rest, -, hs⟩ := h.exists_cut_stop_behind hc
    rw [if_pos hc, hs.lineIndex, List.length_append, Nat.sub_zero]
  · obtain ⟨p, s, hs, -⟩ := h.exists_cut_stop (Nat.lt_of_le_of_ne h.encloses.within hc)
    rw [if_neg hc, hs.lineIndex, List.length_append, List.length_dropLast]
    omega

theorem selectedLines_eq :
    e.selectedLines = (before.length, before.length + block.length - 1) := by
  have hb : (decide (e.selection.start < e.selection.stop) &&
      decide ((e.text.upTo e.selection.stop).getLast? = some '\n')) =
        decide (c = (ended block).length) := by
    rw [← Bool.decide_and]
    exact decide_eq_decide.2 h.stopsBehindNewline_iff
  simp only [selectedLines, hb, h.lineIndex_start, h.lineIndex_stop, decide_eq_true_eq]
  split <;> simp

end Selects

section Cuts

variable {mid after' : List Text} {p p' s s' : Text}

/-- The place where the selection stops does not lie in an earlier line than where it starts. -/
theorem Sound.exists_lines_between (h : e.Sound)
    (hs : e.text.Cut e.selection.start before p s after)
    (hq : e.text.Cut e.selection.stop block p' s' after') :
    ∃ mid, block = before ++ mid ∧ (p ++ s) :: after = mid ++ (p' ++ s') :: after' := by
  obtain ⟨⟨h₀, h₁⟩, h₂⟩ := h.selection
  rcases List.append_eq_append_iff.1 (hs.lines.symm.trans hq.lines) with hm | ⟨mid, rfl, hm⟩
  · exact hm
  · cases mid with
    | nil => exact ⟨[], by simp, hm.symm⟩
    | cons l mid =>
      obtain ⟨rfl, -⟩ := List.cons.inj hm
      have hstart := hs.offset h₀ (Int.le_trans h₁ h₂)
      have hstop := hq.offset (Int.le_trans h₀ h₁) h₂
      simp only [ended_append, ended_cons, List.length_append, List.length_cons] at hstart
      omega

/-- What is selected ends behind a newline or in a line of which some part is selected. -/
theorem Sound.exists_selects (h : e.Sound) :
    ∃ before block after a c, e.Selects before block after a c := by
  obtain ⟨before, p, s, after', hs⟩ := exists_cut e.text e.selection.start
  obtain ⟨block, p', s', after, hq⟩ := exists_cut e.text e.selection.stop
  obtain ⟨mid, rfl, hm⟩ := h.exists_lines_between hs hq
  obtain ⟨⟨h₀, h₁⟩, h₂⟩ := h.selection
  have hstart := hs.offset h₀ (Int.le_trans h₁ h₂)
  have hstop := hq.offset (Int.le_trans h₀ h₁) h₂
  have hlines := hq.lines
  rw [ended_append, List.length_append] at hstop
  by_cases hb : p' = [] ∧ mid ≠ []
  · obtain ⟨rfl, hne⟩ := hb
    obtain ⟨l, mid, rfl⟩ := List.exists_cons_of_ne_nil hne
    obtain ⟨rfl, -⟩ := List.cons.inj hm
    refine ⟨before, (p ++ s) :: mid, s' :: after, _, _, ?_, ?_, .whole p s mid,
      .inr (List.cons_ne_nil _ _)⟩
    · simpa using hlines
    · cases hsel : e.selection
      simp_all
  · have hp : p' = [] → mid = [] := fun hp => by_contra fun hmid => hb ⟨hp, hmid⟩
    refine ⟨before, mid ++ [p' ++ s'], after, _, _, ?_, ?_, .part hm (by omega) hp, .inl ?_⟩
    · simpa using hlines
    · cases hsel : e.selection
      simp_all [Int.add_assoc]
    · rw [length_ended_concat, List.length_append]
      omega

end Cuts

end Editor

end LatexSnippets
