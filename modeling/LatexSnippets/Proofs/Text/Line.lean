import Mathlib.Data.List.Infix
import LatexSnippets.Proofs.Text

/-!
A text as the list of its lines. Every offset lies in one line: before it stand whole lines and the
first part of that line, after it the rest of the line and whole lines again.
-/

namespace LatexSnippets.Text

/-- Lines, each with the newline that ends it. -/
def ended (ls : List Text) : Text := ls.flatMap (· ++ ['\n'])

/-- Where a line begins, given by its number. -/
def lineOffset (ls : List Text) (k : Nat) : Nat := (ended (ls.take k)).length

variable {t l p s : Text} {ls before after : List Text} {i : Int}

@[simp] theorem ended_nil : ended [] = [] := rfl

@[simp] theorem ended_cons (l : Text) (ls : List Text) :
    ended (l :: ls) = l ++ '\n' :: ended ls := by simp [ended]

@[simp] theorem ended_append (before after : List Text) :
    ended (before ++ after) = ended before ++ ended after := List.flatMap_append

@[simp] theorem ended_eq_nil : ended ls = [] ↔ ls = [] := by cases ls <;> simp

theorem length_ended_concat (before : List Text) (l : Text) :
    (ended (before ++ [l])).length = (ended before).length + l.length + 1 := by
  simp [Nat.add_assoc]

theorem length_ended_dropLast_lt (h : ls ≠ []) :
    (ended ls.dropLast).length < (ended ls).length := by
  obtain ⟨before, l, rfl⟩ := (List.eq_nil_or_concat' ls).resolve_left h
  rw [List.dropLast_concat, length_ended_concat]
  omega

theorem count_ended (h : ∀ l ∈ ls, '\n' ∉ l) : Text.count '\n' (ended ls) = ls.length := by
  induction ls with
  | nil => rfl
  | cons l ls ih =>
    rw [List.forall_mem_cons] at h
    have hl := List.count_eq_zero.2 h.1
    rw [Text.count] at ih ⊢
    rw [ended_cons, List.count_append, List.count_cons_self, ih h.2, hl, List.length_cons,
      Nat.zero_add]

@[simp] theorem unlines_nil : unlines [] = [] := rfl

@[simp] theorem unlines_singleton (l : Text) : unlines [l] = l := by simp [unlines, joinWith]

theorem unlines_cons (l : Text) (h : ls ≠ []) : unlines (l :: ls) = l ++ '\n' :: unlines ls := by
  obtain ⟨m, ls, rfl⟩ := List.exists_cons_of_ne_nil h
  rw [unlines, joinWith, List.intercalate_cons_cons, List.append_assoc]
  rfl

theorem unlines_append (before : List Text) (h : after ≠ []) :
    unlines (before ++ after) = ended before ++ unlines after := by
  induction before with
  | nil => rfl
  | cons l before ih =>
    rw [List.cons_append, unlines_cons l (List.append_ne_nil_of_right_ne_nil _ h), ih, ended_cons,
      List.append_assoc, List.cons_append]

theorem unlines_concat (before : List Text) (p : Text) :
    unlines (before ++ [p]) = ended before ++ p := by
  rw [unlines_append before (by simp), unlines_singleton]

theorem ended_eq_unlines (h : ls ≠ []) : ended ls = unlines ls ++ ['\n'] := by
  obtain ⟨before, p, rfl⟩ := (List.eq_nil_or_concat' ls).resolve_left h
  simp [unlines_concat]

theorem length_unlines (h : ls ≠ []) : (unlines ls).length + 1 = (ended ls).length := by
  rw [ended_eq_unlines h, List.length_append, List.length_singleton]

/-- The rest of a line that has been cut. -/
theorem unlines_head (p s : Text) (ls : List Text) :
    unlines ((p ++ s) :: ls) = p ++ unlines (s :: ls) := by
  by_cases h : ls = []
  · simp [h]
  · rw [unlines_cons _ h, unlines_cons _ h, List.append_assoc]

theorem lines_unlines (hn : ls ≠ []) (h : ∀ l ∈ ls, '\n' ∉ l) : (unlines ls).lines = ls :=
  splitAt_joinWith hn h

theorem exists_unlines (t : Text) : ∃ ls, ls ≠ [] ∧ (∀ l ∈ ls, '\n' ∉ l) ∧ t = unlines ls := by
  induction t with
  | nil => exact ⟨[[]], by simp, by simp, by simp⟩
  | cons c t ih =>
    obtain ⟨ls, hn, hl, rfl⟩ := ih
    by_cases hc : c = '\n'
    · exact ⟨[] :: ls, by simp, by simpa using hl, by rw [unlines_cons _ hn, hc]; rfl⟩
    · obtain ⟨l, ls, rfl⟩ := List.exists_cons_of_ne_nil hn
      rw [List.forall_mem_cons] at hl
      refine ⟨(c :: l) :: ls, by simp, ?_, (unlines_head [c] l ls).symm⟩
      rw [List.forall_mem_cons, List.mem_cons, not_or]
      exact ⟨⟨Ne.symm hc, hl.1⟩, hl.2⟩

theorem not_mem_lines (t : Text) : ∀ l ∈ t.lines, '\n' ∉ l := by
  obtain ⟨ls, hn, hl, rfl⟩ := exists_unlines t
  rwa [lines_unlines hn hl]

theorem not_mem_of_perm {ls' : List Text} (ht : t.lines = ls) (h : ls'.Perm ls) :
    ∀ l ∈ ls', '\n' ∉ l := by
  intro l hl
  exact not_mem_lines t l (ht ▸ h.mem_iff.1 hl)

theorem unlines_lines (t : Text) : unlines t.lines = t := by
  obtain ⟨ls, hn, hl, rfl⟩ := exists_unlines t
  rw [lines_unlines hn hl]

theorem findFrom_newline (hs : '\n' ∉ s) (n : Nat) : findFrom ['\n'] n (unlines (s :: after)) =
    if after = [] then none else some (n + s.length) := by
  induction s generalizing n with
  | nil =>
    by_cases h : after = []
    · simp [h, findFrom]
    · rw [unlines_cons _ h, if_neg h]
      simp [findFrom]
  | cons c s ih =>
    rw [List.mem_cons, not_or] at hs
    have hc : ¬['\n'].isPrefixOf (c :: unlines (s :: after)) = true := by simpa using hs.1
    have hu : unlines ((c :: s) :: after) = c :: unlines (s :: after) := unlines_head [c] s after
    rw [hu, findFrom, if_neg hc, ih hs.2, List.length_cons, Nat.add_assoc, Nat.add_comm 1]

/-- An offset between two parts of a line, with the lines before it and those after it. -/
structure Cut (t : Text) (i : Int) (before : List Text) (p s : Text) (after : List Text) :
    Prop where
  lines : t.lines = before ++ (p ++ s) :: after
  upTo : t.upTo i = ended before ++ p
  onward : t.onward i = unlines (s :: after)

theorem exists_cut (t : Text) (i : Int) : ∃ before p s after, t.Cut i before p s after := by
  obtain ⟨ls, hn, hl, hu⟩ := exists_unlines (t.upTo i)
  obtain ⟨before, p, rfl⟩ := (List.eq_nil_or_concat' ls).resolve_left hn
  obtain ⟨rest, hn', hl', ho⟩ := exists_unlines (t.onward i)
  obtain ⟨s, after, rfl⟩ := List.exists_cons_of_ne_nil hn'
  rw [unlines_concat] at hu
  refine ⟨before, p, s, after, ?_, hu, ho⟩
  rw [← upTo_append_onward t i, hu, ho, List.append_assoc, ← unlines_head,
    ← unlines_append _ (List.cons_ne_nil _ _), lines_unlines (by simp)]
  rw [List.forall_mem_append, List.forall_mem_singleton] at hl
  rw [List.forall_mem_cons] at hl'
  rw [List.forall_mem_append, List.forall_mem_cons, List.mem_append, not_or]
  exact ⟨hl.1, ⟨hl.2, hl'.1⟩, hl'.2⟩

theorem cut_line {k : Nat} (h : t.lines = before ++ l :: after) (hk : k ≤ l.length) :
    t.Cut ((ended before).length + k) before (l.take k) (l.drop k) after := by
  have ht : t = (ended before ++ l.take k) ++ unlines (l.drop k :: after) := by
    rw [← unlines_lines t, h, unlines_append _ (List.cons_ne_nil _ _), List.append_assoc,
      ← unlines_head (l.take k), List.take_append_drop]
  have hl : ((ended before).length + k : Int) = (ended before ++ l.take k).length := by
    rw [List.length_append, List.length_take, Nat.min_eq_left hk, Int.natCast_add]
  refine ⟨by rw [h, List.take_append_drop], ?_, ?_⟩
  · rw [hl]
    conv_lhs => rw [ht]
    exact upTo_left _ _
  · rw [hl]
    conv_lhs => rw [ht]
    exact onward_left _ _

theorem cut_concat (h : ∀ m ∈ before ++ [l], '\n' ∉ m) :
    (ended before ++ l).Cut (ended before ++ l).length before l [] [] := by
  have hl : (ended before ++ l).lines = before ++ [l] := by
    rw [← unlines_concat, lines_unlines (by simp) h]
  have hc := cut_line hl (Nat.le_refl l.length)
  rwa [List.take_length, List.drop_length, ← Int.natCast_add, ← List.length_append] at hc

namespace Cut

variable (h : t.Cut i before p s after)

include h

theorem not_mem_before : ∀ l ∈ before, '\n' ∉ l := by
  intro l hl
  exact not_mem_lines t l (by rw [h.lines]; exact List.mem_append_left _ hl)

theorem not_mem : '\n' ∉ p ∧ '\n' ∉ s := by
  have := not_mem_lines t (p ++ s) (by rw [h.lines]; simp)
  rwa [List.mem_append, not_or] at this

theorem lineIndex : t.lineIndex i = before.length := by
  have hc := count_ended h.not_mem_before
  rw [Text.count] at hc
  rw [Text.lineIndex, h.upTo, Text.count, List.count_append, hc,
    List.count_eq_zero.2 h.not_mem.1, Nat.add_zero]

theorem take_lines : t.lines.take before.length = before := by rw [h.lines, List.take_left]

theorem drop_lines : t.lines.drop (before.length + 1) = after := by
  rw [h.lines, List.drop_length_add_append, List.drop_succ_cons, List.drop_zero]

theorem lineBefore : t.lineBefore i = p := by
  have hr : ∀ c ∈ p.reverse, decide (c ≠ '\n') = true := by
    intro c hc
    rw [decide_eq_true_iff]
    rintro rfl
    exact h.not_mem.1 (List.mem_reverse.1 hc)
  rw [Text.lineBefore, h.upTo, List.reverse_append, List.takeWhile_append_of_pos hr]
  rcases List.eq_nil_or_concat' before with rfl | ⟨before, l, rfl⟩ <;> simp

theorem lineStart : t.lineStart i = (ended before).length := by
  rw [Text.lineStart, h.lineBefore, h.upTo, List.length_append, Nat.add_sub_cancel]

theorem upTo_lineStart : t.upTo (ended before).length = ended before := by
  rw [← upTo_append_onward t i, h.upTo, List.append_assoc, upTo_left]

theorem getLast?_upTo : (t.upTo i).getLast? = some '\n' ↔ p = [] ∧ before ≠ [] := by
  rw [h.upTo]
  obtain rfl | ⟨p, c, rfl⟩ := List.eq_nil_or_concat' p
  · rw [List.append_nil]
    obtain rfl | ⟨before, l, rfl⟩ := List.eq_nil_or_concat' before <;> simp
  · have hc : c ≠ '\n' := by
      rintro rfl
      exact h.not_mem.1 (by simp)
    simp [hc]

section Within

variable (h₀ : 0 ≤ i) (hi : i ≤ t.length)

include h₀ hi

theorem offset : i = (ended before).length + p.length := by
  have := congrArg List.length h.upTo
  have := place_eq h₀ hi
  simp only [length_upTo, List.length_append] at *
  omega

theorem length : (t.length : Int) = i + (unlines (s :: after)).length := by
  have := congrArg List.length h.onward
  have := place_eq h₀ hi
  rw [length_onward] at *
  omega

theorem lineEnd : (t.lineEnd i : Int) = i + s.length := by
  have hp := place_eq h₀ hi
  have hl := h.length h₀ hi
  rw [Text.lineEnd, find?, if_neg (Int.not_lt.2 hi), h.onward, findFrom_newline h.not_mem.2]
  by_cases ha : after = []
  · rw [ha, unlines_singleton] at hl
    rw [if_pos ha, Option.getD_none, hl]
  · rw [if_neg ha, Option.getD_some]
    omega

theorem lineEnd_lt (ha : after ≠ []) : t.lineEnd i < t.length := by
  have hl := h.length h₀ hi
  have := h.lineEnd h₀ hi
  rw [unlines_cons _ ha, List.length_append, List.length_cons] at hl
  omega

theorem onward_lineEnd (ha : after ≠ []) : t.onward (i + s.length + 1) = unlines after := by
  have ht : t = (t.upTo i ++ (s ++ ['\n'])) ++ unlines after := by
    calc t = t.upTo i ++ t.onward i := (upTo_append_onward t i).symm
      _ = t.upTo i ++ (s ++ '\n' :: unlines after) := by rw [h.onward, unlines_cons _ ha]
      _ = _ := by simp
  have hl : ((t.upTo i ++ (s ++ ['\n'])).length : Int) = i + s.length + 1 := by
    have := place_eq h₀ hi
    simp only [List.length_append, length_upTo, List.length_singleton]
    omega
  have ho := onward_left (t.upTo i ++ (s ++ ['\n'])) (unlines after)
  rwa [← ht, hl] at ho

end Within

end Cut

/-- The text before the newline that ends the line above. -/
theorem Cut.upTo_above (h : t.Cut i (before ++ [l]) p s after) :
    t.upTo (ended before ++ l).length = ended before ++ l := by
  have ht : t = (ended before ++ l) ++ '\n' :: (p ++ t.onward i) := by
    conv_lhs => rw [← upTo_append_onward t i, h.upTo]
    simp
  rw [ht, upTo_left]

end LatexSnippets.Text
