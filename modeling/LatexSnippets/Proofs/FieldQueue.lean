import Mathlib.Data.List.Basic
import LatexSnippets.FieldQueue
import LatexSnippets.Proofs.Span

/-!
What a shift does to a single stop. The whole queue is the stops one by one, so the order of those
that are left never changes.
-/

namespace LatexSnippets.FieldQueue

/-- What a shift by `d` from the offset `at_` on makes of a stop; nothing is left of one that would
start before the text. -/
def move (d at_ : Int) (s : Span) : Option Span :=
  if d = 0 then some s
  else if at_ ≤ s.start then if 0 ≤ s.start + d then some (s.shift d) else none
  else if 0 ≤ s.start then some s else none

theorem shift_eq_filterMap (q : FieldQueue) (d at_ : Int) :
    q.shift d at_ = q.filterMap (move d at_) := by
  by_cases hd : d = 0
  · have hm : move d at_ = some := by
      funext s
      rw [move, if_pos hd]
    rw [shift, if_pos hd, hm, List.filterMap_some]
  · simp only [shift, if_neg hd]
    induction q with
    | nil => rfl
    | cons s q ih =>
      by_cases h : at_ ≤ s.start
      · by_cases h' : 0 ≤ s.start + d
        · simp [move, hd, h, h', ih]
        · simp [move, hd, h, h', ih]
      · by_cases h' : 0 ≤ s.start
        · simp [move, hd, h, h', ih]
        · simp [move, hd, h, h', ih]

/-- Two shifts are one pass over the stops. -/
theorem shift_shift_eq {q : FieldQueue} {d₁ d₂ at₁ at₂ : Int} {f : Span → Option Span}
    (h : ∀ s ∈ q, (move d₁ at₁ s).bind (move d₂ at₂) = f s) :
    (q.shift d₁ at₁).shift d₂ at₂ = q.filterMap f := by
  rw [shift_eq_filterMap, shift_eq_filterMap, List.filterMap_filterMap]
  exact List.filterMap_congr h

theorem move_of_le {d at_ : Int} {s : Span} (h : at_ ≤ s.start) (hd : 0 ≤ s.start + d) :
    move d at_ s = some (s.shift d) := by
  by_cases h₀ : d = 0
  · simp [move, h₀]
  · simp [move, h₀, h, hd]

theorem move_of_ge {d at_ : Int} {s : Span} (h : at_ ≤ s.start) (h₀ : 0 ≤ s.start) :
    move d at_ s = if 0 ≤ s.start + d then some (s.shift d) else none := by
  by_cases hd : d = 0
  · simp [move, hd, h₀]
  · simp [move, hd, h]

theorem move_of_lt {d at_ : Int} {s : Span} (h : s.start < at_) (h₀ : 0 ≤ s.start) :
    move d at_ s = some s := by
  by_cases hd : d = 0
  · simp [move, hd]
  · simp [move, hd, Int.not_le.2 h, h₀]

theorem move_eq_some {d at_ : Int} {s s' : Span} (h : move d at_ s = some s') :
    s' = s ∨ s' = s.shift d ∧ 0 ≤ s'.start := by
  unfold move at h
  split at h
  · exact .inl (Option.some.inj h).symm
  · split at h
    · split at h
      · next h₀ =>
        obtain rfl := Option.some.inj h
        exact .inr ⟨rfl, h₀⟩
      · contradiction
    · split at h
      · exact .inl (Option.some.inj h).symm
      · contradiction

theorem proper_shift {q : FieldQueue} (d at_ : Int) (h : ∀ s ∈ q, s.Proper) :
    ∀ s ∈ q.shift d at_, s.Proper := by
  rw [shift_eq_filterMap]
  intro s hs
  obtain ⟨r, hr, hs⟩ := List.mem_filterMap.1 hs
  rcases move_eq_some hs with rfl | ⟨rfl, h₀⟩
  · exact h s hr
  · exact (h r hr).shift h₀

theorem skipConsumed_suffix (q : FieldQueue) (caret : Int) : q.skipConsumed caret <:+ q :=
  List.dropWhile_suffix _

theorem advance_suffix (q : FieldQueue) (caret : Int) (t : Option Text) :
    (q.advance caret t).2 <:+ q := by
  unfold advance
  have h := q.skipConsumed_suffix caret
  split
  · exact List.nil_suffix
  · next s rest hq =>
    rw [hq] at h
    split
    · exact h
    · exact (List.suffix_cons s rest).trans h

theorem advance_rest {q : FieldQueue} {caret : Int} {t : Option Text} {step : Advance}
    {rest : FieldQueue} (h : q.advance caret t = (step, rest)) :
    (∃ s, step = .stop s) ∨ rest = q.skipConsumed caret := by
  unfold advance at h
  split at h
  · next hq =>
    simp only [Prod.mk.injEq] at h
    exact .inr (h.2.symm.trans hq.symm)
  · next s _ hq =>
    split at h
    · simp only [Prod.mk.injEq] at h
      exact .inr (h.2.symm.trans hq.symm)
    · simp only [Prod.mk.injEq] at h
      exact .inl ⟨s, h.1.symm⟩

end LatexSnippets.FieldQueue
