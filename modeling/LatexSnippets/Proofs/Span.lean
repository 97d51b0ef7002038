import LatexSnippets.Span

/-!
Spans that lie in a text, and the ways of moving a span that keep it there.
-/

namespace LatexSnippets.Span

def Proper (s : Span) : Prop := 0 ≤ s.start ∧ s.start ≤ s.stop

def Within (s : Span) (n : Int) : Prop := s.Proper ∧ s.stop ≤ n

theorem Within.proper {s : Span} {n : Int} (h : s.Within n) : s.Proper := h.1

@[simp] theorem shift_start (s : Span) (d : Int) : (s.shift d).start = s.start + d := rfl

@[simp] theorem shift_stop (s : Span) (d : Int) : (s.shift d).stop = s.stop + d := rfl

@[simp] theorem shift_zero (s : Span) : s.shift 0 = s := by
  cases s
  simp [shift]

theorem shift_shift (s : Span) (d e : Int) : (s.shift d).shift e = s.shift (d + e) := by
  simp [shift, Int.add_assoc]

theorem within_caret {i n : Int} (h₀ : 0 ≤ i) (h : i ≤ n) : (caret i).Within n :=
  ⟨⟨h₀, Int.le_refl i⟩, h⟩

theorem within_clamp (s : Span) (n : Nat) : (s.clamp n).Within n := by
  simp only [Within, Proper, clamp]
  omega

theorem clamp_eq {s : Span} {n : Nat} (h : s.Within n) : s.clamp n = s := by
  obtain ⟨⟨h₀, h₁⟩, h₂⟩ := h
  cases s
  simp only [clamp, mk.injEq] at *
  omega

theorem Proper.shift {s : Span} {d : Int} (h : s.Proper) (hd : 0 ≤ s.start + d) :
    (s.shift d).Proper := by
  simp only [Proper, shift_start, shift_stop] at *
  omega

end LatexSnippets.Span
