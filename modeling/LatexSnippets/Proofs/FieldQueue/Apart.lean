import LatexSnippets.Proofs.FieldQueue

/-!
Two edits that lie apart, done in either order. The one at the front moves the place of the other,
and a stop is moved by every edit in front of it; what is left of the queue does not depend on which
edit came first.
-/

namespace LatexSnippets.FieldQueue

variable {q : FieldQueue} {s : Span} {d d₁ d₂ at_ o₁ o₂ : Int}

/-- A stop moved by `d`; nothing is left of one that would start before the text. -/
def shift? (d : Int) (s : Span) : Option Span := if 0 ≤ s.start + d then some (s.shift d) else none

/-- What two edits leave of a stop that change the text by `d₁` characters at the offset `o₁` and by
`d₂` characters at `o₂`. Both offsets are those of the text before the edits. -/
def moveTwice (d₁ o₁ d₂ o₂ : Int) (s : Span) : Option Span :=
  if s.start < o₁ then some s else if s.start < o₂ then shift? d₁ s else shift? (d₁ + d₂) s

theorem shift?_of_nonneg (h : 0 ≤ s.start + d) : shift? d s = some (s.shift d) := if_pos h

theorem shift?_shift : shift? d₂ (s.shift d₁) = shift? (d₁ + d₂) s := by
  rw [shift?, shift?, Span.shift_shift, Span.shift_start, Int.add_assoc]

theorem move_eq_shift? (h₀ : 0 ≤ s.start) (h : at_ ≤ s.start) : move d at_ s = shift? d s := by
  by_cases hd : 0 ≤ s.start + d
  · rw [move_of_le h hd, shift?_of_nonneg hd]
  · rw [move, if_neg (by omega), if_pos h]
    rfl

/-- The edit at the back has no part in a stop that lies between the two. -/
theorem bind_shift?_move (h : s.start < o₂) :
    (shift? d₁ s).bind (move d₂ (o₂ + d₁)) = shift? d₁ s := by
  by_cases hd : 0 ≤ s.start + d₁
  · rw [shift?_of_nonneg hd, Option.bind_some]
    exact move_of_lt (Int.add_lt_add_right h d₁) hd
  · rw [shift?, if_neg hd]
    rfl

section Stop

variable (h₀ : 0 ≤ s.start) (ho : 0 ≤ o₁)

include h₀ ho

theorem bind_move_front_first (h₁ : o₁ ≤ o₂ + d₁) :
    (move d₁ o₁ s).bind (move d₂ (o₂ + d₁)) = moveTwice d₁ o₁ d₂ o₂ s := by
  by_cases hs₁ : s.start < o₁
  · rw [move_of_lt hs₁ h₀, Option.bind_some, move_of_lt (by omega) h₀, moveTwice, if_pos hs₁]
  rw [move_eq_shift? h₀ (by omega), moveTwice, if_neg hs₁]
  by_cases hs₂ : s.start < o₂
  · rw [bind_shift?_move hs₂, if_pos hs₂]
  · have hd : 0 ≤ (s.shift d₁).start := by
      rw [Span.shift_start]
      omega
    rw [shift?_of_nonneg hd, Option.bind_some, move_eq_shift? hd, shift?_shift, if_neg hs₂]
    rw [Span.shift_start]
    omega

theorem bind_move_back_first (h : o₁ ≤ o₂) (h₂ : o₁ ≤ o₂ + d₂) :
    (move d₂ o₂ s).bind (move d₁ o₁) = moveTwice d₁ o₁ d₂ o₂ s := by
  by_cases hs₂ : s.start < o₂
  · rw [move_of_lt hs₂ h₀, Option.bind_some, moveTwice]
    by_cases hs₁ : s.start < o₁
    · rw [move_of_lt hs₁ h₀, if_pos hs₁]
    · rw [move_eq_shift? h₀ (by omega), if_neg hs₁, if_pos hs₂]
  · have hd : o₁ ≤ (s.shift d₂).start := by
      rw [Span.shift_start]
      omega
    rw [move_of_le (by omega) (Int.le_trans ho hd), Option.bind_some,
      move_eq_shift? (Int.le_trans ho hd) hd, shift?_shift, Int.add_comm, moveTwice,
      if_neg (by omega), if_neg hs₂]

end Stop

/-- Two edits of which one begins behind the other, before and after either of them, leave the same
stops of a queue in both orders: those between them moved by the first, those behind both by both,
and none that would start before the text. -/
theorem shift_comm_apart (hq : ∀ s ∈ q, 0 ≤ s.start) (ho : 0 ≤ o₁) (h : o₁ ≤ o₂)
    (h₁ : o₁ ≤ o₂ + d₁) (h₂ : o₁ ≤ o₂ + d₂) :
    (q.shift d₁ o₁).shift d₂ (o₂ + d₁) = (q.shift d₂ o₂).shift d₁ o₁ ∧
      (q.shift d₂ o₂).shift d₁ o₁ = q.filterMap (moveTwice d₁ o₁ d₂ o₂) := by
  have front : (q.shift d₁ o₁).shift d₂ (o₂ + d₁) = q.filterMap (moveTwice d₁ o₁ d₂ o₂) :=
    shift_shift_eq fun s hs => bind_move_front_first (hq s hs) ho h₁
  have back : (q.shift d₂ o₂).shift d₁ o₁ = q.filterMap (moveTwice d₁ o₁ d₂ o₂) :=
    shift_shift_eq fun s hs => bind_move_back_first (hq s hs) ho h h₂
  exact ⟨front.trans back.symm, back⟩

/-- The stop between the two edits would start before the text. -/
theorem shift_comm_apart_dropped :
    let q : FieldQueue := [⟨1, 1⟩, ⟨3, 5⟩, ⟨9, 9⟩]
    (∀ s ∈ q, 0 ≤ s.start) ∧ (q.shift (-4) 3).shift 2 (7 + -4) = [⟨1, 1⟩, ⟨7, 7⟩] ∧
      (q.shift 2 7).shift (-4) 3 = [⟨1, 1⟩, ⟨7, 7⟩] := by
  intro q
  have hq : ∀ s ∈ q, 0 ≤ s.start := by decide
  obtain ⟨hc, hf⟩ : (q.shift (-4) 3).shift 2 (7 + -4) = (q.shift 2 7).shift (-4) 3 ∧
      (q.shift 2 7).shift (-4) 3 = q.filterMap (moveTwice (-4) 3 2 7) :=
    shift_comm_apart hq (by decide) (by decide) (by decide) (by decide)
  have hm : q.filterMap (moveTwice (-4) 3 2 7) = [⟨1, 1⟩, ⟨7, 7⟩] := by decide
  exact ⟨hq, hc.trans (hf.trans hm), hf.trans hm⟩

end LatexSnippets.FieldQueue
