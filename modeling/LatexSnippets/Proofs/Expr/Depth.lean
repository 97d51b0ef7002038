import Mathlib.Order.MinMax
import LatexSnippets.Expr.Eval
import LatexSnippets.Proofs.Except
import LatexSnippets.Proofs.Expr.Roundtrip

/-!
Evaluation where there is not much room. An expression that is not too deep for it evaluates as it
does without an end to the room; else evaluation may be cut short, as that of long sums is.
-/

namespace LatexSnippets.Expr

/-- The levels that evaluation goes through, at most. -/
def depth : Expr → Nat
  | .int _ | .text _ | .capture _ => 1
  | .neg e => e.depth + 1
  | .binary _ l r => max l.depth r.depth + 1
  | .convert _ e => e.depth + 2
  | .repeated t n => max t.depth n.depth + 2
  | .repeatedWith t n sep => max t.depth (max n.depth sep.depth) + 2
  | .zeros rows cols => max rows.depth cols.depth + 2

section Cut

variable {α β : Type} {p q : Prop} {x y : Except Error α} {f g : α → Except Error β} {n d : Nat}

/-- A computation goes as another does, unless it is cut short, which takes that `p`. -/
def Cut (p : Prop) (x y : Except Error α) : Prop := x = y ∨ x = .error .tooDeep ∧ p

theorem Cut.refl (x : Except Error α) : Cut p x x := .inl rfl

theorem Cut.mono (h : Cut p x y) (hp : p → q) : Cut q x y := h.imp_right (And.imp_right hp)

theorem Cut.bind (h : Cut p x y) (hf : ∀ a, Cut p (f a) (g a)) : Cut p (x >>= f) (y >>= g) := by
  rcases h with rfl | ⟨rfl, hp⟩
  · cases x with
    | error e => exact .refl _
    | ok a => exact hf a
  · exact .inr ⟨rfl, hp⟩

theorem cut_enter {f : Room → Except Error α} (h : ∀ m, Cut (m < d) (f (.levels m)) y) :
    Cut (n < d + 1) ((Room.levels n).enter .tooDeep f) y := by
  cases n with
  | zero => exact .inr ⟨rfl, Nat.succ_pos d⟩
  | succ m => exact (h m).mono Nat.succ_lt_succ

end Cut

/-- The induction is on the expression: each operand is cut short only if it is too deep for the room
that is left, and then so is the whole. -/
theorem cut_evalWithin (e : Expr) (captures : Captures) (n : Nat) :
    Cut (n < e.depth) (e.evalWithin captures (.levels n)) (e.eval captures) := by
  induction e generalizing n with
  | int k | text t | capture i => exact cut_enter fun m => .refl _
  | neg e ih => exact cut_enter fun m => (ih m).bind fun v => .refl _
  | binary op l r ihl ihr =>
    refine cut_enter fun m => ?_
    exact ((ihl m).mono lt_max_of_lt_left).bind fun v =>
      ((ihr m).mono lt_max_of_lt_right).bind fun w => .refl _
  | convert f e ih =>
    refine cut_enter fun m => cut_enter fun m => ?_
    exact (ih m).bind fun v => .refl _
  | repeated t n iht ihn =>
    refine cut_enter fun m => cut_enter fun m => ?_
    exact ((iht m).mono lt_max_of_lt_left).bind fun t =>
      ((ihn m).mono lt_max_of_lt_right).bind fun n => .refl _
  | repeatedWith t n sep iht ihn ihs =>
    refine cut_enter fun m => cut_enter fun m => ?_
    exact ((iht m).mono lt_max_of_lt_left).bind fun t =>
      ((ihn m).mono fun h => lt_max_of_lt_right (lt_max_of_lt_left h)).bind fun n =>
        ((ihs m).mono fun h => lt_max_of_lt_right (lt_max_of_lt_right h)).bind fun sep => .refl _
  | zeros rows cols ihr ihc =>
    refine cut_enter fun m => cut_enter fun m => ?_
    exact ((ihr m).mono lt_max_of_lt_left).bind fun rows =>
      ((ihc m).mono lt_max_of_lt_right).bind fun cols => .refl _

/-- Where the room is enough, its size makes no difference. -/
theorem evalWithin_of_depth_le {e : Expr} {n : Nat} (h : e.depth ≤ n) (captures : Captures) :
    e.evalWithin captures (.levels n) = e.eval captures :=
  (cut_evalWithin e captures n).resolve_right fun hc => Nat.not_lt.2 h hc.2

section Ones

end Ones

end LatexSnippets.Expr
