import LatexSnippets.Expr.Eval
import LatexSnippets.Proofs.Except
import LatexSnippets.Proofs.Numeral

/-!
What evaluation reports: a text that is no integer, a count out of range, a text that is too long, a
division by zero, and an integer that is too long to be written.
-/

namespace LatexSnippets.Expr

inductive Error.OfEvaluation : Error → Prop
  | notInteger (t : Text) : OfEvaluation (.notInteger t)
  | countOutOfRange {n : Int} (h : n < 0 ∨ maxRepeat < n) : OfEvaluation (.countOutOfRange n)
  | tooLong {size : Nat} (h : maxOutput < size) : OfEvaluation (.tooLong size)
  | divisionByZero : OfEvaluation .divisionByZero
  | tooLongToWrite : OfEvaluation (.numeral .tooLongToWrite)

/-- A computation that fails only with what evaluation reports. -/
def Reports {α : Type} (x : Except Error α) : Prop := ∀ e, x = .error e → e.OfEvaluation

section Reports

variable {α β : Type} {x : Except Error α} {f : α → Except Error β}

theorem Reports.ok (a : α) : Reports (.ok a) := nofun

theorem Reports.error {e : Error} (h : e.OfEvaluation) : Reports (.error e : Except Error α) := by
  rintro _ ⟨⟩
  exact h

theorem Reports.bind (hx : Reports x) (hf : ∀ a, Reports (f a)) : Reports (x >>= f) := by
  intro e h
  obtain h | ⟨a, -, h⟩ := bind_eq_error.1 h
  · exact hx e h
  · exact hf a e h

end Reports

end LatexSnippets.Expr
