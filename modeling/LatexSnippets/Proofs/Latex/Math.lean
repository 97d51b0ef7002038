import Mathlib.Data.List.Induction
import LatexSnippets.Latex.Math
import LatexSnippets.Proofs.Text

/-!
The mode at the end of a text, taken apart at any place. What stands before the place changes the
mode behind it as a whole, and the part that one dollar sign has in it: the first behind the
backslashes that may follow. From that it can be said of two dollar signs put into a text when the
mode behind them stays as it is, and of any place that its mode is the parity of the dollar signs
before it that are not escaped.
-/

namespace LatexSnippets.Latex

/-- Whether what follows a text is escaped: an odd number of backslashes stands at its end. -/
def escapes (t : Text) : Bool := (t.reverse.takeWhile (· = '\\')).length % 2 = 1

/-- Whether the first character of a text that is no backslash is a dollar sign. -/
def leadsToDollar (t : Text) : Bool := (t.dropWhile (· = '\\')).head? = some '$'

/-- Whether two dollar signs put around `inner` leave the mode behind them as it is. They switch it
twice, but a new sign that is escaped does not count, and a sign of the text that the backslashes
before a new one had reached is no longer escaped, or no longer free. -/
def keepsMode (before inner after : Text) : Bool :=
  (escapes before ^^ escapes inner) =
    ((escapes before && leadsToDollar inner) ^^ (escapes (before ++ inner) && leadsToDollar after))

variable (t u : Text)

theorem escapes_concat (c : Char) : escapes (t ++ [c]) = (c = '\\' && !escapes t) := by
  by_cases h : c = '\\'
  · simp only [escapes, List.reverse_concat, List.takeWhile_cons_of_pos, h, List.length_cons,
      decide_true, Bool.true_and]
    grind
  · simp [escapes, h]

/-- Behind a place that is not escaped only the backslashes from there on count. -/
theorem escapes_append (h : escapes t = false) : escapes (t ++ u) = escapes u := by
  induction u using List.reverseRecOn with
  | nil => rw [List.append_nil, h]; rfl
  | append_singleton u c ih => rw [← List.append_assoc, escapes_concat, escapes_concat, ih]

theorem leadsToDollar_backslash : leadsToDollar ('\\' :: t) = leadsToDollar t := rfl

theorem leadsToDollar_cons {c : Char} (h : c ≠ '\\') :
    leadsToDollar (c :: t) = decide (c = '$') := by
  simp [leadsToDollar, h]

/-- Of a text, the mode and the escape at its end are all that counts behind it. -/
theorem mathAfter_split :
    mathAfter false false (t ++ u) = mathAfter (escapes t) (mathAfter false false t) u := by
  induction t using List.reverseRecOn generalizing u with
  | nil => rfl
  | append_singleton t c ih =>
    rw [List.append_assoc, ih, ih, escapes_concat]
    by_cases h : c = '\\' <;> simp [mathAfter, h]

theorem mathAfter_xor (escaped inside : Bool) :
    mathAfter escaped inside t = (inside ^^ mathAfter escaped false t) := by
  induction t generalizing escaped inside with
  | nil => simp [mathAfter]
  | cons c t ih =>
    by_cases hb : c = '\\'
    · rw [mathAfter, mathAfter, if_pos hb, if_pos hb, ih]
    · rw [mathAfter, mathAfter, if_neg hb, if_neg hb, ih false (ite ..),
        ih false (ite _ (!false) _)]
      cases decide (c = '$') && !escaped <;> simp

theorem mathAfter_true :
    mathAfter true false t = (leadsToDollar t ^^ mathAfter false false t) := by
  induction t with
  | nil => rfl
  | cons c t ih =>
    by_cases hb : c = '\\'
    · rw [hb, leadsToDollar_backslash, mathAfter, mathAfter, if_pos rfl, if_pos rfl, Bool.not_true,
        Bool.not_false, ih]
      simp
    · rw [leadsToDollar_cons t hb, mathAfter, mathAfter, if_neg hb, if_neg hb]
      by_cases hd : c = '$'
      · simp [hd, mathAfter_xor t false true]
      · simp [hd]

theorem mathAfter_append : mathAfter false false (t ++ u) =
    (mathAfter false false t ^^ (escapes t && leadsToDollar u) ^^ mathAfter false false u) := by
  rw [mathAfter_split, mathAfter_xor]
  cases escapes t with
  | false => simp
  | true => simp [mathAfter_true]

theorem mathAfter_dollar : mathAfter false false ('$' :: t) = !mathAfter false false t := by
  rw [mathAfter, if_neg (by decide), mathAfter_xor]
  simp

/-- The mode behind two dollar signs is the one without them, or the other one. -/
theorem mathAfter_paired (before inner after : Text) :
    mathAfter false false (before ++ '$' :: (inner ++ '$' :: after)) =
      mathAfter false false (before ++ (inner ++ after)) ↔ keepsMode before inner after = true := by
  have hd (t : Text) : leadsToDollar ('$' :: t) = true := leadsToDollar_cons t (by decide)
  have with_dollars : mathAfter false false (before ++ '$' :: (inner ++ '$' :: after)) =
      (mathAfter false false before ^^ escapes before ^^ mathAfter false false inner ^^
        escapes inner ^^ mathAfter false false after) := by
    simp [mathAfter_append, mathAfter_dollar, hd]
  have without : mathAfter false false (before ++ (inner ++ after)) =
      (mathAfter false false before ^^ (escapes before && leadsToDollar inner) ^^
        mathAfter false false inner ^^ (escapes (before ++ inner) && leadsToDollar after) ^^
        mathAfter false false after) := by
    rw [← List.append_assoc, mathAfter_append, mathAfter_append]
  rw [with_dollars, without, keepsMode, decide_eq_true_eq]
  grind

/-- Two dollar signs of which neither is put right behind an odd number of backslashes. -/
theorem keepsMode_of_unescaped {before inner : Text} (h₁ : escapes before = false)
    (h₂ : escapes (before ++ inner) = false) (after : Text) :
    keepsMode before inner after = true := by
  have hi : escapes inner = false := escapes_append before inner h₁ ▸ h₂
  simp [keepsMode, h₁, h₂, hi]

theorem insideMath_length : insideMath t t.length = mathAfter false false t := by
  have hp : Text.place t.length t.length = t.length := by simpa using Text.place_left t []
  rw [insideMath, Text.upTo, hp, List.take_length]

section Switches

/-- How many backslashes in a row stand right before the place `i`. -/
def backslashesBefore (t : Text) (i : Nat) : Nat :=
  ((t.take i).reverse.takeWhile (· = '\\')).length

/-- At the place `i` stands a dollar sign that is not escaped. -/
def Switches (t : Text) (i : Nat) : Prop := t[i]? = some '$' ∧ backslashesBefore t i % 2 = 0

instance (t : Text) : DecidablePred (Switches t) := fun i =>
  inferInstanceAs (Decidable (t[i]? = some '$' ∧ backslashesBefore t i % 2 = 0))

theorem insideMath_natCast (n : Nat) : insideMath t n = mathAfter false false (t.take n) := by
  rw [insideMath, Text.upTo_natCast]

theorem switches_iff {i : Nat} :
    Switches t i ↔ t[i]? = some '$' ∧ escapes (t.take i) = false := by
  rw [Switches, escapes, decide_eq_false_iff_not, Nat.mod_two_not_eq_one]
  rfl

/-- The mode changes over a dollar sign that is not escaped, and nowhere else. -/
theorem insideMath_succ (n : Nat) :
    insideMath t (n + 1 : Nat) = (insideMath t n ^^ decide (Switches t n)) := by
  rw [insideMath_natCast, insideMath_natCast, List.take_add_one, mathAfter_split]
  simp only [switches_iff]
  cases t[n]? with
  | none => simp [mathAfter]
  | some c =>
    by_cases hb : c = '\\'
    · simp [mathAfter, hb]
    · by_cases hd : c = '$'
      · cases escapes (t.take n) <;> simp [mathAfter, hd]
      · simp [mathAfter, hb, hd]

/-- A place is in math mode if the number of dollar signs before it that are not escaped is odd. -/
theorem insideMath_iff_odd_switches (n : Nat) :
    insideMath t n = true ↔ (List.range n).countP (Switches t ·) % 2 = 1 := by
  induction n with
  | zero =>
    rw [insideMath_natCast]
    simp [mathAfter]
  | succ n ih =>
    rw [insideMath_succ, List.range_succ, List.countP_append, List.countP_singleton]
    by_cases h : Switches t n
    · simp only [h, decide_true, Bool.xor_true, Bool.not_eq_true', ← Bool.not_eq_true, ih, if_true]
      omega
    · simp [h, ih]

/-- The first dollar sign is escaped, the second is not. -/
example : insideMath "\\$\\\\$a" 6 = true ∧
    (List.range 6).filter (Switches "\\$\\\\$a" ·) = [4] := by decide

end Switches

end LatexSnippets.Latex
