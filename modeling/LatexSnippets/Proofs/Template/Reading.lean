import LatexSnippets.Proofs.Numeral
import LatexSnippets.Proofs.Template.Node

/-!
How the field syntax is read character by character, and which texts have no part in it.
-/

namespace LatexSnippets

namespace Piece

/-- A character that has no part in field syntax. -/
def isOrdinary (c : Char) : Bool :=
  !(isEscapable c || c = '\x7b' || c = ':' || Unicode.isDecimal c)

/-- Whether a text begins with an ordinary character. -/
def opensPlainly (t : Text) : Bool := t.head?.any isOrdinary

variable {c : Char} {t : Text}

theorem isOrdinary_iff : isOrdinary c = true ↔
    isEscapable c = false ∧ c ≠ '\x7b' ∧ c ≠ ':' ∧ Unicode.digit? c = none := by
  simp [isOrdinary, Unicode.isDecimal, and_assoc]

theorem isDigit_of_isOrdinary (h : isOrdinary c = true) : c.isDigit = false := by
  obtain ⟨-, -, -, hd⟩ := isOrdinary_iff.1 h
  rw [Bool.eq_false_iff]
  intro hc
  simpa [Unicode.isDecimal, hd] using Numeral.isDecimal_of_isDigit hc

theorem readAll_escaped (h : isEscapable c = true) (rest : Text) :
    readAll ('\\' :: c :: rest) = .char c :: readAll rest := by
  rw [readAll, if_pos h]

theorem readAll_dollar {rest : Text} (h : readField rest = none) :
    readAll ('$' :: rest) = .char '$' :: readAll rest := by
  rw [readAll]
  split
  · next h' =>
    rw [h] at h'
    contradiction
  · rfl

theorem readDefault_escaped (h : isEscapable c = true) (rest : Text) :
    readDefault ('\\' :: c :: rest) =
      (readDefault rest).map fun (t, after) => (c :: t, after) := by
  rw [readDefault, if_pos h]

theorem readDefault_backslash (h : isEscapable c = false) (rest : Text) :
    readDefault ('\\' :: c :: rest) =
      (readDefault (c :: rest)).map fun (t, after) => ('\\' :: t, after) := by
  rw [readDefault, if_neg (by simp [h])]

theorem readField_cons {d : Char} {rest : Text}
    (h : ∀ e after, d = '\x7b' → rest = e :: ':' :: after → False) :
    readField (d :: rest) =
      if d.isDigit then some (.stop (d.toNat - '0'.toNat), rest) else none := by
  rw [readField]
  exact h

theorem readField_ordinary (h : isOrdinary c = true) (rest : Text) :
    readField (c :: rest) = none := by
  rw [readField_cons, isDigit_of_isOrdinary h]
  · rfl
  · intro e after hc _
    exact (isOrdinary_iff.1 h).2.1 hc

theorem readField_brace {d : Char} {rest : Text}
    (h : Unicode.digit? d = none ∨ rest.head? ≠ some ':') :
    readField ('\x7b' :: d :: rest) = none := by
  unfold readField
  split
  · next he =>
    simp only [List.cons.injEq, true_and] at he
    obtain ⟨rfl, rfl⟩ := he
    rw [h.resolve_right (by simp)]
  · next he =>
    obtain ⟨rfl, -⟩ := List.cons.inj he
    rfl
  · rfl

section Inert

/-- No field begins with this text, a dollar sign already taken, whatever follows it. -/
def opensNoField : Text → Bool
  | [] => false
  | '\x7b' :: d :: rest => !Unicode.isDecimal d || rest.head?.any (· ≠ ':')
  | c :: _ => c ≠ '\x7b' && !c.isDigit

theorem readField_of_opensNoField (h : opensNoField t = true) (rest : Text) :
    readField (t ++ rest) = none := by
  unfold opensNoField at h
  split at h
  · contradiction
  · next d t =>
    rw [Bool.or_eq_true] at h
    refine readField_brace (h.imp (by simp [Unicode.isDecimal]) ?_)
    cases t <;> simp
  · next c t _ =>
    rw [Bool.and_eq_true, decide_eq_true_eq, Bool.not_eq_true'] at h
    rw [List.cons_append, readField_cons, h.2]
    · rfl
    · intro _ _ hb _
      exact h.1 hb

/-- A text that is read as it is, whatever follows it. -/
def isInert : Text → Bool
  | [] => true
  | '\\' :: rest => rest.head?.any (!isEscapable ·) && isInert rest
  | '$' :: rest => opensNoField rest && isInert rest
  | _ :: rest => isInert rest

theorem isInert_of_not_mem (hb : '\\' ∉ t) (hd : '$' ∉ t) : isInert t = true := by
  induction t with
  | nil => rfl
  | cons c t ih =>
    rw [List.mem_cons, not_or] at hb hd
    rw [isInert]
    · exact ih hb.2 hd.2
    · exact Ne.symm hb.1
    · exact Ne.symm hd.1

theorem readAll_inert (h : isInert t = true) (rest : Text) :
    readAll (t ++ rest) = t.map .char ++ readAll rest := by
  fun_induction isInert t with
  | case1 => rfl
  | case2 t ih =>
    obtain ⟨ht, hi⟩ := Bool.and_eq_true_iff.1 h
    match t, ht with
    | c :: t, ht =>
      rw [List.cons_append, List.cons_append, readAll_backslash (by simpa using ht),
        ← List.cons_append, ih hi]
      rfl
  | case3 t ih =>
    obtain ⟨ht, hi⟩ := Bool.and_eq_true_iff.1 h
    rw [List.cons_append, readAll_dollar (readField_of_opensNoField ht rest), ih hi]
    rfl
  | case4 c t h₁ h₂ ih =>
    rw [List.cons_append, readAll_cons h₁ h₂, ih h]
    rfl

theorem readDefault_inert (h : isInert t = true) (hb : '\x7d' ∉ t) (rest : Text) :
    readDefault (t ++ rest) = (readDefault rest).map fun (s, after) => (t ++ s, after) := by
  fun_induction isInert t with
  | case1 => simp
  | case2 t ih =>
    obtain ⟨ht, hi⟩ := Bool.and_eq_true_iff.1 h
    match t, ht with
    | c :: t, ht =>
      rw [List.cons_append, List.cons_append, readDefault_backslash (by simpa using ht),
        ← List.cons_append, ih hi (by simpa using hb), Option.map_map]
      rfl
  | case3 t ih =>
    obtain ⟨-, hi⟩ := Bool.and_eq_true_iff.1 h
    rw [List.cons_append, readDefault_cons (by decide) (by decide), ih hi (by simpa using hb),
      Option.map_map]
    rfl
  | case4 c t h₁ h₂ ih =>
    rw [List.mem_cons, not_or] at hb
    rw [List.cons_append, readDefault_cons (Ne.symm hb.1) h₁, ih h hb.2, Option.map_map]
    rfl

end Inert

end Piece

end LatexSnippets
