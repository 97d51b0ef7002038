import LatexSnippets.Proofs.Fields

/-!
Templates as they are meant, in place of as they are written: literal texts and fields. What is
written for them is read back as the same pieces.
-/

namespace LatexSnippets

inductive Template.Node
  | literal (t : Text)
  | stop (d : Fin 10)
  | filled (d : Fin 10) (default : Text)
  deriving DecidableEq, Repr

namespace Template.Node

def write : Node → Text
  | literal t => Piece.escape t
  | stop d => ['$', Nat.digitChar d]
  | filled d t => '$' :: '\x7b' :: Nat.digitChar d :: ':' :: (Piece.escape t ++ ['\x7d'])

def pieces : Node → List Piece
  | literal t => t.map .char
  | stop d => [.stop d]
  | filled d t => [.filled d t]

def text : Node → Text
  | literal t => t
  | stop _ => []
  | filled _ t => t

def id? : Node → Option Nat
  | literal _ => none
  | stop d | filled d _ => some d

end Template.Node

namespace Piece

@[simp] theorem escape_nil : escape [] = [] := rfl

@[simp] theorem escape_cons (c : Char) (t : Text) :
    escape (c :: t) = (if isEscapable c then ['\\', c] else [c]) ++ escape t := rfl

theorem not_isEscapable {c : Char} (h : ¬isEscapable c = true) :
    c ≠ '$' ∧ c ≠ '\x7d' ∧ c ≠ '\\' := by
  simpa [isEscapable, and_assoc] using h

theorem readAll_cons {c : Char} (h₁ : c ≠ '\\') (h₂ : c ≠ '$') (rest : Text) :
    readAll (c :: rest) = .char c :: readAll rest := by
  rw [readAll]
  · intro d after hd _
    exact h₁ hd
  · exact h₂

theorem readAll_backslash {c : Char} (h : isEscapable c = false) (rest : Text) :
    readAll ('\\' :: c :: rest) = .char '\\' :: readAll (c :: rest) := by
  rw [readAll, if_neg (by simp [h])]

theorem readAll_escape (t rest : Text) :
    readAll (escape t ++ rest) = t.map .char ++ readAll rest := by
  induction t with
  | nil => rfl
  | cons c t ih =>
    by_cases h : isEscapable c
    · simp [h, readAll, ih]
    · obtain ⟨h₁, -, h₂⟩ := not_isEscapable h
      simp [h, readAll_cons h₂ h₁, ih]

theorem readDefault_cons {c : Char} (h₁ : c ≠ '\x7d') (h₂ : c ≠ '\\') (rest : Text) :
    readDefault (c :: rest) = (readDefault rest).map fun (t, after) => (c :: t, after) := by
  rw [readDefault]
  · exact h₁
  · intro d after hd _
    exact h₂ hd

theorem readDefault_escape_append (t rest : Text) :
    readDefault (escape t ++ rest) =
      (readDefault rest).map fun (s, after) => (t ++ s, after) := by
  induction t with
  | nil => simp
  | cons c t ih =>
    by_cases h : isEscapable c
    · simp [h, readDefault, ih, Function.comp_def]
    · obtain ⟨-, h₁, h₂⟩ := not_isEscapable h
      simp [h, readDefault_cons h₁ h₂, ih, Function.comp_def]

theorem readDefault_escape (t rest : Text) :
    readDefault (escape t ++ '\x7d' :: rest) = some (t, rest) := by
  simp [readDefault_escape_append, readDefault]

end Piece

namespace Template.Node

theorem digitChar_spec (d : Fin 10) : (Nat.digitChar d).isDigit = true ∧
    (Nat.digitChar d).toNat - '0'.toNat = d ∧ Nat.digitChar d ≠ '\x7b' ∧
      Unicode.digit? (Nat.digitChar d) = some d.val := by
  decide +revert

theorem readField_stop (d : Fin 10) (rest : Text) :
    Piece.readField (Nat.digitChar d :: rest) = some (.stop d, rest) := by
  obtain ⟨h₁, h₂, h₃, -⟩ := digitChar_spec d
  rw [Piece.readField]
  · rw [if_pos h₁, h₂]
  · intro c after h _
    exact h₃ h

theorem readField_filled (d : Fin 10) (t rest : Text) :
    Piece.readField ('\x7b' :: Nat.digitChar d :: ':' :: (Piece.escape t ++ '\x7d' :: rest)) =
      some (.filled d t, rest) := by
  simp [Piece.readField, (digitChar_spec d).2.2.2, Piece.readDefault_escape]

theorem readAll_field {rest after : Text} {p : Piece} (h : Piece.readField rest = some (p, after)) :
    Piece.readAll ('$' :: rest) = p :: Piece.readAll after := by
  rw [Piece.readAll]
  split
  · next h' =>
    rw [h] at h'
    simp only [Option.some.injEq, Prod.mk.injEq] at h'
    rw [h'.1, h'.2]
  · next h' =>
    rw [h] at h'
    contradiction

theorem readAll_append (nd : Node) (rest : Text) :
    Piece.readAll (nd.write ++ rest) = nd.pieces ++ Piece.readAll rest := by
  cases nd with
  | literal t => exact Piece.readAll_escape t rest
  | stop d => exact readAll_field (readField_stop d rest)
  | filled d t =>
    simp only [write, List.cons_append, List.append_assoc, List.nil_append]
    exact readAll_field (readField_filled d t rest)

theorem readAll_write (ns : List Node) :
    Piece.readAll (ns.flatMap write) = ns.flatMap pieces := by
  induction ns with
  | nil => simp [Piece.readAll]
  | cons nd ns ih => rw [List.flatMap_cons, readAll_append, ih, List.flatMap_cons]

end Template.Node

end LatexSnippets
