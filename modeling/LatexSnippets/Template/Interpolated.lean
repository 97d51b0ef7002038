import LatexSnippets.Expr.Eval
import LatexSnippets.Expr.Parser
import LatexSnippets.Template.Field

/-!
Template texts with expressions between double braces. What an expression yields is escaped, so that
only the rest of the template can define fields. Expressions have all the room here that evaluating
them takes; with less of it, the template could not be computed.
-/

namespace LatexSnippets

inductive Segment
  | char (c : Char)
  | expr (e : Expr)
  deriving DecidableEq, Repr

structure Interpolated where
  source : Text
  segments : List Segment
  deriving DecidableEq, Repr

namespace Interpolated

/-- What stands before the first double closing brace and what follows it. -/
def readBraced : Text → Option (Text × Text)
  | '\x7d' :: '\x7d' :: rest => some ([], rest)
  | c :: rest => (readBraced rest).map fun (t, after) => (c :: t, after)
  | [] => none

theorem length_readBraced {t s after : Text} (h : readBraced t = some (s, after)) :
    after.length < t.length := by
  fun_induction readBraced t generalizing s after with
  | case1 rest =>
    simp only [Option.some.injEq, Prod.mk.injEq] at h
    simp only [List.length_cons, ← h.2]
    omega
  | case2 c rest _ ih =>
    obtain ⟨⟨u, r⟩, hr, he⟩ := Option.map_eq_some_iff.1 h
    have := ih hr
    simp only [Prod.mk.injEq] at he
    simp only [List.length_cons, ← he.2] at *
    omega
  | case3 => simp at h

def readSegments : Text → Except Expr.Error (List Segment)
  | '\x7b' :: '\x7b' :: rest =>
    match _h : readBraced rest with
    | some (body, after) => do
      let e ← Expr.parse body
      return .expr e :: (← readSegments after)
    | none => (readSegments ('\x7b' :: rest)).map (.char '\x7b' :: ·)
  | c :: rest => (readSegments rest).map (.char c :: ·)
  | [] => .ok []
termination_by t => t.length
decreasing_by
  all_goals simp only [List.length_cons]
  all_goals try omega
  have := length_readBraced ‹_›
  omega

def compile (source : Text) : Except Expr.Error Interpolated :=
  (readSegments source).map (⟨source, ·⟩)

def renderSegment (captures : Captures) : Segment → Except Expr.Error Text
  | .char c => .ok [c]
  | .expr e => do return Piece.escape (← (← e.eval captures).toText)

/-- The template text with its expressions replaced by their values. -/
def render (captures : Captures) (i : Interpolated) : Except Expr.Error Text := do
  let parts ← i.segments.mapM (renderSegment captures)
  Expr.checked parts.flatten

end Interpolated

end LatexSnippets
