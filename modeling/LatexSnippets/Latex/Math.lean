import LatexSnippets.Text.Basic

/-!
Math mode, which unescaped dollar signs switch on and off.
-/

namespace LatexSnippets.Latex

/-- The mode at the end of a text. `escaped` says that an odd number of backslashes stands before
it, `inside` whether it begins in math mode. -/
def mathAfter (escaped inside : Bool) : Text → Bool
  | [] => inside
  | c :: rest =>
    if c = '\\' then mathAfter (!escaped) inside rest
    else mathAfter false (if c = '$' && !escaped then !inside else inside) rest

/-- Whether the offset `caret` lies in math mode. -/
def insideMath (t : Text) (caret : Int) : Bool := mathAfter false false (t.upTo caret)

end LatexSnippets.Latex
