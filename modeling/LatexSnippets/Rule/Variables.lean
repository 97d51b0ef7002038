import LatexSnippets.Assoc

/-!
Names for long alternatives in pattern sources. `${NAME}` stands for the text of the variable.
-/

namespace LatexSnippets.Variables

def reference (name : Text) : Text := '$' :: '\x7b' :: (name ++ ['\x7d'])

/-- Replaces the variables one after another, in the order of the table. -/
def expand (table : Assoc Text) (source : Text) : Text :=
  table.foldl (fun t v => t.replace (reference v.1) v.2) source

def greek : Text :=
  "alpha|beta|gamma|Gamma|delta|Delta|epsilon|varepsilon|zeta|eta|theta|Theta|vartheta|" ++
  "iota|kappa|lambda|Lambda|mu|nu|xi|Xi|pi|Pi|rho|varrho|sigma|Sigma|tau|upsilon|Upsilon|" ++
  "phi|Phi|varphi|chi|psi|Psi|omega|Omega"

def symbols : Text :=
  "infty|nabla|partial|dots|cdot|times|leftrightarrow|mapsto|setminus|mid|cap|cup|land|lor|" ++
  "subseteq|subset|implies|impliedby|iff|exists|forall|equiv|cong|simeq|approx|sim|propto|le|ge"

def moreSymbols : Text := "int|sum|prod|lim"

def standard : Assoc Text :=
  [("GREEK", greek), ("SYMBOL", symbols), ("MORE_SYMBOLS", moreSymbols)]

/-- Replaces the standard variables. -/
def expandStandard (source : Text) : Text := expand standard source

end LatexSnippets.Variables
