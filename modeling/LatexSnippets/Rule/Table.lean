import LatexSnippets.Rule.Basic
import LatexSnippets.Rule.Variables

/-!
The rules that hold when no others are given. Stops are numbered from 1 in the order of visiting;
`$0` is where the caret leaves the snippet.
-/

namespace LatexSnippets.RuleTable

def rule (trigger template options : String) : Rule :=
  .ofTexts trigger.toList template.toList options.toList

/-- A rule whose trigger is a pattern with variables in it. -/
def pattern (source template options : String) : Rule :=
  { rule "" template options with
    trigger := .pattern (Variables.expandStandard source.toList) [] }

/-- A rule whose trigger is a pattern and whose template holds expressions. -/
def computed (source template options : String) : Rule :=
  match Interpolated.compile template.toList with
  | .ok i => { pattern source "" options with template := .interpolated i }
  | .error _ => pattern source template options

def colors : List Rule := [
  rule "binom" "\\binom\x7b$1\x7d\x7b$2\x7d$0" "mA",
  { rule "R" "\\textcolor\x7bred\x7d\x7b$\x7bVISUAL\x7d\x7d$0" "mA" with
      description := "color red" },
  { rule "Y" "\\bbox[lightyellow]\x7b$\x7bVISUAL\x7d\x7d$0" "mA" with
      description := "highlight bg" },
  { rule "C" "\\textcolor\x7b$1\x7d\x7b$\x7bVISUAL\x7d\x7d$0" "mA" with
      description := "color by name around the selection" }]

def modes : List Rule := [
  rule "mk" "$$0$" "tA",
  rule "dm" "$$\n$0\n$$" "tAw",
  rule "beg" "\\begin\x7b$1\x7d\n$2\n\\end\x7b$1\x7d" "mA"]

def greekLetters : List Rule := [
  rule "@a" "\\alpha" "mA",
  rule "@b" "\\beta" "mA",
  rule "@g" "\\gamma" "mA",
  rule "@G" "\\Gamma" "mA",
  rule "@d" "\\delta" "mA",
  rule "@D" "\\Delta" "mA",
  rule "@e" "\\epsilon" "mA",
  rule ":e" "\\varepsilon" "mA",
  rule "@z" "\\zeta" "mA",
  rule "@t" "\\theta" "mA",
  rule "@T" "\\Theta" "mA",
  rule ":t" "\\vartheta" "mA",
  rule "@i" "\\iota" "mA",
  rule "@k" "\\kappa" "mA",
  rule "@l" "\\lambda" "mA",
  rule "@L" "\\Lambda" "mA",
  rule "@s" "\\sigma" "mA",
  rule "@S" "\\Sigma" "mA",
  rule "@u" "\\upsilon" "mA",
  rule "@U" "\\Upsilon" "mA",
  rule "@o" "\\omega" "mA",
  rule "@O" "\\Omega" "mA",
  rule "ome" "\\omega" "mA",
  rule "Ome" "\\Omega" "mA"]

def texts : List Rule := [
  rule "text" "\\text\x7b$1\x7d$0" "mA",
  rule "\"" "\\text\x7b$1\x7d$0" "mA"]

def operations : List Rule := [
  rule "sr" "^\x7b2\x7d" "mA",
  rule "cb" "^\x7b3\x7d" "mA",
  rule "rd" "^\x7b$1\x7d$0" "mA",
  rule "_" "_\x7b$1\x7d$0" "mA",
  rule "sts" "_\\text\x7b$0\x7d" "mA",
  rule "sq" "\\sqrt\x7b $1 \x7d$0" "mA",
  rule "//" "\\frac\x7b$1\x7d\x7b$2\x7d$0" "mA",
  rule "ee" "e^\x7b $1 \x7d$0" "mA",
  rule "invs" "^\x7b-1\x7d" "mA",
  { rule "([A-Za-z])(\\d)" "[[0]]_\x7b[[1]]\x7d" "rmA" with
      priority := -1, description := "Auto letter subscript" },
  rule "(^|[^\\\\])(exp|log|ln)" "[[0]]\\[[1]]" "rmA",
  rule "conj" "^\x7b\\ast\x7d" "mA",
  rule "Re" "\\mathrm\x7bRe\x7d" "mA",
  rule "Im" "\\mathrm\x7bIm\x7d" "mA",
  rule "bf" "\\mathbf\x7b$0\x7d" "mA",
  rule "rm" "\\mathrm\x7b$1\x7d$0" "mA"]

def linearAlgebra : List Rule := [
  rule "(^|[^\\\\])(det)" "[[0]]\\[[1]]" "rmA",
  rule "trace" "\\mathrm\x7bTr\x7d" "mA"]

def accents : List Rule := [
  rule "([a-zA-Z])hat" "\\hat\x7b[[0]]\x7d" "rmA",
  rule "([a-zA-Z])bar" "\\overline\x7b[[0]]\x7d" "rmA",
  { rule "([a-zA-Z])dot" "\\dot\x7b[[0]]\x7d" "rmA" with priority := -1 },
  { rule "([a-zA-Z])ddot" "\\ddot\x7b[[0]]\x7d" "rmA" with priority := 1 },
  rule "([a-zA-Z])tilde" "\\tilde\x7b[[0]]\x7d" "rmA",
  rule "([a-zA-Z])und" "\\underline\x7b[[0]]\x7d" "rmA",
  rule "([a-zA-Z])vec" "\\vec\x7b[[0]]\x7d" "rmA",
  rule "([a-zA-Z]),\\." "\\mathbf\x7b[[0]]\x7d" "rmA",
  rule "([a-zA-Z])\\.," "\\mathbf\x7b[[0]]\x7d" "rmA",
  pattern "\\\\($\x7bGREEK\x7d),\\." "\\boldsymbol\x7b\\[[0]]\x7d" "rmA",
  pattern "\\\\($\x7bGREEK\x7d)\\.," "\\boldsymbol\x7b\\[[0]]\x7d" "rmA",
  rule "hat" "\\hat\x7b$1\x7d$0" "mA",
  rule "bar" "\\overline\x7b$1\x7d$0" "mA",
  { rule "dot" "\\dot\x7b$1\x7d$0" "mA" with priority := -1 },
  rule "ddot" "\\ddot\x7b$1\x7d$0" "mA",
  rule "cdot" "\\cdot" "mA",
  rule "tilde" "\\tilde\x7b$1\x7d$0" "mA",
  rule "und" "\\underline\x7b$1\x7d$0" "mA",
  rule "vec" "\\vec\x7b$1\x7d$0" "mA"]

def subscripts : List Rule := [
  rule "([A-Za-z])_(\\d\\d)" "[[0]]_\x7b[[1]]\x7d" "rmA",
  rule "\\\\hat\\\x7b([A-Za-z])\\\x7d(\\d)" "\\hat\x7b[[0]]\x7d_\x7b[[1]]\x7d" "rmA",
  rule "\\\\vec\\\x7b([A-Za-z])\\\x7d(\\d)" "\\vec\x7b[[0]]\x7d_\x7b[[1]]\x7d" "rmA",
  rule "\\\\mathbf\\\x7b([A-Za-z])\\\x7d(\\d)" "\\mathbf\x7b[[0]]\x7d_\x7b[[1]]\x7d" "rmA",
  rule "xnn" "x_\x7bn\x7d" "mA",
  { rule "\\xii" "x_\x7bi\x7d" "mA" with priority := 1 },
  rule "xjj" "x_\x7bj\x7d" "mA",
  rule "xp1" "x_\x7bn+1\x7d" "mA",
  rule "ynn" "y_\x7bn\x7d" "mA",
  rule "yii" "y_\x7bi\x7d" "mA",
  rule "yjj" "y_\x7bj\x7d" "mA"]

def symbols : List Rule := [
  rule "ooo" "\\infty" "mA",
  rule "sum" "\\sum" "mA",
  rule "prod" "\\prod" "mA",
  rule "\\sum" "\\sum_\x7b$\x7b1:i\x7d=$\x7b2:1\x7d\x7d^\x7b$\x7b3:N\x7d\x7d $0" "m",
  rule "\\prod" "\\prod_\x7b$\x7b1:i\x7d=$\x7b2:1\x7d\x7d^\x7b$\x7b3:N\x7d\x7d $0" "m",
  rule "lim" "\\lim_\x7b $\x7b1:n\x7d \\to $\x7b2:\\infty\x7d \x7d $0" "mA",
  rule "+-" "\\pm" "mA",
  rule "-+" "\\mp" "mA",
  rule "..." "\\dots" "mA",
  rule "nabl" "\\nabla" "mA",
  rule "del" "\\nabla" "mA",
  rule "xx" "\\times" "mA",
  rule "**" "\\cdot" "mA",
  rule "para" "\\parallel" "mA",
  rule "===" "\\equiv" "mA",
  rule "!=" "\\neq" "mA",
  rule ">=" "\\geq" "mA",
  rule "<=" "\\leq" "mA",
  rule ">>" "\\gg" "mA",
  rule "<<" "\\ll" "mA",
  rule "simm" "\\sim" "mA",
  rule "sim=" "\\simeq" "mA",
  rule "prop" "\\propto" "mA",
  rule "<->" "\\leftrightarrow " "mA",
  rule "->" "\\to" "mA",
  rule "!>" "\\mapsto" "mA",
  rule "=>" "\\implies" "mA",
  rule "=<" "\\impliedby" "mA",
  rule "and" "\\cap" "mAw",
  rule "orr" "\\cup" "mA",
  rule "inn" "\\in" "mA",
  rule "notin" "\\not\\in" "mA",
  rule "\\\\\\" "\\setminus" "mA",
  rule "sub=" "\\subseteq" "mA",
  rule "sup=" "\\supseteq" "mA",
  rule "eset" "\\emptyset" "mA",
  rule "set" "\\\x7b $1 \\\\\x7d$0" "mAw",
  { rule "e\\xi sts" "\\exists" "mA" with priority := 1 },
  rule "FF" "\\mathcal\x7bF\x7d" "mA",
  rule "LL" "\\mathcal\x7bL\x7d" "mA",
  rule "HH" "\\mathcal\x7bH\x7d" "mA",
  rule "EE" "\\mathbb\x7bE\x7d" "mA",
  rule "PP" "\\mathbb\x7bP\x7d" "mA",
  rule "CC" "\\mathbb\x7bC\x7d" "mA",
  rule "RR" "\\mathbb\x7bR\x7d" "mA",
  rule "ZZ" "\\mathbb\x7bZ\x7d" "mA",
  rule "NN" "\\mathbb\x7bN\x7d" "mA"]

/-- Backslashes before the names of letters and symbols. -/
def backslashes : List Rule := [
  { pattern "(^|[^\\\\])($\x7bGREEK\x7d)" "[[0]]\\[[1]]" "rmA" with
      description := "Add backslash before Greek letters" },
  { pattern "(^|[^\\\\])($\x7bSYMBOL\x7d)" "[[0]]\\[[1]]" "rmA" with
      description := "Add backslash before symbols" }]

/-- Spaces and suffixes after letters and symbols. -/
def suffixes : List Rule := [
  { pattern "\\\\($\x7bGREEK\x7d|$\x7bSYMBOL\x7d|$\x7bMORE_SYMBOLS\x7d)([A-Za-z])"
      "\\[[0]] [[1]]" "rmA" with
      priority := 1 },
  { pattern "\\\\($\x7bGREEK\x7d|$\x7bSYMBOL\x7d) sq" "\\[[0]]^\x7b2\x7d" "rmA" with
      priority := 1 },
  { pattern "\\\\($\x7bGREEK\x7d|$\x7bSYMBOL\x7d) cb" "\\[[0]]^\x7b3\x7d" "rmA" with
      priority := 1 },
  { pattern "\\\\($\x7bGREEK\x7d|$\x7bSYMBOL\x7d) rd" "\\[[0]]^\x7b$1\x7d$0" "rmA" with
      priority := 1 },
  { pattern "\\\\($\x7bGREEK\x7d|$\x7bSYMBOL\x7d) hat" "\\hat\x7b\\[[0]]\x7d" "rmA" with
      priority := 1 },
  { pattern "\\\\($\x7bGREEK\x7d|$\x7bSYMBOL\x7d) dot" "\\dot\x7b\\[[0]]\x7d" "rmA" with
      priority := 1 },
  { pattern "\\\\($\x7bGREEK\x7d|$\x7bSYMBOL\x7d) bar" "\\bar\x7b\\[[0]]\x7d" "rmA" with
      priority := 1 },
  { pattern "\\\\($\x7bGREEK\x7d|$\x7bSYMBOL\x7d) vec" "\\vec\x7b\\[[0]]\x7d" "rmA" with
      priority := 1 },
  { pattern "\\\\($\x7bGREEK\x7d|$\x7bSYMBOL\x7d) tilde" "\\tilde\x7b\\[[0]]\x7d" "rmA" with
      priority := 1 },
  { pattern "\\\\($\x7bGREEK\x7d|$\x7bSYMBOL\x7d) und" "\\underline\x7b\\[[0]]\x7d" "rmA" with
      priority := 1 }]

/-- Fractions; a function call is declared last and so outranks the others. -/
def fractions : List Rule := [
  rule "((\\d+)|(\\d*)(\\\\)?([a-zA-Z]+)(?:_\\\x7b[^\x7d]*\\\x7d|_[\\w])?(?:\\^\\\x7b[^\x7d]*\\\x7d|\\^[\\w])?)/"
      "\\frac\x7b[[0]]\x7d\x7b$1\x7d$0" "rmA",
  rule "\\(([^)]+)\\)/" "\\frac\x7b[[0]]\x7d\x7b$1\x7d$0" "rmA",
  rule "((?:(\\d+)|(\\d*)(\\\\)?([a-zA-Z]+)(?:_\\\x7b[^\x7d]*\\\x7d|_[\\w])?(?:\\^\\\x7b[^\x7d]*\\\x7d|\\^[\\w])?)\\([^)]+\\))/"
      "\\frac\x7b[[0]]\x7d\x7b$1\x7d$0" "rmA"]

def calculus : List Rule := [
  rule "par" "\\frac\x7b \\partial $\x7b1:y\x7d \x7d\x7b \\partial $\x7b2:x\x7d \x7d $0" "m",
  rule "pa([A-Za-z])([A-Za-z])" "\\frac\x7b \\partial [[0]] \x7d\x7b \\partial [[1]] \x7d " "rm",
  rule "ddt" "\\frac\x7bd\x7d\x7bdt\x7d " "mA",
  rule "ddx" "\\frac\x7bd\x7d\x7bdx\x7d " "mA",
  { pattern "(^|[^\\\\])int" "[[0]]\\int" "mA" with priority := -1 },
  rule "\\int" "\\int $1 \\, d$\x7b2:x\x7d $0" "m",
  rule "dint" "\\int_\x7b$\x7b1:0\x7d\x7d^\x7b$\x7b2:1\x7d\x7d $3 \\, d$\x7b4:x\x7d $0" "mA",
  rule "oint" "\\oint" "mA",
  rule "iint" "\\iint" "mA",
  rule "iiint" "\\iiint" "mA",
  rule "oinf" "\\int_\x7b0\x7d^\x7b\\infty\x7d $1 \\, d$\x7b2:x\x7d $0" "mA",
  rule "infi" "\\int_\x7b-\\infty\x7d^\x7b\\infty\x7d $1 \\, d$\x7b2:x\x7d $0" "mA"]

def trigonometry : List Rule := [
  { rule "(^|[^\\\\])(arcsin|sin|arccos|cos|arctan|tan|csc|sec|cot)" "[[0]]\\[[1]]" "rmA" with
      description := "Add backslash before trig funcs" },
  { rule "\\\\(arcsin|sin|arccos|cos|arctan|tan|csc|sec|cot)([A-Za-gi-z])"
      "\\[[0]] [[1]]" "rmA" with
      description := "Add space after trig funcs. Skips letter h to allow sinh, cosh, etc." },
  { rule "\\\\(sinh|cosh|tanh|coth)([A-Za-z])" "\\[[0]] [[1]]" "rmA" with
      description := "Add space after hyperbolic trig funcs" }]

/-- Rules that wrap a selection. -/
def wrappers : List Rule := [
  rule "B" "\\boxed\x7b $\x7bVISUAL\x7d \x7d" "mA",
  rule "U" "\\underbrace\x7b $\x7bVISUAL\x7d \x7d_\x7b $0 \x7d" "mA",
  rule "O" "\\overbrace\x7b $\x7bVISUAL\x7d \x7d^\x7b $0 \x7d" "mA",
  rule "L" "\\underset\x7b $0 \x7d\x7b $\x7bVISUAL\x7d \x7d" "mA",
  rule "X" "\\cancel\x7b $\x7bVISUAL\x7d \x7d" "mA",
  rule "K" "\\cancelto\x7b $0 \x7d\x7b $\x7bVISUAL\x7d \x7d" "mA",
  rule "S" "\\sqrt\x7b $\x7bVISUAL\x7d \x7d" "mA"]

def physics : List Rule := [
  rule "kbt" "k_\x7bB\x7dT" "mA",
  rule "msun" "M_\x7b\\odot\x7d" "mA"]

def quantum : List Rule := [
  rule "dag" "^\x7b\\dagger\x7d" "mA",
  rule "o+" "\\oplus " "mA",
  rule "otimes" "\\otimes " "mA",
  rule "bra" "\\bra\x7b$1\x7d $0" "mA",
  rule "ket" "\\ket\x7b$1\x7d $0" "mA",
  rule "brk" "\\braket\x7b $1 | $2 \x7d $0" "mA",
  rule "outer" "\\ket\x7b$\x7b1:\\psi\x7d\x7d \\bra\x7b$\x7b1:\\psi\x7d\x7d $0" "mA"]

def chemistry : List Rule := [
  rule "pu" "\\pu\x7b $0 \x7d" "mA",
  rule "cee" "\\ce\x7b $0 \x7d" "mA",
  rule "he4" "\x7b\x7d^\x7b4\x7d_\x7b2\x7dHe " "mA",
  rule "he3" "\x7b\x7d^\x7b3\x7d_\x7b2\x7dHe " "mA",
  rule "iso" "\x7b\x7d^\x7b$\x7b1:4\x7d\x7d_\x7b$\x7b2:2\x7d\x7d$\x7b3:He\x7d" "mA"]

def environments : List Rule := [
  rule "pmat" "\\begin\x7bpmatrix\x7d\n$0\n\\end\x7bpmatrix\x7d" "MA",
  rule "bmat" "\\begin\x7bbmatrix\x7d\n$0\n\\end\x7bbmatrix\x7d" "MA",
  rule "Bmat" "\\begin\x7bBmatrix\x7d\n$0\n\\end\x7bBmatrix\x7d" "MA",
  rule "vmat" "\\begin\x7bvmatrix\x7d\n$0\n\\end\x7bvmatrix\x7d" "MA",
  rule "Vmat" "\\begin\x7bVmatrix\x7d\n$0\n\\end\x7bVmatrix\x7d" "MA",
  rule "matrix" "\\begin\x7bmatrix\x7d\n$0\n\\end\x7bmatrix\x7d" "MA",
  rule "pmat" "\\begin\x7bpmatrix\x7d$0\\end\x7bpmatrix\x7d" "nA",
  rule "bmat" "\\begin\x7bbmatrix\x7d$0\\end\x7bbmatrix\x7d" "nA",
  rule "Bmat" "\\begin\x7bBmatrix\x7d$0\\end\x7bBmatrix\x7d" "nA",
  rule "vmat" "\\begin\x7bvmatrix\x7d$0\\end\x7bvmatrix\x7d" "nA",
  rule "Vmat" "\\begin\x7bVmatrix\x7d$0\\end\x7bVmatrix\x7d" "nA",
  rule "matrix" "\\begin\x7bmatrix\x7d$0\\end\x7bmatrix\x7d" "nA",
  rule "cases" "\\begin\x7bcases\x7d\n$0\n\\end\x7bcases\x7d" "mA",
  rule "align" "\\begin\x7balign\x7d\n$0\n\\end\x7balign\x7d" "mA",
  rule "array" "\\begin\x7barray\x7d\n$0\n\\end\x7barray\x7d" "mA"]

def brackets : List Rule := [
  rule "avg" "\\langle $1 \\rangle $0" "mA",
  rule "iprod" "\\left\\langle $1 , $2 \\right\\rangle $0" "mA",
  rule "form" "\\left\\langle $1 \\vert $2 \\right\\rangle $0" "mA",
  { rule "norm" "\\lvert $1 \\rvert $0" "mA" with priority := 1 },
  { rule "Norm" "\\lVert $1 \\rVert $0" "mA" with priority := 1 },
  { rule "sNorm" "\\lVert $1 \\rVert^2 $0" "mA" with priority := 1 },
  rule "ceil" "\\lceil $1 \\rceil $0" "mA",
  rule "floor" "\\lfloor $1 \\rfloor $0" "mA",
  rule "abs" "|$1|$0" "mA",
  rule "(" "($\x7bVISUAL\x7d)" "mA",
  rule "[" "[$\x7bVISUAL\x7d]" "mA",
  rule "\x7b" "\x7b$\x7bVISUAL\x7d\x7d" "mA",
  rule "(" "($1)$0" "mA",
  rule "\x7b" "\x7b$1\x7d$0" "mA",
  rule "[" "[$1]$0" "mA",
  rule "lr(" "\\left( $1 \\right) $0" "mA",
  rule "lr\x7b" "\\left\\\x7b $1 \\right\\\\\x7d $0" "mA",
  rule "lr[" "\\left[ $1 \\right] $0" "mA",
  rule "lr|" "\\left| $1 \\right| $0" "mA",
  rule "lra" "\\left< $1 \\right> $0" "mA"]

def others : List Rule := [
  { rule "tayl"
      "$\x7b1:f\x7d($\x7b2:x\x7d + $\x7b3:h\x7d) = $\x7b1:f\x7d($\x7b2:x\x7d) + $\x7b1:f\x7d'($\x7b2:x\x7d)$\x7b3:h\x7d + $\x7b1:f\x7d''($\x7b2:x\x7d) \\frac\x7b$\x7b3:h\x7d^\x7b2\x7d\x7d\x7b2!\x7d + \\dots$0" "mA" with
      description := "Taylor expansion" },
  { computed "iden(\\d)"
      "\\begin\x7bpmatrix\x7d\n\x7b\x7b identity([[1]]) \x7d\x7d\n\\end\x7bpmatrix\x7d" "mA" with
      description := "N x N identity matrix" }]

def all : List Rule :=
  colors ++ modes ++ greekLetters ++ texts ++ operations ++ linearAlgebra ++ accents ++
  subscripts ++ symbols ++ backslashes ++ suffixes ++ fractions ++ calculus ++ trigonometry ++
  wrappers ++ physics ++ quantum ++ chemistry ++ environments ++ brackets ++ others

end LatexSnippets.RuleTable
