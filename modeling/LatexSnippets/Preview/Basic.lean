import LatexSnippets.Text.Trim

/-!
Previews: HTML for a source in Markdown with math. The Markdown renderer is given; where it fails,
the preview shows the source itself.
-/

namespace LatexSnippets.Preview

inductive Mode
  | text
  /-- The source is one display formula. -/
  | math
  deriving DecidableEq, Repr

/-- A renderer of Markdown, which may fail. -/
abbrev Renderer := Text → Option Text

/-- A character that stands for itself in HTML text and attributes. -/
def escapeChar (c : Char) : Text :=
  match c with
  | '&' => "&amp;"
  | '<' => "&lt;"
  | '>' => "&gt;"
  | '"' => "&quot;"
  | '\'' => "&#x27;"
  | c => [c]

def escape (t : Text) : Text := t.flatMap escapeChar

/-- The source itself as HTML. -/
def fallback (source : Text) : Text :=
  "<pre class=\"render-error\">".toList ++ escape source ++ "</pre>\n".toList

/-- The Markdown document for a source. -/
def document (mode : Mode) (source : Text) : Text :=
  match mode with
  | .text => source
  | .math => "$$\n".toList ++ source.trim ++ "\n$$\n".toList

/-- The preview of a source; none for a blank one. -/
def render (markdown : Renderer) (mode : Mode) (source : Text) : Text :=
  if source.trim.isEmpty then []
  else (markdown (document mode source)).getD (fallback source)

end LatexSnippets.Preview
