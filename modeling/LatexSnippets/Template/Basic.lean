import LatexSnippets.Template.Interpolated

/-!
Templates: what a rule puts in place of its trigger.
-/

namespace LatexSnippets

inductive Template
  | text (t : Text)
  | interpolated (i : Interpolated)
  /-- Computed by a function of the host, which may fail. -/
  | host (f : Captures → Option Text)

namespace Template

/-- What a template gives when computing it fails. -/
def failure : Text := "ERROR"

def usesVisual : Template → Bool
  | .text t => Placeholder.usesVisual t
  | _ => false

/-- The text of a template, its field syntax still in it. -/
def render (captures : Captures) (visual : Text) : Template → Except Numeral.Error Text
  | .text t => Placeholder.substitute t captures visual
  | .interpolated i => .ok ((i.render captures).toOption.getD failure)
  | .host f => .ok ((f captures).getD failure)

def compile (t : Template) (captures : Captures) (visual : Text) :
    Except Numeral.Error Expansion :=
  (t.render captures visual).map Expansion.ofText

end Template

end LatexSnippets
