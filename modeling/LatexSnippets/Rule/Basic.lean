import LatexSnippets.Template.Basic
import LatexSnippets.Trigger

/-!
Rules: a trigger, the template that replaces it, and when it may fire.
-/

namespace LatexSnippets

structure Rule where
  trigger : Trigger
  template : Template
  /-- Letters, read by the functions below; others have no meaning. -/
  options : Text
  priority : Int
  description : Text

namespace Rule

def mathOnly (options : Text) : Bool := options.elem 'm'

def textOnly (options : Text) : Bool := options.elem 't' || options.elem 'n'

/-- The rule fires while its trigger is typed. -/
def autoFire (options : Text) : Bool := options.elem 'A'

/-- A text given as trigger is a pattern. -/
def regex (options : Text) : Bool := options.elem 'r'

/-- A literal trigger fires only at the beginning of a word. -/
def wordBoundary (options : Text) : Bool := options.elem 'w'

def multiLine (options : Text) : Bool := options.elem 'M'

def allowsMode (options : Text) (inMath : Bool) : Bool :=
  !(mathOnly options && !inMath) && !(textOnly options && inMath)

def usesVisual (r : Rule) : Bool := r.template.usesVisual

/-- A text as trigger: a pattern if the options say so. -/
def triggerOf (options t : Text) : Trigger :=
  if regex options then .pattern t [] else .literal t

/-- A rule of no priority given by plain texts. -/
def ofTexts (trigger template options : Text) : Rule :=
  ⟨triggerOf options trigger, .text template, options, 0, []⟩

end Rule

end LatexSnippets
