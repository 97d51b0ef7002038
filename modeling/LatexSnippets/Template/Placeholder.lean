import LatexSnippets.Text.Numeral

/-!
Placeholders of a text template: `${VISUAL}` stands for the selected text and `[[n]]` for capture
number `n`. All are filled in one pass, so that what is filled in is never read again.
-/

namespace LatexSnippets

/-- What the groups of a match caught, in order. -/
abbrev Captures := List (Option Text)

/-- The text of a capture; one that is absent or did not take part is empty. -/
def Captures.text (cs : Captures) (i : Nat) : Text := ((cs[i]?).join).getD []

inductive Placeholder
  | char (c : Char)
  | visual
  /-- A capture, by the digits of its number. -/
  | capture (digits : Text)
  deriving DecidableEq, Repr

namespace Placeholder

def visualMark : Text := ['$', '\x7b', 'V', 'I', 'S', 'U', 'A', 'L', '\x7d']

/-- The digits of a capture and what follows it, two brackets already taken. -/
def readCapture (t : Text) : Option (Text × Text) :=
  match t.takeWhile Unicode.isDecimal, t.dropWhile Unicode.isDecimal with
  | d :: ds, ']' :: ']' :: rest => some (d :: ds, rest)
  | _, _ => none

theorem length_readCapture {t ds after : Text} (h : readCapture t = some (ds, after)) :
    after.length < t.length := by
  unfold readCapture at h
  split at h
  · next h₁ h₂ =>
    have := (List.dropWhile_suffix Unicode.isDecimal (l := t)).length_le
    rw [h₂] at this
    grind
  · contradiction

def readAll : Text → List Placeholder
  | '$' :: '\x7b' :: 'V' :: 'I' :: 'S' :: 'U' :: 'A' :: 'L' :: '\x7d' :: rest =>
    .visual :: readAll rest
  | '[' :: '[' :: rest =>
    match _h : readCapture rest with
    | some (digits, after) => .capture digits :: readAll after
    | none => .char '[' :: readAll ('[' :: rest)
  | c :: rest => .char c :: readAll rest
  | [] => []
termination_by t => t.length
decreasing_by
  all_goals simp only [List.length_cons]
  all_goals try omega
  have := length_readCapture ‹_›
  omega

def fill (captures : Captures) (visual : Text) : Placeholder → Except Numeral.Error Text
  | .char c => .ok [c]
  | .visual => .ok visual
  | .capture digits => (Numeral.readDigits digits).map captures.text

def fillAll (captures : Captures) (visual : Text) :
    List Placeholder → Except Numeral.Error Text
  | [] => .ok []
  | p :: rest => do
    let t ← p.fill captures visual
    return t ++ (← fillAll captures visual rest)

def substitute (t : Text) (captures : Captures) (visual : Text) : Except Numeral.Error Text :=
  fillAll captures visual (readAll t)

def usesVisual (t : Text) : Bool := t.contains visualMark

end Placeholder

end LatexSnippets
