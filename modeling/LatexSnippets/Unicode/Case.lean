import LatexSnippets.Unicode.CaseTable

/-!
Upper and lower case. `lower` and `upper` are the full mappings of a text, which may lengthen it;
`lowerCode` is the mapping of single code points.
-/

namespace LatexSnippets.Unicode

def lowerCode (c : Nat) : Nat :=
  if c < 128 then
    if 0x41 ≤ c && c ≤ 0x5A then c + 32 else c
  else
    (lowerSpans.findSome? (·.image? c)).getD c

/-- The lower case of a character other than the capital sigma. -/
def lowerChar (c : Char) : List Char :=
  if c.toNat = 0x130 then [Char.ofNat 0x69, Char.ofNat 0x307] else [Char.ofNat (lowerCode c.toNat)]

def upperChar (c : Char) : List Char :=
  if c.toNat < 128 then [c.toUpper]
  else match upperSequences.find? (·.1 = c.toNat) with
    | some (_, cs) => cs.map Char.ofNat
    | none => [Char.ofNat ((upperSpans.findSome? (·.image? c.toNat)).getD c.toNat)]

def isCased (c : Char) : Bool :=
  if c.toNat < 128 then c.isAlpha else casedRanges.mem c.toNat

/-- Whether the first character that is not passed over has case. -/
def casedAhead (cs : List Char) : Bool :=
  match cs.dropWhile fun c => caseIgnorableRanges.mem c.toNat with
  | [] => false
  | c :: _ => isCased c

/-- Lower case, given the characters before in reverse: a capital sigma takes its final form at the
end of a word. -/
def lowerFrom : List Char → List Char → List Char
  | _, [] => []
  | before, c :: rest =>
    (if c.toNat = 0x3A3 then
      [Char.ofNat (if casedAhead before && !casedAhead rest then 0x3C2 else 0x3C3)]
    else lowerChar c) ++ lowerFrom (c :: before) rest

def lower (t : List Char) : List Char := lowerFrom [] t

def upper (t : List Char) : List Char := t.flatMap upperChar

end LatexSnippets.Unicode
