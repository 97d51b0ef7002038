import LatexSnippets.Text.Basic

/-!
Environments, which `\begin` and `\end` tags open and close.
-/

namespace LatexSnippets.Latex

structure Tag where
  /-- Whether the tag opens its environment. -/
  opens : Bool
  name : Text
  deriving DecidableEq, Repr

/-- The environments with columns or rows. -/
def tabular : List String :=
  ["pmatrix", "bmatrix", "Bmatrix", "vmatrix", "Vmatrix", "matrix", "cases", "align", "align*",
    "array", "gather", "gather*", "split"]

def isTabular (name : Text) : Bool := tabular.any (·.toList = name)

namespace Tag

def isNameChar (c : Char) : Bool := c.isAlphanum || c = '*'

/-- The name in braces that a text begins with and what follows it. -/
def readName (t : Text) : Option (Text × Text) :=
  match t with
  | '\x7b' :: rest =>
    match rest.takeWhile isNameChar, rest.dropWhile isNameChar with
    | c :: name, '\x7d' :: after => some (c :: name, after)
    | _, _ => none
  | _ => none

/-- The tag that a text begins with and what follows it. -/
def read? : Text → Option (Tag × Text)
  | '\\' :: 'b' :: 'e' :: 'g' :: 'i' :: 'n' :: rest =>
    (readName rest).map fun (name, after) => (⟨true, name⟩, after)
  | '\\' :: 'e' :: 'n' :: 'd' :: rest =>
    (readName rest).map fun (name, after) => (⟨false, name⟩, after)
  | _ => none

theorem length_readName {t name after : Text} (h : readName t = some (name, after)) :
    after.length < t.length := by
  unfold readName at h
  split at h
  · next rest =>
    split at h
    · next h₂ =>
      have := (List.dropWhile_suffix isNameChar (l := rest)).length_le
      rw [h₂] at this
      simp only [Option.some.injEq, Prod.mk.injEq] at h
      simp only [List.length_cons, ← h.2] at *
      omega
    · contradiction
  · contradiction

theorem length_read {t after : Text} {tag : Tag} (h : read? t = some (tag, after)) :
    after.length < t.length := by
  unfold read? at h
  split at h
  · obtain ⟨⟨u, r⟩, hr, he⟩ := Option.map_eq_some_iff.1 h
    have := length_readName hr
    simp only [Prod.mk.injEq] at he
    simp only [List.length_cons, ← he.2]
    omega
  · obtain ⟨⟨u, r⟩, hr, he⟩ := Option.map_eq_some_iff.1 h
    have := length_readName hr
    simp only [Prod.mk.injEq] at he
    simp only [List.length_cons, ← he.2]
    omega
  · contradiction

/-- The tags of a text in order. -/
def readAll : Text → List Tag
  | [] => []
  | c :: rest =>
    match _h : read? (c :: rest) with
    | some (tag, after) => tag :: readAll after
    | none => readAll rest
termination_by t => t.length
decreasing_by
  · exact length_read ‹_›
  · simp

/-- The innermost environment left open by tags, given the last one first. `closed` holds the
environments whose opening tags are still to be met. -/
def innermost? : (closed : List Text) → List Tag → Option Text
  | _, [] => none
  | closed, ⟨false, name⟩ :: before => innermost? (name :: closed) before
  | closed, ⟨true, name⟩ :: before =>
    match closed with
    | [] => some name
    | other :: closed => if other = name then innermost? closed before else some name

end Tag

/-- The environment around the offset `caret`, if it is one with columns or rows. Tags that the
caret cuts do not count. -/
def enclosingTabular? (t : Text) (caret : Int) : Option Text :=
  (Tag.innermost? [] (Tag.readAll (t.take caret.toNat)).reverse).filter (isTabular ·)

def endTag (name : Text) : Text := "\\end\x7b".toList ++ name ++ "\x7d".toList

/-- Where the next closing tag of an environment stands after the offset `caret`. -/
def tabularEnd? (t : Text) (caret : Int) (name : Text) : Option Nat := t.find? (endTag name) caret

end LatexSnippets.Latex
