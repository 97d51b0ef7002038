/-!
Text as a list of characters, cut by offsets. An offset is any integer: `place` says which of the
places between two characters it names, so that no cut can fail. The characters are whole: half of a
surrogate pair is never part of a text.
-/

namespace LatexSnippets

abbrev Text := List Char

instance : Coe String Text := ⟨String.toList⟩

namespace Text

/-- The place in `0 … n` that `i` names in a text of `n` characters: a negative offset counts from
the end, and one outside the text stands for the nearer end. -/
def place (n : Nat) (i : Int) : Nat :=
  if i < 0 then (i + n).toNat else min i.toNat n

def upTo (t : Text) (i : Int) : Text := t.take (place t.length i)

def onward (t : Text) (i : Int) : Text := t.drop (place t.length i)

def slice (t : Text) (i j : Int) : Text := (t.upTo j).drop (place t.length i)

def splice (t : Text) (i j : Int) (w : Text) : Text := t.upTo i ++ w ++ t.onward j

/-- The first place at or after `k` where `w` stands, the text given from place `k` on. -/
def findFrom (w : Text) : Nat → Text → Option Nat
  | k, [] => if w.isEmpty then some k else none
  | k, c :: rest => if w.isPrefixOf (c :: rest) then some k else findFrom w (k + 1) rest

/-- The first place at or after the offset `i` where `w` stands. -/
def find? (t w : Text) (i : Int) : Option Nat :=
  if (t.length : Int) < i then none else findFrom w (place t.length i) (t.onward i)

def contains (t w : Text) : Bool := (findFrom w 0 t).isSome

/-- Replaces every occurrence of `old`, leftmost first; the first argument counts the characters of
an occurrence that are still to be passed over. -/
def replaceFrom (old new : Text) : Nat → Text → Text
  | _, [] => []
  | k + 1, _ :: rest => replaceFrom old new k rest
  | 0, c :: rest =>
    if old.isPrefixOf (c :: rest) then new ++ replaceFrom old new (old.length - 1) rest
    else c :: replaceFrom old new 0 rest

def replace (t old new : Text) : Text := replaceFrom old new 0 t

def splitAt (sep : Char) : Text → List Text
  | [] => [[]]
  | c :: rest =>
    if c = sep then [] :: splitAt sep rest
    else match splitAt sep rest with
      | [] => [[c]]
      | piece :: pieces => (c :: piece) :: pieces

def joinWith (sep : Text) (pieces : List Text) : Text := List.intercalate sep pieces

/-- What stands before and after the last occurrence of a character. -/
def cutLast? (sep : Char) (t : Text) : Option (Text × Text) :=
  let tail := t.reverse.takeWhile (· ≠ sep)
  if tail.length = t.length then none
  else some (t.take (t.length - tail.length - 1), tail.reverse)

def count (c : Char) (t : Text) : Nat := List.count c t

end Text

end LatexSnippets
