import LatexSnippets.Text.Basic
import LatexSnippets.Unicode.Blank

/-!
Blank characters at the ends of a text.
-/

namespace LatexSnippets.Text

open Unicode

def trimLeft (t : Text) : Text := t.dropWhile isBlank

def trimRight (t : Text) : Text := (t.reverse.dropWhile isBlank).reverse

def trim (t : Text) : Text := t.trimLeft.trimRight

end LatexSnippets.Text
