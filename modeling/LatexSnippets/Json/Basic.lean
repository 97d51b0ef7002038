import LatexSnippets.Assoc

/-!
JSON values. Objects hold their members as written; where a name occurs twice, the last value
counts.
-/

namespace LatexSnippets

inductive Json
  | null
  | bool (b : Bool)
  | int (n : Int)
  /-- The number `± digits · 10 ^ exponent`, written with a fraction or an exponent. -/
  | decimal (negative : Bool) (digits : Nat) (exponent : Int)
  /-- An infinity or no number at all. -/
  | notFinite
  | text (t : Text)
  | array (items : List Json)
  | object (members : List (Text × Json))

namespace Json

/-- Members of an object by name. -/
def members (ms : List (Text × Json)) : Assoc Json := Assoc.ofEntries ms

end Json

end LatexSnippets
