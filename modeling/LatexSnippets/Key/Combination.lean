import LatexSnippets.Key.Basic
import LatexSnippets.Text.Quoted
import LatexSnippets.Text.Trim

/-!
Combinations as people write them: modifiers in any order, case and spelling, then the key.
-/

namespace LatexSnippets.Key

inductive CombinationError
  | empty
  | unknownModifier (name combination : Text)
  deriving DecidableEq, Repr

def CombinationError.message : CombinationError → String
  | .empty => "empty key combination"
  | .unknownModifier name combination =>
    "unknown modifier " ++ String.ofList name.quoted ++ " in " ++ String.ofList combination.quoted

/-- The modifiers and the key of a combination. One that ends in a plus sign has that for its key.
-/
def splitCombination (t : Text) : Text × Text :=
  match Text.cutLast? '+' t with
  | none => ([], t)
  | some (head, []) => (if head.getLast? = some '+' then head.dropLast else head, ['+'])
  | some (head, key) => (head, key)

/-- The modifiers that names between plus signs stand for; empty names do not count. -/
def readModifiers (combination : Text) : List Text → Except CombinationError (List Modifier)
  | [] => .ok []
  | [] :: names => readModifiers combination names
  | name :: names =>
    match Modifier.ofName? (Unicode.lower name) with
    | none => .error (.unknownModifier name combination)
    | some m => (readModifiers combination names).map (m :: ·)

/-- The identifier of a written combination. -/
def normalizeCombination (combination : Text) : Except CombinationError Text := do
  let t := combination.trim
  if t.isEmpty then throw .empty
  let (head, key) := splitCombination t
  let ms ← readModifiers combination (Text.splitAt '+' head)
  return identifier (.ofList ms) (normalizeName key)

end LatexSnippets.Key
