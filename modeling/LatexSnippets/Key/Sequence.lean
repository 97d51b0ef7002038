import LatexSnippets.Key.Basic
import LatexSnippets.Text.Quoted

/-!
Sequences of key presses in angle notation: `<tab>` is a named key, `<c-x>` a key with modifiers and
`<lt>` the opening angle itself; anything else is typed as it stands.
-/

namespace LatexSnippets.Key

inductive SequenceError
  | unknownModifier (name body : Text)
  deriving DecidableEq, Repr

def SequenceError.message : SequenceError → String
  | .unknownModifier name body =>
    "unknown modifier " ++ String.ofList name.quoted ++ " in <" ++ String.ofList body ++ ">"

/-- The modifier that a letter in angles stands for. -/
def letterModifier? (t : Text) : Option Modifier :=
  match Unicode.lower t with
  | ['c'] => some .ctrl
  | ['a'] | ['m'] => some .alt
  | ['s'] => some .shift
  | ['d'] => some .metaKey
  | _ => none

def readLetters (body : Text) : List Text → Except SequenceError (List Modifier)
  | [] => .ok []
  | [] :: parts => readLetters body parts
  | part :: parts =>
    match letterModifier? part with
    | none => .error (.unknownModifier part body)
    | some m => (readLetters body parts).map (m :: ·)

/-- The press that a text between angles stands for. -/
def readAngled (body : Text) : Except SequenceError KeyEvent := do
  if Unicode.lower body = "lt".toList then return .plain ['<']
  let parts := Text.splitAt '-' body
  let ms ← readLetters body parts.dropLast
  let key :=
    match parts.getLast? with
    | none | some [] => ['-']
    | some [c] => [c]
    | some name => normalizeName name
  return ⟨key, .ofList ms⟩

/-- The text between angles that begins here, the opening one taken, and what follows it. -/
def readBody (t : Text) : Option (Text × Text) :=
  let isInside := fun c => c != '<' && c != '>'
  match t.takeWhile isInside, t.dropWhile isInside with
  | c :: body, '>' :: rest => some (c :: body, rest)
  | _, _ => none

theorem length_readBody {t body after : Text} (h : readBody t = some (body, after)) :
    after.length < t.length := by
  unfold readBody at h
  simp only at h
  split at h
  · next h₂ =>
    have := (List.dropWhile_suffix (fun c => c != '<' && c != '>') (l := t)).length_le
    rw [h₂] at this
    simp only [Option.some.injEq, Prod.mk.injEq] at h
    simp only [List.length_cons, ← h.2] at *
    omega
  · contradiction

/-- The presses that a sequence writes. -/
def readSequence : Text → Except SequenceError (List KeyEvent)
  | [] => .ok []
  | '<' :: rest =>
    match _h : readBody rest with
    | some (body, after) => do
      let e ← readAngled body
      return e :: (← readSequence after)
    | none => (readSequence rest).map (.plain ['<'] :: ·)
  | c :: rest => (readSequence rest).map (.ofChar c :: ·)
termination_by t => t.length
decreasing_by
  all_goals simp only [List.length_cons]
  all_goals try omega
  have := length_readBody ‹_›
  omega

end LatexSnippets.Key
