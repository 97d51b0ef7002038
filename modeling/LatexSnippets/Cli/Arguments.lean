import LatexSnippets.Text.Basic

/-!
Arguments of a command: options, which may stand anywhere, and operands. After two dashes alone
every argument is an operand.
-/

namespace LatexSnippets.Cli

structure OptionSpec where
  /-- The long spelling, with its two dashes. -/
  name : Text
  /-- The letter of the short spelling. -/
  letter : Option Char
  takesValue : Bool
  deriving DecidableEq, Repr

structure Arguments where
  /-- The options by name, with their values; a later one counts before an earlier one. -/
  options : List (Text × Text)
  operands : List Text
  deriving DecidableEq, Repr

namespace Arguments

def empty : Arguments := ⟨[], []⟩

def addFirst (s : OptionSpec) (v : Text) (a : Arguments) : Arguments :=
  { a with options := a.options ++ [(s.name, v)] }

def addOperand (t : Text) (a : Arguments) : Arguments := { a with operands := t :: a.operands }

def value? (a : Arguments) (name : Text) : Option Text := (a.options.find? (·.1 = name)).map (·.2)

def has (a : Arguments) (name : Text) : Bool := (a.value? name).isSome

/-- What an argument that begins with a dash says. -/
inductive Reading
  /-- Options with their values. -/
  | complete (options : List (OptionSpec × Text))
  /-- Options, the last of which has its value in the next argument. -/
  | wantsValue (options : List (OptionSpec × Text)) (last : OptionSpec)
  | unknown

def readLong (specs : List OptionSpec) (t : Text) : Reading :=
  let name := t.takeWhile (· ≠ '=')
  match specs.find? (·.name = name), t.dropWhile (· ≠ '=') with
  | some s, _ :: v => if s.takesValue then .complete [(s, v)] else .unknown
  | some s, [] => if s.takesValue then .wantsValue [] s else .complete [(s, [])]
  | none, _ => .unknown

/-- Letters of short options. One that takes a value takes the rest of the letters for it. -/
def readLetters (specs : List OptionSpec) : Text → Reading
  | [] => .complete []
  | c :: rest =>
    match specs.find? (·.letter = some c) with
    | none => .unknown
    | some s =>
      if s.takesValue then (if rest.isEmpty then .wantsValue [] s else .complete [(s, rest)])
      else
        match readLetters specs rest with
        | .complete options => .complete ((s, []) :: options)
        | .wantsValue options last => .wantsValue ((s, []) :: options) last
        | .unknown => .unknown

def readOne (specs : List OptionSpec) : Text → Option Reading
  | '-' :: '-' :: rest => some (readLong specs ('-' :: '-' :: rest))
  | '-' :: c :: rest => some (readLetters specs (c :: rest))
  | _ => none

def addAll (options : List (OptionSpec × Text)) (a : Arguments) : Arguments :=
  options.foldr (fun o a => addFirst o.1 o.2 a) a

def read (specs : List OptionSpec) : List Text → Option Arguments
  | [] => some empty
  | t :: rest =>
    if t = ['-', '-'] then some ⟨[], rest⟩
    else
      match readOne specs t with
      | none => (read specs rest).map (addOperand t)
      | some (.complete options) => (read specs rest).map (addAll options)
      | some (.wantsValue options last) =>
        match rest with
        | [] => none
        | v :: rest => (read specs rest).map (addAll (options ++ [(last, v)]))
      | some .unknown => none

/-- Reads the options before the first operand; what begins there is left. -/
def readLeading (specs : List OptionSpec) : List Text → Option (List Text)
  | [] => some []
  | t :: rest =>
    if t = ['-', '-'] then some rest
    else
      match readOne specs t with
      | none => some (t :: rest)
      | some (.complete _) => readLeading specs rest
      | some (.wantsValue ..) => readLeading specs rest.tail
      | some .unknown => none
termination_by ts => ts.length

end Arguments

end LatexSnippets.Cli
