import LatexSnippets.Json.Reader
import LatexSnippets.Keymap

/-!
What can be wrong with the records of a source, and the checks of their fields. A check answers
every issue it finds, in the order of the fields.
-/

namespace LatexSnippets.Source

inductive Problem
  | invalidJson
  | notArray
  | notObject
  | missing
  | notText
  | notInteger
  | fractional
  | unreadableInteger
  | oversizedInteger
  | notFinite
  | notAction
  /-- A tagged record of no known kind. -/
  | unknownKind
  deriving DecidableEq, Repr

/-- Names as a choice: quoted, with commas and a last `or`. -/
def choice : List Text → String
  | [] => ""
  | [t] => String.ofList t.quoted
  | [t, u] => String.ofList t.quoted ++ " or " ++ String.ofList u.quoted
  | t :: ts => String.ofList t.quoted ++ ", " ++ choice ts

def Problem.message : Problem → String
  | .invalidJson => "Invalid JSON"
  | .notArray => "Input should be a valid array"
  | .notObject => "Input should be an object"
  | .missing => "Field required"
  | .notText => "Input should be a valid string"
  | .notInteger => "Input should be a valid integer"
  | .fractional => "Input should be a valid integer, got a number with a fractional part"
  | .unreadableInteger => "Input should be a valid integer, unable to parse string as an integer"
  | .oversizedInteger => "Unable to parse input string as an integer, exceeded maximum size"
  | .notFinite => "Input should be a finite number"
  | .notAction => "Input should be " ++ choice (Action.all.map Action.name)
  | .unknownKind => "Input should be a record of a known kind"

structure Issue where
  path : List Text
  problem : Problem
  deriving DecidableEq, Repr

def Issue.message (i : Issue) : String :=
  let place := if i.path.isEmpty then "<root>" else String.ofList (Text.joinWith ['.'] i.path)
  place ++ ": " ++ i.problem.message

abbrev Checked (α : Type) := Except (List Issue) α

def Checked.issues : Checked α → List Issue
  | .ok _ => []
  | .error is => is

def fail (path : List Text) (p : Problem) : Checked α := .error [⟨path, p⟩]

/-- Both values, or all issues of both. -/
def Checked.and (a : Checked α) (b : Checked β) : Checked (α × β) :=
  match a, b with
  | .ok x, .ok y => .ok (x, y)
  | a, b => .error (a.issues ++ b.issues)

def text (path : List Text) : Json → Checked Text
  | .text t => .ok t
  | _ => fail path .notText

/-- The number of a text of digits, once signs, zeros in front and a fraction of zeros are off. -/
def plainDigits (t : Text) : Option Text :=
  let t := match t.takeWhile (· ≠ '.'), t.dropWhile (· ≠ '.') with
    | whole, '.' :: zeros => if zeros.all (· = '0') then whole else t
    | _, _ => t
  let groups := Text.splitAt '_' t
  if groups.all fun g => !g.isEmpty && g.all Char.isDigit then some groups.flatten else none

/-- Takes zeros and underscores off the front of digits, up to the last digit before a point or the
end. -/
def withoutZeros : Text → Option Text
  | [] => none
  | c :: rest =>
    if c ≠ '0' then (if c.isDigit then some (c :: rest) else none)
    else
      let skipped := rest.takeWhile fun d => d = '0' || d = '_'
      let last := (skipped.getLast?).getD c
      match rest.dropWhile fun d => d = '0' || d = '_' with
      | [] => some [last]
      | '.' :: zeros => some (last :: '.' :: zeros)
      | d :: ds => if d.isDigit then some (d :: ds) else none

def integerOfText (t : Text) : Except Problem Int :=
  let (negative, t) := match Numeral.strip t with
    | '-' :: rest => (true, rest)
    | '+' :: rest => (false, rest)
    | t => (false, t)
  match (withoutZeros t).bind plainDigits with
  | none => .error .unreadableInteger
  | some ds =>
    if Numeral.maxDigits < ds.length then .error .oversizedInteger
    else
      let n : Nat := Numeral.ofDigits (ds.map fun c => c.toNat - '0'.toNat)
      .ok (if negative then -n else n)

/-- The floating-point number nearest to a decimal; far beyond its range, an infinity or zero. -/
def nearestFloat (digits : Nat) (exponent : Int) : Float :=
  let size : Int := (Numeral.ofNat digits).length
  if digits = 0 || size + exponent < -400 then 0
  else if 400 < size + exponent then 1 / 0
  else Float.ofScientific digits (exponent < 0) exponent.natAbs

/-- The integer that a decimal stands for, taken as the nearest floating-point number. -/
def integerOfDecimal (negative : Bool) (digits : Nat) (exponent : Int) : Except Problem Int :=
  let x := nearestFloat digits exponent
  if !x.isFinite then .error .notFinite
  else if x.floor != x then .error .fractional
  else if x < 9223372036854775808 then
    let n : Nat := x.toUInt64.toNat
    .ok (if negative then -n else n)
  else .error .oversizedInteger

def integer (path : List Text) (v : Json) : Checked Int :=
  let r : Except Problem Int := match v with
    | .int n => .ok n
    | .bool b => .ok (if b then 1 else 0)
    | .decimal negative digits exponent => integerOfDecimal negative digits exponent
    | .notFinite => .error .notFinite
    | .text t => integerOfText t
    | .null | .array _ | .object _ => .error .notInteger
  r.mapError fun p => [⟨path, p⟩]

def action (path : List Text) : Json → Checked Action
  | .text t =>
    match Action.ofName? t with
    | some a => .ok a
    | none => fail path .notAction
  | _ => fail path .notAction

def required (path : List Text) (ms : Assoc Json) (name : Text)
    (check : List Text → Json → Checked α) : Checked α :=
  match ms.get? name with
  | none => fail (path ++ [name]) .missing
  | some v => check (path ++ [name]) v

/-- A field with a value for when it is missing. -/
def optional (path : List Text) (ms : Assoc Json) (name : Text)
    (check : List Text → Json → Checked α) (default : α) : Checked α :=
  match ms.get? name with
  | none => .ok default
  | some v => check (path ++ [name]) v

def record (check : List Text → Assoc Json → Checked α) (path : List Text) : Json → Checked α
  | .object ms => check path (Json.members ms)
  | _ => fail path .notObject

def itemsFrom (check : List Text → Json → Checked α) : Nat → List Json → Checked (List α)
  | _, [] => .ok []
  | i, v :: vs =>
    (Checked.and (check [Numeral.ofNat i] v) (itemsFrom check (i + 1) vs)).map
      fun (x, xs) => x :: xs

/-- Sources nest their values at most 200 deep and hold whole characters only. -/
def dialect : Json.Dialect := ⟨200, false⟩

def records (check : List Text → Json → Checked α) (source : Text) : Checked (List α) :=
  match Json.read dialect source with
  | .error _ => fail [] .invalidJson
  | .ok (.array vs) => itemsFrom check 0 vs
  | .ok _ => fail [] .notArray

end LatexSnippets.Source
