import LatexSnippets.Expr.Basic
import LatexSnippets.Template.Placeholder
import LatexSnippets.Text.Trim
import LatexSnippets.Unicode.Case

/-!
Evaluation of expressions against the captures of a match.
-/

namespace LatexSnippets.Expr

inductive Value
  | int (n : Int)
  | text (t : Text)
  deriving DecidableEq, Repr

namespace Value

/-- An integer, or a text that writes one between any blanks. -/
def toInt : Value → Except Error Int
  | .int n => .ok n
  | .text t => (Numeral.read t.trim).mapError fun _ => .notInteger t

def toText : Value → Except Error Text
  | .int n => (Numeral.write n).mapError .numeral
  | .text t => .ok t

def toCount (v : Value) : Except Error Nat := do
  let n ← v.toInt
  if 0 ≤ n && n ≤ maxRepeat then return n.toNat
  let _ ← (Numeral.write n).mapError .numeral
  throw (.countOutOfRange n)

end Value

def checked (t : Text) : Except Error Text :=
  if maxOutput < t.length then .error (.tooLong t.length) else .ok t

def repeatText (t : Text) (n : Nat) (sep : Text) : Except Error Text :=
  let size := t.length * n + sep.length * (n - 1)
  if maxOutput < size then .error (.tooLong size)
  else .ok (Text.joinWith sep (List.replicate n t))

def matrixRow (cols : Nat) (cell : Nat → Char) : Text :=
  Text.joinWith [' ', '&', ' '] ((List.range cols).map fun c => [cell c])

/-- Rows of a matrix, its cells between ampersands and its rows between double backslashes. -/
def matrix (rows cols : Nat) (cell : Nat → Nat → Char) : Except Error Text :=
  checked (Text.joinWith [' ', '\\', '\\', '\n']
    ((List.range rows).map fun r => matrixRow cols (cell r)))

def identityMatrix (n : Nat) : Except Error Text :=
  matrix n n fun r c => if r = c then '1' else '0'

def zeroMatrix (rows cols : Nat) : Except Error Text := matrix rows cols fun _ _ => '0'

def Conversion.apply (v : Value) : Conversion → Except Error Value
  | .toInt => return .int (← v.toInt)
  | .toText => return .text (← v.toText)
  | .toUpper => return .text (Unicode.upper (← v.toText))
  | .toLower => return .text (Unicode.lower (← v.toText))
  | .identity => return .text (← identityMatrix (← v.toCount))

/-- The sum of integers; anything else is joined as text. -/
def plus : Value → Value → Except Error Value
  | .int a, .int b => .ok (.int (a + b))
  | v, w => do return .text (← checked ((← v.toText) ++ (← w.toText)))

def arithmetic (v w : Value) (f : Int → Int → Except Error Int) : Except Error Value := do
  let a ← v.toInt
  let b ← w.toInt
  return .int (← f a b)

def Operator.apply (v w : Value) : Operator → Except Error Value
  | .plus => plus v w
  | .minus => arithmetic v w fun a b => .ok (a - b)
  | .times => arithmetic v w fun a b => .ok (a * b)
  | .over => arithmetic v w fun a b => if b = 0 then .error .divisionByZero else .ok (a.fdiv b)
  | .modulo => arithmetic v w fun a b => if b = 0 then .error .divisionByZero else .ok (a.fmod b)

/-- How much deeper evaluation can go. -/
inductive Room
  | endless
  | levels (n : Nat)
  deriving DecidableEq, Repr

/-- Goes one level deeper, unless there is none left. -/
def Room.enter (full : ε) (f : Room → Except ε α) : Room → Except ε α
  | .endless => f .endless
  | .levels 0 => .error full
  | .levels (n + 1) => f (.levels n)

/-- Evaluation where there is so much room. An operand is evaluated one level deeper, an argument
two: it is asked for by the list of the arguments, which the call goes through. -/
def evalWithin (captures : Captures) : Expr → Room → Except Error Value
  | .int n, room => room.enter .tooDeep fun _ => .ok (.int n)
  | .text t, room => room.enter .tooDeep fun _ => .ok (.text t)
  | .capture i, room => room.enter .tooDeep fun _ => .ok (.text (captures.text i))
  | .neg e, room => room.enter .tooDeep fun room => do
    return .int (-(← (← e.evalWithin captures room).toInt))
  | .binary op l r, room => room.enter .tooDeep fun room => do
    let v ← l.evalWithin captures room
    let w ← r.evalWithin captures room
    Operator.apply v w op
  | .convert f e, room => room.enter .tooDeep <| Room.enter .tooDeep fun room => do
    Conversion.apply (← e.evalWithin captures room) f
  | .repeated t n, room => room.enter .tooDeep <| Room.enter .tooDeep fun room => do
    let t ← t.evalWithin captures room
    let n ← n.evalWithin captures room
    return .text (← repeatText (← t.toText) (← n.toCount) [])
  | .repeatedWith t n sep, room => room.enter .tooDeep <| Room.enter .tooDeep fun room => do
    let t ← t.evalWithin captures room
    let n ← n.evalWithin captures room
    let sep ← sep.evalWithin captures room
    let t ← t.toText
    let sep ← sep.toText
    return .text (← repeatText t (← n.toCount) sep)
  | .zeros rows cols, room => room.enter .tooDeep <| Room.enter .tooDeep fun room => do
    let rows ← rows.evalWithin captures room
    let cols ← cols.evalWithin captures room
    return .text (← zeroMatrix (← rows.toCount) (← cols.toCount))

/-- Evaluation where the room is never too small. -/
def eval (captures : Captures) (e : Expr) : Except Error Value := e.evalWithin captures .endless

end LatexSnippets.Expr
