import LatexSnippets.Proofs.Expr.Depth
import LatexSnippets.Proofs.Expr.Failures

/-!
Expressions as trees in which nothing is checked: an operation has any text for its operator, a call
any name and any list of arguments. Their evaluation can fail where that of expressions cannot, on
functions that do not exist, arguments that a function does not take, captures that are looked up
beyond the end, and a division whose divisor was not looked at. The trees of expressions never fail
there.
-/

namespace LatexSnippets.Expr

inductive Untyped
  | int (n : Nat)
  | text (t : Text)
  | capture (i : Nat)
  | neg (t : Untyped)
  | binary (op : Text) (left right : Untyped)
  | call (name : Text) (args : List Untyped)

inductive Fault
  | reported (e : Error)
  | noFunction (name : Text)
  | wrongArguments (f : Function) (given : Nat)
  | noCapture (i : Nat)
  | zeroDivision
  deriving DecidableEq, Repr

def reporting {α : Type} (x : Except Error α) : Except Fault α := x.mapError .reported

/-- There is no room left to evaluate an operand. -/
def overrun : Fault := .reported .tooDeep

namespace Untyped

def captureAt (captures : Captures) (i : Nat) : Except Fault (Option Text) :=
  match captures[i]? with
  | some c => .ok c
  | none => .error (.noCapture i)

/-- The text of a capture. It is looked up only if there is one of that number. -/
def captureText (captures : Captures) (i : Nat) : Except Fault Text := do
  if i < captures.length then return (← captureAt captures i).getD []
  return []

def divide (f : Int → Int → Int) (a b : Int) : Except Fault Int :=
  if b = 0 then .error .zeroDivision else .ok (f a b)

/-- An operation on integers by its operator, which is taken to be the remainder if it is none of
the others. Divisors are looked at before it is told which division is meant. -/
def calculate (op : Text) (a b : Int) : Except Fault Int :=
  if op = "-".toList then .ok (a - b)
  else if op = "*".toList then .ok (a * b)
  else if b = 0 then .error (.reported .divisionByZero)
  else if op = "//".toList then divide Int.fdiv a b
  else divide Int.fmod a b

def operate (op : Text) (v w : Value) : Except Fault Value :=
  if op = "+".toList then reporting (plus v w)
  else do
    let a ← reporting v.toInt
    let b ← reporting w.toInt
    return .int (← calculate op a b)

def repeatValue (t n sep : Value) : Except Error Value := do
  let t ← t.toText
  let sep ← sep.toText
  return .text (← repeatText t (← n.toCount) sep)

def zeroValue (rows cols : Value) : Except Error Value := do
  return .text (← zeroMatrix (← rows.toCount) (← cols.toCount))

/-- A function applied to as many values as there happen to be. The separator is empty unless it is
given. -/
def apply (f : Function) (args : List Value) : Except Fault Value :=
  match f, args with
  | .conversion f, [v] => reporting (Conversion.apply v f)
  | .repeated, [t, n] => reporting (repeatValue t n (.text []))
  | .repeated, [t, n, sep] => reporting (repeatValue t n sep)
  | .zeros, [rows, cols] => reporting (zeroValue rows cols)
  | _, _ => .error (.wrongArguments f args.length)

mutual

def eval (captures : Captures) : Untyped → Room → Except Fault Value
  | .int n, room => room.enter overrun fun _ => .ok (.int n)
  | .text t, room => room.enter overrun fun _ => .ok (.text t)
  | .capture i, room => room.enter overrun fun _ => do return .text (← captureText captures i)
  | .neg t, room => room.enter overrun fun room => do
    return .int (-(← reporting (← t.eval captures room).toInt))
  | .binary op l r, room => room.enter overrun fun room => do
    let v ← l.eval captures room
    let w ← r.eval captures room
    operate op v w
  | .call name args, room => room.enter overrun fun room =>
    match Function.ofName? name with
    | none => .error (.noFunction name)
    | some f => room.enter overrun fun room => do apply f (← evalAll captures args room)

def evalAll (captures : Captures) : List Untyped → Room → Except Fault (List Value)
  | [], _ => .ok []
  | t :: ts, room => return (← t.eval captures room) :: (← evalAll captures ts room)

end

/-- Every operator is one, and every call passes a function that there is a number of arguments that
it takes. -/
inductive WellFormed : Untyped → Prop
  | int (n : Nat) : WellFormed (.int n)
  | text (t : Text) : WellFormed (.text t)
  | capture (i : Nat) : WellFormed (.capture i)
  | neg {t : Untyped} (h : WellFormed t) : WellFormed (.neg t)
  | binary (op : Operator) {l r : Untyped} (hl : WellFormed l) (hr : WellFormed r) :
      WellFormed (.binary op.symbol.toList l r)
  | call (f : Function) {args : List Untyped} (h : ∀ t ∈ args, WellFormed t)
      (hl : f.leastArguments ≤ args.length) (hm : args.length ≤ f.mostArguments) :
      WellFormed (.call f.name.toList args)

end Untyped

open Untyped

/-- The tree of an expression, which names its operators and functions. -/
def erase : Expr → Untyped
  | .int n => .int n
  | .text t => .text t
  | .capture i => .capture i
  | .neg e => .neg e.erase
  | .binary op l r => .binary op.symbol.toList l.erase r.erase
  | .convert f e => .call (Function.conversion f).name.toList [e.erase]
  | .repeated t n => .call Function.repeated.name.toList [t.erase, n.erase]
  | .repeatedWith t n sep =>
    .call Function.repeated.name.toList [t.erase, n.erase, sep.erase]
  | .zeros rows cols => .call Function.zeros.name.toList [rows.erase, cols.erase]

section Call

variable {f : Function} {args : List Expr} {e : Expr} {t : Untyped}

end Call

section Eval

variable {captures : Captures}

end Eval

end LatexSnippets.Expr
