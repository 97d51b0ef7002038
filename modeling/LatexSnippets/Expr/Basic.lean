import LatexSnippets.Text.Numeral
import LatexSnippets.Text.Quoted

/-!
Expressions inside templates: integers, texts, captures, arithmetic and a fixed set of functions.
-/

namespace LatexSnippets

inductive Operator
  /-- Adds integers, joins texts. -/
  | plus
  | minus
  | times
  /-- The quotient rounded down. -/
  | over
  /-- The remainder of `over`. -/
  | modulo
  deriving DecidableEq, Repr

def Operator.symbol : Operator → String
  | .plus => "+"
  | .minus => "-"
  | .times => "*"
  | .over => "//"
  | .modulo => "%"

inductive Conversion
  | toInt
  | toText
  | toUpper
  | toLower
  /-- The identity matrix of a size. -/
  | identity
  deriving DecidableEq, Repr

inductive Function
  | conversion (f : Conversion)
  /-- A text some times over, with an optional separator. -/
  | repeated
  /-- The zero matrix of given rows and columns. -/
  | zeros
  deriving DecidableEq, Repr

namespace Function

def name : Function → String
  | .conversion .toInt => "int"
  | .conversion .toText => "str"
  | .conversion .toUpper => "upper"
  | .conversion .toLower => "lower"
  | .conversion .identity => "identity"
  | .repeated => "repeat"
  | .zeros => "zeros"

def all : List Function :=
  [.conversion .toInt, .conversion .toText, .conversion .toUpper, .conversion .toLower, .repeated,
    .conversion .identity, .zeros]

def ofName? (t : Text) : Option Function := all.find? fun f => f.name.toList = t

def leastArguments : Function → Nat
  | .conversion _ => 1
  | .repeated | .zeros => 2

def mostArguments : Function → Nat
  | .conversion _ => 1
  | .repeated => 3
  | .zeros => 2

end Function

inductive Expr
  | int (n : Nat)
  | text (t : Text)
  | capture (i : Nat)
  | neg (e : Expr)
  | binary (op : Operator) (left right : Expr)
  | convert (f : Conversion) (e : Expr)
  | repeated (t n : Expr)
  | repeatedWith (t n sep : Expr)
  | zeros (rows cols : Expr)
  deriving DecidableEq, Repr

namespace Expr

/-- The call of a function, if it takes that many arguments. -/
def call? : Function → List Expr → Option Expr
  | .conversion f, [e] => some (.convert f e)
  | .repeated, [t, n] => some (.repeated t n)
  | .repeated, [t, n, sep] => some (.repeatedWith t n sep)
  | .zeros, [rows, cols] => some (.zeros rows cols)
  | _, _ => none

/-- The function that an expression calls and the arguments it passes. -/
def asCall? : Expr → Option (Function × List Expr)
  | .convert f e => some (.conversion f, [e])
  | .repeated t n => some (.repeated, [t, n])
  | .repeatedWith t n sep => some (.repeated, [t, n, sep])
  | .zeros rows cols => some (.zeros, [rows, cols])
  | _ => none

inductive Error
  | empty
  | strayCharacter (c source : Text)
  | unexpected (token source : Text)
  | unexpectedEnd (source : Text)
  | expected (wanted token source : Text)
  | unknownFunction (name : Text)
  | wrongArguments (f : Function) (given : Nat)
  | notInteger (t : Text)
  | countOutOfRange (n : Int)
  | tooLong (size : Nat)
  | divisionByZero
  /-- An integer too long to be read or written as text. -/
  | numeral (e : Numeral.Error)
  /-- Operands lie deeper inside one another than evaluation can go. -/
  | tooDeep
  deriving DecidableEq, Repr

def maxRepeat : Nat := 64

/-- The greatest length of a text that is put together. -/
def maxOutput : Nat := 65536

def Error.message : Error → String
  | .empty => "empty expression"
  | .strayCharacter c source => s!"unexpected character {quote c} in {quote source}"
  | .unexpected token source => s!"unexpected {quote token} in {quote source}"
  | .unexpectedEnd source => s!"unexpected end of {quote source}"
  | .expected wanted token source =>
    s!"expected {quote wanted}, got {quote token} in {quote source}"
  | .unknownFunction name => s!"unknown function {quote name}"
  | .wrongArguments f given =>
    s!"{f.name}() takes {f.leastArguments}..{f.mostArguments} arguments, got {given}"
  | .notInteger t => s!"expected an integer, got {quote t}"
  | .countOutOfRange n => s!"count {n} outside 0..{maxRepeat}"
  | .tooLong size => s!"result of {size} characters exceeds {maxOutput}"
  | .divisionByZero => "division by zero"
  | .numeral e => e.message
  | .tooDeep => "maximum recursion depth exceeded"
where
  quote (t : Text) : String := String.ofList t.quoted

end Expr

end LatexSnippets
