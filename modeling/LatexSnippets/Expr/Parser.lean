import LatexSnippets.Expr.Token

/-!
Reading expressions from tokens. Products bind tighter than sums, both group to the left, and a
minus sign binds tightest. Each function answers an expression and the tokens after it. Parentheses
may stand inside one another as deep as they like: unlike evaluation, reading is not limited.
-/

namespace LatexSnippets.Expr

def Symbol.additive? : Symbol → Option Operator
  | .plus => some .plus
  | .minus => some .minus
  | _ => none

def Symbol.multiplicative? : Symbol → Option Operator
  | .times => some .times
  | .over => some .over
  | .modulo => some .modulo
  | _ => none

namespace Parser

/-- The operator that tokens begin with, if it is one of a kind. -/
def operator? (kind : Symbol → Option Operator) : List Token → Option (Operator × List Token)
  | .symbol s :: rest => (kind s).map (·, rest)
  | _ => none

def expect (source : Text) (s : Symbol) : List Token → Except Error (List Token)
  | [] => .error (.unexpectedEnd source)
  | t :: rest =>
    if t = .symbol s then .ok rest else .error (.expected s.text t.text source)

def number (digits : Text) : Except Error Nat := (Numeral.readDigits digits).mapError .numeral

def call (f : Function) (args : List Expr) : Except Error Expr :=
  match call? f args with
  | some e => .ok e
  | none => .error (.wrongArguments f args.length)

mutual

def sum (source : Text) : (fuel : Nat) → List Token → Except Error (Expr × List Token)
  | 0, _ => .error (.unexpectedEnd source)
  | fuel + 1, ts => do
    let (e, ts) ← product source fuel ts
    sumFrom source fuel e ts

def sumFrom (source : Text) : (fuel : Nat) → Expr → List Token → Except Error (Expr × List Token)
  | 0, _, _ => .error (.unexpectedEnd source)
  | fuel + 1, e, ts =>
    match operator? Symbol.additive? ts with
    | none => .ok (e, ts)
    | some (op, ts) => do
      let (e', ts) ← product source fuel ts
      sumFrom source fuel (.binary op e e') ts

def product (source : Text) : (fuel : Nat) → List Token → Except Error (Expr × List Token)
  | 0, _ => .error (.unexpectedEnd source)
  | fuel + 1, ts => do
    let (e, ts) ← factor source fuel ts
    productFrom source fuel e ts

def productFrom (source : Text) :
    (fuel : Nat) → Expr → List Token → Except Error (Expr × List Token)
  | 0, _, _ => .error (.unexpectedEnd source)
  | fuel + 1, e, ts =>
    match operator? Symbol.multiplicative? ts with
    | none => .ok (e, ts)
    | some (op, ts) => do
      let (e', ts) ← factor source fuel ts
      productFrom source fuel (.binary op e e') ts

def factor (source : Text) : (fuel : Nat) → List Token → Except Error (Expr × List Token)
  | 0, _ => .error (.unexpectedEnd source)
  | fuel + 1, ts =>
    match ts with
    | [] => .error (.unexpectedEnd source)
    | .symbol .minus :: ts => do
      let (e, ts) ← factor source fuel ts
      return (.neg e, ts)
    | .int digits :: ts => do return (.int (← number digits), ts)
    | .quoted raw :: ts => .ok (.text (Token.unescape raw), ts)
    | .capture digits :: ts => do return (.capture (← number digits), ts)
    | .name t :: ts =>
      match Function.ofName? t with
      | none => .error (.unknownFunction t)
      | some f => do
        let ts ← expect source .opening ts
        let (args, ts) ← arguments source fuel ts
        let ts ← expect source .closing ts
        return (← call f args, ts)
    | .symbol .opening :: ts => do
      let (e, ts) ← sum source fuel ts
      return (e, ← expect source .closing ts)
    | t :: _ => .error (.unexpected t.text source)

/-- The arguments up to a closing parenthesis or the end. -/
def arguments (source : Text) :
    (fuel : Nat) → List Token → Except Error (List Expr × List Token)
  | 0, _ => .error (.unexpectedEnd source)
  | _ + 1, [] => .ok ([], [])
  | fuel + 1, t :: ts =>
    if t = .symbol .closing then .ok ([], t :: ts)
    else do
      let (e, ts) ← sum source fuel (t :: ts)
      argumentsFrom source fuel [e] ts

/-- The arguments that follow those in `done`. -/
def argumentsFrom (source : Text) :
    (fuel : Nat) → List Expr → List Token → Except Error (List Expr × List Token)
  | 0, _, _ => .error (.unexpectedEnd source)
  | fuel + 1, done, .symbol .comma :: ts => do
    let (e, ts) ← sum source fuel ts
    argumentsFrom source fuel (done ++ [e]) ts
  | _ + 1, done, ts => .ok (done, ts)

end

end Parser

def parse (source : Text) : Except Error Expr := do
  let ts ← Token.readAll source source
  if ts.isEmpty then throw .empty
  let (e, rest) ← Parser.sum source (6 * ts.length + 6) ts
  match rest with
  | [] => return e
  | t :: _ => throw (.unexpected t.text source)

end LatexSnippets.Expr
