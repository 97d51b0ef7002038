import LatexSnippets.Json.Basic
import LatexSnippets.Text.Numeral

/-!
Reading JSON. Two dialects are read: they differ in how deep values may be nested and in what
becomes of half a surrogate pair.
-/

namespace LatexSnippets.Json

structure Dialect where
  /-- How many arrays and objects may stand inside one another. -/
  depth : Nat
  /-- Half a surrogate pair reads as the replacement character; else it is an error. -/
  acceptsHalves : Bool

inductive Error
  | malformed
  /-- An integer of too many digits. -/
  | longNumber (digits : Nat)
  /-- An array, or else an object, begins deeper than the dialect allows. -/
  | tooDeep (array : Bool)
  deriving DecidableEq, Repr

namespace Reader

def isBlank (c : Char) : Bool := c = ' ' || c = '\t' || c = '\n' || c = '\r'

def skipBlanks (t : Text) : Text := t.dropWhile isBlank

def hexValue? (c : Char) : Option Nat :=
  if c.isDigit then some (c.toNat - '0'.toNat)
  else if 'a' ≤ c && c ≤ 'f' then some (c.toNat - 'a'.toNat + 10)
  else if 'A' ≤ c && c ≤ 'F' then some (c.toNat - 'A'.toNat + 10)
  else none

def unit? (a b c d : Char) : Option Nat := do
  return (((← hexValue? a) * 16 + (← hexValue? b)) * 16 + (← hexValue? c)) * 16 + (← hexValue? d)

def escaped? : Char → Option Char
  | '"' => some '"'
  | '\\' => some '\\'
  | '/' => some '/'
  | 'b' => some '\x08'
  | 'f' => some '\x0c'
  | 'n' => some '\n'
  | 'r' => some '\r'
  | 't' => some '\t'
  | _ => none

/-- The code units of a string up to its closing quote, and what follows that. -/
def units : Text → Option (List Nat × Text)
  | [] => none
  | '"' :: rest => some ([], rest)
  | '\\' :: 'u' :: a :: b :: c :: d :: rest => do
    let n ← unit? a b c d
    let (ns, after) ← units rest
    return (n :: ns, after)
  | '\\' :: c :: rest => do
    let c ← escaped? c
    let (ns, after) ← units rest
    return (c.toNat :: ns, after)
  | c :: rest =>
    if c.toNat < 0x20 || c = '\\' then none
    else (units rest).map fun (ns, after) => (c.toNat :: ns, after)

def isHigh (n : Nat) : Bool := 0xD800 ≤ n && n < 0xDC00

def isLow (n : Nat) : Bool := 0xDC00 ≤ n && n < 0xE000

/-- Joins surrogate pairs to characters. -/
def joinHalves (acceptsHalves : Bool) : List Nat → Option Text
  | [] => some []
  | [n] =>
    if isHigh n || isLow n then (if acceptsHalves then some ['\ufffd'] else none)
    else some [Char.ofNat n]
  | n :: m :: rest =>
    if isHigh n && isLow m then
      (joinHalves acceptsHalves rest).map
        (Char.ofNat (0x10000 + (n - 0xD800) * 0x400 + (m - 0xDC00)) :: ·)
    else if isHigh n || isLow n then
      if acceptsHalves then (joinHalves acceptsHalves (m :: rest)).map ('\ufffd' :: ·) else none
    else (joinHalves acceptsHalves (m :: rest)).map (Char.ofNat n :: ·)

def string (d : Dialect) (t : Text) : Except Error (Text × Text) :=
  match units t with
  | none => .error .malformed
  | some (ns, after) =>
    match joinHalves d.acceptsHalves ns with
    | none => .error .malformed
    | some s => .ok (s, after)

def digits? (t : Text) : Option (Text × Text) :=
  match t.takeWhile Char.isDigit with
  | [] => none
  | ds => some (ds, t.dropWhile Char.isDigit)

/-- The digits before the point of a number. A zero in front is a number of its own. -/
def whole? : Text → Option (Text × Text)
  | '0' :: rest => some (['0'], rest)
  | t => digits? t

def valueOf (ds : Text) : Nat := Numeral.ofDigits (ds.map fun c => c.toNat - '0'.toNat)

/-- The digits behind the point of a number, if a point and digits follow. -/
def fraction : Text → Text × Text
  | '.' :: rest => (digits? rest).getD ([], '.' :: rest)
  | t => ([], t)

/-- Digits with an optional sign. -/
def signed? : Text → Option (Int × Text)
  | '-' :: rest => (digits? rest).map fun (ds, after) => (-(valueOf ds : Int), after)
  | '+' :: rest => (digits? rest).map fun (ds, after) => (valueOf ds, after)
  | rest => (digits? rest).map fun (ds, after) => (valueOf ds, after)

def exponent : Text → Option Int × Text
  | c :: rest =>
    if c = 'e' || c = 'E' then
      match signed? rest with
      | some (n, after) => (some n, after)
      | none => (none, c :: rest)
    else (none, c :: rest)
  | [] => (none, [])

/-- The number of its parts: an integer if it is written without a fraction and an exponent. -/
def numberOf (negative : Bool) (whole frac : Text) : Option Int → Json
  | none =>
    if frac.isEmpty then .int (if negative then -(valueOf whole : Int) else valueOf whole)
    else .decimal negative (valueOf (whole ++ frac)) (-frac.length)
  | some e => .decimal negative (valueOf (whole ++ frac)) (e - frac.length)

def unsigned (negative : Bool) (t : Text) : Except Error (Json × Text) :=
  match whole? t with
  | none => .error .malformed
  | some (whole, rest) =>
    let (frac, rest) := fraction rest
    let (e, after) := exponent rest
    if frac.isEmpty && e.isNone && Numeral.maxDigits < whole.length then
      .error (.longNumber whole.length)
    else .ok (numberOf negative whole frac e, after)

def number : Text → Except Error (Json × Text)
  | '-' :: rest => unsigned true rest
  | t => unsigned false t

def word? (w t : Text) : Option Text := if w.isPrefixOf t then some (t.drop w.length) else none

def words : List (Text × Json) :=
  [("null", .null), ("true", .bool true), ("false", .bool false), ("NaN", .notFinite),
    ("Infinity", .notFinite), ("-Infinity", .notFinite)]

def scalar (d : Dialect) : Text → Except Error (Json × Text)
  | '"' :: rest => (string d rest).map fun (s, after) => (.text s, after)
  | t =>
    match words.findSome? fun (w, v) => (word? w t).map (v, ·) with
    | some r => .ok r
    | none => number t

/-- The name of a member and its colon. -/
def name (d : Dialect) (t : Text) : Except Error (Text × Text) := do
  match skipBlanks t with
  | '"' :: rest =>
    let (s, rest) ← string d rest
    match skipBlanks rest with
    | ':' :: rest => return (s, rest)
    | _ => throw .malformed
  | _ => throw .malformed

mutual

/-- A value at the beginning of a text, with `depth` more levels allowed, and what follows it. -/
def value (d : Dialect) : (fuel depth : Nat) → Text → Except Error (Json × Text)
  | 0, _, _ => .error .malformed
  | fuel + 1, depth, t =>
    match skipBlanks t, depth with
    | '[' :: rest, depth + 1 =>
      match skipBlanks rest with
      | ']' :: after => .ok (.array [], after)
      | _ => (items d fuel depth rest).map fun (vs, after) => (.array vs, after)
    | '\x7b' :: rest, depth + 1 =>
      match skipBlanks rest with
      | '\x7d' :: after => .ok (.object [], after)
      | _ => (members d fuel depth rest).map fun (ms, after) => (.object ms, after)
    | '[' :: _, 0 => .error (.tooDeep true)
    | '\x7b' :: _, 0 => .error (.tooDeep false)
    | t, _ => scalar d t

def items (d : Dialect) : (fuel depth : Nat) → Text → Except Error (List Json × Text)
  | 0, _, _ => .error .malformed
  | fuel + 1, depth, t => do
    let (v, rest) ← value d fuel depth t
    match skipBlanks rest with
    | ']' :: after => return ([v], after)
    | ',' :: rest =>
      let (vs, after) ← items d fuel depth rest
      return (v :: vs, after)
    | _ => throw .malformed

def members (d : Dialect) : (fuel depth : Nat) → Text → Except Error (List (Text × Json) × Text)
  | 0, _, _ => .error .malformed
  | fuel + 1, depth, t => do
    let (s, rest) ← name d t
    let (v, rest) ← value d fuel depth rest
    match skipBlanks rest with
    | '\x7d' :: after => return ([(s, v)], after)
    | ',' :: rest =>
      let (ms, after) ← members d fuel depth rest
      return ((s, v) :: ms, after)
    | _ => throw .malformed

end

end Reader

/-- Every level takes two steps, so that twice the length is enough fuel. -/
def read (d : Dialect) (t : Text) : Except Error Json := do
  let (v, rest) ← Reader.value d (2 * t.length + 1) d.depth t
  if (Reader.skipBlanks rest).isEmpty then return v else throw .malformed

end LatexSnippets.Json
