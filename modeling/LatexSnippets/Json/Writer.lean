import LatexSnippets.Json.Basic
import LatexSnippets.Text.Numeral
import LatexSnippets.Text.Quoted

/-!
Writing JSON over several lines, two spaces to a level.
-/

namespace LatexSnippets.Json

namespace Writer

/-- An escape by code unit. -/
def unit (n : Nat) : Text := '\\' :: 'u' :: Text.hex 4 n

/-- A character inside a string. With `ascii`, everything beyond printable ASCII is escaped. -/
def char (ascii : Bool) (c : Char) : Text :=
  if c = '"' then ['\\', '"']
  else if c = '\\' then ['\\', '\\']
  else if c = '\n' then ['\\', 'n']
  else if c = '\r' then ['\\', 'r']
  else if c = '\t' then ['\\', 't']
  else if c = '\x0c' then ['\\', 'f']
  else if c = '\x08' then ['\\', 'b']
  else if c.toNat < 0x20 then unit c.toNat
  else if !ascii || c.toNat < 0x7F then [c]
  else if c.toNat < 0x10000 then unit c.toNat
  else
    let n := c.toNat - 0x10000
    unit (0xD800 + n / 0x400) ++ unit (0xDC00 + n % 0x400)

def string (ascii : Bool) (t : Text) : Text := '"' :: (t.flatMap (char ascii) ++ ['"'])

def newline (level : Nat) : Text := '\n' :: List.replicate (2 * level) ' '

/-- Items between brackets, each on a line of its own. -/
def block (level : Nat) (opening closing : Char) : List Text → Text
  | [] => [opening, closing]
  | items =>
    opening :: newline (level + 1) ++ Text.joinWith (',' :: newline (level + 1)) items ++
      newline level ++ [closing]

/-- The text of `± digits · 10 ^ exponent`. -/
def decimal (negative : Bool) (digits : Nat) (exponent : Int) : Text :=
  (if negative then ['-'] else []) ++ Numeral.ofNat digits ++ 'e' :: Numeral.ofInt exponent

mutual

def value (ascii : Bool) (level : Nat) : Json → Text
  | .null => "null"
  | .bool true => "true"
  | .bool false => "false"
  | .int n => Numeral.ofInt n
  | .decimal negative digits exponent => decimal negative digits exponent
  | .notFinite => "NaN"
  | .text t => string ascii t
  | .array vs => block level '[' ']' (items ascii (level + 1) vs)
  | .object ms => block level '\x7b' '\x7d' (members ascii (level + 1) ms)

def items (ascii : Bool) (level : Nat) : List Json → List Text
  | [] => []
  | v :: vs => value ascii level v :: items ascii level vs

def members (ascii : Bool) (level : Nat) : List (Text × Json) → List Text
  | [] => []
  | (name, v) :: ms =>
    (string ascii name ++ [':', ' '] ++ value ascii level v) :: members ascii level ms

end

end Writer

def write (ascii : Bool) (v : Json) : Text := Writer.value ascii 0 v

end LatexSnippets.Json
