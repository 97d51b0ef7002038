import LatexSnippets.Text.Basic
import LatexSnippets.Unicode.Blank
import LatexSnippets.Unicode.Letter

/-!
Integers as text. Numbers of more than `Numeral.maxDigits` digits are neither read nor written.
-/

namespace LatexSnippets

namespace Numeral

def maxDigits : Nat := 4300

inductive Error
  | malformed
  /-- A numeral of `digits` digits is too long to be read. -/
  | tooLongToRead (digits : Nat)
  | tooLongToWrite
  deriving DecidableEq, Repr

def Error.message : Error → String
  | .malformed => "invalid integer"
  | .tooLongToRead n =>
    "Exceeds the limit (4300 digits) for integer string conversion: value has " ++ toString n ++
      " digits; use sys.set_int_max_str_digits() to increase the limit"
  | .tooLongToWrite =>
    "Exceeds the limit (4300 digits) for integer string conversion; " ++
      "use sys.set_int_max_str_digits() to increase the limit"

def ofDigits (ds : List Nat) : Nat := ds.foldl (fun n d => 10 * n + d) 0

def readDigits (t : Text) : Except Error Nat :=
  if maxDigits < t.length then .error (.tooLongToRead t.length)
  else .ok (ofDigits (t.filterMap Unicode.digit?))

/-- Digits with single underscores between them. -/
def readGrouped (t : Text) : Except Error Nat :=
  let groups := Text.splitAt '_' t
  if groups.all fun g => !g.isEmpty && g.all Unicode.isDecimal then readDigits groups.flatten
  else .error .malformed

/-- White space that may stand around a number; the information separators may not. -/
def isPadding (c : Char) : Bool := Unicode.isBlank c && !(0x1C ≤ c.toNat && c.toNat ≤ 0x1F)

def strip (t : Text) : Text :=
  ((t.dropWhile isPadding).reverse.dropWhile isPadding).reverse

/-- Reads an integer with an optional sign; white space around it does not count. -/
def read (t : Text) : Except Error Int :=
  match strip t with
  | '-' :: rest => (readGrouped rest).map fun n => -(n : Int)
  | '+' :: rest => (readGrouped rest).map Int.ofNat
  | rest => (readGrouped rest).map Int.ofNat

def ofNat (n : Nat) : Text := Nat.toDigits 10 n

def ofInt : Int → Text
  | .ofNat n => ofNat n
  | .negSucc n => '-' :: ofNat (n + 1)

def write (n : Int) : Except Error Text :=
  if Nat.pow 10 maxDigits ≤ n.natAbs then .error .tooLongToWrite else .ok (ofInt n)

end Numeral

end LatexSnippets
