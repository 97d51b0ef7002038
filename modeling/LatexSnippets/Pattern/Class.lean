import LatexSnippets.Pattern.Basic
import LatexSnippets.Unicode.Blank
import LatexSnippets.Unicode.Case
import LatexSnippets.Unicode.Letter

/-!
Which characters a code point or a bracketed class of a pattern admits. When case does not count,
two characters are the same if their lower cases are, or stand together in `sameCase`.
-/

namespace LatexSnippets.Pattern

open Unicode

/-- Lower-case characters that share an upper case, each listed with the others. -/
def sameCase : Nat → List Nat
  | 0x69 => [0x131]
  | 0x131 => [0x69]
  | 0x73 => [0x17F]
  | 0x17F => [0x73]
  | 0xB5 => [0x3BC]
  | 0x3BC => [0xB5]
  | 0x345 => [0x3B9, 0x1FBE]
  | 0x3B9 => [0x345, 0x1FBE]
  | 0x1FBE => [0x345, 0x3B9]
  | 0x390 => [0x1FD3]
  | 0x1FD3 => [0x390]
  | 0x3B0 => [0x1FE3]
  | 0x1FE3 => [0x3B0]
  | 0x3B2 => [0x3D0]
  | 0x3D0 => [0x3B2]
  | 0x3B5 => [0x3F5]
  | 0x3F5 => [0x3B5]
  | 0x3B8 => [0x3D1]
  | 0x3D1 => [0x3B8]
  | 0x3BA => [0x3F0]
  | 0x3F0 => [0x3BA]
  | 0x3C0 => [0x3D6]
  | 0x3D6 => [0x3C0]
  | 0x3C1 => [0x3F1]
  | 0x3F1 => [0x3C1]
  | 0x3C2 => [0x3C3]
  | 0x3C3 => [0x3C2]
  | 0x3C6 => [0x3D5]
  | 0x3D5 => [0x3C6]
  | 0x432 => [0x1C80]
  | 0x1C80 => [0x432]
  | 0x434 => [0x1C81]
  | 0x1C81 => [0x434]
  | 0x43E => [0x1C82]
  | 0x1C82 => [0x43E]
  | 0x441 => [0x1C83]
  | 0x1C83 => [0x441]
  | 0x442 => [0x1C84, 0x1C85]
  | 0x1C84 => [0x442, 0x1C85]
  | 0x1C85 => [0x442, 0x1C84]
  | 0x44A => [0x1C86]
  | 0x1C86 => [0x44A]
  | 0x463 => [0x1C87]
  | 0x1C87 => [0x463]
  | 0x1C88 => [0xA64B]
  | 0xA64B => [0x1C88]
  | 0x1E61 => [0x1E9B]
  | 0x1E9B => [0x1E61]
  | 0xFB05 => [0xFB06]
  | 0xFB06 => [0xFB05]
  | _ => []

/-- Lower case under the options: of ASCII letters alone, or of all. -/
def Options.lower (o : Options) (c : Nat) : Nat :=
  if o.ascii then (if 0x41 ≤ c && c ≤ 0x5A then c + 32 else c) else lowerCode c

/-- The code points that have a given lower case, itself apart. -/
def Options.capitals (o : Options) (low : Nat) : List Nat :=
  if o.ascii then (if 0x61 ≤ low && low ≤ 0x7A then [low - 32] else [])
  else lowerSpans.filterMap (·.source? low)

/-- The code points that count as `c` when case does not. -/
def Options.variants (o : Options) (c : Nat) : List Nat :=
  let low := o.lower c
  let lows := low :: (if o.ascii then [] else sameCase low)
  lows ++ lows.flatMap o.capitals

def Category.admits (o : Options) (c : Char) : Category → Bool
  | .digit => if o.ascii then c.isDigit else isDecimal c
  | .blank => (!o.ascii || c.toNat < 28) && isBlank c || c == ' '
  | .word => if o.ascii then c.isAlphanum || c == '_' else isWord c

/-- Whether the code point `a` of a pattern admits the character `c`. -/
def admitsCode (o : Options) (a : Nat) (c : Char) : Bool :=
  if o.ignoreCase then (o.variants c.toNat).elem a else a = c.toNat

def ClassItem.admits (o : Options) (c : Char) : ClassItem → Bool
  | .code a => admitsCode o a c
  | .range lo hi =>
    if o.ignoreCase then (o.variants c.toNat).any fun a => lo ≤ a && a ≤ hi
    else lo ≤ c.toNat && c.toNat ≤ hi
  | .category k negated => k.admits o c != negated

def admitsOneOf (o : Options) (negated : Bool) (items : List ClassItem) (c : Char) : Bool :=
  items.any (·.admits o c) != negated

end LatexSnippets.Pattern
