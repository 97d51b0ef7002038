import LatexSnippets.Text.Basic

/-!
Patterns: regular expressions with groups, references back to them, lookaround and scoped options.
Characters are held as code points, for a pattern may name one that no text contains.
-/

namespace LatexSnippets

namespace Pattern

/-- The options a pattern is read and matched under. -/
structure Options where
  ignoreCase : Bool
  multiLine : Bool
  dotAll : Bool
  /-- White space and comments in the source do not count. -/
  spaced : Bool
  /-- Classes and cases are those of ASCII. -/
  ascii : Bool
  deriving DecidableEq, Repr, Inhabited

def Options.plain : Options := ⟨false, false, false, false, false⟩

/-- Options that a part of a pattern switches on and off. -/
structure Change where
  on : Options
  off : Options
  /-- Goes back to the classes of all scripts. -/
  allScripts : Bool
  deriving DecidableEq, Repr

def Change.nothing : Change := ⟨.plain, .plain, false⟩

def Options.apply (o : Options) (c : Change) : Options where
  ignoreCase := (o.ignoreCase || c.on.ignoreCase) && !c.off.ignoreCase
  multiLine := (o.multiLine || c.on.multiLine) && !c.off.multiLine
  dotAll := (o.dotAll || c.on.dotAll) && !c.off.dotAll
  spaced := (o.spaced || c.on.spaced) && !c.off.spaced
  ascii := (o.ascii && !c.allScripts) || c.on.ascii

def Options.union (o p : Options) : Options :=
  ⟨o.ignoreCase || p.ignoreCase, o.multiLine || p.multiLine, o.dotAll || p.dotAll,
    o.spaced || p.spaced, o.ascii || p.ascii⟩

inductive Category
  | digit
  | blank
  | word
  deriving DecidableEq, Repr

inductive ClassItem
  | code (c : Nat)
  | range (lo hi : Nat)
  | category (k : Category) (negated : Bool)
  deriving DecidableEq, Repr

inductive Anchor
  | lineStart
  | lineEnd
  | textStart
  | textEnd
  | wordEdge
  | notWordEdge
  deriving DecidableEq, Repr

inductive Greed
  /-- As many rounds as possible first. -/
  | greedy
  /-- As few rounds as possible first. -/
  | lazy
  /-- As many rounds as possible, and never fewer. -/
  | possessive
  deriving DecidableEq, Repr

/-- Least and greatest length of what a pattern matches; no greatest length if there is no bound. -/
structure Width where
  least : Nat
  most : Option Nat
  deriving DecidableEq, Repr

namespace Width

def exactly (n : Nat) : Width := ⟨n, some n⟩

def seq (v w : Width) : Width := ⟨v.least + w.least, do return (← v.most) + (← w.most)⟩

def alt (v w : Width) : Width := ⟨min v.least w.least, do return max (← v.most) (← w.most)⟩

def rounds (lo : Nat) (hi : Option Nat) (w : Width) : Width :=
  ⟨lo * w.least, if w.most = some 0 || hi = some 0 then some 0 else do return (← hi) * (← w.most)⟩

end Width

end Pattern

inductive Pattern
  | empty
  | code (c : Nat)
  | any
  | oneOf (negated : Bool) (items : List Pattern.ClassItem)
  | anchor (a : Pattern.Anchor)
  | seq (p q : Pattern)
  | alt (p q : Pattern)
  /-- Remembers what `p` matched under the number `n`. -/
  | group (n : Nat) (p : Pattern)
  | scoped (c : Pattern.Change) (p : Pattern)
  | rounds (least : Nat) (most : Option Nat) (greed : Pattern.Greed) (p : Pattern)
  /-- Matches `p` in the first way that it can, and in no other. -/
  | atomic (p : Pattern)
  | lookAhead (negated : Bool) (p : Pattern)
  /-- Matches `p`, which has the width `w`, just before this place. -/
  | lookBack (w : Pattern.Width) (negated : Bool) (p : Pattern)
  | reference (n : Nat)
  /-- Goes on with `yes` if group `n` has matched, else with `no`. -/
  | ifGroup (n : Nat) (yes no : Pattern)
  deriving DecidableEq, Repr

namespace Pattern

inductive Error
  /-- The source is no pattern. -/
  | malformed
  | unknownOption (letter : Char)
  | countTooLarge
  /-- A count is written with too many digits. -/
  | countTooLong (digits : Nat)
  | incompatibleOptions
  deriving DecidableEq, Repr

/-- Whether the error lies in the form of the pattern and not in the size of a number in it. -/
def Error.isMalformed : Error → Bool
  | .malformed | .unknownOption _ => true
  | .countTooLarge | .countTooLong _ | .incompatibleOptions => false

def width (groups : Nat → Width) : Pattern → Width
  | .empty | .anchor _ | .lookAhead .. | .lookBack .. => .exactly 0
  | .code _ | .any | .oneOf .. => .exactly 1
  | .seq p q => (p.width groups).seq (q.width groups)
  | .alt p q => (p.width groups).alt (q.width groups)
  | .group _ p | .scoped _ p | .atomic p => p.width groups
  | .rounds lo hi _ p => (p.width groups).rounds lo hi
  | .reference n => groups n
  | .ifGroup _ yes no => (yes.width groups).alt (no.width groups)

def farthestLookBack : Nat := 4294967295

def looksBackSafely : Pattern → Bool
  | .empty | .code _ | .any | .oneOf .. | .anchor _ | .reference _ => true
  | .seq p q | .alt p q | .ifGroup _ p q => p.looksBackSafely && q.looksBackSafely
  | .group _ p | .scoped _ p | .rounds _ _ _ p | .atomic p | .lookAhead _ p => p.looksBackSafely
  | .lookBack w _ p => w.least ≤ farthestLookBack && w.most == some w.least && p.looksBackSafely

def hasRounds : Pattern → Bool
  | .empty | .code _ | .any | .oneOf .. | .anchor _ | .reference _ => false
  | .seq p q | .alt p q | .ifGroup _ p q => p.hasRounds || q.hasRounds
  | .group _ p | .scoped _ p | .atomic p | .lookAhead _ p | .lookBack _ _ p => p.hasRounds
  | .rounds .. => true

structure Compiled where
  body : Pattern
  groups : Nat
  options : Options
  deriving DecidableEq, Repr

end Pattern

end LatexSnippets
