import LatexSnippets.Pattern.Basic
import LatexSnippets.Assoc
import LatexSnippets.Text.Numeral
import LatexSnippets.Text.Quoted
import LatexSnippets.Unicode.Identifier

/-!
Reading a pattern from its source. The reader goes over tokens, which are single characters or
characters behind a backslash, and keeps account of the groups opened and closed so far. Characters
cannot be written by their names: an escaped `N` is malformed. Groups may stand inside one another as
deep as they like, so no pattern fails for being nested too deep.
-/

namespace LatexSnippets.Pattern

def Error.message : Error → String
  | .malformed => "malformed pattern"
  | .unknownOption c => "unsupported regex flag " ++ String.ofList (Text.quoted [c])
  | .countTooLarge => "the repetition number is too large"
  | .countTooLong n => (Numeral.Error.tooLongToRead n).message
  | .incompatibleOptions => "ASCII and UNICODE flags are incompatible"

inductive Token
  | plain (c : Char)
  | escaped (c : Char)
  deriving DecidableEq, Repr

def Token.text : Token → Text
  | .plain c => [c]
  | .escaped c => ['\\', c]

def Token.readAll : Text → Option (List Token)
  | [] => some []
  | ['\\'] => none
  | '\\' :: c :: rest => (Token.readAll rest).map (.escaped c :: ·)
  | c :: rest => (Token.readAll rest).map (.plain c :: ·)

/-- What the reader knows halfway through a source. -/
structure Progress where
  tokens : List Token
  /-- Options that hold for the whole pattern. -/
  options : Options
  /-- The whole pattern asks for the classes of all scripts. -/
  allScripts : Bool := false
  /-- The whole pattern may not repeat anything. -/
  roundless : Bool := false
  names : Assoc Nat := []
  /-- The widths of groups 1, 2, …, or none for a group that is still open. -/
  widths : List (Option Width) := []
  /-- The number of the next group when the outermost look back began. -/
  lookBackFrom : Option Nat := none
  /-- The groups that conditions ask about. -/
  asked : List Nat := []

namespace Progress

def nextGroup (s : Progress) : Nat := s.widths.length + 1

def isClosed (s : Progress) (n : Nat) : Bool :=
  0 < n && (s.widths[n - 1]?).join.isSome

def groupWidth (s : Progress) (n : Nat) : Width :=
  ((s.widths[n - 1]?).join).getD (.exactly 0)

/-- Inside a look back, a group can be referred to only if it was closed before the look back. -/
def canRefer (s : Progress) (n : Nat) : Bool :=
  match s.lookBackFrom with
  | none => true
  | some m => s.isClosed n && n < m

def openGroup (s : Progress) (name : Option Text) : Progress :=
  { s with
    widths := s.widths ++ [none]
    names := match name with
      | none => s.names
      | some t => s.names.put t s.nextGroup }

def closeGroup (s : Progress) (n : Nat) (w : Width) : Progress :=
  { s with widths := s.widths.set (n - 1) (some w) }

end Progress

abbrev Read := StateT Progress (Except Error)

namespace Read

def peek : Read (Option Token) := return (← get).tokens.head?

def take : Read (Option Token) := do
  let s ← get
  set { s with tokens := s.tokens.tail }
  return s.tokens.head?

def malformed : Read α := throw .malformed

def guardThat (b : Bool) : Read Unit := if b then pure () else malformed

def accept (c : Char) : Read Bool := do
  if (← peek) = some (.plain c) then
    let _ ← take
    return true
  else return false

def expect (c : Char) : Read Unit := do guardThat (← accept c)

def takePlain (p : Char → Bool) (limit : Nat) : List Token → Text × List Token
  | .plain c :: rest =>
    match limit with
    | 0 => ([], .plain c :: rest)
    | limit + 1 =>
      if p c then
        let (cs, after) := takePlain p limit rest
        (c :: cs, after)
      else ([], .plain c :: rest)
  | tokens => ([], tokens)

def takeWhile (p : Char → Bool) (limit : Nat) : Read Text := do
  let s ← get
  let (cs, rest) := takePlain p limit s.tokens
  set { s with tokens := rest }
  return cs

def splitAtPlain (c : Char) : List Token → Option (Text × List Token)
  | [] => none
  | t :: rest =>
    if t = .plain c then some ([], rest)
    else (splitAtPlain c rest).map fun (cs, after) => (t.text ++ cs, after)

/-- The text up to a closing character, which is taken too. -/
def textUntil (c : Char) : Read Text := do
  let s ← get
  match splitAtPlain c s.tokens with
  | none => malformed
  | some (cs, rest) =>
    set { s with tokens := rest }
    return cs

def nameUntil (c : Char) : Read Text := do
  let name ← textUntil c
  guardThat (Unicode.isName name)
  return name

def isOctal (c : Char) : Bool := '0' ≤ c && c ≤ '7'

def isHex (c : Char) : Bool := c.isDigit || ('a' ≤ c && c ≤ 'f') || ('A' ≤ c && c ≤ 'F')

def hexValue (c : Char) : Nat :=
  if c.isDigit then c.toNat - '0'.toNat
  else if c.isUpper then c.toNat - 'A'.toNat + 10
  else c.toNat - 'a'.toNat + 10

def inBase (base : Nat) (cs : Text) : Nat := cs.foldl (fun n c => base * n + hexValue c) 0

def hexCode (n : Nat) : Read Nat := do
  let cs ← takeWhile isHex n
  guardThat (cs.length = n && inBase 16 cs ≤ 0x10FFFF)
  return inBase 16 cs

def control? : Char → Option Nat
  | 'a' => some 7
  | 'f' => some 12
  | 'n' => some 10
  | 'r' => some 13
  | 't' => some 9
  | 'v' => some 11
  | '\\' => some 92
  | _ => none

/-- The escapes for classes of characters; a capital letter stands for the complement. -/
def category? : Char → Option ClassItem
  | 'd' => some (.category .digit false)
  | 'D' => some (.category .digit true)
  | 's' => some (.category .blank false)
  | 'S' => some (.category .blank true)
  | 'w' => some (.category .word false)
  | 'W' => some (.category .word true)
  | _ => none

def anchor? : Char → Option Anchor
  | 'A' => some .textStart
  | 'Z' => some .textEnd
  | 'b' => some .wordEdge
  | 'B' => some .notWordEdge
  | _ => none

/-- The code point that an escape stands for wherever it is written: escapes by number, and
characters that are no letters as themselves. -/
def plainEscape (c : Char) : Read Nat := do
  match c with
  | 'x' => hexCode 2
  | 'u' => hexCode 4
  | 'U' => hexCode 8
  | _ =>
    guardThat !c.isAlphanum
    return c.toNat

def classEscape (c : Char) : Read ClassItem := do
  if c = 'b' then return .code 8
  if let some n := control? c then return .code n
  if let some item := category? c then return item
  if isOctal c then
    let n := inBase 8 (c :: (← takeWhile isOctal 2))
    guardThat (n ≤ 0o377)
    return .code n
  return .code (← plainEscape c)

/-- An escape that begins with a digit: `\0` and three octal digits give a character, anything else
the number of a group. -/
def numericEscape (c : Char) : Read Pattern := do
  if c = '0' then
    return .code (inBase 8 (← takeWhile isOctal 2))
  let second ← takeWhile Char.isDigit 1
  if isOctal c && !second.isEmpty && second.all isOctal then
    let third ← takeWhile isOctal 1
    if !third.isEmpty then
      let n := inBase 8 (c :: (second ++ third))
      guardThat (n ≤ 0o377)
      return .code n
  let n := inBase 10 (c :: second)
  let s ← get
  guardThat (s.isClosed n && s.canRefer n)
  return .reference n

def escape (c : Char) : Read Pattern := do
  if let some a := anchor? c then return .anchor a
  if let some item := category? c then return .oneOf false [item]
  if let some n := control? c then return .code n
  if c.isDigit then numericEscape c
  else return .code (← plainEscape c)

def classMember : Token → Read ClassItem
  | .plain c => return .code c.toNat
  | .escaped c => classEscape c

/-- The members of a bracketed class up to the closing bracket; a bracket that comes first is a
member. -/
def classItems : (fuel : Nat) → List ClassItem → Read (List ClassItem)
  | 0, _ => malformed
  | fuel + 1, items => do
    let some this ← take | malformed
    if this = .plain ']' && !items.isEmpty then return items
    let low ← classMember this
    if !(← accept '-') then return ← classItems fuel (items ++ [low])
    let some that ← take | malformed
    if that = .plain ']' then return items ++ [low, .code '-'.toNat]
    match low, ← classMember that with
    | .code a, .code b =>
      guardThat (a ≤ b)
      classItems fuel (items ++ [.range a b])
    | _, _ => malformed

/-- The greatest count that a repetition may have, and one more. -/
def countLimit : Nat := 4294967295

def count (digits : Text) : Read (Option Nat) := do
  if digits.isEmpty then return none
  match Numeral.readDigits digits with
  | .ok n => if countLimit ≤ n then throw .countTooLarge else return some n
  | .error _ => throw (.countTooLong digits.length)

/-- The counts of a repetition in braces, the opening one taken; nothing is taken, and there is no
answer, if the brace opens no repetition. -/
def braces : Read (Option (Nat × Option Nat)) := do
  if (← peek) = some (.plain '\x7d') then return none
  let s ← get
  let least ← takeWhile Char.isDigit s.tokens.length
  let most ← if ← accept ',' then takeWhile Char.isDigit s.tokens.length else pure least
  if !(← accept '\x7d') then
    set s
    return none
  let lo := (← count least).getD 0
  let hi ← count most
  guardThat (hi.all (lo ≤ ·))
  return some (lo, hi)

def counts (c : Char) : Read (Option (Nat × Option Nat)) := do
  match c with
  | '?' => return some (0, some 1)
  | '*' => return some (0, none)
  | '+' => return some (1, none)
  | _ => braces

def greed : Read Greed := do
  if ← accept '?' then return .lazy
  else if ← accept '+' then return .possessive
  else return .greedy

/-- Whether a repetition may follow: not on an assertion of a place, nor on another repetition. -/
def isRepeatable : Pattern → Bool
  | .anchor _ | .rounds .. => false
  | _ => true

def optionLetters : Text := ['i', 'm', 's', 'x', 'a', 'u', 't']

def letters (ends : Text) : (fuel : Nat) → Text → Read (Text × Char)
  | 0, _ => malformed
  | fuel + 1, seen => do
    let some (.plain c) ← take | malformed
    if ends.elem c && !seen.isEmpty then return (seen, c)
    guardThat (optionLetters.elem c)
    letters ends fuel (seen ++ [c])

def optionsOf (cs : Text) : Options :=
  ⟨cs.elem 'i', cs.elem 'm', cs.elem 's', cs.elem 'x', cs.elem 'a'⟩

/-- What inline option letters do: change the whole pattern, or the group that they open. -/
inductive Inline
  | whole (on : Text)
  | group (c : Change)

def inline (c : Char) : Read Inline := do
  let fuel := (← get).tokens.length + 1
  let (on, stop) ←
    if c = '-' then pure ([], '-')
    else do
      guardThat (optionLetters.elem c)
      letters [')', '-', ':'] fuel [c]
  guardThat !(on.elem 'a' && on.elem 'u')
  if stop = ')' then return .whole on
  guardThat !(on.elem 't')
  let off ← if stop = '-' then (·.1) <$> letters [':'] fuel [] else pure []
  guardThat (off.all fun c => ['i', 'm', 's', 'x'].elem c && !on.elem c)
  return .group ⟨optionsOf on, optionsOf off, on.elem 'u'⟩

/-- The group that a condition asks about, by name or number. -/
def condition : Read Nat := do
  let name ← textUntil ')'
  let n ←
    if Unicode.isName name then
      match (← get).names.get? name with
      | some n => pure n
      | none => malformed
    else
      match Numeral.read name with
      | .ok (.ofNat n) =>
        guardThat (0 < n && n < 1073741823)
        modify fun s => { s with asked := n :: s.asked }
        pure n
      | _ => malformed
  guardThat ((← get).canRefer n)
  return n

def skipLine : List Token → List Token
  | [] => []
  | t :: rest => if t = .plain '\n' then rest else skipLine rest

def isSpacing (c : Char) : Bool := [' ', '\t', '\n', '\r', '\x0b', '\x0c'].elem c

def sequence (items : List Pattern) : Pattern := items.foldl (fun q p => .seq p q) .empty

mutual

/-- Alternatives up to a closing parenthesis or the end. Only at the `top` do options of the whole
pattern tell whether spacing counts from the next alternative on; only its `first` alternative may
begin with them. -/
def alternatives (spaced top first : Bool) : (fuel : Nat) → Read Pattern
  | 0 => malformed
  | fuel + 1 => do
    let p ← items spaced (top && first) [] fuel
    if ← accept '|' then
      let whole := (← get).options
      return .alt p (← alternatives (if top then whole.spaced else spaced) top false fuel)
    else return p

/-- One alternative; the items read so far are given last first. -/
def items (spaced first : Bool) (done : List Pattern) : (fuel : Nat) → Read Pattern
  | 0 => malformed
  | fuel + 1 => do
    match ← peek with
    | none | some (.plain '|') | some (.plain ')') => return sequence done
    | some (.escaped c) =>
      let _ ← take
      items spaced first ((← escape c) :: done) fuel
    | some (.plain c) =>
      let _ ← take
      if spaced && isSpacing c then items spaced first done fuel
      else if spaced && c = '#' then
        modify fun s => { s with tokens := skipLine s.tokens }
        items spaced first done fuel
      else match c with
        | '[' =>
          let negated ← accept '^'
          let members ← classItems ((← get).tokens.length + 1) []
          items spaced first (.oneOf negated members :: done) fuel
        | '.' => items spaced first (.any :: done) fuel
        | '^' => items spaced first (.anchor .lineStart :: done) fuel
        | '$' => items spaced first (.anchor .lineEnd :: done) fuel
        | '(' =>
          if ← accept '?' then extended spaced first done fuel
          else
            let p ← capture spaced none fuel
            items spaced first (p :: done) fuel
        | _ =>
          if ['*', '+', '?', '\x7b'].elem c then
            match ← counts c with
            | none => items spaced first (.code c.toNat :: done) fuel
            | some (lo, hi) =>
              match done with
              | [] => malformed
              | p :: before =>
                guardThat (isRepeatable p)
                items spaced first (.rounds lo hi (← greed) p :: before) fuel
          else items spaced first (.code c.toNat :: done) fuel

/-- A group that is remembered, its opening parenthesis and name taken. -/
def capture (spaced : Bool) (name : Option Text) : (fuel : Nat) → Read Pattern
  | 0 => malformed
  | fuel + 1 => do
    let n := (← get).nextGroup
    let known := (← get).names
    guardThat (name.all fun t => (known.get? t).isNone)
    modify (·.openGroup name)
    let p ← alternatives spaced false false fuel
    expect ')'
    modify fun s => s.closeGroup n (p.width s.groupWidth)
    return .group n p

/-- What follows `(?`, and the rest of the alternative. -/
def extended (spaced first : Bool) (done : List Pattern) : (fuel : Nat) → Read Pattern
  | 0 => malformed
  | fuel + 1 => do
    let some (.plain c) ← take | malformed
    match c with
    | '#' =>
      let _ ← textUntil ')'
      items spaced first done fuel
    | ':' =>
      let p ← alternatives spaced false false fuel
      expect ')'
      items spaced first (.scoped .nothing p :: done) fuel
    | '>' =>
      let p ← alternatives spaced false false fuel
      expect ')'
      items spaced first (.atomic p :: done) fuel
    | '=' | '!' =>
      let p ← alternatives spaced false false fuel
      expect ')'
      items spaced first (.lookAhead (c = '!') p :: done) fuel
    | '<' =>
      let some (.plain d) ← take | malformed
      guardThat (d = '=' || d = '!')
      let outer := (← get).lookBackFrom
      modify fun s => { s with lookBackFrom := some (outer.getD s.nextGroup) }
      let p ← alternatives spaced false false fuel
      modify fun s => { s with lookBackFrom := outer }
      expect ')'
      let w := p.width (← get).groupWidth
      items spaced first (.lookBack w (d = '!') p :: done) fuel
    | 'P' =>
      if ← accept '<' then
        let name ← nameUntil '>'
        let p ← capture spaced (some name) fuel
        items spaced first (p :: done) fuel
      else
        expect '='
        let name ← nameUntil ')'
        let s ← get
        let some n := s.names.get? name | malformed
        guardThat (s.isClosed n && s.canRefer n)
        items spaced first (.reference n :: done) fuel
    | '(' =>
      let n ← condition
      let yes ← items spaced false [] fuel
      let no ← if ← accept '|' then items spaced false [] fuel else pure .empty
      expect ')'
      items spaced first (.ifGroup n yes no :: done) fuel
    | _ =>
      match ← inline c with
      | .whole on =>
        guardThat (first && done.isEmpty)
        modify fun s => { s with
          options := s.options.union (optionsOf on)
          allScripts := s.allScripts || on.elem 'u'
          roundless := s.roundless || on.elem 't' }
        items (← get).options.spaced first done fuel
      | .group change =>
        let inner := (spaced || change.on.spaced) && !change.off.spaced
        let p ← alternatives inner false false fuel
        expect ')'
        items spaced first (.scoped change p :: done) fuel

end

end Read

/-- Reads a pattern under given options. -/
def compile (source : Text) (options : Options) : Except Error Compiled := do
  let some tokens := Token.readAll source | throw .malformed
  let start : Progress := ⟨tokens, options, false, false, [], [], none, []⟩
  let (body, s) ← (Read.alternatives options.spaced true true (4 * tokens.length + 4)).run start
  unless s.tokens.isEmpty && s.asked.all (· < s.nextGroup) do throw .malformed
  if s.options.ascii && s.allScripts then throw .incompatibleOptions
  unless body.looksBackSafely && !(s.roundless && body.hasRounds) do
    throw .malformed
  return ⟨body, s.widths.length, s.options⟩

end LatexSnippets.Pattern
