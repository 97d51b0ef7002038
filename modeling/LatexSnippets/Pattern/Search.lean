import LatexSnippets.Pattern.Class

/-!
Matching a pattern against a text by trying its ways in order, and searching for the leftmost place
where it matches. A match goes on into a continuation: if the rest fails, the next way is tried.
-/

namespace LatexSnippets.Pattern

/-- A place in a text, with what the groups have matched on the way there, the latest first. -/
structure Point where
  /-- The characters before, the nearest first. -/
  before : Text
  after : Text
  /-- How many characters there are after it. -/
  left : Nat
  left_eq : left = after.length
  groups : List (Nat × Text)
  deriving DecidableEq

namespace Point

def group? (s : Point) (n : Nat) : Option Text := (s.groups.find? (·.1 = n)).map (·.2)

def step? (p : Char → Bool) (s : Point) : Option Point :=
  match h : s.after with
  | [] => none
  | c :: rest =>
    if p c then some ⟨c :: s.before, rest, s.left - 1, by simp [s.left_eq, h], s.groups⟩ else none

def skip? (eq : Char → Char → Bool) : Text → Point → Option Point
  | [], s => some s
  | c :: rest, s => (s.step? (eq c)).bind (skip? eq rest)

def back? : Nat → Point → Option Point
  | 0, s => some s
  | n + 1, s =>
    match s.before with
    | [] => none
    | c :: rest => back? n ⟨rest, c :: s.after, s.left + 1, by simp [s.left_eq], s.groups⟩

def upTo (s t : Point) : Text := s.after.take (s.left - t.left)

def remember (s : Point) (n : Nat) (t : Text) : Point := { s with groups := (n, t) :: s.groups }

end Point

def Anchor.holds (o : Options) (s : Point) : Anchor → Bool
  | .textStart => s.before.isEmpty
  | .textEnd => s.after.isEmpty
  | .lineStart => s.before.isEmpty || o.multiLine && s.before.head? == some '\n'
  | .lineEnd =>
    s.after.isEmpty || s.after == ['\n'] || o.multiLine && s.after.head? == some '\n'
  | .wordEdge => isEdge
  | .notWordEdge => !(s.before.isEmpty && s.after.isEmpty) && !isEdge
where
  /-- Exactly one of the two neighbours belongs to a word. -/
  isEdge : Bool :=
    s.before.head?.any (Category.admits o · .word) != s.after.head?.any (Category.admits o · .word)

/-- A matcher goes from a place to one that the continuation accepts. -/
abbrev Matcher := (Point → Option Point) → Point → Option Point

/-- Rounds of `body`, as many as possible first. `least` more rounds are due and `most` more are
allowed; after the due ones, a round that got nowhere (`last` is where it began) is not followed by
another. -/
def greedyRounds (body : Matcher) (k : Point → Option Point) :
    (fuel least : Nat) → (most last : Option Nat) → Point → Option Point
  | 0, _, _, _, _ => none
  | fuel + 1, least + 1, most, last, s =>
    body (greedyRounds body k fuel least (most.map (· - 1)) last) s
  | fuel + 1, 0, most, last, s =>
    if most = some 0 || last = some s.left then k s
    else
      body (greedyRounds body k fuel 0 (most.map (· - 1)) (some s.left)) s <|> k s

/-- Rounds of `body`, as few as possible first. -/
def lazyRounds (body : Matcher) (k : Point → Option Point) :
    (fuel least : Nat) → (most last : Option Nat) → Point → Option Point
  | 0, _, _, _, _ => none
  | fuel + 1, least + 1, most, last, s =>
    body (lazyRounds body k fuel least (most.map (· - 1)) last) s
  | fuel + 1, 0, most, last, s =>
    k s <|>
      (if most = some 0 || last = some s.left then none
      else body (lazyRounds body k fuel 0 (most.map (· - 1)) (some s.left)) s)

/-- Rounds of `body`, each in its first way, until one fails. -/
def firmRounds (body : Point → Option Point) :
    (fuel least : Nat) → (most : Option Nat) → Point → Option Point
  | 0, _, _, _ => none
  | fuel + 1, least + 1, most, s =>
    (body s).bind (firmRounds body fuel least (most.map (· - 1)))
  | fuel + 1, 0, most, s =>
    if most = some 0 then some s
    else match body s with
      | none => some s
      | some t =>
        if t.left = s.left then some t
        else firmRounds body fuel 0 (most.map (· - 1)) t

/-- Enough rounds for any match: those that are due, and those that get further. -/
def roundFuel (least : Nat) (s : Point) : Nat := least + s.left + 2

/-- Goes on at a place after a look around it, keeping what groups have matched in the look. -/
def looked (negated : Bool) (seen : Option Point) (k : Point → Option Point) (s : Point) :
    Option Point :=
  match seen, negated with
  | some t, false => k { s with groups := t.groups }
  | none, true => k s
  | _, _ => none

def sameChar (o : Options) (a b : Char) : Bool :=
  if o.ignoreCase then o.lower a.toNat = o.lower b.toNat else a = b

def run (o : Options) : Pattern → Matcher
  | .empty => fun k s => k s
  | .code a => fun k s => (s.step? (admitsCode o a)).bind k
  | .any => fun k s => (s.step? fun c => o.dotAll || c != '\n').bind k
  | .oneOf negated items => fun k s => (s.step? (admitsOneOf o negated items)).bind k
  | .anchor a => fun k s => if a.holds o s then k s else none
  | .seq p q => fun k s => run o p (run o q k) s
  | .alt p q => fun k s => run o p k s <|> run o q k s
  | .group n p => fun k s => run o p (fun t => k (t.remember n (s.upTo t))) s
  | .scoped c p => fun k s => run (o.apply c) p k s
  | .rounds least most .greedy p => fun k s =>
    greedyRounds (run o p) k (roundFuel least s) least most none s
  | .rounds least most .lazy p => fun k s =>
    lazyRounds (run o p) k (roundFuel least s) least most none s
  | .rounds least most .possessive p => fun k s =>
    (firmRounds (run o p some) (roundFuel least s) least most s).bind k
  | .atomic p => fun k s => (run o p some s).bind k
  | .lookAhead negated p => fun k s => looked negated (run o p some s) k s
  | .lookBack w negated p => fun k s => looked negated ((s.back? w.least).bind (run o p some)) k s
  | .reference n => fun k s =>
    match s.group? n with
    | none => none
    | some t => (s.skip? (sameChar o) t).bind k
  | .ifGroup n yes no => fun k s =>
    if (s.group? n).isSome then run o yes k s else run o no k s

structure Match where
  start : Nat
  stop : Nat
  matched : Text
  groups : List (Option Text)
  deriving DecidableEq, Repr

namespace Compiled

def matchAt? (p : Compiled) (s : Point) : Option Match :=
  (p.body.run p.options some s).map fun t =>
    { start := s.before.length
      stop := t.before.length
      matched := s.upTo t
      groups := (List.range p.groups).map fun i => t.group? (i + 1) }

/-- The leftmost match at or after a place, given the text before it, turned around, and after it.
-/
def searchFrom (p : Compiled) (before : Text) :
    (after : Text) → (left : Nat) → left = after.length → Option Match
  | [], n, h => p.matchAt? ⟨before, [], n, h, []⟩
  | c :: rest, n, h =>
    p.matchAt? ⟨before, c :: rest, n, h, []⟩ <|>
      p.searchFrom (c :: before) rest (n - 1) (by simp [h])

def search (p : Compiled) (t : Text) : Option Match := p.searchFrom [] t t.length rfl

end Compiled

end LatexSnippets.Pattern
