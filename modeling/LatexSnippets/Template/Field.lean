import LatexSnippets.Span
import LatexSnippets.Text.Basic
import LatexSnippets.Unicode.Letter

/-!
The field syntax of a template: `$n` is a stop, `${n:default}` a field that holds a default text,
and a backslash before `$`, `}` or another backslash takes that character as it is. A template is
read into pieces; laying the pieces out gives the clean text and the range of every field.
-/

namespace LatexSnippets

inductive Piece
  | char (c : Char)
  | stop (id : Nat)
  | filled (id : Nat) (default : Text)
  deriving DecidableEq, Repr

namespace Piece

def isEscapable (c : Char) : Bool := c = '$' || c = '\x7d' || c = '\\'

/-- Writes a text so that it is read back as it is. -/
def escape (t : Text) : Text := t.flatMap fun c => if isEscapable c then ['\\', c] else [c]

/-- The default of a field and what follows its closing brace, if there is one. -/
def readDefault : Text → Option (Text × Text)
  | [] => none
  | '\x7d' :: rest => some ([], rest)
  | '\\' :: c :: rest =>
    if isEscapable c then (readDefault rest).map fun (t, after) => (c :: t, after)
    else (readDefault (c :: rest)).map fun (t, after) => ('\\' :: t, after)
  | c :: rest => (readDefault rest).map fun (t, after) => (c :: t, after)

/-- The field that begins with a dollar sign already taken. A stop has an ASCII digit, a field with
a default any decimal digit. -/
def readField : Text → Option (Piece × Text)
  | '\x7b' :: d :: ':' :: rest =>
    match Unicode.digit? d with
    | none => none
    | some id => (readDefault rest).map fun (t, after) => (.filled id t, after)
  | d :: rest => if d.isDigit then some (.stop (d.toNat - '0'.toNat), rest) else none
  | [] => none

theorem length_readDefault {t s after : Text} (h : readDefault t = some (s, after)) :
    after.length < t.length := by
  fun_induction readDefault t generalizing s after with
  | case1 => simp at h
  | case2 rest =>
    simp only [Option.some.injEq, Prod.mk.injEq] at h
    simp [← h.2]
  | case3 c rest _ ih | case4 c rest _ ih | case5 c rest _ _ ih =>
    obtain ⟨⟨u, r⟩, hr, he⟩ := Option.map_eq_some_iff.1 h
    have := ih hr
    simp only [Prod.mk.injEq] at he
    simp only [List.length_cons, ← he.2] at *
    omega

theorem length_readField {t after : Text} {p : Piece} (h : readField t = some (p, after)) :
    after.length < t.length := by
  unfold readField at h
  split at h
  · split at h
    · contradiction
    · obtain ⟨⟨s, r⟩, hr, he⟩ := Option.map_eq_some_iff.1 h
      have := length_readDefault hr
      simp only [Prod.mk.injEq] at he
      simp only [List.length_cons, ← he.2]
      omega
  · split at h
    · simp only [Option.some.injEq, Prod.mk.injEq] at h
      simp [← h.2]
    · contradiction
  · contradiction

/-- The pieces of a template text. A dollar sign that begins no field stands for itself. -/
def readAll : Text → List Piece
  | [] => []
  | '\\' :: c :: rest =>
    if isEscapable c then .char c :: readAll rest else .char '\\' :: readAll (c :: rest)
  | '$' :: rest =>
    match _h : readField rest with
    | some (p, after) => p :: readAll after
    | none => .char '$' :: readAll rest
  | c :: rest => .char c :: readAll rest
termination_by t => t.length
decreasing_by
  all_goals simp only [List.length_cons]
  all_goals try omega
  have := length_readField ‹_›
  omega

def text : Piece → Text
  | .char c => [c]
  | .stop _ => []
  | .filled _ t => t

def id? : Piece → Option Nat
  | .char _ => none
  | .stop id | .filled id _ => some id

end Piece

/-- The range of each field, by its number. -/
abbrev Fields := List (Int × Span)

namespace Fields

def get? (fs : Fields) (id : Int) : Option Span := (fs.find? (·.1 = id)).map (·.2)

/-- The first range of each field in pieces that are laid out from the offset `k` on; later pieces
with the same number only repeat the text. -/
def ofPieces (k : Nat) : List Piece → Fields
  | [] => []
  | p :: rest =>
    let stop := k + p.text.length
    let others := ofPieces stop rest
    match p.id? with
    | none => others
    | some id => (id, ⟨k, stop⟩) :: others.filter (·.1 ≠ (id : Int))

def insertId (id : Int) : List Int → List Int
  | [] => [id]
  | x :: rest =>
    if id < x then id :: x :: rest else if id = x then x :: rest else x :: insertId id rest

def ids (fs : Fields) : List Int := fs.foldr (fun f ids => insertId f.1 ids) []

def sorted (fs : Fields) : Fields := fs.ids.filterMap fun id => (fs.get? id).map (id, ·)

/-- The stop where the caret leaves the snippet: field 0, or else the end of the text. -/
def exit (fs : Fields) (length : Nat) : Span := (fs.get? 0).getD (.caret length)

def numbered (fs : Fields) : List Span := (fs.ids.filter (· ≠ 0)).filterMap fs.get?

/-- The stop to enter first and the stops that follow: all numbered fields, then the exit. -/
def order (fs : Fields) (length : Nat) : Span × List Span :=
  match fs.numbered with
  | [] => (fs.exit length, [])
  | first :: rest => (first, rest ++ [fs.exit length])

end Fields

/-- The outcome of a template; the offsets are those of `text`. -/
structure Expansion where
  text : Text
  entry : Span
  remaining : List Span
  fields : Fields
  deriving DecidableEq, Repr

namespace Expansion

def ofPieces (ps : List Piece) : Expansion :=
  let text := ps.flatMap Piece.text
  let fields := Fields.ofPieces 0 ps
  let (entry, remaining) := fields.order text.length
  ⟨text, entry, remaining, fields⟩

def ofText (raw : Text) : Expansion := ofPieces (Piece.readAll raw)

end Expansion

end LatexSnippets
