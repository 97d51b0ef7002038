import LatexSnippets.Expr.Basic
import LatexSnippets.Template.Placeholder
import LatexSnippets.Text.Trim

/-!
Tokens of expressions. Every token knows the text it is written as; blanks may stand around it.
-/

namespace LatexSnippets.Expr

inductive Symbol
  | plus
  | minus
  | times
  | over
  | modulo
  | opening
  | closing
  | comma
  deriving DecidableEq, Repr

def Symbol.text : Symbol → Text
  | .plus => ['+']
  | .minus => ['-']
  | .times => ['*']
  | .over => ['/', '/']
  | .modulo => ['%']
  | .opening => ['(']
  | .closing => [')']
  | .comma => [',']

def Symbol.read? : Text → Option (Symbol × Text)
  | '+' :: rest => some (.plus, rest)
  | '-' :: rest => some (.minus, rest)
  | '*' :: rest => some (.times, rest)
  | '/' :: '/' :: rest => some (.over, rest)
  | '%' :: rest => some (.modulo, rest)
  | '(' :: rest => some (.opening, rest)
  | ')' :: rest => some (.closing, rest)
  | ',' :: rest => some (.comma, rest)
  | _ => none

inductive Token
  | int (digits : Text)
  /-- What stands between the quotes, escapes included. -/
  | quoted (raw : Text)
  | capture (digits : Text)
  | name (t : Text)
  | symbol (s : Symbol)
  deriving DecidableEq, Repr

namespace Token

def text : Token → Text
  | .int digits => digits
  | .quoted raw => '"' :: (raw ++ ['"'])
  | .capture digits => '[' :: '[' :: (digits ++ [']', ']'])
  | .name t => t
  | .symbol s => s.text

/-- What stands before the closing quote and what follows it. A backslash takes the next character
with it, unless that is a newline. -/
def readQuoted : Text → Option (Text × Text)
  | [] | ['\\'] => none
  | '"' :: rest => some ([], rest)
  | '\\' :: c :: rest =>
    if c = '\n' then none else (readQuoted rest).map fun (t, after) => ('\\' :: c :: t, after)
  | c :: rest => (readQuoted rest).map fun (t, after) => (c :: t, after)

def unescape : Text → Text
  | '\\' :: c :: rest => c :: unescape rest
  | c :: rest => c :: unescape rest
  | [] => []

def isNameStart (c : Char) : Bool := c.isAlpha || c = '_'

def read? : Text → Option (Token × Text)
  | [] => none
  | '"' :: rest => (readQuoted rest).map fun (t, after) => (.quoted t, after)
  | '[' :: '[' :: rest =>
    (Placeholder.readCapture rest).map fun (digits, after) => (.capture digits, after)
  | c :: rest =>
    if Unicode.isDecimal c then
      some (.int (c :: rest.takeWhile Unicode.isDecimal), rest.dropWhile Unicode.isDecimal)
    else if isNameStart c then
      some (.name (c :: rest.takeWhile Unicode.isWord), rest.dropWhile Unicode.isWord)
    else (Symbol.read? (c :: rest)).map fun (s, after) => (.symbol s, after)

theorem length_readQuoted {t s after : Text} (h : readQuoted t = some (s, after)) :
    after.length < t.length := by
  fun_induction readQuoted t generalizing s after with
  | case1 | case2 => simp at h
  | case3 rest =>
    simp only [Option.some.injEq, Prod.mk.injEq] at h
    simp [← h.2]
  | case4 => simp at h
  | case5 c rest _ ih | case6 c rest _ _ _ ih =>
    obtain ⟨⟨u, r⟩, hr, he⟩ := Option.map_eq_some_iff.1 h
    have := ih hr
    simp only [Prod.mk.injEq] at he
    simp only [List.length_cons, ← he.2] at *
    omega

theorem length_readSymbol {t after : Text} {s : Symbol} (h : Symbol.read? t = some (s, after)) :
    after.length < t.length := by
  unfold Symbol.read? at h
  split at h
  all_goals
    first
    | contradiction
    | simp only [Option.some.injEq, Prod.mk.injEq] at h
      simp only [List.length_cons, ← h.2]
      omega

theorem length_dropWhile_le (p : Char → Bool) (t : Text) :
    (t.dropWhile p).length ≤ t.length :=
  (List.dropWhile_suffix p).length_le

theorem length_read {t after : Text} {tok : Token} (h : read? t = some (tok, after)) :
    after.length < t.length := by
  unfold read? at h
  split at h
  · contradiction
  · obtain ⟨⟨u, r⟩, hr, he⟩ := Option.map_eq_some_iff.1 h
    have := length_readQuoted hr
    simp only [Prod.mk.injEq] at he
    simp only [List.length_cons, ← he.2]
    omega
  · obtain ⟨⟨u, r⟩, hr, he⟩ := Option.map_eq_some_iff.1 h
    have := Placeholder.length_readCapture hr
    simp only [Prod.mk.injEq] at he
    simp only [List.length_cons, ← he.2]
    omega
  · next c rest _ _ =>
    have hd := length_dropWhile_le Unicode.isDecimal rest
    have hw := length_dropWhile_le Unicode.isWord rest
    split at h
    · simp only [Option.some.injEq, Prod.mk.injEq] at h
      simp only [List.length_cons, ← h.2]
      omega
    split at h
    · simp only [Option.some.injEq, Prod.mk.injEq] at h
      simp only [List.length_cons, ← h.2]
      omega
    · obtain ⟨⟨u, r⟩, hr, he⟩ := Option.map_eq_some_iff.1 h
      have := length_readSymbol hr
      simp only [Prod.mk.injEq] at he
      simp only [← he.2]
      exact this

/-- The tokens of a text, which is part of `source`. -/
def readAll (source t : Text) : Except Error (List Token) :=
  match _h : t.trimLeft with
  | [] => .ok []
  | c :: rest =>
    match _h' : read? (c :: rest) with
    | none => .error (.strayCharacter [c] source)
    | some (tok, after) => (readAll source after).map (tok :: ·)
termination_by t.length
decreasing_by
  have h₁ := length_read ‹_›
  have h₂ := length_dropWhile_le Unicode.isBlank t
  simp only [Text.trimLeft] at _h
  rw [_h] at h₂
  omega

end Token

end LatexSnippets.Expr
