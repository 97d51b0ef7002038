import LatexSnippets.Text.Trim
import LatexSnippets.Unicode.Case

/-!
Markup of printed lines. A tag in brackets, such as `[red]`, begins a style and `[/red]` or `[/]`
ends it; a backslash before a tag takes its meaning from it. The terminal has no styles, so tags
leave nothing behind.
-/

namespace LatexSnippets.Markup

inductive Token
  | char (c : Char)
  /-- A tag and the number of backslashes just before it. -/
  | tag (backslashes : Nat) (body : Text)
  deriving DecidableEq, Repr

inductive Error
  /-- A tag ends a style that has not begun. -/
  | nothingToClose (body : Text)
  deriving DecidableEq, Repr

def Error.message : Error → String
  | .nothingToClose body => "closing tag [" ++ String.ofList body ++ "] has nothing to close"

def opensTag (c : Char) : Bool := 'a' ≤ c && c ≤ 'z' || c = '#' || c = '/' || c = '@'

/-- The body of a tag, the opening bracket taken, and what follows it. -/
def readBody : Text → Option (Text × Text)
  | [] => none
  | c :: rest =>
    let isInside := fun c => c != '[' && c != ']'
    match rest.takeWhile isInside, rest.dropWhile isInside with
    | body, ']' :: after => if opensTag c then some (c :: body, after) else none
    | _, _ => none

theorem length_readBody {t body after : Text} (h : readBody t = some (body, after)) :
    after.length < t.length := by
  cases t with
  | nil => simp [readBody] at h
  | cons c rest =>
    simp only [readBody] at h
    split at h
    · next h₂ =>
      have := (List.dropWhile_suffix (fun c => c != '[' && c != ']') (l := rest)).length_le
      rw [h₂] at this
      split at h
      · simp only [Option.some.injEq, Prod.mk.injEq] at h
        simp only [List.length_cons, ← h.2] at *
        omega
      · contradiction
    · contradiction

/-- The tag at the beginning of a text with its backslashes, and what follows it. -/
def readTag (t : Text) : Option (Token × Text) :=
  match t.dropWhile (· == '\\') with
  | '[' :: rest =>
    (readBody rest).map fun (body, after) => (.tag (t.takeWhile (· == '\\')).length body, after)
  | _ => none

theorem length_readTag {t after : Text} {k : Token} (h : readTag t = some (k, after)) :
    after.length < t.length := by
  unfold readTag at h
  split at h
  · next rest h₂ =>
    have := (List.dropWhile_suffix (fun c => c == '\\') (l := t)).length_le
    rw [h₂] at this
    obtain ⟨⟨body, r⟩, hr, he⟩ := Option.map_eq_some_iff.1 h
    have := length_readBody hr
    simp only [Prod.mk.injEq] at he
    simp only [List.length_cons, ← he.2] at *
    omega
  · contradiction

def tokens : Text → List Token
  | [] => []
  | c :: rest =>
    match _h : readTag (c :: rest) with
    | some (k, after) => k :: tokens after
    | none => .char c :: tokens rest
termination_by t => t.length
decreasing_by
  · exact length_readTag ‹_›
  · simp only [List.length_cons]
    omega

def bracketed (body : Text) : Text := '[' :: (body ++ [']'])

def Token.escape : Token → Text
  | .char c => [c]
  | .tag n body => List.replicate (2 * n + 1) '\\' ++ bracketed body

/-- The markup that prints a text. A single backslash at the end is doubled, so that it cannot act
on a tag that is put after it. -/
def escape (t : Text) : Text :=
  let m := (tokens t).flatMap Token.escape
  match m.reverse with
  | ['\\'] => m ++ ['\\']
  | '\\' :: c :: _ => if c = '\\' then m else m ++ ['\\']
  | _ => m

def normalize (name : Text) : Text := Unicode.lower name.trim

def apply (styles : List Text) (body : Text) : Except Error (List Text) :=
  match body.takeWhile (· ≠ '=') with
  | '/' :: name =>
    match normalize name, styles with
    | [], _ :: rest => .ok rest
    | name, styles =>
      if styles.elem name then .ok (styles.erase name) else .error (.nothingToClose body)
  | name => .ok (normalize name :: styles)

/-- What is left of markup that begins inside some styles. A backslash before an opening bracket
that begins no tag is left out. -/
def renderFrom : List Text → List Token → Except Error Text
  | _, [] => .ok []
  | styles, .char '\\' :: .char '[' :: rest => (renderFrom styles rest).map ('[' :: ·)
  | styles, .char c :: rest => (renderFrom styles rest).map (c :: ·)
  | styles, .tag n body :: rest => do
    let backslashes := List.replicate (n / 2) '\\'
    if n % 2 = 1 then
      return backslashes ++ bracketed body ++ (← renderFrom styles rest)
    else
      let styles ← apply styles body
      return backslashes ++ (← renderFrom styles rest)

def render (markup : Text) : Except Error Text := renderFrom [] (tokens markup)

end LatexSnippets.Markup
