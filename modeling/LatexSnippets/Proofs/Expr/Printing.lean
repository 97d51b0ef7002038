import LatexSnippets.Proofs.Expr.Tokens

/-!
Expressions printed as tokens. Parentheses stand only where an operator binds looser than its place
asks for, the right operand asking for more than the left.
-/

namespace LatexSnippets

/-- How tightly an expression binds, or has to where it stands. -/
inductive Level
  | sum
  | product
  | factor
  deriving DecidableEq, Repr

namespace Operator

def level : Operator → Level
  | .plus | .minus => .sum
  | .times | .over | .modulo => .product

/-- What the right operand has to be: of operators of one level the left one binds first. -/
def rightLevel (op : Operator) : Level :=
  match op.level with
  | .sum => .product
  | _ => .factor

def asSymbol : Operator → Expr.Symbol
  | .plus => .plus
  | .minus => .minus
  | .times => .times
  | .over => .over
  | .modulo => .modulo

end Operator

namespace Level

/-- Whether an operation can stand at a level without parentheses. -/
def admits : Level → Operator → Bool
  | .sum, _ => true
  | .product, op => op.level = .product
  | .factor, _ => false

end Level

namespace Expr

def enclosed (ts : List Token) : List Token := .symbol .opening :: (ts ++ [.symbol .closing])

def called (f : Function) (args : List Token) : List Token := .name f.name :: enclosed args

/-- The tokens of an expression that stands at a level. -/
def tokens : Level → Expr → List Token
  | _, .int n => [.int (Numeral.ofNat n)]
  | _, .text t => [.quoted (Token.escape t)]
  | _, .capture i => [.capture (Numeral.ofNat i)]
  | _, .neg e => .symbol .minus :: tokens .factor e
  | l, .binary op a b =>
    let ts := tokens op.level a ++ .symbol op.asSymbol :: tokens op.rightLevel b
    if l.admits op then ts else enclosed ts
  | _, .convert f e => called (.conversion f) (tokens .sum e)
  | _, .repeated t n => called .repeated (tokens .sum t ++ .symbol .comma :: tokens .sum n)
  | _, .repeatedWith t n sep =>
    called .repeated (tokens .sum t ++ .symbol .comma ::
      (tokens .sum n ++ .symbol .comma :: tokens .sum sep))
  | _, .zeros rows cols =>
    called .zeros (tokens .sum rows ++ .symbol .comma :: tokens .sum cols)

theorem tokens_sum_binary (op : Operator) (a b : Expr) : tokens .sum (.binary op a b) =
    tokens op.level a ++ .symbol op.asSymbol :: tokens op.rightLevel b := by
  rw [tokens]
  exact if_pos rfl

theorem tokens_binary (l : Level) (op : Operator) (a b : Expr) :
    tokens l (.binary op a b) = if l.admits op then tokens .sum (.binary op a b) else
      enclosed (tokens .sum (.binary op a b)) := by
  rw [tokens_sum_binary, tokens]

example : (tokens .sum (.binary .minus (.binary .minus (.int 1) (.int 2))
    (.binary .minus (.int 3) (.binary .times (.int 4) (.int 5))))).flatMap Token.text =
      "1-2-(3-4*5)".toList := by
  decide +kernel

section Opens

variable {us : List Token}

/-- The tokens of an expression, whose first is no closing parenthesis. -/
def Opens (us : List Token) : Prop := ∃ t ts, us = t :: ts ∧ t ≠ .symbol .closing

theorem Opens.ne_nil (h : Opens us) : us ≠ [] := by
  obtain ⟨t, ts, rfl, -⟩ := h
  nofun

theorem Opens.append (h : Opens us) (vs : List Token) : Opens (us ++ vs) := by
  obtain ⟨t, ts, rfl, ht⟩ := h
  exact ⟨t, ts ++ vs, rfl, ht⟩

theorem opens_tokens (e : Expr) (l : Level) : Opens (tokens l e) := by
  induction e generalizing l with
  | binary op a b iha ihb =>
    rw [tokens]
    split
    · exact (iha _).append _
    · exact ⟨_, _, rfl, nofun⟩
  | _ => exact ⟨_, _, rfl, nofun⟩

end Opens

section Apart

open Token

variable {us vs : List Token}

/-- Printed tokens that can be told apart, from what follows as well if nothing or a symbol comes
first there. -/
def Joins (us : List Token) : Prop := ∀ ts, Stops ts → Apart ts → Apart (us ++ ts)

theorem joins_singleton {tok : Token} (h : tok.IsPrinted) : Joins [tok] :=
  fun _ hs ha => ⟨h, fun _ => hs, ha⟩

theorem joins_cons (s : Symbol) (h : Joins us) : Joins (.symbol s :: us) :=
  fun ts hs ha => ⟨trivial, nofun, h ts hs ha⟩

theorem joins_between (s : Symbol) (hu : Joins us) (hv : Joins vs) :
    Joins (us ++ .symbol s :: vs) := by
  intro ts hs ha
  rw [List.append_assoc]
  exact hu _ trivial (joins_cons s hv ts hs ha)

theorem joins_enclosed (h : Joins us) : Joins (enclosed us) :=
  joins_cons _ (joins_between .closing h fun _ _ ha => ha)

theorem joins_called (f : Function) (h : Joins us) : Joins (called f us) :=
  fun ts hs ha => ⟨isName_name f, fun _ => trivial, joins_enclosed h ts hs ha⟩

theorem joins_tokens (e : Expr) (l : Level) : Joins (tokens l e) := by
  induction e generalizing l with
  | int n => exact joins_singleton ⟨n, rfl⟩
  | text t => exact joins_singleton ⟨t, rfl⟩
  | capture i => exact joins_singleton ⟨i, rfl⟩
  | neg e ih => exact joins_cons _ (ih _)
  | binary op a b iha ihb =>
    have h := joins_between op.asSymbol (iha op.level) (ihb op.rightLevel)
    rw [tokens]
    split
    · exact h
    · exact joins_enclosed h
  | convert f e ih => exact joins_called _ (ih _)
  | repeated t n iht ihn => exact joins_called _ (joins_between _ (iht _) (ihn _))
  | repeatedWith t n sep iht ihn ihs =>
    exact joins_called _ (joins_between _ (iht _) (joins_between _ (ihn _) (ihs _)))
  | zeros rows cols ihr ihc => exact joins_called _ (joins_between _ (ihr _) (ihc _))

theorem apart_tokens (e : Expr) : Apart (tokens .sum e) := by
  have h := joins_tokens e .sum [] trivial trivial
  rwa [List.append_nil] at h

end Apart

end Expr

end LatexSnippets
