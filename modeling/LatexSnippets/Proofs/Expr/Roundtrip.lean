import LatexSnippets.Expr.Parser
import LatexSnippets.Proofs.Expr.Numbers
import LatexSnippets.Proofs.Expr.Printing

/-!
Printed expressions read again: the parser gives back the expression that was printed, whatever
blanks stand between its tokens.
-/

namespace LatexSnippets.Expr

/-- Whether every number of an expression, the index of a capture included, is short enough to be
read. -/
def HasShortNumbers : Expr → Prop
  | .int n | .capture n => IsShort (Numeral.ofNat n)
  | .text _ => True
  | .neg e | .convert _ e => e.HasShortNumbers
  | .binary _ a b | .repeated a b | .zeros a b => a.HasShortNumbers ∧ b.HasShortNumbers
  | .repeatedWith a b c => a.HasShortNumbers ∧ b.HasShortNumbers ∧ c.HasShortNumbers

namespace Parser

variable {source : Text} {us vs ts : List Token} {e e' : Expr} {es : List Expr} {f : Function}

-- The fuel that a factor needs is five short of six for each token. A product needs one more and a
-- sum two, since each asks for the next with one less.

/-- Read as a factor, with enough fuel, the tokens give the expression and leave what follows. -/
def IsFactor (source : Text) (us : List Token) (e : Expr) : Prop :=
  ∀ n ts, 6 * us.length ≤ n + 5 → factor source n (us ++ ts) = .ok (e, ts)

/-- Read as a product, the tokens give the expression, and reading goes on behind it. Each factor
takes some fuel away from what comes after it. -/
def IsProduct (source : Text) (us : List Token) (e : Expr) : Prop :=
  ∀ n ts, 6 * us.length ≤ n + 4 → ∃ m, n ≤ m + us.length ∧
    product source n (us ++ ts) = productFrom source m e ts

/-- Read as a sum, the tokens give the expression, and reading goes on behind it, unless a product
goes on there. -/
def IsSum (source : Text) (us : List Token) (e : Expr) : Prop :=
  ∀ n ts, operator? Symbol.multiplicative? ts = none → 6 * us.length ≤ n + 3 →
    ∃ m, n ≤ m + us.length ∧ sum source n (us ++ ts) = sumFrom source m e ts

section Operators

variable {op : Operator}

theorem multiplicative?_of_product (hl : op.level = .product) (ts : List Token) :
    operator? Symbol.multiplicative? (.symbol op.asSymbol :: ts) = some (op, ts) := by
  cases op with
  | plus | minus => contradiction
  | _ => rfl

theorem additive?_of_sum (hl : op.level = .sum) (ts : List Token) :
    operator? Symbol.additive? (.symbol op.asSymbol :: ts) = some (op, ts) := by
  cases op with
  | plus | minus => rfl
  | _ => contradiction

theorem multiplicative?_of_sum (hl : op.level = .sum) (ts : List Token) :
    operator? Symbol.multiplicative? (.symbol op.asSymbol :: ts) = none := by
  cases op with
  | plus | minus => rfl
  | _ => contradiction

end Operators

theorem IsFactor.isProduct (h : IsFactor source us e) (hu : us ≠ []) : IsProduct source us e := by
  intro n ts hn
  have := List.length_pos_iff.2 hu
  obtain ⟨m, rfl⟩ : ∃ m, n = m + 1 := ⟨n - 1, by omega⟩
  refine ⟨m, by omega, ?_⟩
  rw [product, h m ts (by omega)]
  rfl

theorem IsProduct.whole (h : IsProduct source us e) (hu : us ≠ []) {n : Nat}
    (ht : operator? Symbol.multiplicative? ts = none) (hn : 6 * us.length ≤ n + 4) :
    product source n (us ++ ts) = .ok (e, ts) := by
  have := List.length_pos_iff.2 hu
  obtain ⟨m, hm, hp⟩ := h n ts hn
  obtain ⟨m, rfl⟩ : ∃ m', m = m' + 1 := ⟨m - 1, by omega⟩
  rw [hp, productFrom, ht]

theorem IsProduct.isSum (h : IsProduct source us e) (hu : us ≠ []) : IsSum source us e := by
  intro n ts ht hn
  have := List.length_pos_iff.2 hu
  obtain ⟨m, rfl⟩ : ∃ m, n = m + 1 := ⟨n - 1, by omega⟩
  refine ⟨m, by omega, ?_⟩
  rw [sum, h.whole hu ht (by omega)]
  rfl

/-- Neither a sum nor a product goes on with these tokens. -/
def Ends (ts : List Token) : Prop :=
  operator? Symbol.multiplicative? ts = none ∧ operator? Symbol.additive? ts = none

theorem IsSum.whole (h : IsSum source us e) (hu : us ≠ []) {n : Nat} (ht : Ends ts)
    (hn : 6 * us.length ≤ n + 3) : sum source n (us ++ ts) = .ok (e, ts) := by
  have := List.length_pos_iff.2 hu
  obtain ⟨m, hm, hp⟩ := h n ts ht.1 hn
  obtain ⟨m, rfl⟩ : ∃ m', m = m' + 1 := ⟨m - 1, by omega⟩
  rw [hp, sumFrom, ht.2]

theorem IsProduct.binary {op : Operator} (hl : op.level = .product) (h : IsProduct source us e)
    (h' : IsFactor source vs e') :
    IsProduct source (us ++ .symbol op.asSymbol :: vs) (.binary op e e') := by
  intro n ts hn
  rw [List.length_append, List.length_cons] at *
  obtain ⟨m, hm, hp⟩ := h n (.symbol op.asSymbol :: vs ++ ts) (by omega)
  obtain ⟨m, rfl⟩ : ∃ m', m = m' + 1 := ⟨m - 1, by omega⟩
  refine ⟨m, by omega, ?_⟩
  rw [List.append_assoc, hp, productFrom, List.cons_append, multiplicative?_of_product hl]
  simp only [h' m ts (by omega)]
  rfl

theorem IsSum.binary {op : Operator} (hl : op.level = .sum) (h : IsSum source us e)
    (h' : IsProduct source vs e') (hv : vs ≠ []) :
    IsSum source (us ++ .symbol op.asSymbol :: vs) (.binary op e e') := by
  intro n ts ht hn
  have := List.length_pos_iff.2 hv
  rw [List.length_append, List.length_cons] at *
  obtain ⟨m, hm, hp⟩ := h n _ (multiplicative?_of_sum hl (vs ++ ts)) (by omega)
  obtain ⟨m, rfl⟩ : ∃ m', m = m' + 1 := ⟨m - 1, by omega⟩
  refine ⟨m, by omega, ?_⟩
  rw [List.append_assoc, List.cons_append, hp, sumFrom, additive?_of_sum hl]
  simp only [h'.whole hv ht (by omega : 6 * vs.length ≤ m + 4)]
  rfl

theorem ends_closing : Ends (.symbol .closing :: ts) := ⟨rfl, rfl⟩

theorem ends_comma : Ends (.symbol .comma :: ts) := ⟨rfl, rfl⟩

theorem IsSum.enclosed (h : IsSum source us e) (hu : us ≠ []) :
    IsFactor source (enclosed us) e := by
  intro n ts hn
  have := List.length_pos_iff.2 hu
  simp only [Expr.enclosed, List.length_cons, List.length_append, List.length_nil] at hn
  obtain ⟨m, rfl⟩ : ∃ m, n = m + 1 := ⟨n - 1, by omega⟩
  have hs : sum source m (us ++ .symbol .closing :: ts) = .ok (e, .symbol .closing :: ts) :=
    h.whole hu ends_closing (by omega)
  rw [Expr.enclosed, List.cons_append, List.append_assoc, List.singleton_append, factor, hs]
  rfl

theorem IsFactor.neg (h : IsFactor source us e) : IsFactor source (.symbol .minus :: us) (.neg e) := by
  intro n ts hn
  rw [List.length_cons] at hn
  obtain ⟨m, rfl⟩ : ∃ m, n = m + 1 := ⟨n - 1, by omega⟩
  rw [List.cons_append, factor, h m ts (by omega)]
  rfl

theorem number_ofNat {n : Nat} (h : IsShort (Numeral.ofNat n)) :
    number (Numeral.ofNat n) = .ok n := by
  rw [number, Numeral.readDigits_ofNat h]
  rfl

theorem isFactor_singleton {tok : Token}
    (h : ∀ n ts, factor source (n + 1) (tok :: ts) = .ok (e, ts)) : IsFactor source [tok] e := by
  intro n ts hn
  rw [List.length_singleton] at hn
  obtain ⟨m, rfl⟩ : ∃ m, n = m + 1 := ⟨n - 1, by omega⟩
  exact h m ts

theorem isFactor_int {n : Nat} (h : IsShort (Numeral.ofNat n)) :
    IsFactor source [.int (Numeral.ofNat n)] (.int n) := by
  refine isFactor_singleton fun m ts => ?_
  rw [factor, number_ofNat h]
  rfl

theorem isFactor_capture {n : Nat} (h : IsShort (Numeral.ofNat n)) :
    IsFactor source [.capture (Numeral.ofNat n)] (.capture n) := by
  refine isFactor_singleton fun m ts => ?_
  rw [factor, number_ofNat h]
  rfl

theorem isFactor_text (t : Text) :
    IsFactor source [.quoted (Token.escape t)] (.text t) := by
  refine isFactor_singleton fun m ts => ?_
  rw [factor, Token.unescape_escape]

/-- The tokens give the arguments after those that have been read. -/
structure IsRest (source : Text) (us : List Token) (es : List Expr) : Prop where
  ends : ∀ ts, Ends (us ++ .symbol .closing :: ts)
  read : ∀ n done ts, 6 * us.length < n →
    argumentsFrom source n done (us ++ .symbol .closing :: ts) =
      .ok (done ++ es, .symbol .closing :: ts)

theorem isRest_nil : IsRest source [] [] where
  ends _ := ends_closing
  read n done ts hn := by
    obtain ⟨n, rfl⟩ : ∃ m, n = m + 1 := ⟨n - 1, by omega⟩
    rw [List.nil_append, argumentsFrom, List.append_nil]
    intro _ h
    cases h

theorem IsRest.cons (h : IsRest source vs es) (he : IsSum source us e) (hu : us ≠ []) :
    IsRest source (.symbol .comma :: (us ++ vs)) (e :: es) where
  ends _ := ends_comma
  read n done ts hn := by
    rw [List.length_cons, List.length_append] at hn
    obtain ⟨n, rfl⟩ : ∃ m, n = m + 1 := ⟨n - 1, by omega⟩
    rw [List.cons_append, List.append_assoc, argumentsFrom, he.whole hu (h.ends ts) (by omega)]
    refine (h.read n (done ++ [e]) ts (by omega)).trans ?_
    rw [List.append_assoc, List.singleton_append]

theorem isRest_last (he : IsSum source us e) (hu : us ≠ []) :
    IsRest source (.symbol .comma :: us) [e] := by
  have h := isRest_nil.cons he hu
  rwa [List.append_nil] at h

theorem ofName?_name (f : Function) : Function.ofName? f.name = some f := by
  cases f with
  | conversion f => cases f <;> rfl
  | repeated | zeros => rfl

/-- The call of a function with its first argument and the rest of them. -/
theorem isFactor_called (hf : call? f (e :: es) = some e') (h : IsSum source us e) (hu : Opens us)
    (hr : IsRest source vs es) : IsFactor source (called f (us ++ vs)) e' := by
  intro n ts hn
  simp only [called, Expr.enclosed, List.length_cons, List.length_append, List.length_nil] at hn
  obtain ⟨n, rfl⟩ : ∃ m, n = m + 2 := ⟨n - 2, by omega⟩
  have ha : arguments source (n + 1) (us ++ (vs ++ .symbol .closing :: ts)) =
      .ok (e :: es, .symbol .closing :: ts) := by
    have hs : sum source n (us ++ (vs ++ .symbol .closing :: ts)) =
      .ok (e, vs ++ .symbol .closing :: ts) := h.whole hu.ne_nil (hr.ends ts) (by omega)
    obtain ⟨t, us, rfl, ht⟩ := hu
    rw [List.cons_append, arguments, if_neg ht, ← List.cons_append, hs]
    exact hr.read n [e] ts (by omega)
  have hcall : call f (e :: es) = .ok e' := by rw [call, hf]
  rw [called, Expr.enclosed, List.cons_append, List.cons_append, List.append_assoc,
    List.append_assoc, List.singleton_append, factor]
  simp only [ofName?_name, expect, if_pos, bind, Except.bind, ha, hcall]
  rfl

/-- At every level, what is printed for an expression is read as it. -/
structure ReadsBack (source : Text) (e : Expr) : Prop where
  factor : IsFactor source (tokens .factor e) e
  product : IsProduct source (tokens .product e) e
  sum : IsSum source (tokens .sum e) e

theorem ReadsBack.of_factor (h : IsFactor source (tokens .factor e) e)
    (hp : tokens .product e = tokens .factor e) (hs : tokens .sum e = tokens .factor e) :
    ReadsBack source e where
  factor := h
  product := by
    rw [hp]
    exact h.isProduct (opens_tokens e _).ne_nil
  sum := by
    rw [hs]
    exact (h.isProduct (opens_tokens e _).ne_nil).isSum (opens_tokens e _).ne_nil

theorem ReadsBack.binary {op : Operator} {a b : Expr} (ha : ReadsBack source a)
    (hb : ReadsBack source b) : ReadsBack source (.binary op a b) := by
  have hne := (opens_tokens (.binary op a b) .sum).ne_nil
  have hne' := (opens_tokens b op.rightLevel).ne_nil
  have factor (hs : IsSum source (tokens .sum (.binary op a b)) (.binary op a b)) :
      IsFactor source (tokens .factor (.binary op a b)) (.binary op a b) := by
    rw [tokens_binary, if_neg nofun]
    exact hs.enclosed hne
  cases hl : op.level with
  | sum =>
    have hs : IsSum source (tokens .sum (.binary op a b)) (.binary op a b) := by
      rw [Operator.rightLevel, hl] at hne'
      rw [tokens_sum_binary, Operator.rightLevel, hl]
      exact ha.sum.binary hl hb.product hne'
    have hp : tokens .product (.binary op a b) = tokens .factor (.binary op a b) := by
      rw [tokens_binary, tokens_binary .factor, Level.admits, hl]
      rfl
    refine ⟨factor hs, ?_, hs⟩
    rw [hp]
    exact (factor hs).isProduct (opens_tokens _ _).ne_nil
  | product =>
    have hp : IsProduct source (tokens .sum (.binary op a b)) (.binary op a b) := by
      rw [tokens_sum_binary, Operator.rightLevel, hl]
      exact ha.product.binary hl hb.factor
    refine ⟨factor (hp.isSum hne), ?_, hp.isSum hne⟩
    have hadmits : Level.product.admits op = true := by rw [Level.admits, hl, decide_eq_true rfl]
    rw [tokens_binary, if_pos hadmits]
    exact hp
  | factor => cases op <;> contradiction

/-- The parser inverts the printer on tokens. -/
theorem readsBack_tokens (h : e.HasShortNumbers) : ReadsBack source e := by
  induction e with
  | int n => exact .of_factor (isFactor_int h) rfl rfl
  | text t => exact .of_factor (isFactor_text t) rfl rfl
  | capture i => exact .of_factor (isFactor_capture h) rfl rfl
  | neg e ih => exact .of_factor (ih h).factor.neg rfl rfl
  | binary op a b iha ihb => exact (iha h.1).binary (ihb h.2)
  | convert f e ih =>
    have hf := isFactor_called (f := .conversion f) rfl (ih h).sum (opens_tokens e _) isRest_nil
    rw [List.append_nil] at hf
    exact .of_factor hf rfl rfl
  | repeated t n iht ihn =>
    have hn := isRest_last (ihn h.2).sum (opens_tokens n _).ne_nil
    exact .of_factor (isFactor_called rfl (iht h.1).sum (opens_tokens t _) hn) rfl rfl
  | repeatedWith t n sep iht ihn ihs =>
    have hs := isRest_last (ihs h.2.2).sum (opens_tokens sep _).ne_nil
    have hn := hs.cons (ihn h.2.1).sum (opens_tokens n _).ne_nil
    exact .of_factor (isFactor_called rfl (iht h.1).sum (opens_tokens t _) hn) rfl rfl
  | zeros rows cols ihr ihc =>
    have hc := isRest_last (ihc h.2).sum (opens_tokens cols _).ne_nil
    exact .of_factor (isFactor_called rfl (ihr h.1).sum (opens_tokens rows _) hc) rfl rfl

end Parser

theorem Parser.sum_tokens {source : Text} {e : Expr} (h : e.HasShortNumbers) :
    Parser.sum source (6 * (tokens .sum e).length + 6) (tokens .sum e) = .ok (e, []) := by
  have hs : Parser.sum source (6 * (tokens .sum e).length + 6) (tokens .sum e ++ []) =
      .ok (e, []) :=
    (Parser.readsBack_tokens h).sum.whole (opens_tokens e .sum).ne_nil ⟨rfl, rfl⟩ (by omega)
  rwa [List.append_nil] at hs

theorem parse_of_tokens {source : Text} {ts : List Token} {e : Expr}
    (ht : Token.readAll source source = .ok ts) (hne : ts ≠ [])
    (hs : Parser.sum source (6 * ts.length + 6) ts = .ok (e, [])) : parse source = .ok e := by
  have hempty : ts.isEmpty = false := List.isEmpty_eq_false_iff.2 hne
  simp only [parse, ht, bind, Except.bind, hempty, hs]
  rfl

/-- Whatever blanks stand around its tokens, a printed expression is read back, unless one of its
numbers takes too many digits. -/
theorem parse_printed {e : Expr} {t : Text} (he : e.HasShortNumbers)
    (ht : Token.Shows (tokens .sum e) t) : parse t = .ok e :=
  parse_of_tokens (ht.readAll (apart_tokens e)) (opens_tokens e .sum).ne_nil (Parser.sum_tokens he)

theorem parse_printed_nested :
    let e : Expr := .binary .minus (.int 1) (.binary .minus (.neg (.capture 0))
      (.repeated (.text "\"\\") (.int 2)))
    let t : Text := " 1 - ( - [[0]] - repeat ( \"\\\"\\\\\" , 2 ) )"
    e.HasShortNumbers ∧ Token.Shows (tokens .sum e) t ∧ parse t = .ok e := by
  intro e t
  have he : e.HasShortNumbers := by
    simp only [e, HasShortNumbers, IsShort]
    decide +kernel
  have ht : Token.Shows (tokens .sum e) t :=
    Token.shows_spaced (List.forall_mem_singleton.2 (by decide : Unicode.isBlank ' ' = true)) _
  exact ⟨he, ht, parse_printed he ht⟩

theorem Parser.number_of_long {digits : Text} (h : Numeral.maxDigits < digits.length) :
    number digits = .error (.numeral (.tooLongToRead digits.length)) := by
  rw [number, Numeral.readDigits, if_pos h]
  rfl

theorem parse_long_capture {i : Nat} (h : Numeral.maxDigits < (Numeral.ofNat i).length) {t : Text}
    (ht : Token.Shows (tokens .sum (.capture i)) t) :
    parse t = .error (.numeral (.tooLongToRead (Numeral.ofNat i).length)) := by
  have hs : Parser.sum t (6 * (tokens .sum (.capture i)).length + 6) (tokens .sum (.capture i)) =
      .error (.numeral (.tooLongToRead (Numeral.ofNat i).length)) := by
    rw [tokens, Parser.sum, Parser.product, Parser.factor, Parser.number_of_long h]
    rfl
  have hempty : (tokens .sum (.capture i)).isEmpty = false := by rw [tokens, List.isEmpty_cons]
  simp only [parse, ht.readAll (apart_tokens _), bind, Except.bind, hempty, hs]
  rfl

/-- An index of one digit too many. -/
theorem parse_capture_too_long :
    let e : Expr := .capture (10 ^ Numeral.maxDigits)
    ∃ t, Token.Shows (tokens .sum e) t ∧
      parse t = .error (.numeral (.tooLongToRead (Numeral.maxDigits + 1))) := by
  intro e
  have hb : ∀ c ∈ ([] : Text), Unicode.isBlank c = true := by simp
  have ht := Token.shows_spaced hb (tokens .sum e)
  have hl := Numeral.length_ofNat_pow Numeral.maxDigits
  have hp := parse_long_capture (by rw [hl]; exact Nat.lt_succ_self _) ht
  rw [hl] at hp
  exact ⟨_, ht, hp⟩

end LatexSnippets.Expr
