import LatexSnippets.Proofs.Template.Placeholder
import LatexSnippets.Template.Interpolated

/-!
Numbers in expressions. Reading an expression fails over the size of a number only if one is written
with too many digits.
-/

namespace LatexSnippets

namespace Expr

/-- What is read satisfies `P`, and what fails does not fail over a number. -/
def Holds (P : α → Prop) : Except Error α → Prop
  | .ok a => P a
  | .error e => ∀ n, e ≠ .numeral n

section Rules

variable {α β : Type} {P : α → Prop} {Q : β → Prop} {x : Except Error α} {f : α → Except Error β}

theorem Holds.bind (hx : Holds P x) (hf : ∀ a, P a → Holds Q (f a)) : Holds Q (x >>= f) := by
  cases x with
  | error e => exact hx
  | ok a => exact hf a hx

theorem Holds.map {g : α → β} (hx : Holds P x) (h : ∀ a, P a → Q (g a)) : Holds Q (x.map g) := by
  cases x with
  | error e => exact hx
  | ok a => exact h a hx

end Rules

/-- Digits that can be read as a number. -/
def IsShort (digits : Text) : Prop := digits.length ≤ Numeral.maxDigits

/-- A text that has no run of too many decimal digits. -/
def HasShortRuns (t : Text) : Prop :=
  ∀ ds : Text, (∀ c ∈ ds, Unicode.isDecimal c = true) → ds <:+: t → IsShort ds

/-- A token whose digits can be read. -/
def Token.IsShort : Token → Prop
  | .int digits | .capture digits => Expr.IsShort digits
  | _ => True

section Tokens

theorem HasShortRuns.of_infix {t u : Text} (h : HasShortRuns t) (hu : u <:+: t) :
    HasShortRuns u :=
  fun ds hd hi => h ds hd (hi.trans hu)

theorem Token.readQuoted_suffix {t raw after : Text} (h : readQuoted t = some (raw, after)) :
    after <:+ t := by
  fun_induction readQuoted t generalizing raw after with
  | case1 | case2 | case4 => contradiction
  | case3 rest =>
    cases h
    exact List.suffix_cons _ _
  | case5 c rest _ ih =>
    obtain ⟨⟨u, r⟩, hr, he⟩ := Option.map_eq_some_iff.1 h
    cases he
    exact ((ih hr).trans (List.suffix_cons c rest)).trans (List.suffix_cons _ _)
  | case6 c rest _ _ _ ih =>
    obtain ⟨⟨u, r⟩, hr, he⟩ := Option.map_eq_some_iff.1 h
    cases he
    exact (ih hr).trans (List.suffix_cons c rest)

theorem Symbol.read?_suffix {t after : Text} {s : Symbol} (h : Symbol.read? t = some (s, after)) :
    after <:+ t := by
  unfold Symbol.read? at h
  split at h
  all_goals
    first
    | contradiction
    | cases h
      first
      | exact List.suffix_cons _ _
      | exact (List.suffix_cons _ _).trans (List.suffix_cons _ _)

theorem Token.isShort_read {t after : Text} {tok : Token} (ht : HasShortRuns t)
    (h : read? t = some (tok, after)) : tok.IsShort ∧ after <:+ t := by
  unfold read? at h
  split at h
  · contradiction
  · obtain ⟨⟨u, r⟩, hr, he⟩ := Option.map_eq_some_iff.1 h
    cases he
    exact ⟨trivial, (readQuoted_suffix hr).trans (List.suffix_cons _ _)⟩
  · next rest =>
    obtain ⟨⟨ds, r⟩, hr, he⟩ := Option.map_eq_some_iff.1 h
    cases he
    obtain ⟨-, hd, rfl⟩ := Placeholder.readCapture_eq_some hr
    -- The digits stand between double brackets, so that they are a run of the text.
    exact ⟨ht ds (List.all_eq_true.1 hd) ⟨['[', '['], ']' :: ']' :: after, by simp⟩,
      ⟨'[' :: '[' :: (ds ++ [']', ']']), by simp⟩⟩
  · next c rest _ _ =>
    split at h
    · next hd =>
      cases h
      rw [← List.takeWhile_cons_of_pos hd]
      exact ⟨ht _ (List.all_eq_true.1 List.all_takeWhile) (List.takeWhile_prefix _).isInfix,
        (List.dropWhile_suffix _).trans (List.suffix_cons c rest)⟩
    split at h
    · cases h
      exact ⟨trivial, (List.dropWhile_suffix _).trans (List.suffix_cons c rest)⟩
    · obtain ⟨⟨s, r⟩, hr, he⟩ := Option.map_eq_some_iff.1 h
      cases he
      exact ⟨trivial, Symbol.read?_suffix hr⟩

/-- What is said of tokens, and of those left after a part of an expression. -/
def AllShort (ts : List Token) : Prop := ∀ tok ∈ ts, tok.IsShort

theorem Token.holds_readAll (source : Text) {t : Text} (ht : HasShortRuns t) :
    Holds AllShort (readAll source t) := by
  fun_induction readAll source t with
  | case1 => exact fun _ h => by cases h
  | case2 => exact fun _ => by simp
  | case3 t c rest hc tok after hr ih =>
    have hs : c :: rest <:+ t := hc ▸ List.dropWhile_suffix _
    obtain ⟨htok, ha⟩ := isShort_read (ht.of_infix hs.isInfix) hr
    exact (ih (ht.of_infix (ha.trans hs).isInfix)).map fun ts hts =>
      List.forall_mem_cons.2 ⟨htok, hts⟩

end Tokens

namespace Parser

variable {source : Text} {ts : List Token} {n : Nat}

theorem holds_number {digits : Text} (h : IsShort digits) :
    Holds (fun _ => True) (number digits) := by
  rw [number, Numeral.readDigits, if_neg (Nat.not_lt.2 h)]
  trivial

theorem holds_expect (s : Symbol) (h : AllShort ts) : Holds AllShort (expect source s ts) := by
  cases ts with
  | nil => exact fun _ => by simp
  | cons t ts =>
    rw [expect]
    split
    · exact fun tok ht => h tok (.tail t ht)
    · exact fun _ => by simp

theorem holds_call (f : Function) (args : List Expr) : Holds (fun _ => True) (call f args) := by
  rw [call]
  split
  · trivial
  · exact fun _ => by simp

theorem allShort_operator {kind : Symbol → Option Operator} {op : Operator} {rest : List Token}
    (h : AllShort ts) (ho : operator? kind ts = some (op, rest)) : AllShort rest := by
  unfold operator? at ho
  split at ho
  · obtain ⟨_, _, he⟩ := Option.map_eq_some_iff.1 ho
    cases he
    exact fun tok ht => h tok (.tail _ ht)
  · contradiction

/-- What is said of the parsers of all parts of an expression, with fuel `n`. -/
structure HoldsAt (source : Text) (n : Nat) : Prop where
  sum (ts : List Token) (h : AllShort ts) : Holds (AllShort ·.2) (sum source n ts)
  sumFrom (e : Expr) (ts : List Token) (h : AllShort ts) :
    Holds (AllShort ·.2) (sumFrom source n e ts)
  product (ts : List Token) (h : AllShort ts) : Holds (AllShort ·.2) (product source n ts)
  productFrom (e : Expr) (ts : List Token) (h : AllShort ts) :
    Holds (AllShort ·.2) (productFrom source n e ts)
  factor (ts : List Token) (h : AllShort ts) : Holds (AllShort ·.2) (factor source n ts)
  arguments (ts : List Token) (h : AllShort ts) : Holds (AllShort ·.2) (arguments source n ts)
  argumentsFrom (done : List Expr) (ts : List Token) (h : AllShort ts) :
    Holds (AllShort ·.2) (argumentsFrom source n done ts)

theorem HoldsAt.succ_sum (ih : HoldsAt source n) (h : AllShort ts) :
    Holds (AllShort ·.2) (Parser.sum source (n + 1) ts) := by
  rw [Parser.sum]
  exact (ih.product ts h).bind fun r hr => ih.sumFrom _ _ hr

theorem HoldsAt.succ_sumFrom (ih : HoldsAt source n) (e : Expr) (h : AllShort ts) :
    Holds (AllShort ·.2) (Parser.sumFrom source (n + 1) e ts) := by
  rw [Parser.sumFrom]
  split
  · exact h
  · exact (ih.product _ (allShort_operator h ‹_›)).bind fun r hr => ih.sumFrom _ _ hr

theorem HoldsAt.succ_product (ih : HoldsAt source n) (h : AllShort ts) :
    Holds (AllShort ·.2) (Parser.product source (n + 1) ts) := by
  rw [Parser.product]
  exact (ih.factor ts h).bind fun r hr => ih.productFrom _ _ hr

theorem HoldsAt.succ_productFrom (ih : HoldsAt source n) (e : Expr) (h : AllShort ts) :
    Holds (AllShort ·.2) (Parser.productFrom source (n + 1) e ts) := by
  rw [Parser.productFrom]
  split
  · exact h
  · exact (ih.factor _ (allShort_operator h ‹_›)).bind fun r hr => ih.productFrom _ _ hr

theorem HoldsAt.succ_factor (ih : HoldsAt source n) (h : AllShort ts) :
    Holds (AllShort ·.2) (Parser.factor source (n + 1) ts) := by
  have tail {t : Token} {ts : List Token} (h : AllShort (t :: ts)) : AllShort ts :=
    fun tok ht => h tok (.tail t ht)
  rw [Parser.factor.eq_def]
  simp only
  split
  · exact fun _ => by simp
  · exact (ih.factor _ (tail h)).bind fun r hr => hr
  · exact (holds_number (h _ List.mem_cons_self)).bind fun _ _ => tail h
  · exact tail h
  · exact (holds_number (h _ List.mem_cons_self)).bind fun _ _ => tail h
  · split
    · exact fun _ => by simp
    · refine (holds_expect _ (tail h)).bind fun ts hts => ?_
      refine (ih.arguments ts hts).bind fun r hr => ?_
      exact (holds_expect _ hr).bind fun ts hts => (holds_call _ _).bind fun _ _ => hts
  · exact (ih.sum _ (tail h)).bind fun r hr => (holds_expect _ hr).bind fun ts hts => hts
  · exact fun _ => by simp

theorem HoldsAt.succ_arguments (ih : HoldsAt source n) (h : AllShort ts) :
    Holds (AllShort ·.2) (Parser.arguments source (n + 1) ts) := by
  cases ts with
  | nil =>
    rw [Parser.arguments]
    exact h
  | cons t ts =>
    rw [Parser.arguments]
    split
    · exact h
    · exact (ih.sum _ h).bind fun r hr => ih.argumentsFrom _ _ hr

theorem HoldsAt.succ_argumentsFrom (ih : HoldsAt source n) (done : List Expr) (h : AllShort ts) :
    Holds (AllShort ·.2) (Parser.argumentsFrom source (n + 1) done ts) := by
  unfold Parser.argumentsFrom
  split
  · contradiction
  · next he =>
    cases he
    exact (ih.sum _ fun tok ht => h tok (.tail _ ht)).bind fun r hr => ih.argumentsFrom _ _ hr
  · exact h

theorem holdsAt (source : Text) (n : Nat) : HoldsAt source n := by
  induction n with
  | zero =>
    refine ⟨?_, ?_, ?_, ?_, ?_, ?_, ?_⟩
    · intro ts _
      rw [Parser.sum]
      exact fun _ => by simp
    · intro e ts _
      rw [Parser.sumFrom]
      exact fun _ => by simp
    · intro ts _
      rw [Parser.product]
      exact fun _ => by simp
    · intro e ts _
      rw [Parser.productFrom]
      exact fun _ => by simp
    · intro ts _
      rw [Parser.factor]
      exact fun _ => by simp
    · intro ts _
      rw [Parser.arguments]
      exact fun _ => by simp
    · intro done ts _
      rw [Parser.argumentsFrom]
      exact fun _ => by simp
  | succ n ih =>
    exact ⟨fun _ => ih.succ_sum, fun e _ => ih.succ_sumFrom e, fun _ => ih.succ_product,
      fun e _ => ih.succ_productFrom e, fun _ => ih.succ_factor, fun _ => ih.succ_arguments,
      fun done _ => ih.succ_argumentsFrom done⟩

end Parser

theorem holds_parse {source : Text} (h : HasShortRuns source) :
    Holds (fun _ => True) (parse source) := by
  refine (Token.holds_readAll source h).bind fun ts hts => ?_
  split
  · exact fun _ => by simp
  · refine ((Parser.holdsAt source _).sum ts hts).bind fun r _ => ?_
    obtain ⟨e, rest⟩ := r
    cases rest with
    | nil => trivial
    | cons t rest => exact fun _ => by simp

end Expr

namespace Interpolated

/-- A template whose expressions, the texts between double braces, have no run of too many decimal
digits. -/
def HasShortNumbers (source : Text) : Prop :=
  ∀ body, '\x7b' :: '\x7b' :: (body ++ ['\x7d', '\x7d']) <:+: source →
    ¬ ['\x7d', '\x7d'] <:+: body → Expr.HasShortRuns body

theorem HasShortNumbers.of_length {source : Text} (h : source.length ≤ Numeral.maxDigits) :
    HasShortNumbers source := by
  intro body hb _ ds _ hd
  have := hb.length_le
  have := hd.length_le
  simp only [List.length_cons, List.length_append, List.length_nil] at *
  exact Nat.le_trans (by omega) h

theorem readBraced_eq_some {t body after : Text} (h : readBraced t = some (body, after)) :
    t = body ++ '\x7d' :: '\x7d' :: after ∧ ¬ ['\x7d', '\x7d'] <:+: body := by
  fun_induction readBraced t generalizing body after with
  | case1 rest =>
    cases h
    exact ⟨rfl, by simp⟩
  | case2 c rest hn ih =>
    obtain ⟨⟨u, r⟩, hr, he⟩ := Option.map_eq_some_iff.1 h
    cases he
    obtain ⟨rfl, hi⟩ := ih hr
    refine ⟨rfl, ?_⟩
    rw [List.infix_cons_iff, not_or]
    refine ⟨fun hp => ?_, hi⟩
    obtain ⟨rfl, u, rfl⟩ := List.cons_prefix_cons.1 hp
    exact hn _ rfl rfl
  | case3 => contradiction

theorem HasShortNumbers.of_infix {t u : Text} (h : HasShortNumbers t) (hu : u <:+: t) :
    HasShortNumbers u :=
  fun body hb hn => h body (hb.trans hu) hn

theorem holds_readSegments {t : Text} (h : HasShortNumbers t) :
    Expr.Holds (fun _ => True) (readSegments t) := by
  fun_induction readSegments t with
  | case1 rest body after hr ih =>
    obtain ⟨rfl, hn⟩ := readBraced_eq_some hr
    have hb := h body ⟨[], after, by simp⟩ hn
    refine (Expr.holds_parse hb).bind fun e _ => ?_
    exact (ih (h.of_infix ⟨'\x7b' :: '\x7b' :: (body ++ ['\x7d', '\x7d']), [], by simp⟩)).bind
      fun _ _ => trivial
  | case2 rest hr ih =>
    exact (ih (h.of_infix (List.suffix_cons _ _).isInfix)).map fun _ _ => trivial
  | case3 c rest _ ih =>
    exact (ih (h.of_infix (List.suffix_cons _ _).isInfix)).map fun _ _ => trivial
  | case4 => trivial

/-- A template whose numbers are short is not refused over one. -/
theorem holds_compile {source : Text} (h : HasShortNumbers source) :
    Expr.Holds (fun _ => True) (compile source) :=
  (holds_readSegments h).map fun _ _ => trivial

end Interpolated

end LatexSnippets
