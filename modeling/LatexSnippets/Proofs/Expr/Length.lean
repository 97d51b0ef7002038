import LatexSnippets.Expr.Parser
import LatexSnippets.Proofs.Expr.Failures
import LatexSnippets.Proofs.Unicode.Case

/-!
The length of the texts that expressions give. What is put together is checked, and numbers are
short. Only the conversions to upper and lower case are not checked, so that the text of an
expression is one within the limit with its case converted.
-/

namespace LatexSnippets

theorem Text.length_joinWith_replicate (sep t : Text) (n : Nat) :
    (Text.joinWith sep (List.replicate n t)).length = t.length * n + sep.length * (n - 1) := by
  induction n with
  | zero => simp [Text.joinWith]
  | succ n ih =>
    cases n with
    | zero => simp [Text.joinWith]
    | succ n =>
      rw [Text.joinWith, List.replicate_succ] at ih
      rw [Text.joinWith, List.replicate_succ, List.replicate_succ, List.intercalate_cons_cons,
        List.length_append, List.length_append, ih, Nat.add_sub_cancel, Nat.add_sub_cancel,
        Nat.mul_succ sep.length, Nat.mul_succ t.length (n + 1)]
      omega

theorem Text.joinWith_nil (pieces : List Text) : Text.joinWith [] pieces = pieces.flatten := by
  induction pieces with
  | nil => rfl
  | cons p pieces ih =>
    cases pieces with
    | nil => simp [Text.joinWith]
    | cons q pieces =>
      rw [Text.joinWith] at ih
      rw [Text.joinWith, List.intercalate_cons_cons, ih, List.append_nil]
      rfl

namespace Unicode

theorem length_lowerFrom {t : List Char} (h : ∀ c ∈ t, (lowerChar c).length = 1)
    (before : List Char) : (lowerFrom before t).length = t.length := by
  induction t generalizing before with
  | nil => rfl
  | cons c t ih =>
    rw [List.forall_mem_cons] at h
    rw [lowerFrom, List.length_append, ih h.2, List.length_cons, Nat.add_comm]
    split
    · rfl
    · rw [h.1]

theorem length_upper {t : List Char} (h : ∀ c ∈ t, (upperChar c).length = 1) :
    (upper t).length = t.length := by
  induction t with
  | nil => rfl
  | cons c t ih =>
    rw [List.forall_mem_cons] at h
    rw [upper, List.flatMap_cons, List.length_append, h.1, ← upper, ih h.2, List.length_cons,
      Nat.add_comm]

end Unicode

namespace Expr

variable {α : Type} {captures : Captures} {e : Expr} {t s : Text} {v w : Value}

section Limits

/-- A computation whose value, if it has one, can only be written within the limit. -/
def Short (x : Except Error Value) : Prop :=
  ∀ v t, x = .ok v → v.toText = .ok t → t.length ≤ maxOutput

theorem short_int (n : Int) : Short (.ok (.int n)) := by
  rintro _ t ⟨⟩ ht
  have hw : (Numeral.write n).mapError Error.numeral = .ok t := ht
  exact Nat.le_trans (Numeral.length_write_le (mapError_eq_ok.1 hw)) (by decide)

theorem short_text (h : t.length ≤ maxOutput) : Short (.ok (.text t)) := by
  rintro _ _ ⟨⟩ ⟨⟩
  exact h

theorem Short.bind {x : Except Error α} {f : α → Except Error Value}
    (h : ∀ a, x = .ok a → Short (f a)) : Short (x >>= f) := by
  intro v t hv ht
  obtain ⟨a, ha, hf⟩ := bind_eq_ok.1 hv
  exact h a ha v t hf ht

theorem length_of_checked (h : checked t = .ok s) : s.length ≤ maxOutput := by
  unfold checked at h
  split at h
  · contradiction
  · obtain rfl := Except.ok.inj h
    omega

theorem length_of_repeatText {n : Nat} {sep : Text} (h : repeatText t n sep = .ok s) :
    s.length ≤ maxOutput := by
  simp only [repeatText] at h
  split at h
  · contradiction
  · obtain rfl := Except.ok.inj h
    rw [Text.length_joinWith_replicate]
    omega

theorem short_plus (v w : Value) : Short (plus v w) := by
  have h : Short (do return Value.text (← checked ((← v.toText) ++ (← w.toText)))) :=
    .bind fun _ _ => .bind fun _ _ => .bind fun _ hs => short_text (length_of_checked hs)
  cases v with
  | text t => exact h
  | int a =>
    cases w with
    | text t => exact h
    | int b => exact short_int _

theorem short_arithmetic (v w : Value) (f : Int → Int → Except Error Int) :
    Short (arithmetic v w f) :=
  .bind fun _ _ => .bind fun _ _ => .bind fun n _ => short_int n

theorem Operator.short_apply (v w : Value) (op : Operator) : Short (Operator.apply v w op) := by
  cases op with
  | plus => exact short_plus v w
  | minus | times | «over» | modulo => exact short_arithmetic v w _

end Limits

section Casing

/-- The conversions of case that stand around an expression. -/
def casing : Expr → Text → Text
  | .convert .toUpper e => fun s => Unicode.upper (e.casing s)
  | .convert .toLower e => fun s => Unicode.lower (e.casing s)
  | .convert .toText e => e.casing
  | _ => id

/-- The conversions of case around an expression meet no character that becomes several. -/
def IsSingle (captures : Captures) : Expr → Prop
  | .convert .toUpper e => e.IsSingle captures ∧
    ∀ v s, e.eval captures = .ok v → v.toText = .ok s → ∀ c ∈ s, (Unicode.upperChar c).length = 1
  | .convert .toLower e => e.IsSingle captures ∧
    ∀ v s, e.eval captures = .ok v → v.toText = .ok s → ∀ c ∈ s, (Unicode.lowerChar c).length = 1
  | .convert .toText e => e.IsSingle captures
  | _ => True

/-- The texts that are written out in an expression. -/
def literals : Expr → List Text
  | .int _ | .capture _ => []
  | .text t => [t]
  | .neg e | .convert _ e => e.literals
  | .binary _ l r => l.literals ++ r.literals
  | .repeated t n => t.literals ++ n.literals
  | .repeatedWith t n sep => t.literals ++ n.literals ++ sep.literals
  | .zeros rows cols => rows.literals ++ cols.literals

theorem length_capture (hc : ∀ w, some w ∈ captures → w.length ≤ maxOutput) (i : Nat) :
    (captures.text i).length ≤ maxOutput := by
  rw [Captures.text]
  cases h : (captures[i]?).join with
  | none => exact Nat.zero_le _
  | some w => exact hc w (List.mem_of_getElem? (Option.join_eq_some_iff.1 h))

/-- What is not itself a conversion of case or to text is within the limit. -/
theorem exists_casing (hl : ∀ w ∈ e.literals, w.length ≤ maxOutput)
    (hc : ∀ w, some w ∈ captures → w.length ≤ maxOutput) (hv : e.eval captures = .ok v)
    (ht : v.toText = .ok t) :
    (e.IsSingle captures → t.length ≤ maxOutput) ∧
      ∃ s, s.length ≤ maxOutput ∧ t = e.casing s := by
  have of_short {e : Expr} {v : Value} {t : Text} (h : Short (e.eval captures))
      (hv : e.eval captures = .ok v) (ht : v.toText = .ok t) (hid : e.casing = id) :
      (e.IsSingle captures → t.length ≤ maxOutput) ∧
        ∃ s, s.length ≤ maxOutput ∧ t = e.casing s :=
    ⟨fun _ => h v t hv ht, t, h v t hv ht, by rw [hid]; rfl⟩
  induction e generalizing v t with
  | int n => exact of_short (short_int n) hv ht rfl
  | text w => exact of_short (short_text (hl w List.mem_cons_self)) hv ht rfl
  | capture i => exact of_short (short_text (length_capture hc i)) hv ht rfl
  | neg e => exact of_short (.bind fun _ _ => .bind fun n _ => short_int (-n)) hv ht rfl
  | binary op l r =>
    exact of_short (.bind fun v _ => .bind fun w _ => Operator.short_apply v w op) hv ht rfl
  | convert f e ih =>
    obtain ⟨w, hw, hf⟩ := bind_eq_ok.1 hv
    cases f with
    | toInt => exact of_short (.bind fun _ _ => .bind fun n _ => short_int n) hv ht rfl
    | identity =>
      exact of_short (.bind fun _ _ => .bind fun _ _ => .bind fun _ hs =>
        short_text (length_of_checked hs)) hv ht rfl
    | toText =>
      obtain ⟨s, hs, hr⟩ := bind_eq_ok.1 hf
      obtain rfl := Except.ok.inj hr
      obtain rfl := Except.ok.inj ht
      exact ih hl hw hs
    | toUpper =>
      obtain ⟨s, hs, hr⟩ := bind_eq_ok.1 hf
      obtain rfl := Except.ok.inj hr
      obtain rfl := Except.ok.inj ht
      obtain ⟨hsingle, r, hlen, rfl⟩ := ih hl hw hs
      refine ⟨fun ⟨h, hm⟩ => ?_, r, hlen, rfl⟩
      rw [Unicode.length_upper (hm w _ hw hs)]
      exact hsingle h
    | toLower =>
      obtain ⟨s, hs, hr⟩ := bind_eq_ok.1 hf
      obtain rfl := Except.ok.inj hr
      obtain rfl := Except.ok.inj ht
      obtain ⟨hsingle, r, hlen, rfl⟩ := ih hl hw hs
      refine ⟨fun ⟨h, hm⟩ => ?_, r, hlen, rfl⟩
      rw [Unicode.lower, Unicode.length_lowerFrom (hm w _ hw hs)]
      exact hsingle h
  | repeated t n =>
    exact of_short (.bind fun _ _ => .bind fun _ _ => .bind fun _ _ => .bind fun _ _ =>
      .bind fun _ hs => short_text (length_of_repeatText hs)) hv ht rfl
  | repeatedWith t n sep =>
    exact of_short (.bind fun _ _ => .bind fun _ _ => .bind fun _ _ => .bind fun _ _ =>
      .bind fun _ _ => .bind fun _ _ => .bind fun _ hs =>
        short_text (length_of_repeatText hs)) hv ht rfl
  | zeros rows cols =>
    exact of_short (.bind fun _ _ => .bind fun _ _ => .bind fun _ _ => .bind fun _ _ =>
      .bind fun _ hs => short_text (length_of_checked hs)) hv ht rfl

/-- Where the texts that go into an expression are within the limit, what comes out is a text within
the limit whose case may have been converted; and it is within the limit itself unless a character
became several. -/
theorem length_eval (hl : ∀ w ∈ e.literals, w.length ≤ maxOutput)
    (hc : ∀ w, some w ∈ captures → w.length ≤ maxOutput) (h : e.eval captures = .ok (.text t)) :
    (e.IsSingle captures → t.length ≤ maxOutput) ∧
      ∃ s, s.length ≤ maxOutput ∧ t = e.casing s :=
  exists_casing hl hc h rfl

theorem length_eval_upper :
    let e : Expr := .convert .toUpper (.binary .plus (.text "ab".toList) (.capture 0))
    parse "upper(\"ab\" + [[0]])".toList = .ok e ∧ (∀ w ∈ e.literals, w.length ≤ maxOutput) ∧
      (∀ w, some w ∈ [some ['c']] → w.length ≤ maxOutput) ∧
      e.eval [some ['c']] = .ok (.text "ABC".toList) ∧ e.IsSingle [some ['c']] ∧
      "ABC".toList.length ≤ maxOutput := by
  intro e
  have hl : ∀ w ∈ e.literals, w.length ≤ maxOutput := by decide
  have hc : ∀ w, some w ∈ [some ['c']] → w.length ≤ maxOutput := by
    rintro w hw
    obtain rfl := Option.some.inj (List.mem_singleton.1 hw)
    decide
  have h : e.eval [some ['c']] = .ok (.text "ABC".toList) := by decide +kernel
  have hs : e.IsSingle [some ['c']] := by
    refine ⟨trivial, fun v s hv hs => ?_⟩
    obtain rfl : Value.text "abc".toList = v := Except.ok.inj hv
    obtain rfl : "abc".toList = s := Except.ok.inj hs
    have habc : "abc".toList.all (fun c => (Unicode.upperChar c).length = 1) = true := by
      decide +kernel
    simpa only [List.all_eq_true, decide_eq_true_iff] using habc
  exact ⟨by decide +kernel, hl, hc, h, hs, (length_eval hl hc h).1 hs⟩

theorem repeatText_replicate {m n : Nat} (h : m * n ≤ maxOutput) (c : Char) :
    repeatText (List.replicate m c) n [] = .ok (List.replicate (n * m) c) := by
  have hs : ¬maxOutput < (List.replicate m c).length * n + ([] : Text).length * (n - 1) := by
    simpa using h
  rw [repeatText, if_neg hs, Text.joinWith_nil, List.flatten_replicate_replicate]

theorem eval_convert (f : Conversion) (e : Expr) (captures : Captures) :
    (Expr.convert f e).eval captures = e.eval captures >>= fun v => Conversion.apply v f :=
  rfl

theorem eval_repeated {n : Nat} (h : e.eval captures = .ok (.text t)) (hn : n ≤ maxRepeat)
    (hr : repeatText t n [] = .ok s) :
    (Expr.repeated e (.int n)).eval captures = .ok (.text s) := by
  have hc : (Value.int n).toCount = .ok n := by
    have hb : (0 ≤ (n : Int) && (n : Int) ≤ maxRepeat) = true := by
      simp only [Bool.and_eq_true, decide_eq_true_iff]
      omega
    simp only [Value.toCount, Value.toInt, bind, Except.bind, if_pos hb]
    rfl
  rw [Expr.eval] at h
  simp only [Expr.eval, evalWithin, Room.enter, h, bind, Except.bind, Value.toText, hc, hr]
  rfl

theorem upper_replicate {c d : Char} (h : Unicode.upperChar c = [d, d]) (n : Nat) :
    Unicode.upper (List.replicate n c) = List.replicate (n * 2) d := by
  rw [Unicode.upper, List.flatMap, List.map_replicate, h]
  exact List.flatten_replicate_replicate (n := n) (m := 2)

/-- A text at the limit, all of whose characters become two in upper case. -/
theorem upper_exceeds_limit :
    ∃ e t, parse "upper(repeat(repeat(\"ßßßßßßßßßßßßßßßß\", 64), 64))".toList = .ok e ∧
      (∀ w ∈ e.literals, w.length ≤ maxOutput) ∧ e.eval [] = .ok (.text t) ∧
      t.length = 131072 ∧ maxOutput < t.length := by
  let e : Expr :=
    .convert .toUpper (.repeated (.repeated (.text (List.replicate 16 'ß')) (.int 64)) (.int 64))
  have he : e.eval [] = .ok (.text (List.replicate 131072 'S')) := by
    have hi : repeatText (List.replicate 16 'ß') 64 [] = .ok (List.replicate 1024 'ß') :=
      repeatText_replicate (by decide) 'ß'
    have ho : repeatText (List.replicate 1024 'ß') 64 [] = .ok (List.replicate 65536 'ß') :=
      repeatText_replicate (by decide) 'ß'
    have ht : (Expr.text (List.replicate 16 'ß')).eval [] =
        .ok (.text (List.replicate 16 'ß')) := rfl
    have hr := eval_repeated (eval_repeated ht (by decide) hi) (by decide) ho
    have hu : Unicode.upper (List.replicate 65536 'ß') = List.replicate 131072 'S' :=
      upper_replicate (c := 'ß') (by decide +kernel) 65536
    rw [eval_convert, hr, ← hu]
    rfl
  have hlen : (List.replicate 131072 'S').length = 131072 := List.length_replicate
  exact ⟨e, _, by decide +kernel, by decide, he, hlen, by rw [hlen]; decide⟩

end Casing

end Expr

end LatexSnippets
