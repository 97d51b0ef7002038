import LatexSnippets.Pattern.Reader

/-!
When a reader of patterns does the same on two sources. The second goes on where the first ends,
with a closing parenthesis: `Agree` says what readers of any part have in common on both, with
a rule for each way to put readers together.
-/

namespace LatexSnippets.Pattern

namespace Progress

/-- The progress after the next token. -/
def tail (s : Progress) : Progress := { s with tokens := s.tokens.tail }

/-- The same progress with a closing parenthesis behind the tokens, and `after` behind that. -/
def enclosed (s : Progress) (after : List Token) : Progress :=
  { s with tokens := s.tokens ++ .plain ')' :: after }

theorem tail_enclosed {s : Progress} (h : s.tokens ≠ []) (after : List Token) :
    (s.enclosed after).tail = s.tail.enclosed after := by
  simp [tail, enclosed, List.tail_append_of_ne_nil h]

theorem tokens_ne_nil {s : Progress} {t : Token} (h : s.tokens.head? = some t) : s.tokens ≠ [] := by
  intro hs
  simp [hs] at h

theorem head?_enclosed {s : Progress} (h : s.tokens ≠ []) (after : List Token) :
    (s.enclosed after).tokens.head? = s.tokens.head? := by
  simp [enclosed, List.head?_append, List.head?_eq_some_head h]

theorem head?_enclosed_eq_plain {c : Char} (hc : c ≠ ')') (s : Progress) (after : List Token) :
    (s.enclosed after).tokens.head? = some (.plain c) ↔ s.tokens.head? = some (.plain c) := by
  by_cases h : s.tokens = []
  · simp [enclosed, h, hc.symm]
  · rw [head?_enclosed h]

end Progress

namespace Read

section Runs

variable {α β : Type} {x : Read α} {f : α → Read β} {s : Progress}

theorem run_bind_eq_ok {r : β × Progress} :
    (x >>= f).run s = .ok r ↔ ∃ a s', x.run s = .ok (a, s') ∧ (f a).run s' = .ok r := by
  rw [StateT.run_bind]
  constructor
  · intro h
    cases hx : x.run s with
    | error e =>
      rw [hx] at h
      contradiction
    | ok p =>
      rw [hx] at h
      exact ⟨p.1, p.2, rfl, h⟩
  · rintro ⟨a, s', hx, h⟩
    rw [hx]
    exact h

theorem run_bind_of_ok {a : α} {s' : Progress} (h : x.run s = .ok (a, s')) :
    (x >>= f).run s = (f a).run s' := by
  rw [StateT.run_bind, h]
  rfl

theorem run_bind_of_error {e : Error} (h : x.run s = .error e) : (x >>= f).run s = .error e := by
  rw [StateT.run_bind, h]
  rfl

theorem run_malformed : (malformed : Read α).run s = .error .malformed := rfl

theorem run_guardThat_eq_ok {b : Bool} {r : Unit × Progress} :
    (guardThat b).run s = .ok r ↔ b = true ∧ r = ((), s) := by
  cases b with
  | false => simp [guardThat, run_malformed]
  | true =>
    change Except.ok ((), s) = .ok r ↔ _
    simp [eq_comm]

theorem run_accept (c : Char) :
    (accept c).run s =
      .ok (if s.tokens.head? = some (.plain c) then (true, s.tail) else (false, s)) := by
  change StateT.run (if s.tokens.head? = some (.plain c) then
    do let _ ← take; return true else return false) s = _
  split <;> rfl

theorem run_expect_eq_ok {c : Char} {r : Unit × Progress} :
    (expect c).run s = .ok r ↔ s.tokens.head? = some (.plain c) ∧ r = ((), s.tail) := by
  rw [expect, run_bind_eq_ok]
  simp only [run_accept, run_guardThat_eq_ok]
  by_cases h : s.tokens.head? = some (.plain c) <;> simp [h, eq_comm]

end Runs

/-- Where `x` reads the tokens of `s`, `y` reads them with a closing parenthesis and `after` behind:
it gives the same answer and stops at the same place, the options being what they were. Nothing is
said of what is `barred` there. Where white space does not count, a comment may run on to the end,
parenthesis and all, so that of `spaced` readers this is said only if the first stops before the
end. -/
def Agree (after : List Token) (spaced : Bool) (barred : Prop) (x y : Read α) (s : Progress) :
    Prop :=
  ∀ a s', x.run s = .ok (a, s') → (spaced = true → s'.tokens ≠ []) →
    y.run (s.enclosed after) = .ok (a, s'.enclosed after) ∧ s'.options = s.options ∨ barred

section Rules

variable {α β : Type} {x y : Read α} {f g : α → Read β} {s : Progress} {after : List Token}
  {spaced spaced₁ : Bool} {barred : Prop}

theorem Agree.pure (a : α) : Agree after spaced barred (pure a) (pure a) s := by
  rintro a' s' ⟨⟩ -
  exact .inl ⟨rfl, rfl⟩

theorem Agree.malformed_left : Agree after spaced barred malformed y s := by
  rintro a s' ⟨⟩

theorem Agree.mono {barred₁ : Prop} (hx : Agree after spaced barred₁ x y s) (h : barred₁ → barred) :
    Agree after spaced barred x y s :=
  fun a s' ha hs => (hx a s' ha hs).imp_right h

theorem Agree.bind_of (hx : Agree after spaced₁ barred x y s)
    (he : ∀ a s' r, (f a).run s' = .ok r → (spaced = true → r.2.tokens ≠ []) →
      spaced₁ = true → s'.tokens ≠ [])
    (hf : ∀ a s', x.run s = .ok (a, s') → s'.options = s.options →
      Agree after spaced barred (f a) (g a) s') :
    Agree after spaced barred (x >>= f) (y >>= g) s := by
  intro b s₂ hb hs
  obtain ⟨a, s₁, ha, hb⟩ := run_bind_eq_ok.1 hb
  obtain ⟨hy, ho⟩ | hbar := hx _ _ ha (he _ _ _ hb hs)
  · rw [run_bind_of_ok hy]
    exact (hf _ _ ha ho _ _ hb hs).imp_left (.imp_right fun ho' => ho'.trans ho)
  · exact .inr hbar

theorem Agree.bind_run (hx : Agree after false barred x y s)
    (hf : ∀ a s', x.run s = .ok (a, s') → s'.options = s.options →
      Agree after spaced barred (f a) (g a) s') : Agree after spaced barred (x >>= f) (y >>= g) s :=
  hx.bind_of (by simp) hf

theorem Agree.bind (hx : Agree after false barred x y s)
    (hf : ∀ a s', Agree after spaced barred (f a) (g a) s') :
    Agree after spaced barred (x >>= f) (y >>= g) s :=
  hx.bind_run fun a s' _ _ => hf a s'

theorem Agree.map (f : α → β) (hx : Agree after false barred x y s) :
    Agree after spaced barred (f <$> x) (f <$> y) s := by
  rw [map_eq_pure_bind, map_eq_pure_bind]
  exact hx.bind fun a _ => .pure (f a)

theorem Agree.get {f g : Progress → Read β}
    (h : Agree after spaced barred (f s) (g (s.enclosed after)) s) :
    Agree after spaced barred (MonadState.get >>= f) (MonadState.get >>= g) s := h

theorem Agree.peek {f g : Option Token → Read β}
    (h : Agree after spaced barred (f s.tokens.head?) (g (s.enclosed after).tokens.head?) s) :
    Agree after spaced barred (peek >>= f) (peek >>= g) s := h

theorem agree_guardThat {b : Bool} : Agree after spaced barred (guardThat b) (guardThat b) s := by
  cases b
  · exact .malformed_left
  · exact .pure ()

theorem agree_modify {φ : Progress → Progress} (h : φ (s.enclosed after) = (φ s).enclosed after)
    (ho : (φ s).options = s.options) :
    Agree after spaced barred (modify φ) (modify φ) s := by
  rintro a s' ⟨⟩ -
  exact .inl ⟨congrArg (fun s => Except.ok ((), s)) h, ho⟩

theorem agree_set {s₀ : Progress} (ho : s₀.options = s.options) :
    Agree after spaced barred (set s₀) (set (s₀.enclosed after)) s := by
  rintro a s' ⟨⟩ -
  exact .inl ⟨rfl, ho⟩

theorem agree_take (h : s.tokens ≠ []) : Agree after spaced barred take take s := by
  rintro a s' ⟨⟩ -
  rw [← Progress.head?_enclosed h after]
  exact .inl ⟨congrArg (fun s => Except.ok (_, s)) (Progress.tail_enclosed h after), rfl⟩

/-- A reader that has to take a token does not come to the end. -/
theorem Agree.take_bind_run {f g : Option Token → Read β} (hn : f none = malformed)
    (hf : ∀ t s', s.tokens = t :: s'.tokens →
      Agree after spaced barred (f (some t)) (g (some t)) s') :
    Agree after spaced barred (take >>= f) (take >>= g) s := by
  by_cases h : s.tokens = []
  · intro b s₂ hb
    obtain ⟨a, s₁, ha, hb⟩ := run_bind_eq_ok.1 hb
    cases ha
    rw [h, List.head?_nil, hn] at hb
    contradiction
  · refine (agree_take h).bind_run fun a s' ha _ => ?_
    cases ha
    rw [List.head?_eq_some_head h]
    exact hf _ _ (List.cons_head_tail h).symm

theorem Agree.take_bind {f g : Option Token → Read β} (hn : f none = malformed)
    (hf : ∀ t s', Agree after spaced barred (f (some t)) (g (some t)) s') :
    Agree after spaced barred (take >>= f) (take >>= g) s :=
  .take_bind_run hn fun t s' _ => hf t s'

theorem agree_accept {c : Char} (hc : c ≠ ')') :
    Agree after spaced barred (accept c) (accept c) s := by
  intro a s' hx _
  rw [run_accept, Except.ok.injEq] at hx
  simp only [run_accept, Progress.head?_enclosed_eq_plain hc]
  split at hx
  · next h =>
    cases hx
    rw [if_pos h, Progress.tail_enclosed (Progress.tokens_ne_nil h)]
    exact .inl ⟨rfl, rfl⟩
  · next h =>
    cases hx
    rw [if_neg h]
    exact .inl ⟨rfl, rfl⟩

theorem tokens_ne_nil_of_expect {c : Char} {f : Unit → Read β} {r : β × Progress}
    (h : (expect c >>= f).run s = .ok r) : s.tokens ≠ [] := by
  obtain ⟨_, _, hc, _⟩ := run_bind_eq_ok.1 h
  exact Progress.tokens_ne_nil (run_expect_eq_ok.1 hc).1

theorem tokens_ne_nil_of_accept {c : Char} {f : Bool → Read β} {r : β × Progress}
    (h : (accept c >>= f).run s = .ok r) (hf : (f false).run s = .ok r → s.tokens ≠ []) :
    s.tokens ≠ [] := by
  obtain ⟨b, s', hc, h⟩ := run_bind_eq_ok.1 h
  rw [run_accept, Except.ok.injEq] at hc
  split at hc
  · exact Progress.tokens_ne_nil ‹_›
  · cases hc
    exact hf h

theorem agree_expect {c : Char} : Agree after spaced barred (expect c) (expect c) s := by
  intro a s' hx _
  obtain ⟨h, ⟨⟩⟩ := run_expect_eq_ok.1 hx
  have hne := Progress.tokens_ne_nil h
  refine .inl ⟨run_expect_eq_ok.2 ⟨?_, ?_⟩, rfl⟩
  · rw [Progress.head?_enclosed hne, h]
  · rw [Progress.tail_enclosed hne]

/-- What must be closed by a parenthesis has not run on to the end. -/
theorem Agree.closed (hx : Agree after spaced₁ barred x y s)
    (hf : ∀ a s', Agree after spaced barred (f a) (g a) s') :
    Agree after spaced barred (x >>= fun a => expect ')' >>= fun _ => f a)
      (y >>= fun a => expect ')' >>= fun _ => g a) s :=
  hx.bind_of (fun _ _ _ h _ _ => tokens_ne_nil_of_expect h) fun a _ _ _ =>
    agree_expect.bind fun _ s' => hf a s'

theorem takePlain_enclosed {p : Char → Bool} (hp : p ')' = false) (limit : Nat) (ts : List Token) :
    takePlain p limit (ts ++ .plain ')' :: after) =
      ((takePlain p limit ts).1, (takePlain p limit ts).2 ++ .plain ')' :: after) := by
  induction ts generalizing limit with
  | nil => cases limit <;> simp [takePlain, hp]
  | cons t ts ih =>
    cases t with
    | escaped c => simp [takePlain]
    | plain c =>
      cases limit with
      | zero => simp [takePlain]
      | succ limit =>
        simp only [List.cons_append, takePlain, ih]
        split <;> rfl

theorem takePlain_limit (p : Char → Bool) {m n : Nat} {ts : List Token} (hm : ts.length ≤ m)
    (hn : ts.length ≤ n) : takePlain p m ts = takePlain p n ts := by
  induction ts generalizing m n with
  | nil => simp [takePlain]
  | cons t ts ih =>
    cases t with
    | escaped c => simp [takePlain]
    | plain c =>
      cases m with
      | zero => simp at hm
      | succ m =>
        cases n with
        | zero => simp at hn
        | succ n =>
          rw [takePlain, takePlain, ih (Nat.le_of_succ_le_succ hm) (Nat.le_of_succ_le_succ hn)]

theorem agree_takeWhile {p : Char → Bool} (hp : p ')' = false) {m n : Nat}
    (h : takePlain p m s.tokens = takePlain p n s.tokens) :
    Agree after spaced barred (takeWhile p m) (takeWhile p n) s := by
  rintro a s' ⟨⟩ -
  have ht : takePlain p n (s.enclosed after).tokens = _ := takePlain_enclosed hp n s.tokens
  refine .inl ⟨?_, rfl⟩
  show Except.ok ((takePlain p n (s.enclosed after).tokens).1,
    { s.enclosed after with tokens := (takePlain p n (s.enclosed after).tokens).2 }) = _
  rw [ht, h]
  rfl

theorem splitAtPlain_append {c : Char} {ts us rest : List Token} {cs : Text}
    (h : splitAtPlain c ts = some (cs, rest)) :
    splitAtPlain c (ts ++ us) = some (cs, rest ++ us) := by
  induction ts generalizing cs with
  | nil => contradiction
  | cons t ts ih =>
    rw [splitAtPlain] at h
    rw [List.cons_append, splitAtPlain]
    split at h
    · obtain ⟨rfl, rfl⟩ := by simpa using h
      rw [if_pos ‹_›]
    · obtain ⟨⟨ds, rest'⟩, hd, h⟩ := Option.map_eq_some_iff.1 h
      cases h
      rw [if_neg ‹_›, ih hd]
      rfl

theorem agree_textUntil {c : Char} : Agree after spaced barred (textUntil c) (textUntil c) s := by
  refine .get ?_
  cases h : splitAtPlain c s.tokens with
  | none => exact .malformed_left
  | some r =>
    simp only [Progress.enclosed, splitAtPlain_append h]
    rintro a s' ⟨⟩ -
    exact .inl ⟨rfl, rfl⟩

theorem agree_nameUntil {c : Char} : Agree after spaced barred (nameUntil c) (nameUntil c) s :=
  agree_textUntil.bind fun name _ => agree_guardThat.bind fun _ _ => .pure name

theorem agree_hexCode (n : Nat) : Agree after spaced barred (hexCode n) (hexCode n) s :=
  (agree_takeWhile (by decide) rfl).bind fun _ _ => agree_guardThat.bind fun _ _ => .pure _

theorem agree_plainEscape (c : Char) :
    Agree after spaced barred (plainEscape c) (plainEscape c) s := by
  unfold plainEscape
  split
  · exact agree_hexCode 2
  · exact agree_hexCode 4
  · exact agree_hexCode 8
  · exact agree_guardThat.bind fun _ _ => .pure _

theorem agree_classEscape (c : Char) :
    Agree after spaced barred (classEscape c) (classEscape c) s := by
  unfold classEscape
  split
  · exact .pure _
  split
  · exact .pure _
  split
  · exact .pure _
  split
  · exact (agree_takeWhile (by decide) rfl).bind fun _ _ => agree_guardThat.bind fun _ _ => .pure _
  · exact (agree_plainEscape c).bind fun _ _ => .pure _

theorem agree_numericEscape (c : Char) :
    Agree after spaced barred (numericEscape c) (numericEscape c) s := by
  unfold numericEscape
  have group (n : Nat) (s : Progress) : Agree after spaced barred
      (do let s ← get; guardThat (s.isClosed n && s.canRefer n); return Pattern.reference n)
      (do let s ← get; guardThat (s.isClosed n && s.canRefer n); return Pattern.reference n) s :=
    .get (agree_guardThat.bind fun _ _ => .pure _)
  split
  · exact (agree_takeWhile (by decide) rfl).bind fun _ _ => .pure _
  · refine (agree_takeWhile (by decide) rfl).bind fun second _ => ?_
    simp only
    split
    · refine (agree_takeWhile (by decide) rfl).bind fun third _ => ?_
      split
      · exact agree_guardThat.bind fun _ _ => .pure _
      · exact group _ _
    · exact group _ _

theorem agree_escape (c : Char) : Agree after spaced barred (escape c) (escape c) s := by
  unfold escape
  split
  · exact .pure _
  split
  · exact .pure _
  split
  · exact .pure _
  split
  · exact agree_numericEscape c
  · exact (agree_plainEscape c).bind fun _ _ => .pure _

theorem agree_classMember (t : Token) :
    Agree after spaced barred (classMember t) (classMember t) s := by
  cases t with
  | plain c => exact .pure _
  | escaped c => exact agree_classEscape c

/-- With more fuel a reader answers the same. -/
theorem agree_classItems {m n : Nat} (h : m ≤ n) (members : List ClassItem) :
    Agree after spaced barred (classItems m members) (classItems n members) s := by
  induction m generalizing n members s with
  | zero => exact .malformed_left
  | succ m ih =>
    cases n with
    | zero => contradiction
    | succ n =>
      have ih := fun members s => @ih s n (Nat.le_of_succ_le_succ h) members
      rw [classItems, classItems]
      refine .take_bind rfl fun this s => ?_
      simp only
      split
      · exact .pure _
      refine (agree_classMember this).bind fun low s => ?_
      refine (agree_accept (by decide)).bind fun ranged s => ?_
      split
      · exact ih _ _
      refine .take_bind rfl fun that s => ?_
      simp only
      split
      · exact .pure _
      refine (agree_classMember that).bind fun high s => ?_
      split
      · exact agree_guardThat.bind fun _ _ => ih _ _
      · exact .malformed_left

theorem agree_throw (e : Error) : Agree after spaced barred (throw e) y s := by
  rintro a s' ⟨⟩

theorem agree_count (digits : Text) :
    Agree after spaced barred (count digits) (count digits) s := by
  unfold count
  split
  · exact .pure _
  split
  · split
    · exact agree_throw _
    · exact .pure _
  · exact agree_throw _

theorem length_takePlain (p : Char → Bool) (n : Nat) (ts : List Token) :
    (takePlain p n ts).2.length ≤ ts.length := by
  fun_induction takePlain p n ts with
  | case1 => simp
  | case2 c rest n hp cs after h ih =>
    simp only [h, List.length_cons] at ih ⊢
    omega
  | case3 => simp
  | case4 => simp

theorem length_tokens_takeWhile {p : Char → Bool} {n : Nat} {cs : Text} {s' : Progress}
    (h : (takeWhile p n).run s = .ok (cs, s')) : s'.tokens.length ≤ s.tokens.length := by
  cases h
  exact length_takePlain p n s.tokens

theorem length_tokens_accept {c : Char} {b : Bool} {s' : Progress}
    (h : (accept c).run s = .ok (b, s')) : s'.tokens.length ≤ s.tokens.length := by
  rw [run_accept, Except.ok.injEq] at h
  split at h <;> cases h <;> simp [Progress.tail]

/-- What `braces` does from the closing brace on, `s₀` being where it goes back to without one. -/
def closeBraces (s₀ : Progress) (least most : Text) : Read (Option (Nat × Option Nat)) := do
  if !(← accept '\x7d') then
    set s₀
    return none
  let lo := (← count least).getD 0
  let hi ← count most
  guardThat (hi.all (lo ≤ ·))
  return some (lo, hi)

theorem agree_closeBraces {s₀ : Progress} (ho : s₀.options = s.options) (least most : Text) :
    Agree after spaced barred (closeBraces s₀ least most)
      (closeBraces (s₀.enclosed after) least most) s := by
  refine (agree_accept (by decide)).bind_run fun closed s' _ hs => ?_
  split
  · exact (agree_set (ho.trans hs.symm)).bind fun _ _ => .pure _
  · exact (agree_count least).bind fun _ _ => (agree_count most).bind fun _ _ =>
      agree_guardThat.bind fun _ _ => .pure _

theorem agree_braces : Agree after spaced barred braces braces s := by
  unfold braces
  refine .peek ?_
  simp only [Progress.head?_enclosed_eq_plain (c := '\x7d') (by decide)]
  split
  · exact .pure _
  refine .get ?_
  have limit : s.tokens.length ≤ (s.enclosed after).tokens.length := by simp [Progress.enclosed]
  refine (agree_takeWhile (by decide) (takePlain_limit _ (Nat.le_refl _) limit)).bind_run
    fun least s₁ h₁ ho₁ => ?_
  refine (agree_accept (by decide)).bind_run fun comma s₂ h₂ ho₂ => ?_
  split
  · have hl := Nat.le_trans (length_tokens_accept h₂) (length_tokens_takeWhile h₁)
    refine (agree_takeWhile (by decide) (takePlain_limit _ hl (Nat.le_trans hl limit))).bind_run
      fun most s₃ _ ho₃ => ?_
    exact agree_closeBraces ((ho₃.trans ho₂).trans ho₁).symm least most
  · exact agree_closeBraces (ho₂.trans ho₁).symm least least

theorem agree_greed : Agree after spaced barred greed greed s := by
  refine (agree_accept (by decide)).bind fun b s => ?_
  split
  · exact .pure _
  refine (agree_accept (by decide)).bind fun b s => ?_
  split
  · exact .pure _
  · exact .pure _

theorem agree_counts (c : Char) : Agree after spaced barred (counts c) (counts c) s := by
  unfold counts
  split
  · exact .pure _
  · exact .pure _
  · exact .pure _
  · exact agree_braces

theorem skipLine_append {ts us : List Token} (h : .plain '\n' ∈ ts) :
    skipLine (ts ++ us) = skipLine ts ++ us := by
  induction ts with
  | nil => contradiction
  | cons t ts ih =>
    rw [List.cons_append, skipLine, skipLine]
    split
    · rfl
    · next ht => exact ih ((List.mem_cons.1 h).resolve_left (Ne.symm ht))

theorem skipLine_eq_nil {ts : List Token} (h : .plain '\n' ∉ ts) : skipLine ts = [] := by
  induction ts with
  | nil => rfl
  | cons t ts ih =>
    rw [List.mem_cons, not_or] at h
    rw [skipLine, if_neg (Ne.symm h.1), ih h.2]

theorem tokens_items_of_nil {spaced first : Bool} {done : List Pattern} {m : Nat}
    {r : Pattern × Progress} (h : (items spaced first done m).run s = .ok r) (hs : s.tokens = []) :
    r.2.tokens = [] := by
  cases m with
  | zero => rw [items] at h; contradiction
  | succ m =>
    rw [items, run_bind_eq_ok] at h
    obtain ⟨_, _, ⟨⟩, h⟩ := h
    rw [hs] at h
    cases h
    exact hs

theorem agree_letters (ends : Text) {m n : Nat} (h : m ≤ n) (seen : Text) :
    Agree after spaced barred (letters ends m seen) (letters ends n seen) s := by
  induction m generalizing n seen s with
  | zero => exact .malformed_left
  | succ m ih =>
    cases n with
    | zero => contradiction
    | succ n =>
      rw [letters, letters]
      refine .take_bind rfl fun t s => ?_
      cases t with
      | escaped c => exact .malformed_left
      | plain c =>
        simp only
        split
        · exact .pure _
        · exact agree_guardThat.bind fun _ _ => ih (Nat.le_of_succ_le_succ h) _

/-- What `inline` does after the letters that it switches on, and the character behind them. -/
def closeInline (fuel : Nat) (on : Text) (stop : Char) : Read Inline := do
  guardThat !(on.elem 'a' && on.elem 'u')
  if stop = ')' then return .whole on
  guardThat !(on.elem 't')
  let off ← if stop = '-' then (·.1) <$> letters [':'] fuel [] else pure []
  guardThat (off.all fun c => ['i', 'm', 's', 'x'].elem c && !on.elem c)
  return .group ⟨optionsOf on, optionsOf off, on.elem 'u'⟩

theorem agree_closeInline {m n : Nat} (h : m ≤ n) (on : Text) (stop : Char) :
    Agree after spaced barred (closeInline m on stop) (closeInline n on stop) s := by
  refine agree_guardThat.bind fun _ s => ?_
  split
  · exact .pure _
  refine agree_guardThat.bind fun _ s => ?_
  simp only
  split
  · exact ((agree_letters _ h _).map _).bind fun _ _ => agree_guardThat.bind fun _ _ => .pure _
  · exact (Agree.pure []).bind fun _ _ => agree_guardThat.bind fun _ _ => .pure _

theorem agree_inline (c : Char) : Agree after spaced barred (inline c) (inline c) s := by
  refine .get ?_
  have fuel : s.tokens.length + 1 ≤ (s.enclosed after).tokens.length + 1 := by
    simp [Progress.enclosed]
  simp only
  split
  · exact agree_closeInline fuel [] '-'
  · exact agree_guardThat.bind fun _ _ => (agree_letters _ fuel _).bind fun r _ =>
      agree_closeInline fuel r.1 r.2

theorem agree_condition : Agree after spaced barred condition condition s := by
  have finish (n : Nat) (s : Progress) : Agree after spaced barred
      (do guardThat ((← get).canRefer n); return n) (do guardThat ((← get).canRefer n); return n)
      s := .get (agree_guardThat.bind fun _ _ => .pure _)
  refine agree_textUntil.bind fun name s => ?_
  simp only
  split
  · refine .get ?_
    simp only [Progress.enclosed]
    split
    · exact finish _ _
    · exact .malformed_left
  · split
    · exact agree_guardThat.bind fun _ _ => (agree_modify rfl rfl).bind fun _ _ => finish _ _
    · exact .malformed_left

end Rules

end Read

end LatexSnippets.Pattern
