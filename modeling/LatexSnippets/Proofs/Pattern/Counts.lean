import LatexSnippets.Proofs.Numeral
import LatexSnippets.Proofs.Pattern.Enclosed
import LatexSnippets.Proofs.Text
import LatexSnippets.Trigger

/-!
How reading a pattern can fail. Apart from counts that are too large, which only a repetition in
braces has, a trigger fails to compile only because it is malformed or has an unknown option.
-/

namespace LatexSnippets

namespace Pattern

/-- Digits that a repetition may have for a count. -/
def IsShortCount (digits : Text) : Prop :=
  digits.length ≤ Numeral.maxDigits ∧
    Numeral.ofDigits (digits.filterMap Unicode.digit?) < Read.countLimit

/-- A repetition in braces, with one count or two. -/
def braced (least : Text) : Option Text → Text
  | none => '\x7b' :: (least ++ ['\x7d'])
  | some most => '\x7b' :: (least ++ ',' :: (most ++ ['\x7d']))

/-- A source in which no repetition has too large a count. -/
def HasShortCounts (source : Text) : Prop :=
  ∀ least most, braced least most <:+: source → (∀ c ∈ least, c.isDigit = true) →
    (∀ t ∈ most, ∀ c ∈ t, c.isDigit = true) → IsShortCount least ∧ ∀ t ∈ most, IsShortCount t

namespace Read

/-- What `HasShortCounts` says of the tokens of a source. -/
def ShortCounts (ts : List Token) : Prop :=
  ∀ least most, (braced least most).map .plain <:+: ts → (∀ c ∈ least, c.isDigit = true) →
    (∀ t ∈ most, ∀ c ∈ t, c.isDigit = true) → IsShortCount least ∧ ∀ t ∈ most, IsShortCount t

/-- Progress that stands somewhere in `ts`, no option of the whole pattern having gone back to the
classes of all scripts. -/
def Within (ts : List Token) (s : Progress) : Prop := s.tokens <:+ ts ∧ s.allScripts = false

/-- A reader that, from progress within `ts`, either goes on within `ts` or finds the source
malformed. -/
def Orderly (ts : List Token) (x : Read α) (s : Progress) : Prop :=
  Within ts s →
    match x.run s with
    | .ok (_, s') => Within ts s'
    | .error e => e = .malformed

section Rules

variable {α β : Type} {ts : List Token} {x : Read α} {f : α → Read β} {s s₀ : Progress}

theorem Within.tail (h : Within ts s) : Within ts s.tail :=
  ⟨(List.tail_suffix s.tokens).trans h.1, h.2⟩

theorem Orderly.pure (a : α) : Orderly ts (pure a) s := id

theorem Orderly.malformed : Orderly ts (malformed : Read α) s := fun _ => rfl

theorem Orderly.bind_run (hx : Orderly ts x s)
    (hf : ∀ a s', x.run s = .ok (a, s') → Within ts s' → Orderly ts (f a) s') :
    Orderly ts (x >>= f) s := by
  intro hs
  have h := hx hs
  rw [StateT.run_bind]
  cases hr : x.run s with
  | error e =>
    rw [hr] at h
    exact h
  | ok r =>
    rw [hr] at h
    exact hf r.1 r.2 hr h h

theorem Orderly.bind (hx : Orderly ts x s) (hf : ∀ a s', Orderly ts (f a) s') :
    Orderly ts (x >>= f) s :=
  hx.bind_run fun a s' _ _ => hf a s'

theorem Orderly.map (f : α → β) (hx : Orderly ts x s) : Orderly ts (f <$> x) s := by
  rw [map_eq_pure_bind]
  exact hx.bind fun a _ => .pure (f a)

theorem Orderly.get {f : Progress → Read β} (h : Orderly ts (f s) s) :
    Orderly ts (MonadState.get >>= f) s := h

theorem Orderly.peek {f : Option Token → Read β} (h : Orderly ts (f s.tokens.head?) s) :
    Orderly ts (peek >>= f) s := h

theorem orderly_take : Orderly ts take s := Within.tail

theorem orderly_guardThat {b : Bool} : Orderly ts (guardThat b) s := by
  cases b
  · exact .malformed
  · exact .pure ()

theorem orderly_modify {φ : Progress → Progress} (h : Within ts s → Within ts (φ s)) :
    Orderly ts (modify φ) s := h

theorem orderly_set (h : Within ts s₀) : Orderly ts (set s₀) s := fun _ => h

theorem orderly_accept {c : Char} : Orderly ts (accept c) s := by
  intro hs
  rw [run_accept]
  by_cases h : s.tokens.head? = some (.plain c)
  · rw [if_pos h]
    exact hs.tail
  · rw [if_neg h]
    exact hs

theorem orderly_expect {c : Char} : Orderly ts (expect c) s :=
  orderly_accept.bind fun _ _ => orderly_guardThat

/-- Characters taken while they fit are the plain tokens in front. -/
theorem takePlain_eq (p : Char → Bool) (limit : Nat) (us : List Token) :
    us = (takePlain p limit us).1.map .plain ++ (takePlain p limit us).2 ∧
      ∀ c ∈ (takePlain p limit us).1, p c = true := by
  fun_induction takePlain p limit us with
  | case1 => simp
  | case2 c rest n hp cs after h ih =>
    rw [h] at ih
    refine ⟨by rw [List.map_cons, List.cons_append, ← ih.1], ?_⟩
    rw [List.forall_mem_cons]
    exact ⟨hp, ih.2⟩
  | case3 => simp
  | case4 => simp

theorem run_takeWhile_eq_ok {p : Char → Bool} {n : Nat} {cs : Text} {s' : Progress}
    (h : (takeWhile p n).run s = .ok (cs, s')) :
    s.tokens = cs.map .plain ++ s'.tokens ∧ ∀ c ∈ cs, p c = true := by
  cases h
  exact takePlain_eq p n s.tokens

theorem orderly_takeWhile {p : Char → Bool} {n : Nat} : Orderly ts (takeWhile p n) s := by
  intro hs
  exact ⟨List.IsSuffix.trans ⟨_, (takePlain_eq p n s.tokens).1.symm⟩ hs.1, hs.2⟩

theorem splitAtPlain_suffix {c : Char} {us rest : List Token} {cs : Text}
    (h : splitAtPlain c us = some (cs, rest)) : rest <:+ us := by
  induction us generalizing cs with
  | nil => contradiction
  | cons t us ih =>
    rw [splitAtPlain] at h
    split at h
    · cases h
      exact List.suffix_cons t _
    · obtain ⟨⟨ds, rest'⟩, hd, h⟩ := Option.map_eq_some_iff.1 h
      cases h
      exact (ih hd).trans (List.suffix_cons t us)

theorem orderly_textUntil {c : Char} : Orderly ts (textUntil c) s := by
  refine .get ?_
  cases h : splitAtPlain c s.tokens with
  | none => exact .malformed
  | some r =>
    exact fun hs => ⟨(splitAtPlain_suffix h).trans hs.1, hs.2⟩

theorem orderly_nameUntil {c : Char} : Orderly ts (nameUntil c) s :=
  orderly_textUntil.bind fun name _ => orderly_guardThat.bind fun _ _ => .pure name

theorem orderly_hexCode (n : Nat) : Orderly ts (hexCode n) s :=
  orderly_takeWhile.bind fun _ _ => orderly_guardThat.bind fun _ _ => .pure _

theorem orderly_plainEscape (c : Char) : Orderly ts (plainEscape c) s := by
  unfold plainEscape
  split
  · exact orderly_hexCode 2
  · exact orderly_hexCode 4
  · exact orderly_hexCode 8
  · exact orderly_guardThat.bind fun _ _ => .pure _

theorem orderly_classEscape (c : Char) : Orderly ts (classEscape c) s := by
  unfold classEscape
  split
  · exact .pure _
  split
  · exact .pure _
  split
  · exact .pure _
  split
  · exact orderly_takeWhile.bind fun _ _ => orderly_guardThat.bind fun _ _ => .pure _
  · exact (orderly_plainEscape c).bind fun _ _ => .pure _

theorem orderly_numericEscape (c : Char) : Orderly ts (numericEscape c) s := by
  unfold numericEscape
  have group (n : Nat) (s : Progress) : Orderly ts
      (do let s ← get; guardThat (s.isClosed n && s.canRefer n); return Pattern.reference n) s :=
    .get (orderly_guardThat.bind fun _ _ => .pure _)
  split
  · exact orderly_takeWhile.bind fun _ _ => .pure _
  · refine orderly_takeWhile.bind fun second _ => ?_
    simp only
    split
    · refine orderly_takeWhile.bind fun third _ => ?_
      split
      · exact orderly_guardThat.bind fun _ _ => .pure _
      · exact group _ _
    · exact group _ _

theorem orderly_escape (c : Char) : Orderly ts (escape c) s := by
  unfold escape
  split
  · exact .pure _
  split
  · exact .pure _
  split
  · exact .pure _
  split
  · exact orderly_numericEscape c
  · exact (orderly_plainEscape c).bind fun _ _ => .pure _

theorem orderly_classMember (t : Token) : Orderly ts (classMember t) s := by
  cases t with
  | plain c => exact .pure _
  | escaped c => exact orderly_classEscape c

theorem orderly_classItems (n : Nat) (members : List ClassItem) :
    Orderly ts (classItems n members) s := by
  induction n generalizing members s with
  | zero => exact .malformed
  | succ n ih =>
    rw [classItems]
    refine orderly_take.bind fun this s => ?_
    split
    · split
      · exact .pure _
      refine (orderly_classMember _).bind fun low s => ?_
      refine orderly_accept.bind fun ranged s => ?_
      split
      · exact ih _
      refine orderly_take.bind fun that s => ?_
      split
      · split
        · exact .pure _
        refine (orderly_classMember _).bind fun high s => ?_
        split
        · exact orderly_guardThat.bind fun _ _ => ih _
        · exact .malformed
      · exact .malformed
    · exact .malformed

theorem orderly_greed : Orderly ts greed s := by
  refine orderly_accept.bind fun b s => ?_
  split
  · exact .pure _
  refine orderly_accept.bind fun b s => ?_
  split
  · exact .pure _
  · exact .pure _

theorem orderly_letters (ends : Text) (n : Nat) (seen : Text) :
    Orderly ts (letters ends n seen) s := by
  induction n generalizing seen s with
  | zero => exact .malformed
  | succ n ih =>
    rw [letters]
    refine orderly_take.bind fun t s => ?_
    split
    · split
      · exact .pure _
      · exact orderly_guardThat.bind fun _ _ => ih _
    · exact .malformed

theorem orderly_closeInline (n : Nat) (on : Text) (stop : Char) :
    Orderly ts (closeInline n on stop) s := by
  refine orderly_guardThat.bind fun _ s => ?_
  split
  · exact .pure _
  refine orderly_guardThat.bind fun _ s => ?_
  simp only
  split
  · exact ((orderly_letters _ n _).map _).bind fun _ _ => orderly_guardThat.bind fun _ _ => .pure _
  · exact (Orderly.pure []).bind fun _ _ => orderly_guardThat.bind fun _ _ => .pure _

theorem orderly_inline (c : Char) : Orderly ts (inline c) s := by
  refine .get ?_
  simp only
  split
  · exact orderly_closeInline _ [] '-'
  · exact orderly_guardThat.bind fun _ _ => (orderly_letters _ _ _).bind fun r _ =>
      orderly_closeInline _ r.1 r.2

theorem orderly_condition : Orderly ts condition s := by
  have finish (n : Nat) (s : Progress) :
      Orderly ts (do guardThat ((← get).canRefer n); return n) s :=
    .get (orderly_guardThat.bind fun _ _ => .pure _)
  refine orderly_textUntil.bind fun name s => ?_
  simp only
  split
  · refine .get ?_
    split
    · exact finish _ _
    · exact .malformed
  · split
    · exact orderly_guardThat.bind fun _ _ => (orderly_modify id).bind fun _ _ => finish _ _
    · exact .malformed

end Rules

section Counts

variable {ts : List Token} {s s₀ : Progress}

theorem orderly_count {digits : Text} (h : IsShortCount digits) :
    Orderly ts (count digits) s := by
  unfold count
  split
  · exact .pure _
  · rw [Numeral.readDigits, if_neg (Nat.not_lt.2 h.1)]
    simp only
    rw [if_neg (Nat.not_le.2 h.2)]
    exact .pure _

theorem orderly_closeBraces (h₀ : Within ts s₀) {least most : Text}
    (h : s.tokens.head? = some (.plain '\x7d') → IsShortCount least ∧ IsShortCount most) :
    Orderly ts (closeBraces s₀ least most) s := by
  refine orderly_accept.bind_run fun closed s' hr _ => ?_
  rw [run_accept, Except.ok.injEq] at hr
  split at hr
  · next hc =>
    cases hr
    exact (orderly_count (h hc).1).bind fun _ _ => (orderly_count (h hc).2).bind fun _ _ =>
      orderly_guardThat.bind fun _ _ => .pure _
  · cases hr
    exact (orderly_set h₀).bind fun _ _ => .pure _

/-- The counts of a repetition are short where the opening brace stands before them. -/
theorem orderly_braces (hc : ShortCounts ts) (hb : .plain '\x7b' :: s.tokens <:+ ts) :
    Orderly ts braces s := by
  intro hs
  refine Orderly.peek ?_ hs
  split
  · exact .pure _
  refine .get ?_
  refine orderly_takeWhile.bind_run fun least s₁ h₁ _ => ?_
  obtain ⟨h₁, hl⟩ := run_takeWhile_eq_ok h₁
  refine orderly_accept.bind_run fun comma s₂ h₂ _ => ?_
  rw [run_accept, Except.ok.injEq] at h₂
  split at h₂
  · next hcomma =>
    obtain ⟨rest, hrest⟩ := List.head?_eq_some_iff.1 hcomma
    cases h₂
    refine orderly_takeWhile.bind_run fun most s₃ h₃ _ => ?_
    obtain ⟨h₃, hm⟩ := run_takeWhile_eq_ok h₃
    refine orderly_closeBraces hs fun h => ?_
    obtain ⟨after, hafter⟩ := List.head?_eq_some_iff.1 h
    rw [Progress.tail, hrest, List.tail_cons, hafter] at h₃
    change rest = _ at h₃
    rw [hrest, h₃] at h₁
    obtain ⟨hleast, hmost⟩ := hc least (some most) (List.IsInfix.trans
      ⟨[], after, by simp [braced, h₁]⟩ hb.isInfix) hl (by simpa using hm)
    exact ⟨hleast, hmost most rfl⟩
  · cases h₂
    refine orderly_closeBraces hs fun h => ?_
    obtain ⟨after, hafter⟩ := List.head?_eq_some_iff.1 h
    rw [hafter] at h₁
    have hleast := (hc least none (List.IsInfix.trans
      ⟨[], after, by simp [braced, h₁]⟩ hb.isInfix) hl (by simp)).1
    exact ⟨hleast, hleast⟩

/-- Signs for repetitions other than a brace have no counts to read. -/
theorem orderly_counts (hc : ShortCounts ts) {c : Char}
    (hb : c = '\x7b' → .plain '\x7b' :: s.tokens <:+ ts)
    (h : ['*', '+', '?', '\x7b'].elem c = true) : Orderly ts (counts c) s := by
  unfold counts
  split
  · exact .pure _
  · exact .pure _
  · exact .pure _
  · exact orderly_braces hc (hb (by simp_all))

end Counts

section Parts

variable {ts : List Token} {s : Progress} {n : Nat}

theorem skipLine_suffix (us : List Token) : skipLine us <:+ us := by
  induction us with
  | nil => exact List.nil_suffix
  | cons t us ih =>
    rw [skipLine]
    split
    · exact List.suffix_cons t us
    · exact ih.trans (List.suffix_cons t us)

/-- What is said of the readers of all parts of a pattern, with fuel `n`. Options of the whole
pattern are left out: only the very beginning may have any. -/
structure OrderlyAt (ts : List Token) (n : Nat) : Prop where
  alternatives (spaced top : Bool) (s : Progress) :
    Orderly ts (alternatives spaced top false n) s
  items (spaced first : Bool) (done : List Pattern) (s : Progress)
    (h : (first && done.isEmpty) = false) : Orderly ts (items spaced first done n) s
  capture (spaced : Bool) (name : Option Text) (s : Progress) :
    Orderly ts (capture spaced name n) s
  extended (spaced first : Bool) (done : List Pattern) (s : Progress)
    (h : (first && done.isEmpty) = false) : Orderly ts (extended spaced first done n) s

theorem OrderlyAt.succ_alternatives (ih : OrderlyAt ts n) (spaced top : Bool) (s : Progress) :
    Orderly ts (Read.alternatives spaced top false (n + 1)) s := by
  rw [Read.alternatives, Bool.and_false]
  refine (ih.items spaced false [] s rfl).bind fun p s => ?_
  refine orderly_accept.bind fun more s => ?_
  split
  · exact .get ((ih.alternatives _ _ _).bind fun _ _ => .pure _)
  · exact .pure _

theorem OrderlyAt.succ_capture (ih : OrderlyAt ts n) (spaced : Bool) (name : Option Text)
    (s : Progress) : Orderly ts (Read.capture spaced name (n + 1)) s := by
  rw [Read.capture]
  refine .get (.get ?_)
  refine orderly_guardThat.bind fun _ s => ?_
  refine (orderly_modify id).bind fun _ s => ?_
  refine (ih.alternatives spaced false s).bind fun p s => ?_
  refine orderly_expect.bind fun _ s => ?_
  exact (orderly_modify id).bind fun _ _ => .pure _

/-- A group up to its closing parenthesis, and what comes after it. -/
theorem OrderlyAt.group (ih : OrderlyAt ts n) (spaced : Bool) {f : Pattern → Read β}
    (hf : ∀ p s, Orderly ts (f p) s) :
    Orderly ts (Read.alternatives spaced false false n >>= fun p => expect ')' >>= fun _ => f p)
      s :=
  (ih.alternatives spaced false s).bind fun p _ => orderly_expect.bind fun _ s => hf p s

theorem OrderlyAt.succ_extended (ih : OrderlyAt ts n) (spaced first : Bool) (done : List Pattern)
    (s : Progress) (h : (first && done.isEmpty) = false) :
    Orderly ts (Read.extended spaced first done (n + 1)) s := by
  have next (p : Pattern) (s : Progress) : Orderly ts (Read.items spaced first (p :: done) n) s :=
    ih.items spaced first (p :: done) s (by simp)
  rw [Read.extended]
  refine orderly_take.bind fun t s => ?_
  split
  · split
    · exact orderly_textUntil.bind fun _ s => ih.items _ _ _ s h
    · exact ih.group _ fun p s => next _ s
    · exact ih.group _ fun p s => next _ s
    · exact ih.group _ fun p s => next _ s
    · exact ih.group _ fun p s => next _ s
    · refine orderly_take.bind fun d s => ?_
      split
      · refine orderly_guardThat.bind fun _ s => .get ?_
        refine (orderly_modify id).bind fun _ s => ?_
        refine (ih.alternatives spaced false s).bind fun p s => ?_
        refine (orderly_modify id).bind fun _ s => ?_
        exact orderly_expect.bind fun _ s => .get (next _ s)
      · exact .malformed
    · refine orderly_accept.bind fun named s => ?_
      split
      · exact orderly_nameUntil.bind fun name s => (ih.capture _ _ s).bind fun p s => next _ s
      · refine orderly_expect.bind fun _ s => orderly_nameUntil.bind fun name s => .get ?_
        split
        · exact orderly_guardThat.bind fun _ s => next _ s
        · exact .malformed
    · refine orderly_condition.bind fun m s => ?_
      refine (ih.items spaced false [] s rfl).bind fun yes s => ?_
      refine orderly_accept.bind fun more s => ?_
      split
      · exact (ih.items spaced false [] s rfl).bind fun no s =>
          orderly_expect.bind fun _ s => next _ s
      · exact (Orderly.pure _).bind fun no s => orderly_expect.bind fun _ s => next _ s
    · refine (orderly_inline _).bind fun change s => ?_
      split
      · rw [h]
        exact Orderly.malformed.bind_run fun _ _ hr => by contradiction
      · exact ih.group _ fun p s => next _ s
  · exact .malformed

theorem OrderlyAt.succ_items (hc : ShortCounts ts) (ih : OrderlyAt ts n) (spaced first : Bool)
    (done : List Pattern) (s : Progress) (h : (first && done.isEmpty) = false) :
    Orderly ts (Read.items spaced first done (n + 1)) s := by
  have next (p : Pattern) (done : List Pattern) (s : Progress) :
      Orderly ts (Read.items spaced first (p :: done) n) s :=
    ih.items spaced first (p :: done) s (by simp)
  intro hs
  rw [Read.items]
  refine Orderly.peek ?_ hs
  split
  · exact .pure _
  · exact .pure _
  · exact .pure _
  · exact orderly_take.bind fun _ s => (orderly_escape _).bind fun p s => next p _ s
  · next c _ _ hc' =>
    -- The token stands before the progress after it, which tells `braces` what was opened.
    have hb : .plain c :: s.tail.tokens <:+ ts := by
      obtain ⟨rest, hrest⟩ := List.head?_eq_some_iff.1 hc'
      have : s.tail.tokens = rest := by rw [Progress.tail, hrest]; rfl
      rw [this, ← hrest]
      exact hs.1
    refine orderly_take.bind_run fun _ s' hr _ => ?_
    cases hr
    split
    · exact ih.items _ _ _ _ h
    split
    · exact (orderly_modify fun hs => ⟨(skipLine_suffix _).trans hs.1, hs.2⟩).bind fun _ s =>
        ih.items _ _ _ s h
    split
    · exact orderly_accept.bind fun _ s => .get <|
        (orderly_classItems _ _).bind fun _ s => next _ _ s
    · exact next _ _ _
    · exact next _ _ _
    · exact next _ _ _
    · refine orderly_accept.bind fun special s => ?_
      split
      · exact ih.extended _ _ _ s h
      · exact (ih.capture _ _ s).bind fun p s => next p _ s
    · split
      · next hrep =>
        refine (orderly_counts hc (fun he => he ▸ hb) hrep).bind fun r s => ?_
        split
        · exact next _ _ s
        · split
          · exact .malformed
          · exact orderly_guardThat.bind fun _ s => orderly_greed.bind fun _ s => next _ _ s
      · exact next _ _ _

theorem orderlyAt (hc : ShortCounts ts) (n : Nat) : OrderlyAt ts n := by
  induction n with
  | zero =>
    refine ⟨fun _ _ _ => ?_, fun _ _ _ _ _ => ?_, fun _ _ _ => ?_, fun _ _ _ _ _ => ?_⟩
    · rw [Read.alternatives]
      exact .malformed
    · rw [Read.items]
      exact .malformed
    · rw [Read.capture]
      exact .malformed
    · rw [Read.extended]
      exact .malformed
  | succ n ih =>
    exact ⟨ih.succ_alternatives, ih.succ_items hc, ih.succ_capture, ih.succ_extended⟩

/-- In `(?:…)\Z` the options of the whole pattern come too late to be changed. -/
theorem orderly_anchored {us : List Token} (hc : ShortCounts ts)
    (h : s.tokens = .plain '(' :: .plain '?' :: .plain ':' :: us) :
    Orderly ts (alternatives false true true (n + 3)) s := by
  have ih := orderlyAt hc
  rw [alternatives]
  refine Orderly.bind ?_ fun p s => orderly_accept.bind fun more s => ?_
  · intro hs
    have ht : s.tail.tail.tokens = .plain ':' :: us := by
      rw [Progress.tail, Progress.tail, h]
      rfl
    rw [run_items_special h, run_extended_group ht]
    exact (ih n).group _ (fun p s => (ih n).items _ _ _ s (by simp)) hs.tail.tail.tail
  · split
    · exact .get (((ih (n + 2)).alternatives _ _ _).bind fun _ _ => .pure _)
    · exact .pure _

end Parts

end Read

theorem Token.flatMap_text {t : Text} {ts : List Token} (h : Token.readAll t = some ts) :
    ts.flatMap Token.text = t := by
  fun_induction Token.readAll t generalizing ts with
  | case1 =>
    cases h
    rfl
  | case2 => contradiction
  | case3 c rest ih | case4 c rest _ _ ih =>
    obtain ⟨us, hus, rfl⟩ := Option.map_eq_some_iff.1 h
    rw [List.flatMap_cons, ih hus]
    rfl

theorem HasShortCounts.tokens {t : Text} {ts : List Token} (h : HasShortCounts t)
    (ht : Token.readAll t = some ts) : Read.ShortCounts ts := by
  rintro least most ⟨before, after, he⟩
  refine h least most ⟨before.flatMap Token.text, after.flatMap Token.text, ?_⟩
  have hp : ((braced least most).map Token.plain).flatMap Token.text = braced least most := by
    simp [List.flatMap_map, Token.text]
  rw [← Token.flatMap_text ht, ← he, List.flatMap_append, List.flatMap_append, hp]

theorem exists_braced (least : Text) (most : Option Text) :
    (∃ w, braced least most = '\x7b' :: w) ∧ ∃ w, braced least most = w ++ ['\x7d'] := by
  cases most with
  | none => exact ⟨⟨_, rfl⟩, '\x7b' :: least, rfl⟩
  | some most => exact ⟨⟨_, rfl⟩, '\x7b' :: (least ++ ',' :: most), by simp [braced]⟩

theorem digit?_lt {c : Char} {d : Nat} (h : Unicode.digit? c = some d) : d < 10 := by
  unfold Unicode.digit? at h
  split at h
  · split at h
    · next hc =>
      rw [← Option.some.inj h]
      have h9 : c.toNat ≤ 57 := (Char.isDigit_iff_toNat.1 hc).2
      have h0 : '0'.toNat = 48 := rfl
      omega
    · contradiction
  · obtain ⟨r, -, rfl⟩ := Option.map_eq_some_iff.1 h
    exact Nat.mod_lt _ (by decide)

/-- Counts of up to nine digits are below the limit. -/
theorem IsShortCount.of_length {digits : Text} (h : digits.length ≤ 9) : IsShortCount digits := by
  refine ⟨Nat.le_trans h (by decide), ?_⟩
  have hd : ∀ d ∈ digits.filterMap Unicode.digit?, d < 10 := by
    intro d hd
    obtain ⟨c, -, hc⟩ := List.mem_filterMap.1 hd
    exact digit?_lt hc
  calc Numeral.ofDigits (digits.filterMap Unicode.digit?)
    _ < (0 + 1) * 10 ^ (digits.filterMap Unicode.digit?).length := Numeral.foldl_digits_lt hd 0
    _ ≤ 1 * 10 ^ 9 :=
      Nat.mul_le_mul_left 1 (Nat.pow_le_pow_right (by decide)
        (Nat.le_trans (List.length_filterMap_le ..) h))
    _ < Read.countLimit := by decide

theorem HasShortCounts.of_length {source : Text} (h : source.length ≤ 11) :
    HasShortCounts source := by
  intro least most hb _ _
  have hl := hb.length_le
  cases most with
  | none =>
    refine ⟨.of_length ?_, by simp⟩
    simp only [braced, List.length_cons, List.length_append, List.length_nil] at hl
    omega
  | some most =>
    simp only [braced, List.length_cons, List.length_append, List.length_nil] at hl
    refine ⟨.of_length (by omega), ?_⟩
    intro t ht
    obtain rfl := Option.some.inj ht
    exact .of_length (by omega)

theorem HasShortCounts.anchored {source : Text} (h : HasShortCounts source) :
    HasShortCounts (Trigger.anchored source) := by
  intro least most hb
  obtain ⟨⟨v, hv⟩, w, hw⟩ := exists_braced least most
  refine h least most ?_
  rw [Trigger.anchored, List.append_assoc, hv] at hb
  have hb' := Text.infix_of_infix_append (by decide) hb
  rw [← hv, hw] at hb'
  rw [hw]
  exact Text.infix_of_append_infix (by decide) hb'

/-- A pattern in `(?:…)\Z` whose counts are short can fail to compile only for its form. -/
theorem malformed_of_compile_anchored {source : Text} {o : Options} {e : Error}
    (hc : HasShortCounts source) (ho : o.spaced = false)
    (h : compile (Trigger.anchored source) o = .error e) : e = .malformed := by
  have hb : Token.readAll "(?:".toList = some [.plain '(', .plain '?', .plain ':'] := by decide
  unfold compile at h
  cases ht : Token.readAll (Trigger.anchored source) with
  | none =>
    rw [ht] at h
    exact (Except.error.inj h).symm
  | some ts =>
    obtain ⟨us, rfl⟩ : ∃ us, ts = .plain '(' :: .plain '?' :: .plain ':' :: us := by
      rw [Trigger.anchored, List.append_assoc, Token.readAll_append hb] at ht
      obtain ⟨us, -, rfl⟩ := Option.map_eq_some_iff.1 ht
      exact ⟨us, rfl⟩
    have hs := hc.anchored.tokens ht
    have hr := Read.orderly_anchored (n := 4 * us.length + 13) hs (s := .beginning _ o) rfl
      ⟨List.suffix_refl _, rfl⟩
    rw [ht, ho] at h
    change (Read.alternatives false true true (4 * us.length + 13 + 3)).run (.beginning _ o) >>= _ =
      _ at h
    cases hx : (Read.alternatives false true true (4 * us.length + 13 + 3)).run
        (.beginning (.plain '(' :: .plain '?' :: .plain ':' :: us) o) with
    | error e' =>
      rw [hx] at h hr
      rw [← hr, ← Except.error.inj h]
    | ok r =>
      rw [hx] at h hr
      obtain ⟨body, s⟩ := r
      simp only [bind, Except.bind, hr.2, Bool.and_false, Bool.false_eq_true, if_false] at h
      split at h
      · split at h
        · contradiction
        · exact (Except.error.inj h).symm
      · exact (Except.error.inj h).symm

end Pattern

end LatexSnippets
