import LatexSnippets.Proofs.Except
import LatexSnippets.Proofs.Pattern.Agree

/-!
A source that is a pattern by itself is the same pattern between parentheses, unless it begins with
options of the whole pattern, which are refused there.
-/

namespace LatexSnippets.Pattern

namespace Read

/-- Tokens that begin with options of the whole pattern, behind comments at most. -/
inductive OptionsFirst : List Token → Prop
  | letters {cs : Text} {rest : List Token} (hne : cs ≠ [])
      (h : ∀ c ∈ cs, optionLetters.elem c = true) :
      OptionsFirst (.plain '(' :: .plain '?' :: (cs.map .plain ++ .plain ')' :: rest))
  | comment {note rest : List Token} (hn : .plain ')' ∉ note) (h : OptionsFirst rest) :
      OptionsFirst (.plain '(' :: .plain '?' :: .plain '#' :: (note ++ .plain ')' :: rest))

section Runs

variable {s s' : Progress} {c : Char}

theorem run_take_eq_ok {t : Option Token} (h : take.run s = .ok (t, s')) :
    t = s.tokens.head? ∧ s' = s.tail := by
  cases h
  exact ⟨rfl, rfl⟩

theorem tokens_eq_cons {t : Token} (h : s.tokens.head? = some t) :
    s.tokens = t :: s.tail.tokens := by
  obtain ⟨ts, ht⟩ := List.head?_eq_some_iff.1 h
  rw [Progress.tail, ht, List.tail_cons]

theorem run_accept_eq_true (h : (accept c).run s = .ok (true, s')) :
    s.tokens = .plain c :: s'.tokens := by
  rw [run_accept, Except.ok.injEq] at h
  split at h
  · next hc =>
    cases h
    exact tokens_eq_cons hc
  · cases h

theorem splitAtPlain_eq_some {ts rest : List Token} {t : Text}
    (h : splitAtPlain c ts = some (t, rest)) :
    ∃ note, ts = note ++ .plain c :: rest ∧ .plain c ∉ note := by
  induction ts generalizing t with
  | nil => contradiction
  | cons u ts ih =>
    rw [splitAtPlain] at h
    split at h
    · next hu =>
      cases h
      exact ⟨[], by rw [hu, List.nil_append], List.not_mem_nil⟩
    · next hu =>
      obtain ⟨⟨t', rest'⟩, hr, h⟩ := Option.map_eq_some_iff.1 h
      cases h
      obtain ⟨note, rfl, hn⟩ := ih hr
      exact ⟨u :: note, rfl, by simp [Ne.symm hu, hn]⟩

theorem run_textUntil_eq_ok {t : Text} (h : (textUntil c).run s = .ok (t, s')) :
    ∃ note, s.tokens = note ++ .plain c :: s'.tokens ∧ .plain c ∉ note := by
  obtain ⟨_, _, ⟨⟩, h⟩ := run_bind_eq_ok.1 h
  cases hsplit : splitAtPlain c s.tokens with
  | none =>
    simp only [hsplit] at h
    contradiction
  | some r =>
    simp only [hsplit] at h
    cases h
    exact splitAtPlain_eq_some hsplit

theorem run_letters_eq_ok {ends seen cs : Text} {stop : Char} {m : Nat}
    (h : (letters ends m seen).run s = .ok ((cs, stop), s')) :
    ∃ more, cs = seen ++ more ∧ (∀ c ∈ more, optionLetters.elem c = true) ∧
      s.tokens = more.map .plain ++ .plain stop :: s'.tokens := by
  induction m generalizing seen s with
  | zero => contradiction
  | succ m ih =>
    rw [letters] at h
    obtain ⟨t, s₁, htake, h⟩ := run_bind_eq_ok.1 h
    obtain ⟨ht, rfl⟩ := run_take_eq_ok htake
    split at h
    · next c =>
      have htokens := tokens_eq_cons ht.symm
      split at h
      · cases h
        exact ⟨[], by simp, by simp, htokens⟩
      · obtain ⟨_, _, hg, h⟩ := run_bind_eq_ok.1 h
        obtain ⟨hc, ⟨⟩⟩ := run_guardThat_eq_ok.1 hg
        obtain ⟨more, rfl, hmore, hrest⟩ := ih h
        refine ⟨c :: more, by simp, List.forall_mem_cons.2 ⟨hc, hmore⟩, ?_⟩
        rw [htokens, hrest]
        rfl
    · contradiction

theorem run_closeInline_eq_whole (fuel : Nat) (on : Text) (stop : Char) {on' : Text}
    (h : (closeInline fuel on stop).run s = .ok (.whole on', s')) : stop = ')' ∧ s' = s := by
  rw [closeInline] at h
  obtain ⟨_, _, hg, h⟩ := run_bind_eq_ok.1 h
  obtain ⟨-, ⟨⟩⟩ := run_guardThat_eq_ok.1 hg
  split at h
  · next hstop =>
    cases h
    exact ⟨hstop, rfl⟩
  · obtain ⟨_, _, -, h⟩ := run_bind_eq_ok.1 h
    simp only at h
    split at h
    · obtain ⟨_, _, -, h⟩ := run_bind_eq_ok.1 h
      obtain ⟨_, _, -, h⟩ := run_bind_eq_ok.1 h
      cases h
    · obtain ⟨_, _, -, h⟩ := run_bind_eq_ok.1 h
      obtain ⟨_, _, -, h⟩ := run_bind_eq_ok.1 h
      cases h

theorem run_inline_eq_whole {on : Text} (h : (inline c).run s = .ok (.whole on, s')) :
    ∃ cs, (∀ d ∈ c :: cs, optionLetters.elem d = true) ∧
      s.tokens = cs.map .plain ++ .plain ')' :: s'.tokens := by
  obtain ⟨_, _, ⟨⟩, h⟩ := run_bind_eq_ok.1 h
  simp only at h
  split at h
  · have hstop : '-' = ')' := (run_closeInline_eq_whole (s.tokens.length + 1) [] '-' h).1
    exact absurd hstop (by decide)
  · obtain ⟨_, _, hg, h⟩ := run_bind_eq_ok.1 h
    obtain ⟨hc, ⟨⟩⟩ := run_guardThat_eq_ok.1 hg
    obtain ⟨⟨on₁, stop⟩, s₂, hletters, h⟩ := run_bind_eq_ok.1 h
    obtain ⟨rfl, rfl⟩ := run_closeInline_eq_whole (s.tokens.length + 1) on₁ stop h
    obtain ⟨more, -, hmore, hrest⟩ := run_letters_eq_ok hletters
    exact ⟨more, List.forall_mem_cons.2 ⟨hc, hmore⟩, hrest⟩

end Runs

/-- The readers of patterns agree, `m` being the fuel of the first and `n` that of the second. The
second, inside a parenthesis, is neither at the top nor at the beginning, where options of the whole
pattern may stand. -/
structure AgreeAt (after : List Token) (m : Nat) : Prop where
  alternatives : ∀ n spaced top first s, m ≤ n → (top = true → s.options.spaced = spaced) →
    (top = true → first = true → spaced = false) →
    Agree after spaced (top = true ∧ first = true ∧ OptionsFirst s.tokens)
      (alternatives spaced top first m) (alternatives spaced false false n) s
  items : ∀ n spaced first done s, m ≤ n → (first = true → spaced = false) →
    Agree after spaced (first = true ∧ done = [] ∧ OptionsFirst s.tokens)
      (items spaced first done m) (items spaced false done n) s
  capture : ∀ n spaced name s, m ≤ n →
    Agree after false False (capture spaced name m) (capture spaced name n) s
  extended : ∀ n spaced first done s, m ≤ n → (first = true → spaced = false) →
    Agree after spaced
      (first = true ∧ done = [] ∧ OptionsFirst (.plain '(' :: .plain '?' :: s.tokens))
      (extended spaced first done m) (extended spaced false done n) s

namespace AgreeAt

variable {after : List Token} {m n : Nat} {spaced first : Bool} {barred : Prop}

/-- Nothing is barred behind an item. -/
theorem next (h : AgreeAt after m) (hn : m ≤ n) (hs : first = true → spaced = false) (p : Pattern)
    (done : List Pattern) (s : Progress) : Agree after spaced barred
      (Read.items spaced first (p :: done) m) (Read.items spaced false (p :: done) n) s :=
  (h.items n spaced first (p :: done) s hn hs).mono fun hb => nomatch hb.2.1

theorem branch (h : AgreeAt after m) (hn : m ≤ n) (s : Progress) : Agree after spaced barred
      (Read.items spaced false [] m) (Read.items spaced false [] n) s :=
  (h.items n spaced false [] s hn nofun).mono fun hb => nomatch hb.1

theorem inner (h : AgreeAt after m) (hn : m ≤ n) (s : Progress) : Agree after spaced barred
      (Read.alternatives spaced false false m) (Read.alternatives spaced false false n) s :=
  (h.alternatives n spaced false false s hn nofun nofun).mono fun hb => nomatch hb.1

theorem captured (h : AgreeAt after m) (hn : m ≤ n) (name : Option Text) (s : Progress) :
    Agree after false barred (Read.capture spaced name m) (Read.capture spaced name n) s :=
  (h.capture n spaced name s hn).mono False.elim

theorem alternatives_succ (h : AgreeAt after m) (n : Nat) (spaced top first : Bool) (s : Progress)
    (hn : m + 1 ≤ n) (ht : top = true → s.options.spaced = spaced)
    (hf : top = true → first = true → spaced = false) :
    Agree after spaced (top = true ∧ first = true ∧ OptionsFirst s.tokens)
      (Read.alternatives spaced top first (m + 1)) (Read.alternatives spaced false false n) s := by
  cases n with
  | zero => contradiction
  | succ n =>
    have hn := Nat.le_of_succ_le_succ hn
    rw [Read.alternatives, Read.alternatives]
    have hitems := h.items n spaced (top && first) [] s hn fun h => by
      rw [Bool.and_eq_true] at h
      exact hf h.1 h.2
    refine (hitems.mono ?_).bind_of ?_ fun p s₁ _ ho => ?_
    · rintro ⟨h, -, hb⟩
      rw [Bool.and_eq_true] at h
      exact ⟨h.1, h.2, hb⟩
    · intro p s₁ r hr hne hs
      exact tokens_ne_nil_of_accept hr fun h => by cases h; exact hne hs
    · refine (agree_accept (by decide)).bind_run fun more s₂ _ ho' => ?_
      split
      · refine .get ?_
        have ht₂ : top = true → s₂.options.spaced = spaced := fun h => by rw [ho', ho, ht h]
        have he : (if top = true then s₂.options.spaced else spaced) = spaced := by
          split <;> simp [*]
        simp only [he]
        refine ((h.alternatives n spaced top false s₂ hn ht₂ nofun).mono
          fun hb => nomatch hb.2.1).bind_of (fun _ _ r hr hne hs => ?_) fun q _ _ _ => .pure _
        cases hr
        exact hne hs
      · exact .pure p

/-- A comment that does not end takes the closing parenthesis away. -/
theorem comment (h : AgreeAt after m) (hn : m ≤ n) (done : List Pattern) (s : Progress) :
    Agree after true barred
      (do
        modify fun s => { s with tokens := skipLine s.tokens }
        Read.items true false done m)
      (do
        modify fun s => { s with tokens := skipLine s.tokens }
        Read.items true false done n) s := by
  by_cases hl : .plain '\n' ∈ s.tokens
  · refine (agree_modify ?_ rfl).bind fun _ s => (h.items n true false done s hn nofun).mono
      fun hb => nomatch hb.1
    simp [Progress.enclosed, skipLine_append hl]
  · intro p s' hx hne
    obtain ⟨_, _, ⟨⟩, hx⟩ := run_bind_eq_ok.1 hx
    exact absurd (tokens_items_of_nil hx (skipLine_eq_nil hl)) (hne rfl)

theorem items_succ (h : AgreeAt after m) (n : Nat) (spaced first : Bool) (done : List Pattern)
    (s : Progress) (hn : m + 1 ≤ n) (hf : first = true → spaced = false) :
    Agree after spaced (first = true ∧ done = [] ∧ OptionsFirst s.tokens)
      (Read.items spaced first done (m + 1)) (Read.items spaced false done n) s := by
  cases n with
  | zero => contradiction
  | succ n =>
    have hn := Nat.le_of_succ_le_succ hn
    rw [Read.items, Read.items]
    refine .peek ?_
    by_cases hs : s.tokens = []
    · simp only [Progress.enclosed, hs]
      exact .pure _
    rw [Progress.head?_enclosed hs, List.head?_eq_some_head hs]
    cases hhead : s.tokens.head hs with
    | escaped c =>
      exact (agree_take hs).bind fun _ _ => (agree_escape c).bind fun p s => h.next hn hf p done s
    | plain c =>
      have htokens : s.tokens = .plain c :: s.tail.tokens := by
        rw [← hhead]
        exact (List.cons_head_tail hs).symm
      split
      · contradiction
      · exact .pure _
      · exact .pure _
      · next hc => cases hc
      · next c' _ _ hc =>
        cases hc
        refine (agree_take hs).bind_run fun _ s₁ htake _ => ?_
        obtain ⟨-, rfl⟩ := run_take_eq_ok htake
        split
        · next hc =>
          obtain ⟨rfl, -⟩ := Bool.and_eq_true_iff.1 hc
          exact (h.items n true first done _ hn hf).mono fun hb => nomatch hf hb.1
        split
        · next hc =>
          obtain ⟨rfl, -⟩ := Bool.and_eq_true_iff.1 hc
          cases first with
          | true => exact nomatch hf rfl
          | false => exact h.comment hn done _
        split
        · refine (agree_accept (by decide)).bind fun negated s => .get ?_
          refine (agree_classItems ?_ []).bind fun members s => h.next hn hf _ done s
          simp [Progress.enclosed]
        · exact h.next hn hf _ done _
        · exact h.next hn hf _ done _
        · exact h.next hn hf _ done _
        · refine (agree_accept (by decide)).bind_run fun special s₂ haccept _ => ?_
          split
          · next hspecial =>
            subst hspecial
            refine (h.extended n spaced first done s₂ hn hf).mono ?_
            rw [htokens, run_accept_eq_true haccept]
            exact id
          · exact (h.captured hn none s₂).bind fun p s => h.next hn hf p done s
        · split
          · refine (agree_counts c).bind fun range s => ?_
            cases range with
            | none => exact h.next hn hf _ done s
            | some range =>
              cases done with
              | nil => exact .malformed_left
              | cons p before =>
                exact agree_guardThat.bind fun _ _ => agree_greed.bind fun g s =>
                  h.next hn hf _ before s
          · exact h.next hn hf _ done _

theorem capture_succ (h : AgreeAt after m) (n : Nat) (spaced : Bool) (name : Option Text)
    (s : Progress) (hn : m + 1 ≤ n) :
    Agree after false False (Read.capture spaced name (m + 1)) (Read.capture spaced name n) s := by
  cases n with
  | zero => contradiction
  | succ n =>
    rw [Read.capture, Read.capture]
    refine .get (.get ?_)
    refine agree_guardThat.bind fun _ s => (agree_modify rfl rfl).bind fun _ s => ?_
    exact (h.inner (Nat.le_of_succ_le_succ hn) s).closed fun p s =>
      (agree_modify rfl rfl).bind fun _ _ => .pure _

theorem extended_succ (h : AgreeAt after m) (n : Nat) (spaced first : Bool) (done : List Pattern)
    (s : Progress) (hn : m + 1 ≤ n) (hf : first = true → spaced = false) :
    Agree after spaced
      (first = true ∧ done = [] ∧ OptionsFirst (.plain '(' :: .plain '?' :: s.tokens))
      (Read.extended spaced first done (m + 1)) (Read.extended spaced false done n) s := by
  cases n with
  | zero => contradiction
  | succ n =>
    have hn := Nat.le_of_succ_le_succ hn
    rw [Read.extended, Read.extended]
    have next (barred : Prop) (p : Pattern) (s : Progress) : Agree after spaced barred
        (Read.items spaced first (p :: done) m) (Read.items spaced false (p :: done) n) s :=
      h.next hn hf p done s
    refine .take_bind_run rfl fun t s₁ htokens => ?_
    rw [htokens]
    cases t with
    | escaped c => exact .malformed_left
    | plain c =>
      simp only
      split
      · refine agree_textUntil.bind_run fun note s₂ hnote _ => ?_
        obtain ⟨note, hnote, hmem⟩ := run_textUntil_eq_ok hnote
        refine (h.items n spaced first done s₂ hn hf).mono fun ⟨h₁, h₂, hb⟩ => ⟨h₁, h₂, ?_⟩
        rw [hnote]
        exact .comment hmem hb
      · exact (h.inner hn s₁).closed fun p s => next _ _ s
      · exact (h.inner hn s₁).closed fun p s => next _ _ s
      · exact (h.inner hn s₁).closed fun p s => next _ _ s
      · exact (h.inner hn s₁).closed fun p s => next _ _ s
      -- A look back: the parenthesis is expected only after the account of it has been closed.
      · refine .take_bind rfl fun u s => ?_
        cases u with
        | escaped d => exact .malformed_left
        | plain d =>
          refine agree_guardThat.bind fun _ s => .get ?_
          refine (agree_modify rfl rfl).bind fun _ s => ?_
          refine (h.inner hn s).bind_of ?_ fun p s _ _ => (agree_modify rfl rfl).bind fun _ s =>
            agree_expect.bind fun _ s => .get (next _ _ s)
          intro p s' r hr _ _
          obtain ⟨_, _, ⟨⟩, hr⟩ := run_bind_eq_ok.1 hr
          have hs := tokens_ne_nil_of_expect hr
          exact hs
      · refine (agree_accept (by decide)).bind fun named s => ?_
        split
        · refine agree_nameUntil.bind fun name s => ?_
          exact (h.captured hn (some name) s).bind fun p s => next _ p s
        · refine agree_expect.bind fun _ s => agree_nameUntil.bind fun name s => .get ?_
          simp only [Progress.enclosed]
          split
          · exact agree_guardThat.bind fun _ s => next _ _ s
          · exact .malformed_left
      · refine agree_condition.bind fun g s => ?_
        refine (h.branch hn s).bind_of ?_ fun yes s _ _ =>
          (agree_accept (by decide)).bind fun more s => ?_
        · intro yes s' r hr _ _
          refine tokens_ne_nil_of_accept hr fun hr => ?_
          exact tokens_ne_nil_of_expect
            (f := fun _ => Read.items spaced first (.ifGroup g yes .empty :: done) m) hr
        split
        · exact (h.branch hn s).bind_of
            (fun _ _ _ hr _ _ => tokens_ne_nil_of_expect hr) fun no s _ _ =>
              agree_expect.bind fun _ s => next _ _ s
        · exact agree_expect.bind fun _ s => next _ _ s
      · refine (agree_inline c).bind_run fun r s₂ hinline _ => ?_
        cases r with
        | whole on =>
          -- Options of the whole pattern are refused inside a parenthesis.
          intro p s' hx _
          obtain ⟨_, _, hg, _⟩ := run_bind_eq_ok.1 hx
          have hfirst := (run_guardThat_eq_ok.1 hg).1
          rw [Bool.and_eq_true, List.isEmpty_iff] at hfirst
          obtain ⟨cs, hcs, hrest⟩ := run_inline_eq_whole hinline
          refine .inr ⟨hfirst.1, hfirst.2, ?_⟩
          rw [hrest]
          exact .letters (List.cons_ne_nil c cs) hcs
        | group change => exact (h.inner hn s₂).closed fun p s => next _ _ s

end AgreeAt

theorem agreeAt (after : List Token) (m : Nat) : AgreeAt after m := by
  induction m with
  | zero =>
    constructor <;> intros <;> exact .malformed_left
  | succ m ih => exact ⟨ih.alternatives_succ, ih.items_succ, ih.capture_succ, ih.extended_succ⟩

end Read

namespace Token

theorem readAll_append {t u : Text} {ts : List Token} (h : readAll t = some ts) :
    readAll (t ++ u) = (readAll u).map (ts ++ ·) := by
  fun_induction readAll t generalizing ts with
  | case1 =>
    cases h
    cases hu : readAll u <;> simp [hu]
  | case2 => contradiction
  | case3 c rest ih =>
    obtain ⟨us, hus, rfl⟩ := Option.map_eq_some_iff.1 h
    simp [readAll, ih hus]
    rfl
  | case4 c rest h₁ h₂ ih =>
    obtain ⟨us, hus, rfl⟩ := Option.map_eq_some_iff.1 h
    have hc : c ≠ '\\' := by
      rintro rfl
      cases rest with
      | nil => exact h₁ rfl rfl
      | cons d rest => exact h₂ d rest rfl rfl
    rw [List.cons_append, readAll, ih hus, Option.map_map]
    · rfl
    · exact fun h => absurd h hc
    · exact fun _ _ h => absurd h hc

end Token

namespace Progress

/-- Where the reader of a pattern begins. -/
def beginning (tokens : List Token) (o : Options) : Progress :=
  ⟨tokens, o, false, false, [], [], none, []⟩

/-- What is asked of a pattern once its source has been read. -/
def finish (s : Progress) (body : Pattern) : Except Error Compiled := do
  unless s.tokens.isEmpty && s.asked.all (· < s.nextGroup) do throw .malformed
  if s.options.ascii && s.allScripts then throw .incompatibleOptions
  unless body.looksBackSafely && !(s.roundless && body.hasRounds) do
    throw .malformed
  return ⟨body, s.widths.length, s.options⟩

variable {s : Progress} {body : Pattern} {p : Compiled}

theorem finish_eq_ok (h : s.finish body = .ok p) :
    s.tokens = [] ∧ p = ⟨body, s.widths.length, s.options⟩ := by
  simp only [finish, bind, Except.bind] at h
  split at h
  · next hs =>
    rw [Bool.and_eq_true, List.isEmpty_iff] at hs
    split at h
    · contradiction
    · split at h
      · cases h
        exact ⟨hs.1, rfl⟩
      · contradiction
  · contradiction

/-- Nothing more is asked of a pattern that the end of the text follows. -/
theorem finish_textEnd (s : Progress) (body : Pattern) :
    s.finish (.seq (.scoped .nothing body) (.seq (.anchor .textEnd) .empty)) =
      (s.finish body).map fun p =>
        ⟨.seq (.scoped .nothing p.body) (.seq (.anchor .textEnd) .empty), p.groups, p.options⟩ := by
  simp only [finish, looksBackSafely, hasRounds, Bool.and_true, Bool.or_false, bind, Except.bind]
  split
  · split
    · rfl
    · split <;> rfl
  · rfl

end Progress

theorem compile_eq {source : Text} {ts : List Token} (h : Token.readAll source = some ts)
    (o : Options) : compile source o =
      (Read.alternatives o.spaced true true (4 * ts.length + 4)).run (.beginning ts o) >>=
        fun r => r.2.finish r.1 := by
  rw [compile, h]
  rfl

namespace Read

variable {s : Progress} {ts : List Token} {spaced first : Bool} {done : List Pattern} {n : Nat}

theorem run_items_nil (h : s.tokens = []) :
    (items spaced first done (n + 1)).run s = .ok (sequence done, s) := by
  obtain ⟨_⟩ := s
  cases h
  rw [items]
  rfl

theorem run_items_escaped {c : Char} (h : s.tokens = .escaped c :: ts) :
    (items spaced first done (n + 1)).run s =
      (do items spaced first ((← escape c) :: done) n).run s.tail := by
  obtain ⟨_⟩ := s
  cases h
  rw [items]
  rfl

theorem run_items_textEnd (h : s.tokens = [.escaped 'Z']) :
    (items spaced first done (n + 2)).run s =
      .ok (sequence (.anchor .textEnd :: done), s.tail) := by
  have ht : s.tail.tokens = [] := by rw [Progress.tail, h]; rfl
  rw [run_items_escaped h]
  show (items spaced first (.anchor .textEnd :: done) (n + 1)).run s.tail = _
  exact run_items_nil ht

theorem run_items_special (h : s.tokens = .plain '(' :: .plain '?' :: ts) :
    (items false first done (n + 1)).run s = (extended false first done n).run s.tail.tail := by
  obtain ⟨_⟩ := s
  cases h
  rw [items]
  rfl

theorem run_extended_group (h : s.tokens = .plain ':' :: ts) :
    (extended spaced first done (n + 1)).run s =
      (do
        let p ← alternatives spaced false false n
        expect ')'
        items spaced first (.scoped .nothing p :: done) n).run s.tail := by
  obtain ⟨_⟩ := s
  cases h
  rw [extended]
  rfl

section Barred

variable {c : Char} {rest : List Token}

theorem run_get (s : Progress) : (get : Read Progress).run s = .ok (s, s) := rfl

theorem run_take (h : s.tokens = .plain c :: rest) :
    take.run s = .ok (some (.plain c), { s with tokens := rest }) := by
  show Except.ok (s.tokens.head?, s.tail) = _
  rw [Progress.tail, h]
  rfl

theorem splitAtPlain_of_not_mem {note : List Token} (h : .plain c ∉ note) (rest : List Token) :
    ∃ t, splitAtPlain c (note ++ .plain c :: rest) = some (t, rest) := by
  induction note with
  | nil => exact ⟨[], by rw [List.nil_append, splitAtPlain, if_pos rfl]⟩
  | cons u note ih =>
    rw [List.mem_cons, not_or] at h
    obtain ⟨t, ht⟩ := ih h.2
    exact ⟨u.text ++ t, by rw [List.cons_append, splitAtPlain, if_neg (Ne.symm h.1), ht]; rfl⟩

theorem run_textUntil {note : List Token} (h : .plain c ∉ note)
    (hs : s.tokens = note ++ .plain c :: rest) :
    ∃ t, (textUntil c).run s = .ok (t, { s with tokens := rest }) := by
  obtain ⟨t, ht⟩ := splitAtPlain_of_not_mem h rest
  refine ⟨t, ?_⟩
  rw [textUntil, run_bind_of_ok (run_get s), hs, ht]
  rfl

theorem run_letters {ends seen cs : Text} {stop : Char} {m : Nat}
    (hends : ∀ c ∈ optionLetters, ends.elem c = false)
    (hstop : ends.elem stop = true) (hseen : seen ≠ [])
    (hcs : ∀ c ∈ cs, optionLetters.elem c = true) (hm : cs.length < m)
    (hs : s.tokens = cs.map .plain ++ .plain stop :: rest) :
    (letters ends m seen).run s = .ok ((seen ++ cs, stop), { s with tokens := rest }) := by
  induction cs generalizing seen s m with
  | nil =>
    obtain ⟨m, rfl⟩ := Nat.exists_eq_succ_of_ne_zero (Nat.ne_of_gt hm)
    have hend : (ends.elem stop && !seen.isEmpty) = true := by
      rw [hstop, Bool.true_and, Bool.not_eq_true', List.isEmpty_eq_false_iff]
      exact hseen
    rw [letters, run_bind_of_ok (run_take hs)]
    simp only [if_pos hend, List.append_nil]
    rfl
  | cons c cs ih =>
    obtain ⟨m, rfl⟩ := Nat.exists_eq_succ_of_ne_zero (Nat.ne_of_gt (Nat.zero_lt_of_lt hm))
    rw [List.forall_mem_cons] at hcs
    have hend : ¬(ends.elem c && !seen.isEmpty) = true := by
      rw [hends c (List.elem_iff.1 hcs.1)]
      simp
    rw [letters, run_bind_of_ok (run_take hs)]
    simp only [if_neg hend]
    rw [run_bind_of_ok (run_guardThat_eq_ok.2 ⟨hcs.1, rfl⟩),
      ih (by simp) hcs.2 (Nat.lt_of_succ_lt_succ hm) rfl, List.append_assoc]
    rfl

theorem run_closeInline_parenthesis (fuel : Nat) (on : Text) (s : Progress) :
    (closeInline fuel on ')').run s = .error .malformed ∨
      (closeInline fuel on ')').run s = .ok (.whole on, s) := by
  rw [closeInline]
  cases !(on.elem 'a' && on.elem 'u') with
  | false => exact .inl rfl
  | true => exact .inr rfl

/-- Letters of options up to the parenthesis are malformed, or options of the whole pattern. -/
theorem run_inline {cs : Text} (hc : ∀ d ∈ c :: cs, optionLetters.elem d = true)
    (hs : s.tokens = cs.map .plain ++ .plain ')' :: rest) :
    (inline c).run s = .error .malformed ∨ ∃ s', (inline c).run s = .ok (.whole (c :: cs), s') := by
  rw [List.forall_mem_cons] at hc
  have hminus : c ≠ '-' := by
    rintro rfl
    exact absurd hc.1 (by decide)
  have hlength : cs.length < s.tokens.length + 1 := by
    simp only [hs, List.length_append, List.length_map, List.length_cons]
    omega
  have hl : (letters [')', '-', ':'] (s.tokens.length + 1) [c]).run s =
      .ok (([c] ++ cs, ')'), { s with tokens := rest }) :=
    run_letters (by simp [optionLetters]) rfl (by simp) hc.2 hlength hs
  have hrun : (inline c).run s =
      (closeInline (s.tokens.length + 1) (c :: cs) ')').run { s with tokens := rest } := by
    rw [inline, run_bind_of_ok (run_get s)]
    simp only [if_neg hminus]
    rw [run_bind_of_ok (run_guardThat_eq_ok.2 ⟨hc.1, rfl⟩), run_bind_of_ok hl]
    rfl
  rw [hrun]
  exact (run_closeInline_parenthesis _ _ _).imp_right fun h => ⟨_, h⟩

theorem run_extended_options {cs : Text} (hc : ∀ d ∈ c :: cs, optionLetters.elem d = true)
    (hs : s.tokens = .plain c :: (cs.map .plain ++ .plain ')' :: rest)) :
    (extended spaced false done n).run s = .error .malformed := by
  cases n with
  | zero => rw [extended]; rfl
  | succ n =>
    have hmem : c ∈ optionLetters := List.elem_iff.1 (hc c List.mem_cons_self)
    rw [extended, run_bind_of_ok (run_take hs)]
    simp only
    split
    -- None of the characters that open a group of another kind is a letter of options.
    iterate 8 exact absurd hmem (by decide)
    obtain herr | ⟨s', hok⟩ := run_inline (s := { s with tokens := _ }) hc rfl
    · exact run_bind_of_error herr
    · rw [run_bind_of_ok hok]
      rfl

/-- Options of the whole pattern are refused where an alternative does not come first. -/
theorem run_items_of_optionsFirst (h : OptionsFirst ts) (hs : s.tokens = ts ++ rest) :
    (items false false done n).run s = .error .malformed := by
  induction h generalizing s n with
  | @letters cs after hne hcs =>
    cases n with
    | zero => rw [items]; rfl
    | succ n =>
      obtain ⟨c, cs, rfl⟩ := List.exists_cons_of_ne_nil hne
      rw [run_items_special hs]
      have htokens : s.tail.tail.tokens =
          .plain c :: (cs.map .plain ++ .plain ')' :: (after ++ rest)) := by
        simp [Progress.tail, hs]
      exact run_extended_options hcs htokens
  | @comment note after hn h ih =>
    cases n with
    | zero => rw [items]; rfl
    | succ n =>
      rw [run_items_special hs]
      cases n with
      | zero => rw [extended]; rfl
      | succ n =>
        have htake : s.tail.tail.tokens =
            .plain '#' :: (note ++ .plain ')' :: (after ++ rest)) := by
          simp [Progress.tail, hs]
        rw [extended, run_bind_of_ok (run_take htake)]
        simp only
        obtain ⟨t, ht⟩ := run_textUntil (s := { s.tail.tail with tokens := _ }) hn rfl
        rw [run_bind_of_ok ht]
        exact ih rfl

end Barred

section Anchored

variable {o : Options}

/-- The tokens of a source in `(?:…)\Z`. -/
def anchoredTokens (ts : List Token) : List Token :=
  .plain '(' :: .plain '?' :: .plain ':' :: (ts ++ [.plain ')', .escaped 'Z'])

theorem run_items_anchored (ts : List Token) (o : Options) (n : Nat) :
    (items false true [] (n + 4)).run (.beginning (anchoredTokens ts) o) =
      (do
        let q ← alternatives false false false (n + 2)
        expect ')'
        items false true [.scoped .nothing q] (n + 2)).run
          ((Progress.beginning ts o).enclosed [.escaped 'Z']) := by
  rw [run_items_special rfl, run_extended_group rfl]
  rfl

theorem run_alternatives_anchored_of_optionsFirst (h : OptionsFirst ts) :
    (alternatives false true true (n + 6)).run (.beginning (anchoredTokens ts) o) =
      .error .malformed := by
  have halternatives : (alternatives false false false (n + 3)).run
      ((Progress.beginning ts o).enclosed [.escaped 'Z']) = .error .malformed := by
    rw [alternatives]
    exact run_bind_of_error (run_items_of_optionsFirst h rfl)
  rw [alternatives]
  exact run_bind_of_error ((run_items_anchored ts o (n + 1)).trans
    (run_bind_of_error halternatives))

theorem run_alternatives_anchored_of_ok {q : Pattern}
    (h : (alternatives false false false (n + 2)).run
      ((Progress.beginning ts o).enclosed [.escaped 'Z']) = .ok (q, s.enclosed [.escaped 'Z']))
    (hs : s.tokens = []) :
    (alternatives false true true (n + 5)).run (.beginning (anchoredTokens ts) o) =
      .ok (.seq (.scoped .nothing q) (.seq (.anchor .textEnd) .empty), s) := by
  obtain ⟨_⟩ := s
  cases hs
  have hitems : (items false true [] (n + 4)).run (.beginning (anchoredTokens ts) o) =
      .ok (.seq (.scoped .nothing q) (.seq (.anchor .textEnd) .empty), _) :=
    (run_items_anchored ts o n).trans ((run_bind_of_ok h).trans
      ((run_bind_of_ok (run_expect_eq_ok.2 ⟨rfl, rfl⟩)).trans (run_items_textEnd rfl)))
  rw [alternatives]
  exact (run_bind_of_ok hitems).trans (run_bind_of_ok (run_accept '|'))

end Anchored

end Read

section Anchored

variable {source : Text} {o : Options} {p q : Compiled} {ts : List Token}

theorem readAll_anchored (h : Token.readAll source = some ts) :
    Token.readAll ("(?:".toList ++ source ++ ")\\Z".toList) = some (Read.anchoredTokens ts) := by
  have hb : Token.readAll "(?:".toList = some [.plain '(', .plain '?', .plain ':'] := by decide
  have he : Token.readAll ")\\Z".toList = some [.plain ')', .escaped 'Z'] := by decide
  rw [List.append_assoc, Token.readAll_append hb, Token.readAll_append h, he]
  rfl

theorem exists_tokens_of_compile (h : compile source o = .ok p) :
    ∃ ts, Token.readAll source = some ts := by
  cases hts : Token.readAll source with
  | some ts => exact ⟨ts, rfl⟩
  | none =>
    rw [compile, hts] at h
    contradiction

theorem compile_anchored_eq (ho : o.spaced = false) (hts : Token.readAll source = some ts) :
    compile ("(?:".toList ++ source ++ ")\\Z".toList) o =
      (Read.alternatives false true true (4 * ts.length + 19 + 5)).run
        (.beginning (Read.anchoredTokens ts) o) >>= fun r => r.2.finish r.1 := by
  have hn : 4 * (Read.anchoredTokens ts).length + 4 = 4 * ts.length + 19 + 5 := by
    simp only [Read.anchoredTokens, List.length_cons, List.length_append, List.length_nil]
    omega
  rw [compile_eq (readAll_anchored hts), ho, hn]

/-- A source that compiles by itself compiles in `(?:…)\Z` as well, unless it begins with options of
the whole pattern. -/
theorem compile_anchored_of_not_optionsFirst (ho : o.spaced = false)
    (hts : Token.readAll source = some ts) (hfirst : ¬Read.OptionsFirst ts)
    (h : compile source o = .ok p) :
    compile ("(?:".toList ++ source ++ ")\\Z".toList) o =
        .ok ⟨.seq (.scoped .nothing p.body) (.seq (.anchor .textEnd) .empty), p.groups, p.options⟩ ∧
      p.options = o := by
  rw [compile_eq hts, ho] at h
  obtain ⟨⟨body, s⟩, hr, hf⟩ := bind_eq_ok.1 h
  obtain ⟨hs, rfl⟩ := Progress.finish_eq_ok hf
  -- The source is read twice: by itself, and before the closing parenthesis.
  obtain ⟨hq, hso⟩ | hb := (Read.agreeAt [.escaped 'Z'] _).alternatives
    (4 * ts.length + 19 + 2) false true true _ (by omega) (fun _ => ho) (fun _ _ => rfl)
    _ _ hr nofun
  · refine ⟨?_, hso⟩
    rw [compile_anchored_eq ho hts, Read.run_alternatives_anchored_of_ok hq hs]
    exact (Progress.finish_textEnd s body).trans (congrArg _ hf)
  · exact absurd hb.2.2 hfirst

/-- In `(?:…)\Z` options of the whole pattern come too late. -/
theorem compile_anchored_of_optionsFirst (ho : o.spaced = false)
    (hts : Token.readAll source = some ts) (hfirst : Read.OptionsFirst ts) :
    compile ("(?:".toList ++ source ++ ")\\Z".toList) o = .error .malformed := by
  rw [compile_anchored_eq ho hts, Read.run_alternatives_anchored_of_optionsFirst hfirst]
  rfl

/-- A source that compiles by itself, and in `(?:…)\Z` too, is a pattern there and followed by the
end of the text. -/
theorem compile_anchored (ho : o.spaced = false) (h : compile source o = .ok p)
    (h' : compile ("(?:".toList ++ source ++ ")\\Z".toList) o = .ok q) :
    q = ⟨.seq (.scoped .nothing p.body) (.seq (.anchor .textEnd) .empty), p.groups, p.options⟩ := by
  obtain ⟨ts, hts⟩ := exists_tokens_of_compile h
  by_cases hfirst : Read.OptionsFirst ts
  · rw [compile_anchored_of_optionsFirst ho hts hfirst] at h'
    contradiction
  · have hq := (compile_anchored_of_not_optionsFirst ho hts hfirst h).1
    exact Except.ok.inj (h'.symm.trans hq)

end Anchored

end LatexSnippets.Pattern
