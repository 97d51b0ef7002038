import Mathlib.Data.List.TakeWhile
import LatexSnippets.Pattern.Reader
import LatexSnippets.Proofs.Editor.Caret
import LatexSnippets.Proofs.Pattern.Ways
import LatexSnippets.Proofs.Unicode.Case

/-!
Deleting a word. What goes is the longest part of one kind before the caret: blanks, characters of
words, or neither. No character is of two kinds, so that the last one decides; and a search from the
left for such a part that ends at the caret meets the longest first.
-/

namespace LatexSnippets

namespace Editor

open Unicode

/-- Blanks alone, characters of words alone, or neither of them. -/
def Uniform (w : Text) : Prop :=
  (∀ c ∈ w, isBlank c = true) ∨ (∀ c ∈ w, isWord c = true) ∨
    ∀ c ∈ w, isBlank c = false ∧ isWord c = false

instance (w : Text) : Decidable (Uniform w) :=
  decidable_of_iff (w.all isBlank = true ∨ w.all isWord = true ∨
    w.all (fun c => !isBlank c && !isWord c) = true) (by simp [Uniform])

/-- The longest uniform part at the end of a text. -/
structure IsLastRun (t run : Text) : Prop where
  suffix : run <:+ t
  uniform : Uniform run
  longest : ∀ u, u <:+ t → Uniform u → u.length ≤ run.length

variable {c : Char} {t w run : Text}

theorem isWord_of_isBlank (h : isBlank c = true) : isWord c = false :=
  forall_isBlank (P := (isWord · = false)) (by decide +kernel) h

theorem charClass_eq_zero : charClass c = 0 ↔ isBlank c = true := by
  simp only [charClass]
  cases isBlank c <;> cases isWord c <;> simp

theorem charClass_eq_one : charClass c = 1 ↔ isWord c = true := by
  have h := @isWord_of_isBlank c
  simp only [charClass]
  cases hb : isBlank c <;> cases hw : isWord c <;> simp_all

theorem charClass_eq_two : charClass c = 2 ↔ isBlank c = false ∧ isWord c = false := by
  simp only [charClass]
  cases isBlank c <;> cases isWord c <;> simp

theorem charClass_cases (c : Char) : charClass c = 0 ∨ charClass c = 1 ∨ charClass c = 2 := by
  simp only [charClass]
  cases isBlank c <;> cases isWord c <;> simp

/-- No character is both a blank and part of a word, so that the class of one character is that of
all. -/
theorem uniform_concat : Uniform (w ++ [c]) ↔ ∀ d ∈ w, charClass d = charClass c := by
  simp only [Uniform, ← charClass_eq_zero, ← charClass_eq_one, ← charClass_eq_two,
    List.forall_mem_append, List.forall_mem_singleton]
  rcases charClass_cases c with h | h | h <;> simp [h]

theorem Uniform.of_suffix {u : Text} (h : Uniform w) (hu : u <:+ w) : Uniform u :=
  h.imp (fun h c hc => h c (hu.subset hc))
    (.imp (fun h c hc => h c (hu.subset hc)) fun h c hc => h c (hu.subset hc))

/-- A uniform end of a text is the longest if one more character makes it a mixed one. -/
theorem isLastRun_append {x : Text} (h : Uniform run) (hx : ∀ d ∈ x.getLast?, ¬Uniform (d :: run)) :
    IsLastRun (x ++ run) run where
  suffix := List.suffix_append x run
  uniform := h
  longest := by
    intro u hu huniform
    obtain hle | ⟨v, rfl⟩ := List.suffix_or_suffix_of_suffix hu (List.suffix_append x run)
    · exact hle.length_le
    obtain rfl | ⟨v, d, rfl⟩ := List.eq_nil_or_concat' v
    · exact Nat.le_refl _
    · obtain ⟨z, hz⟩ := hu
      have hxz : x = z ++ v ++ [d] := by
        have := List.append_cancel_right ((List.append_assoc ..).trans hz)
        rw [← this, List.append_assoc]
      refine absurd (huniform.of_suffix ⟨v, ?_⟩) (hx d ?_)
      · simp
      · rw [hxz, List.getLast?_concat, Option.mem_def]

theorem IsLastRun.unique {run' : Text} (h : IsLastRun t run) (h' : IsLastRun t run') :
    run = run' := by
  have hle := h'.longest run h.suffix h.uniform
  have hge := h.longest run' h'.suffix h'.uniform
  exact (List.suffix_of_suffix_length_le h.suffix h'.suffix hle).eq_of_length
    (Nat.le_antisymm hle hge)

theorem exists_lastRun (ht : t ≠ []) : ∃ before run, t = before ++ run ∧ run ≠ [] ∧
    lastRun t = run.length ∧ IsLastRun (before ++ run) run := by
  obtain ⟨w, c, rfl⟩ := (List.eq_nil_or_concat' t).resolve_left ht
  let same (d : Char) : Bool := charClass d = charClass c
  refine ⟨(w.reverse.dropWhile same).reverse, (w.reverse.takeWhile same).reverse ++ [c], ?_, ?_, ?_,
    isLastRun_append (uniform_concat.2 ?_) ?_⟩
  · rw [← List.append_assoc, ← List.reverse_append, List.takeWhile_append_dropWhile,
      List.reverse_reverse]
  · simp
  · simp [lastRun, same, Nat.add_comm]
  · intro d hd
    simpa [same] using List.mem_takeWhile_imp (List.mem_reverse.1 hd)
  · intro d hd hu
    rw [List.getLast?_reverse] at hd
    have hne := List.head?_dropWhile_not same w.reverse
    rw [hd] at hne
    rw [← List.cons_append, uniform_concat] at hu
    simp [same, hu d List.mem_cons_self] at hne

section Pattern

open Pattern

/-- One or more characters of a class. -/
def someOf (negated : Bool) (items : List ClassItem) : Pattern :=
  .seq (.rounds 1 none .greedy (.oneOf negated items)) .empty

/-- The pattern `\s+|\w+|[^\w\s]+`. -/
def uniformPattern : Pattern :=
  .alt (someOf false [.category .blank false])
    (.alt (someOf false [.category .word false])
      (someOf true [.category .word false, .category .blank false]))

/-- The uniform pattern, bound to the end of the text. -/
def lastRunPattern : Compiled where
  body := .seq (.group 1 uniformPattern) (.seq (.anchor .textEnd) .empty)
  groups := 1
  options := .plain

theorem compile_lastRunPattern :
    Pattern.compile "(\\s+|\\w+|[^\\w\\s]+)\\Z".toList .plain = .ok lastRunPattern := by
  decide +kernel

theorem reachesEnd_someOf {o : Options} {negated : Bool} {items : List ClassItem} {b : Text}
    {gs : List (Nat × Text)} : ReachesEnd o (someOf negated items) (.between b w gs) ↔
      w ≠ [] ∧ ∀ c ∈ w, admitsOneOf o negated items c = true :=
  reachesEnd_seq_empty.trans reachesEnd_rounds

theorem admits_blank (c : Char) : Category.admits .plain c .blank = isBlank c := by
  by_cases h : c = ' '
  · subst h
    decide
  · simp [Category.admits, Options.plain, h]

theorem admits_word (c : Char) : Category.admits .plain c .word = isWord c := rfl

theorem reachesEnd_uniformPattern {b : Text} :
    ReachesEnd .plain uniformPattern (.between b w []) ↔ w ≠ [] ∧ Uniform w := by
  rw [uniformPattern, reachesEnd_alt, reachesEnd_alt, reachesEnd_someOf, reachesEnd_someOf,
    reachesEnd_someOf, ← and_or_left, ← and_or_left, Uniform]
  simp [admitsOneOf, ClassItem.admits, admits_blank, admits_word, and_comm]

/-- The first match from the left is the longest one. -/
theorem search_lastRun {before : Text} (h : IsLastRun (before ++ run) run) (hne : run ≠ []) :
    ∃ m, lastRunPattern.search (before ++ run) = some m ∧ m.matched = run := by
  refine Compiled.search_of_reachesEnd rfl
    (reachesEnd_group.2 (reachesEnd_uniformPattern.2 ⟨hne, h.uniform⟩)) ?_
  rintro u v rfl hv hs
  obtain ⟨-, huniform⟩ := reachesEnd_uniformPattern.1 (reachesEnd_group.1 hs)
  have hlong := h.longest (v ++ run) ⟨u, by simp⟩ huniform
  have := List.length_pos_iff.2 hv
  rw [List.length_append] at hlong
  omega

end Pattern

theorem Parts.deleteWord {e : Editor} {before after : Text} (h : e.Parts (before ++ run) after)
    (hne : run ≠ []) (hl : lastRun (before ++ run) = run.length) :
    ∃ e', e.deleteWord = (e', true) ∧ e'.Parts before after := by
  have hlen : ((before ++ run).length : Int) - run.length = before.length := by
    rw [List.length_append, Int.natCast_add, Int.add_sub_cancel]
  have hcut : e.text.splice before.length (before ++ run).length [] = before ++ after := by
    have := Text.splice_middle before run after []
    rw [h.text, List.append_assoc, List.length_append, Int.natCast_add]
    simpa using this
  have hpos : ((before ++ run).length : Int) ≠ 0 := by
    have := List.length_pos_iff.2 hne
    rw [List.length_append]
    omega
  refine ⟨_, ?_, parts_splice hcut rfl⟩
  simp only [Editor.deleteWord, h.selection, Span.caret, h.upTo, hl, hlen, ne_eq, not_true_eq_false,
    if_false, if_neg hpos]

/-- Deleting a word takes the longest part of one kind off the text before the caret: blanks,
characters of words, or neither. It is what a search for such a part that ends at the caret finds.
-/
theorem deleteWord_takes_last_run {e : Editor} {p : Int} (he : e.Reachable)
    (hs : e.selection = .caret p) (hp : 0 < p) :
    ∃ before run e', e.text.upTo p = before ++ run ∧ run ≠ [] ∧ IsLastRun (e.text.upTo p) run ∧
      e.deleteWord = (e', true) ∧ e'.text = before ++ e.text.onward p ∧
      e'.selection = .caret before.length ∧
      ∃ q m, Pattern.compile "(\\s+|\\w+|[^\\w\\s]+)\\Z" .plain = .ok q ∧
        q.search (e.text.upTo p) = some m ∧ m.matched = run := by
  have hparts : e.Parts (e.text.upTo p) (e.text.onward p) := by
    have h := he.sound.parts (by simp [hs, Span.isEmpty, Span.caret])
    rwa [show e.selection.start = p by rw [hs, Span.caret]] at h
  have hlen : ((e.text.upTo p).length : Int) = p := by
    have := hparts.start
    rw [hs] at this
    exact this.symm
  have hne : e.text.upTo p ≠ [] := by
    intro h
    rw [h] at hlen
    exact absurd hlen (Int.ne_of_lt hp)
  obtain ⟨before, run, ht, hrun, hl, hlast⟩ := exists_lastRun hne
  rw [ht] at hparts hl
  obtain ⟨e', hd, he'⟩ := hparts.deleteWord hrun hl
  obtain ⟨m, hm, hmatched⟩ := search_lastRun hlast hrun
  exact ⟨before, run, e', ht, hrun, ht ▸ hlast, hd, he'.text, he'.selection, _, m,
    compile_lastRunPattern, ht ▸ hm, hmatched⟩

/-- The digit and the underscore belong to the word, the bracket does not. -/
theorem deleteWord_takes_last_run_word :
    let e := withSelection "a (b_1 c" 6 6
    e.Reachable ∧ e.selection = .caret 6 ∧ (0 : Int) < 6 ∧
      ∃ e', e.deleteWord = (e', true) ∧ e'.text = "a ( c".toList ∧ e'.selection = .caret 3 := by
  intro e
  have hr : e.Reachable := reachable_withSelection ..
  have hs : e.selection = .caret 6 := by decide +kernel
  obtain ⟨before, run, e', ht, -, hlast, hd, htext, hsel, -⟩ :=
    deleteWord_takes_last_run hr hs (by decide)
  have hup : e.text.upTo 6 = "a (".toList ++ "b_1".toList := by decide +kernel
  have hword : IsLastRun (e.text.upTo 6) "b_1".toList := by
    rw [hup]
    refine isLastRun_append (by decide +kernel) fun d hd => ?_
    obtain rfl := Option.some.inj hd
    decide +kernel
  obtain rfl : run = "b_1".toList := hlast.unique hword
  obtain rfl : before = "a (".toList := List.append_cancel_right (ht.symm.trans hup)
  exact ⟨hr, hs, by decide, e', hd, htext.trans (by decide +kernel), hsel⟩

end Editor

end LatexSnippets
