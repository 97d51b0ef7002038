import LatexSnippets.Proofs.Anchoring
import LatexSnippets.Proofs.Pattern.Ways

/-!
Triggers made from compiled patterns. Such a trigger keeps the source and the letters of the
options, and is compiled again in `(?:…)\Z`. It fires where the pattern has a match that ends with
the text, whatever else the pattern matches, unless its source begins with options of the whole
pattern, when it never fires, or is read otherwise when white space counts, a letter that triggers
do not have.
-/

namespace LatexSnippets

open Pattern (Compiled Options ways)

namespace Pattern

theorem Options.apply_nothing (o : Options) : o.apply .nothing = o := by
  cases o
  simp [Options.apply, Change.nothing, Options.plain]

/-- The options with white space in the source counting. -/
def Options.unspaced (o : Options) : Options := { o with spaced := false }

def Compiled.unspaced (p : Compiled) : Compiled := { p with options := p.options.unspaced }

theorem ways_unspaced (o : Options) (p : Pattern) : ways o.unspaced p = ways o p :=
  ways_spaced o false p

end Pattern

namespace Trigger

/-- The letters of options stand for them, as far as they have letters. -/
theorem options_letters (o : Options) :
    options (letters o) = .ok { o.unspaced with ascii := false } := by
  obtain ⟨i, m, s, x, a⟩ := o
  cases i <;> cases m <;> cases s <;> rfl

end Trigger

namespace Pattern.Compiled

open Point (between)

variable {q : Compiled} {body : Pattern} {t : Text} {m : Match}

/-- A search for what ends with the text finds something longer than nothing if there is a match
from any place before the end on. -/
theorem exists_search_textEnd_iff (hq : q.body = .seq body (.seq (.anchor .textEnd) .empty)) :
    (∃ m, q.search t = some m ∧ m.start ≠ m.stop) ↔
      ∃ x y, t = x ++ y ∧ y ≠ [] ∧
        ∃ u ∈ ways q.options body (between x.reverse y []), u.after = [] := by
  have hsplit : q.search t = ((List.range t.length).findSome? fun i =>
      q.matchAt? (between (t.take i).reverse (t.drop i) [])).or
        (q.matchAt? (between t.reverse [] [])) := by
    rw [search_eq, List.range_succ, List.findSome?_append, List.findSome?_singleton,
      List.take_length, List.drop_length]
  constructor
  · rintro ⟨m, hm, hne⟩
    rw [hsplit, Option.or_eq_some_iff] at hm
    obtain hm | ⟨-, hm⟩ := hm
    · obtain ⟨i, hi, hm⟩ := List.exists_of_findSome?_eq_some hm
      refine ⟨t.take i, t.drop i, (List.take_append_drop i t).symm, ?_, ?_⟩
      · simpa using hi
      · exact (isSome_matchAt?_textEnd hq).1 (Option.isSome_of_eq_some hm)
    · obtain ⟨hstart, hstop⟩ := matchAt?_textEnd hq hm
      exact absurd (hstart.trans hstop.symm) hne
  · rintro ⟨x, y, rfl, hy, hu⟩
    have hi := (isSome_matchAt?_textEnd hq).2 hu
    have hsome : ((List.range (x ++ y).length).findSome? fun i =>
        q.matchAt? (between ((x ++ y).take i).reverse ((x ++ y).drop i) [])).isSome = true := by
      refine List.findSome?_isSome_iff.2 ⟨x.length, ?_, by simpa using hi⟩
      simpa using List.length_pos_iff.2 hy
    obtain ⟨m, hm⟩ := Option.isSome_iff_exists.1 hsome
    obtain ⟨i, hi, hmi⟩ := List.exists_of_findSome?_eq_some hm
    obtain ⟨hstart, hstop⟩ := matchAt?_textEnd hq hmi
    refine ⟨m, by rw [hsplit, hm, Option.some_or], ?_⟩
    rw [List.mem_range] at hi
    simp only [between, List.length_reverse, List.length_take, List.length_drop] at hstart hstop
    omega

end Pattern.Compiled

theorem Rule.isSome_patternHit?_iff {q : Compiled} (template : Template) (t : Text) :
    (patternHit? q template t).isSome = true ↔ ∃ m, q.search t = some m ∧ m.start ≠ m.stop := by
  rw [patternHit?]
  cases q.search t with
  | none => simp
  | some m =>
    by_cases h : m.start = m.stop <;> simp [h]

section Regex

open Pattern

variable {source flags : Text} {p : Compiled} {ts : List Token} {r : Rule}

/-- A trigger keeps what has been compiled, apart from white space that does not count. -/
theorem Trigger.compile_letters (ha : p.options.ascii = false)
    (hts : Token.readAll source = some ts) (hfirst : ¬Read.OptionsFirst ts)
    (hp : Pattern.compile source p.options.unspaced = .ok p.unspaced) :
    Trigger.compile source (letters p.options) =
      .ok ⟨.seq (.scoped .nothing p.body) (.seq (.anchor .textEnd) .empty), p.groups,
        p.options.unspaced⟩ := by
  have ho : { p.options.unspaced with ascii := false } = p.options.unspaced :=
    congrArg (fun a => { p.options.unspaced with ascii := a }) ha.symm
  rw [Trigger.compile, options_letters, ho]
  exact (compile_anchored_of_not_optionsFirst rfl hts hfirst hp).1

/-- Only options at the beginning of a source change those that it is compiled under. -/
theorem Pattern.compile_unspaced (hp : compile source (Read.optionsOf flags) = .ok p)
    (hts : Token.readAll source = some ts) (hfirst : ¬Read.OptionsFirst ts)
    (hx : 'x' ∈ flags → compile source (Read.optionsOf flags).unspaced = .ok p.unspaced) :
    compile source p.options.unspaced = .ok p.unspaced ∧
      p.options.unspaced = (Read.optionsOf flags).unspaced := by
  have hread : compile source (Read.optionsOf flags).unspaced = .ok p.unspaced := by
    by_cases hmem : 'x' ∈ flags
    · exact hx hmem
    · have hs : (Read.optionsOf flags).spaced = false := by simpa [Read.optionsOf] using hmem
      have hu : (Read.optionsOf flags).unspaced = Read.optionsOf flags := by
        rw [Options.unspaced, ← hs]
      have ho := (compile_anchored_of_not_optionsFirst hs hts hfirst hp).2
      have hpu : p.unspaced = p := by rw [Compiled.unspaced, ho, hu, ← ho]
      rw [hu, hpu, hp]
  have ho : p.options.unspaced = (Read.optionsOf flags).unspaced :=
    (compile_anchored_of_not_optionsFirst rfl hts hfirst hread).2
  rw [ho]
  exact ⟨hread, rfl⟩

/-- A trigger whose source begins with options of the whole pattern never fires. -/
theorem Rule.hit_of_optionsFirst (hr : Trigger.ofRegex source flags = .ok r.trigger)
    (hts : Token.readAll source = some ts) (hfirst : Read.OptionsFirst ts) (t : Text) :
    r.hit t = .ok none := by
  obtain ⟨p, -, hp⟩ := bind_eq_ok.1 hr
  have htrigger : r.trigger = .pattern source (Trigger.letters p.options) :=
    (Except.ok.inj hp).symm
  have hcompile : Trigger.compile source (Trigger.letters p.options) = .error .malformed := by
    rw [Trigger.compile, Trigger.options_letters]
    exact compile_anchored_of_optionsFirst rfl hts hfirst
  rw [Rule.hit, htrigger]
  simp only [hcompile]
  rfl

/-- A trigger made from a pattern fires at the end of a text exactly where the pattern has a match
of at least one character that ends there. -/
theorem regex_trigger_fires (hflags : ∀ c ∈ flags, c ∈ ['i', 'm', 's', 'x'])
    (hp : compile source (Read.optionsOf flags) = .ok p)
    (hr : Trigger.ofRegex source flags = .ok r.trigger) (hts : Token.readAll source = some ts)
    (hfirst : ¬Read.OptionsFirst ts)
    (hx : 'x' ∈ flags → compile source (Read.optionsOf flags).unspaced = .ok p.unspaced)
    (t : Text) :
    ∃ hit, r.hit t = .ok hit ∧
      (hit.isSome = true ↔ ∃ x y, t = x ++ y ∧ y ≠ [] ∧ p.MatchesToEnd x y) := by
  obtain ⟨hread, ho⟩ := compile_unspaced hp hts hfirst hx
  have hascii : p.options.ascii = false := by
    have ha : 'a' ∉ flags := fun hm => by simpa using hflags _ hm
    have hu : p.options.unspaced.ascii = (Read.optionsOf flags).unspaced.ascii :=
      congrArg Options.ascii ho
    simpa [Read.optionsOf, Options.unspaced, ha] using hu
  have htrigger : r.trigger = .pattern source (Trigger.letters p.options) := by
    simp only [Trigger.ofRegex, hp] at hr
    exact (Except.ok.inj hr).symm
  have hcompile := Trigger.compile_letters hascii hts hfirst hread
  refine ⟨_, by rw [Rule.hit, htrigger]; simp only [hcompile]; rfl, ?_⟩
  rw [Rule.isSome_patternHit?_iff, Compiled.exists_search_textEnd_iff rfl]
  simp only [ways, Options.apply_nothing, ways_unspaced, Compiled.MatchesToEnd]

/-- The second alternative is taken, for the first does not go to the end of the text. -/
theorem regex_trigger_fires_alternative :
    ∃ p trigger, compile "a|ab".toList (Read.optionsOf ['i', 'x']) = .ok p ∧
      Trigger.ofRegex "a|ab".toList ['i', 'x'] = .ok trigger ∧
      ∃ hit, (⟨trigger, .text [], [], 0, []⟩ : Rule).hit "xAB".toList = .ok hit ∧
        hit.isSome = true := by
  let r : Rule := ⟨.pattern "a|ab".toList ['i'], .text [], [], 0, []⟩
  have hp : compile "a|ab".toList (Read.optionsOf ['i', 'x']) = .ok ⟨.alt (.seq (.code 97) .empty)
      (.seq (.code 97) (.seq (.code 98) .empty)), 0, Read.optionsOf ['i', 'x']⟩ := by
    decide +kernel
  have hr : Trigger.ofRegex "a|ab".toList ['i', 'x'] = .ok r.trigger := by decide +kernel
  have hfirst : ¬Read.OptionsFirst [.plain 'a', .plain '|', .plain 'a', .plain 'b'] := nofun
  obtain ⟨hit, hh, hiff⟩ := regex_trigger_fires (by simp) hp hr rfl hfirst
    (fun _ => by decide +kernel) "xAB".toList
  exact ⟨_, _, hp, hr, hit, hh, hiff.2 ⟨['x'], ['A', 'B'], rfl, nofun, by decide +kernel⟩⟩

/-- White space that does not count is looked for in the text, and options at the beginning of a
source are refused behind the parenthesis. -/
theorem regex_trigger_misses :
    (∃ p trigger, compile "a b".toList (Read.optionsOf ['x']) = .ok p ∧
      p.MatchesToEnd [] "ab".toList ∧ Trigger.ofRegex "a b".toList ['x'] = .ok trigger ∧
      (⟨trigger, .text [], [], 0, []⟩ : Rule).hit "ab".toList = .ok none) ∧
    ∃ p trigger, compile "(?i)a".toList (Read.optionsOf []) = .ok p ∧
      p.MatchesToEnd [] "A".toList ∧ Trigger.ofRegex "(?i)a".toList [] = .ok trigger ∧
      (⟨trigger, .text [], [], 0, []⟩ : Rule).hit "A".toList = .ok none := by
  constructor
  · exact ⟨⟨.seq (.code 97) (.seq (.code 98) .empty), 0, Read.optionsOf ['x']⟩,
      .pattern "a b".toList [], by decide +kernel, by decide +kernel, by decide +kernel,
      by decide +kernel⟩
  · exact ⟨⟨.seq (.code 97) .empty, 0, Read.optionsOf ['i']⟩, .pattern "(?i)a".toList ['i'],
      by decide +kernel, by decide +kernel, by decide +kernel, by decide +kernel⟩

end Regex

end LatexSnippets
