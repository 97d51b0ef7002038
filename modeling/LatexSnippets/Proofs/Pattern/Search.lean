import LatexSnippets.Pattern.Search

/-!
A matcher only moves forward: where it ends, it has gone over the text between, and its continuation
has accepted the place. What follows for a search is where a match lies, and what it matched.
-/

namespace LatexSnippets.Pattern

namespace Point

/-- `t` is a place at or after `s` in one text. -/
def Leads (s t : Point) : Prop := ∃ w, s.after = w ++ t.after ∧ t.before = w.reverse ++ s.before

theorem Leads.rfl {s : Point} : s.Leads s := ⟨[], by simp⟩

/-- What groups have matched has no part in where a place lies. -/
theorem leads_groups {s t : Point} (gs : List (Nat × Text)) :
    s.Leads { t with groups := gs } ↔ s.Leads t := Iff.rfl

theorem Leads.trans {s t u : Point} (h : s.Leads t) (h' : t.Leads u) : s.Leads u := by
  obtain ⟨v, hv, hv'⟩ := h
  obtain ⟨w, hw, hw'⟩ := h'
  exact ⟨v ++ w, by simp [hv, hw], by simp [hw', hv']⟩

theorem leads_step? {p : Char → Bool} {s t : Point} (h : s.step? p = some t) : s.Leads t := by
  unfold step? at h
  split at h
  · contradiction
  · next c rest ha =>
    split at h
    · obtain rfl := Option.some.inj h
      exact ⟨[c], by simpa using ha, rfl⟩
    · contradiction

theorem leads_skip? {eq : Char → Char → Bool} {w : Text} {s t : Point}
    (h : skip? eq w s = some t) : s.Leads t := by
  induction w generalizing s with
  | nil =>
    obtain rfl := Option.some.inj h
    exact .rfl
  | cons c rest ih =>
    obtain ⟨u, hu, h⟩ := Option.bind_eq_some_iff.1 h
    exact (leads_step? hu).trans (ih h)

theorem Leads.upTo_eq {s t : Point} (h : s.Leads t) :
    s.after = s.upTo t ++ t.after ∧ t.before = (s.upTo t).reverse ++ s.before := by
  obtain ⟨w, hw, hb⟩ := h
  have hl : s.left - t.left = w.length := by
    simp [s.left_eq, t.left_eq, hw]
  have hu : s.upTo t = w := by rw [upTo, hl, hw, List.take_left]
  rw [hu]
  exact ⟨hw, hb⟩

end Point

/-- What the matcher finds, its continuation has found from a place at or after the start. -/
def Matcher.Advances (m : Matcher) : Prop :=
  ∀ k s t, m k s = some t → ∃ u : Point, s.Leads u ∧ k u = some t

section Rounds

variable {body : Matcher} {k : Point → Option Point} {s t : Point} {most last : Option Nat}

theorem greedyRounds_advances (hb : body.Advances) {fuel least : Nat}
    (h : greedyRounds body k fuel least most last s = some t) :
    ∃ u : Point, s.Leads u ∧ k u = some t := by
  induction fuel generalizing least most last s with
  | zero => simp [greedyRounds] at h
  | succ fuel ih =>
    cases least with
    | succ least =>
      obtain ⟨u, hu, h⟩ := hb _ _ _ h
      obtain ⟨v, hv, h⟩ := ih h
      exact ⟨v, hu.trans hv, h⟩
    | zero =>
      rw [greedyRounds] at h
      split at h
      · exact ⟨s, .rfl, h⟩
      · rw [Option.orElse_eq_orElse, Option.orElse_eq_or, Option.or_eq_some_iff] at h
        rcases h with h | ⟨-, h⟩
        · obtain ⟨u, hu, h⟩ := hb _ _ _ h
          obtain ⟨v, hv, h⟩ := ih h
          exact ⟨v, hu.trans hv, h⟩
        · exact ⟨s, .rfl, h⟩

theorem lazyRounds_advances (hb : body.Advances) {fuel least : Nat}
    (h : lazyRounds body k fuel least most last s = some t) :
    ∃ u : Point, s.Leads u ∧ k u = some t := by
  induction fuel generalizing least most last s with
  | zero => simp [lazyRounds] at h
  | succ fuel ih =>
    cases least with
    | succ least =>
      obtain ⟨u, hu, h⟩ := hb _ _ _ h
      obtain ⟨v, hv, h⟩ := ih h
      exact ⟨v, hu.trans hv, h⟩
    | zero =>
      rw [lazyRounds, Option.orElse_eq_orElse, Option.orElse_eq_or, Option.or_eq_some_iff] at h
      rcases h with h | ⟨-, h⟩
      · exact ⟨s, .rfl, h⟩
      · split at h
        · contradiction
        · obtain ⟨u, hu, h⟩ := hb _ _ _ h
          obtain ⟨v, hv, h⟩ := ih h
          exact ⟨v, hu.trans hv, h⟩

theorem leads_firmRounds {body : Point → Option Point} (hb : ∀ s t, body s = some t → s.Leads t)
    {fuel least : Nat} (h : firmRounds body fuel least most s = some t) : s.Leads t := by
  induction fuel generalizing least most s with
  | zero => simp [firmRounds] at h
  | succ fuel ih =>
    cases least with
    | succ least =>
      obtain ⟨u, hu, h⟩ := Option.bind_eq_some_iff.1 h
      exact (hb _ _ hu).trans (ih h)
    | zero =>
      rw [firmRounds] at h
      split at h
      · obtain rfl := Option.some.inj h
        exact .rfl
      · split at h
        · obtain rfl := Option.some.inj h
          exact .rfl
        · next u hu =>
          split at h
          · obtain rfl := Option.some.inj h
            exact hb _ _ hu
          · exact (hb _ _ hu).trans (ih h)

end Rounds

/-- A look around leaves the place as it is. -/
theorem looked_advances {negated : Bool} {seen : Option Point} {k : Point → Option Point}
    {s t : Point} (h : looked negated seen k s = some t) :
    ∃ u : Point, s.Leads u ∧ k u = some t := by
  unfold looked at h
  split at h
  · exact ⟨_, (Point.leads_groups _).2 .rfl, h⟩
  · exact ⟨s, .rfl, h⟩
  · contradiction

theorem Matcher.Advances.leads {m : Matcher} (hm : m.Advances) {s t : Point}
    (h : m some s = some t) : s.Leads t := by
  obtain ⟨u, hu, h⟩ := hm _ _ _ h
  obtain rfl := Option.some.inj h
  exact hu

theorem run_advances (o : Options) (p : Pattern) : (run o p).Advances := by
  have step {q : Char → Bool} {k : Point → Option Point} {s t : Point}
      (h : (s.step? q).bind k = some t) : ∃ u : Point, s.Leads u ∧ k u = some t := by
    obtain ⟨u, hu, h⟩ := Option.bind_eq_some_iff.1 h
    exact ⟨u, Point.leads_step? hu, h⟩
  induction p generalizing o with
  | empty => exact fun k s t h => ⟨s, .rfl, h⟩
  | code a => exact fun k s t h => step h
  | any => exact fun k s t h => step h
  | oneOf negated items => exact fun k s t h => step h
  | anchor a =>
    intro k s t h
    simp only [run] at h
    split at h
    · exact ⟨s, .rfl, h⟩
    · contradiction
  | seq p q ihp ihq =>
    intro k s t h
    obtain ⟨u, hu, h⟩ := ihp o _ _ _ h
    obtain ⟨v, hv, h⟩ := ihq o _ _ _ h
    exact ⟨v, hu.trans hv, h⟩
  | alt p q ihp ihq =>
    intro k s t h
    simp only [run, Option.orElse_eq_orElse, Option.orElse_eq_or, Option.or_eq_some_iff] at h
    rcases h with h | ⟨-, h⟩
    · exact ihp o _ _ _ h
    · exact ihq o _ _ _ h
  | group n p ih =>
    intro k s t h
    obtain ⟨u, hu, h⟩ := ih o _ _ _ h
    exact ⟨_, (Point.leads_groups _).2 hu, h⟩
  | «scoped» c p ih => exact fun k s t h => ih (o.apply c) _ _ _ h
  | rounds least most greed p ih =>
    intro k s t h
    cases greed with
    | greedy => exact greedyRounds_advances (ih o) h
    | lazy => exact lazyRounds_advances (ih o) h
    | possessive =>
      obtain ⟨u, hu, h⟩ := Option.bind_eq_some_iff.1 h
      exact ⟨u, leads_firmRounds (fun _ _ => (ih o).leads) hu, h⟩
  | atomic p ih =>
    intro k s t h
    obtain ⟨u, hu, h⟩ := Option.bind_eq_some_iff.1 h
    exact ⟨u, (ih o).leads hu, h⟩
  | lookAhead negated p ih => exact fun k s t h => looked_advances h
  | lookBack w negated p ih => exact fun k s t h => looked_advances h
  | reference n =>
    intro k s t h
    simp only [run] at h
    split at h
    · contradiction
    · obtain ⟨u, hu, h⟩ := Option.bind_eq_some_iff.1 h
      exact ⟨u, Point.leads_skip? hu, h⟩
  | ifGroup n yes no ihy ihn =>
    intro k s t h
    simp only [run] at h
    split at h
    · exact ihy o _ _ _ h
    · exact ihn o _ _ _ h

namespace Compiled

variable {p : Compiled} {t : Text} {m : Match}

theorem matchAt?_of_searchFrom {before after : Text} {n : Nat} {h : n = after.length}
    (hm : p.searchFrom before after n h = some m) :
    ∃ s : Point, before.reverse ++ after = s.before.reverse ++ s.after ∧ p.matchAt? s = some m := by
  induction after generalizing before n with
  | nil => exact ⟨_, rfl, by rwa [searchFrom] at hm⟩
  | cons c rest ih =>
    rw [searchFrom, Option.orElse_eq_orElse, Option.orElse_eq_or, Option.or_eq_some_iff] at hm
    rcases hm with hm | ⟨-, hm⟩
    · exact ⟨_, rfl, hm⟩
    · obtain ⟨s, hs, hm⟩ := ih hm
      exact ⟨s, by simpa using hs, hm⟩

theorem matchAt?_of_search (h : p.search t = some m) :
    ∃ s : Point, t = s.before.reverse ++ s.after ∧ p.matchAt? s = some m :=
  matchAt?_of_searchFrom h

/-- A match is the part of the text that it says it is. -/
theorem text_eq_of_search (h : p.search t = some m) :
    ∃ x y, t = x ++ m.matched ++ y ∧ m.start = x.length ∧ m.stop = (x ++ m.matched).length := by
  obtain ⟨s, rfl, hm⟩ := matchAt?_of_search h
  obtain ⟨u, hu, rfl⟩ := Option.map_eq_some_iff.1 hm
  obtain ⟨ha, hb⟩ := ((run_advances _ _).leads hu).upTo_eq
  refine ⟨s.before.reverse, u.after, ?_, by simp, ?_⟩
  · rw [List.append_assoc, ← ha]
  · simp [hb, Nat.add_comm]

/-- What ends with the end of the text matches all from its start on. -/
theorem text_eq_of_search_textEnd {q : Pattern}
    (hp : p.body = .seq q (.seq (.anchor .textEnd) .empty)) (h : p.search t = some m) :
    ∃ x, t = x ++ m.matched ∧ m.start = x.length ∧ m.stop = t.length := by
  obtain ⟨s, rfl, hm⟩ := matchAt?_of_search h
  obtain ⟨u, hu, rfl⟩ := Option.map_eq_some_iff.1 hm
  obtain ⟨ha, hb⟩ := ((run_advances _ _).leads hu).upTo_eq
  rw [hp] at hu
  obtain ⟨v, -, hv⟩ := run_advances _ q _ _ _ hu
  simp only [run, Anchor.holds, Option.ite_none_right_eq_some, List.isEmpty_iff] at hv
  obtain ⟨hend, ⟨⟩⟩ := hv
  rw [hend, List.append_nil] at ha
  refine ⟨s.before.reverse, by rw [← ha], by simp, ?_⟩
  simp [hb, ← ha, Nat.add_comm]

end Compiled

end LatexSnippets.Pattern
