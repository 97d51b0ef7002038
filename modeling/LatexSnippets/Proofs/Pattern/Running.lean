import LatexSnippets.Pattern.Search

/-!
Running a pattern over a text whose parts are known: greedy rounds of a single character go over all
that it admits, and a search passes over the places where the first character does not fit.
-/

namespace LatexSnippets.Pattern

variable {b w x rest : Text} {gs : List (Nat × Text)} {q : Char → Bool}

namespace Point

/-- The place between two parts of a text, the first turned around. -/
def between (before after : List Char) (groups : List (Nat × Text)) : Point :=
  ⟨before, after, after.length, rfl, groups⟩

theorem step?_between {c : Char} (h : q c = true) (b rest : Text) (gs : List (Nat × Text)) :
    (between b (c :: rest) gs).step? q = some (between (c :: b) rest gs) := by
  simp [step?, between, h]

theorem step?_eq_none {s : Point} (h : s.after.head?.any q = false) : s.step? q = none := by
  unfold step?
  split
  · rfl
  · next c _ hs =>
    rw [hs] at h
    exact if_neg (by simpa using h)

theorem upTo_between (b b' w rest : Text) (gs gs' : List (Nat × Text)) :
    (between b (w ++ rest) gs).upTo (between b' rest gs') = w := by
  simp [upTo, between]

end Point

section Rounds

variable {k : Point → Option Point} {t : Point}

/-- With nothing more to go over after the last character, the rounds end there. -/
theorem greedyRounds_over (hw : ∀ c ∈ w, q c = true) (hr : rest.head?.any q = false)
    (hk : k (.between (w.reverse ++ b) rest gs) = some t) {fuel : Nat} {last : Option Nat}
    (hf : w.length < fuel) (hl : ∀ n ∈ last, (w ++ rest).length < n) :
    greedyRounds (fun k s => (s.step? q).bind k) k fuel 0 none last (.between b (w ++ rest) gs) =
      some t := by
  induction w generalizing b fuel last with
  | nil =>
    obtain ⟨fuel, rfl⟩ := Nat.exists_eq_succ_of_ne_zero (Nat.ne_of_gt hf)
    rw [List.nil_append, greedyRounds, Point.step?_eq_none hr]
    simpa using hk
  | cons c w ih =>
    obtain ⟨fuel, rfl⟩ := Nat.exists_eq_succ_of_ne_zero (Nat.ne_of_gt (Nat.zero_lt_of_lt hf))
    have hl : last ≠ some (Point.between b (c :: w ++ rest) gs).left :=
      fun h => Nat.lt_irrefl _ (hl _ h)
    have hnext : greedyRounds (fun k s => (s.step? q).bind k) k fuel 0 none
        (some (c :: w ++ rest).length) (.between (c :: b) (w ++ rest) gs) = some t :=
      ih (fun d hd => hw d (List.mem_cons_of_mem c hd)) (by simpa using hk)
        (Nat.lt_of_succ_lt_succ hf) (by simp)
    rw [greedyRounds, if_neg (by simpa using hl), List.cons_append,
      Point.step?_between (hw c List.mem_cons_self)]
    exact congrArg (· <|> _) hnext

/-- One or more characters of a class. -/
theorem run_oneOf_rounds {o : Options} {negated : Bool} {items : List ClassItem} (hw₀ : w ≠ [])
    (hw : ∀ c ∈ w, admitsOneOf o negated items c = true)
    (hr : rest.head?.any (admitsOneOf o negated items) = false)
    (hk : k (.between (w.reverse ++ b) rest gs) = some t) :
    run o (.rounds 1 none .greedy (.oneOf negated items)) k (.between b (w ++ rest) gs) =
      some t := by
  obtain ⟨c, w, rfl⟩ := List.exists_cons_of_ne_nil hw₀
  have hf : roundFuel 1 (.between b (c :: w ++ rest) gs) = (w ++ rest).length + 3 + 1 := by
    simp only [roundFuel, Point.between, List.cons_append, List.length_cons]
    omega
  simp only [run, hf]
  rw [greedyRounds, List.cons_append, Point.step?_between (hw c List.mem_cons_self)]
  refine greedyRounds_over (fun d hd => hw d (List.mem_cons_of_mem c hd)) hr (by simpa using hk)
    ?_ (by simp)
  rw [List.length_append]
  omega

end Rounds

namespace Compiled

variable {p : Compiled} {m : Match} {y : Text}

/-- The first place with a match is found. -/
theorem searchFrom_of_leftmost
    (hx : ∀ u v, x = u ++ v → v ≠ [] → p.matchAt? (.between (u.reverse ++ b) (v ++ rest) []) = none)
    (h : p.matchAt? (.between (x.reverse ++ b) rest []) = some m) {n : Nat}
    (hn : n = (x ++ rest).length) : p.searchFrom b (x ++ rest) n hn = some m := by
  induction x generalizing b n with
  | nil =>
    subst hn
    cases rest with
    | nil => exact h
    | cons c rest =>
      rw [List.nil_append, searchFrom]
      exact congrArg (· <|> _) h
  | cons c x ih =>
    have hc : p.matchAt? ⟨b, c :: (x ++ rest), n, hn, []⟩ = none := by
      subst hn
      exact hx [] (c :: x) rfl nofun
    show p.searchFrom b (c :: (x ++ rest)) n hn = some m
    rw [searchFrom, hc]
    refine ih (fun u v hv hne => ?_) (by simpa using h) (by simp [hn])
    simpa using hx (c :: u) v (congrArg (c :: ·) hv) hne

/-- A match that ends with the text, after a part in which none begins. -/
theorem search_eq_some (hq : ∀ s : Point, s.after.head?.any q = false → p.matchAt? s = none)
    (hx : ∀ c ∈ x, q c = false)
    (h : p.body.run p.options some (.between x.reverse y []) =
      some (.between (y.reverse ++ x.reverse) [] gs)) :
    p.search (x ++ y) = some
      { start := x.length
        stop := (x ++ y).length
        matched := y
        groups := (List.range p.groups).map fun i => (gs.find? (·.1 = i + 1)).map (·.2) } := by
  have hu := Point.upTo_between x.reverse (y.reverse ++ x.reverse) y [] [] gs
  rw [List.append_nil] at hu
  refine searchFrom_of_leftmost ?_ ?_ rfl
  · rintro u v rfl hv
    obtain ⟨c, v, rfl⟩ := List.exists_cons_of_ne_nil hv
    exact hq _ (by simpa [Point.between] using hx c (by simp))
  · rw [List.append_nil, matchAt?, h, Option.map_some, hu]
    simp [Point.between, Point.group?, Nat.add_comm]

end Compiled

end LatexSnippets.Pattern
