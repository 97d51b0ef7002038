import LatexSnippets.Proofs.Pattern.Running
import LatexSnippets.Proofs.Pattern.Search

/-!
The ways in which a pattern matches, as the list of the places where it ends, in the order in which
they are tried. A matcher with a continuation finds what the continuation makes of the first place
that it accepts, so that a pattern is its ways, whatever follows it. Where the end of the text has to
follow, what counts is whether one of the ways goes that far.
-/

namespace LatexSnippets.Pattern

/-- The ends of rounds, those of more rounds before those of fewer. -/
def greedyWays (body : Point → List Point) :
    (fuel least : Nat) → (most last : Option Nat) → Point → List Point
  | 0, _, _, _, _ => []
  | fuel + 1, least + 1, most, last, s =>
    (body s).flatMap (greedyWays body fuel least (most.map (· - 1)) last)
  | fuel + 1, 0, most, last, s =>
    if most = some 0 || last = some s.left then [s]
    else (body s).flatMap (greedyWays body fuel 0 (most.map (· - 1)) (some s.left)) ++ [s]

/-- The ends of rounds, those of fewer rounds before those of more. -/
def lazyWays (body : Point → List Point) :
    (fuel least : Nat) → (most last : Option Nat) → Point → List Point
  | 0, _, _, _, _ => []
  | fuel + 1, least + 1, most, last, s =>
    (body s).flatMap (lazyWays body fuel least (most.map (· - 1)) last)
  | fuel + 1, 0, most, last, s =>
    s :: (if most = some 0 || last = some s.left then []
      else (body s).flatMap (lazyWays body fuel 0 (most.map (· - 1)) (some s.left)))

/-- The place after a look around it, if the look is as it is asked to be. -/
def lookedWays (negated : Bool) (seen : Option Point) (s : Point) : List Point :=
  match seen, negated with
  | some t, false => [{ s with groups := t.groups }]
  | none, true => [s]
  | _, _ => []

/-- The places where a match that begins at a place can end. -/
def ways (o : Options) : Pattern → Point → List Point
  | .empty => fun s => [s]
  | .code a => fun s => (s.step? (admitsCode o a)).toList
  | .any => fun s => (s.step? fun c => o.dotAll || c != '\n').toList
  | .oneOf negated items => fun s => (s.step? (admitsOneOf o negated items)).toList
  | .anchor a => fun s => if a.holds o s then [s] else []
  | .seq p q => fun s => (ways o p s).flatMap (ways o q)
  | .alt p q => fun s => ways o p s ++ ways o q s
  | .group n p => fun s => (ways o p s).map fun t => t.remember n (s.upTo t)
  | .scoped c p => ways (o.apply c) p
  | .rounds least most .greedy p => fun s =>
    greedyWays (ways o p) (roundFuel least s) least most none s
  | .rounds least most .lazy p => fun s =>
    lazyWays (ways o p) (roundFuel least s) least most none s
  | .rounds least most .possessive p => fun s =>
    (firmRounds (fun t => (ways o p t).head?) (roundFuel least s) least most s).toList
  | .atomic p => fun s => (ways o p s).head?.toList
  | .lookAhead negated p => fun s => lookedWays negated (ways o p s).head? s
  | .lookBack w negated p => fun s =>
    lookedWays negated ((s.back? w.least).bind fun t => (ways o p t).head?) s
  | .reference n => fun s =>
    match s.group? n with
    | none => []
    | some t => (s.skip? (sameChar o) t).toList
  | .ifGroup n yes no => fun s => if (s.group? n).isSome then ways o yes s else ways o no s

section Lists

variable {α β : Type}

theorem findSome?_toList (x : Option α) (f : α → Option β) : x.toList.findSome? f = x.bind f := by
  cases x <;> simp

theorem findSome?_flatMap (l : List α) (f : α → List α) (k : α → Option β) :
    (l.flatMap f).findSome? k = l.findSome? fun a => (f a).findSome? k := by
  induction l with
  | nil => rfl
  | cons a l ih =>
    rw [List.flatMap_cons, List.findSome?_append, ih, List.findSome?_cons]
    cases (f a).findSome? k <;> rfl

theorem findSome?_some (l : List α) : l.findSome? some = l.head? := by
  cases l <;> rfl

end Lists

section Rounds

variable {body : Matcher} {ends : Point → List Point} (k : Point → Option Point)

theorem greedyRounds_eq (h : ∀ k s, body k s = (ends s).findSome? k) (fuel least : Nat)
    (most last : Option Nat) (s : Point) :
    greedyRounds body k fuel least most last s =
      (greedyWays ends fuel least most last s).findSome? k := by
  induction fuel generalizing least most last s with
  | zero => rfl
  | succ fuel ih =>
    cases least with
    | succ least =>
      rw [greedyRounds, greedyWays, h, findSome?_flatMap]
      exact congrArg (List.findSome? · _) (funext fun t => ih ..)
    | zero =>
      rw [greedyRounds, greedyWays]
      split
      · simp
      · rw [h, List.findSome?_append, findSome?_flatMap, Option.orElse_eq_orElse,
          Option.orElse_eq_or]
        congr 1
        · exact congrArg (List.findSome? · _) (funext fun t => ih ..)
        · simp

theorem lazyRounds_eq (h : ∀ k s, body k s = (ends s).findSome? k) (fuel least : Nat)
    (most last : Option Nat) (s : Point) :
    lazyRounds body k fuel least most last s =
      (lazyWays ends fuel least most last s).findSome? k := by
  induction fuel generalizing least most last s with
  | zero => rfl
  | succ fuel ih =>
    cases least with
    | succ least =>
      rw [lazyRounds, lazyWays, h, findSome?_flatMap]
      exact congrArg (List.findSome? · _) (funext fun t => ih ..)
    | zero =>
      rw [lazyRounds, lazyWays, List.findSome?_cons, Option.orElse_eq_orElse, Option.orElse_eq_or]
      cases k s with
      | some t => rfl
      | none =>
        rw [Option.none_or]
        split
        · rfl
        · rw [h, findSome?_flatMap]
          exact congrArg (List.findSome? · _) (funext fun t => ih ..)

end Rounds

theorem looked_eq (negated : Bool) (seen : Option Point) (k : Point → Option Point) (s : Point) :
    looked negated seen k s = (lookedWays negated seen s).findSome? k := by
  cases seen <;> cases negated <;> simp [looked, lookedWays]

/-- A matcher finds the first of the ways that the continuation accepts. -/
theorem run_eq_findSome? (o : Options) (p : Pattern) (k : Point → Option Point) (s : Point) :
    run o p k s = (ways o p s).findSome? k := by
  induction p generalizing o k s with
  | empty => simp [run, ways]
  | code a => exact (findSome?_toList _ k).symm
  | any => exact (findSome?_toList _ k).symm
  | oneOf negated items => exact (findSome?_toList _ k).symm
  | anchor a =>
    simp only [run, ways]
    split <;> simp
  | seq p q ihp ihq =>
    simp only [run, ways, ihp, findSome?_flatMap]
    exact congrArg (List.findSome? · _) (funext fun t => ihq ..)
  | alt p q ihp ihq =>
    simp only [run, ways, ihp, ihq, List.findSome?_append, Option.orElse_eq_orElse,
      Option.orElse_eq_or]
  | group n p ih =>
    simp only [run, ways, ih, List.findSome?_map]
    rfl
  | «scoped» c p ih => exact ih ..
  | rounds least most greed p ih =>
    cases greed with
    | greedy => exact greedyRounds_eq k (ih o) _ _ _ _ _
    | lazy => exact lazyRounds_eq k (ih o) _ _ _ _ _
    | possessive =>
      have hfirst : run o p some = fun s => (ways o p s).head? :=
        funext fun s => (ih o some s).trans (findSome?_some _)
      simp only [run, ways, findSome?_toList, hfirst]
  | atomic p ih => simp only [run, ways, findSome?_toList, ih, findSome?_some]
  | lookAhead negated p ih => simp only [run, ways, looked_eq, ih, findSome?_some]
  | lookBack w negated p ih =>
    have hfirst : run o p some = fun s => (ways o p s).head? :=
      funext fun s => (ih o some s).trans (findSome?_some _)
    simp only [run, ways, looked_eq, hfirst]
  | reference n =>
    simp only [run, ways]
    cases s.group? n with
    | none => rfl
    | some t => exact (findSome?_toList _ k).symm
  | ifGroup n yes no ihy ihn =>
    simp only [run, ways]
    split
    · exact ihy ..
    · exact ihn ..

/-- Once a pattern has been read, it does not matter whether white space counted in its source. -/
theorem ways_spaced (o : Options) (b : Bool) (p : Pattern) :
    ways { o with spaced := b } p = ways o p := by
  induction p generalizing o b with
  | empty | code | any | oneOf | reference => rfl
  | anchor a => rfl
  | seq p q ihp ihq | alt p q ihp ihq | ifGroup n p q ihp ihq => 
    funext s
    simp only [ways, ihp, ihq]
  | group n p ih | atomic p ih | lookAhead negated p ih | lookBack w negated p ih =>
    funext s
    simp only [ways, ih]
  | «scoped» c p ih => exact ih (o.apply c) _
  | rounds least most greed p ih =>
    funext s
    cases greed <;> simp only [ways, ih]

section ReachesEnd

/-- A way to match the pattern goes as far as the end of the text. -/
def ReachesEnd (o : Options) (p : Pattern) (s : Point) : Prop := ∃ u ∈ ways o p s, u.after = []

variable {o : Options} {negated : Bool} {items : List ClassItem} {q : Char → Bool} {b w : Text}
  {gs : List (Nat × Text)} {s : Point} {p p' : Pattern}

/-- Rounds of a single character go as far as the end if it admits every character on the way. -/
theorem exists_greedyWays_end {fuel : Nat} {last : Option Nat} (hf : w.length < fuel)
    (hl : ∀ n ∈ last, w.length < n) :
    (∃ u ∈ greedyWays (fun s => (s.step? q).toList) fuel 0 none last (.between b w gs),
      u.after = []) ↔ ∀ c ∈ w, q c = true := by
  induction w generalizing b fuel last with
  | nil =>
    obtain ⟨fuel, rfl⟩ := Nat.exists_eq_succ_of_ne_zero (Nat.ne_of_gt hf)
    rw [greedyWays, Point.step?_eq_none rfl]
    split <;> simp [Point.between]
  | cons c w ih =>
    obtain ⟨fuel, rfl⟩ := Nat.exists_eq_succ_of_ne_zero (Nat.ne_of_gt (Nat.zero_lt_of_lt hf))
    have hl : last ≠ some (Point.between b (c :: w) gs).left := fun h => Nat.lt_irrefl _ (hl _ h)
    rw [greedyWays, if_neg (by simpa using hl)]
    by_cases hc : q c = true
    · have hlast : ∀ n ∈ some (c :: w).length, w.length < n := by simp
      have hw := ih (b := c :: b) (Nat.lt_of_succ_lt_succ hf) hlast
      rw [Point.step?_between hc, List.forall_mem_cons, ← hw]
      simp [Point.between, hc]
    · rw [Point.step?_eq_none (by simpa [Point.between] using hc)]
      simp [Point.between, hc]

theorem reachesEnd_rounds :
    ReachesEnd o (.rounds 1 none .greedy (.oneOf negated items)) (.between b w gs) ↔
      w ≠ [] ∧ ∀ c ∈ w, admitsOneOf o negated items c = true := by
  have hfuel : roundFuel 1 (.between b w gs) = w.length + 2 + 1 := by
    simp only [roundFuel, Point.between]
    omega
  simp only [ReachesEnd, ways, hfuel]
  rw [greedyWays]
  cases w with
  | nil =>
    rw [Point.step?_eq_none rfl]
    simp
  | cons c w =>
    by_cases hc : admitsOneOf o negated items c = true
    · have hw : (∃ u ∈ greedyWays (ways o (.oneOf negated items)) ((c :: w).length + 2) 0 none none
          (.between (c :: b) w gs), u.after = []) ↔ ∀ d ∈ w, admitsOneOf o negated items d = true :=
        exists_greedyWays_end (by rw [List.length_cons]; omega) (by simp)
      rw [Point.step?_between hc, List.forall_mem_cons, ← hw]
      simp [ways, hc]
    · rw [Point.step?_eq_none (by simpa [Point.between] using hc)]
      simp [hc]

theorem reachesEnd_group {n : Nat} : ReachesEnd o (.group n p) s ↔ ReachesEnd o p s := by
  constructor
  · rintro ⟨u, hu, hend⟩
    obtain ⟨v, hv, rfl⟩ := List.mem_map.1 hu
    exact ⟨v, hv, hend⟩
  · rintro ⟨v, hv, hend⟩
    exact ⟨_, List.mem_map.2 ⟨v, hv, rfl⟩, hend⟩

theorem reachesEnd_alt : ReachesEnd o (.alt p p') s ↔ ReachesEnd o p s ∨ ReachesEnd o p' s := by
  simp [ReachesEnd, ways, or_and_right, exists_or]

theorem reachesEnd_seq_empty : ReachesEnd o (.seq p .empty) s ↔ ReachesEnd o p s := by
  simp [ReachesEnd, ways]

end ReachesEnd

namespace Compiled

variable {p : Compiled} {q : Pattern} {s : Point} {m : Match} {t : Text}

/-- Some way to match the pattern goes over all of `y`, with `x` before it. -/
def MatchesToEnd (p : Compiled) (x y : Text) : Prop :=
  ∃ u ∈ ways p.options p.body (.between x.reverse y []), u.after = []

instance (p : Compiled) (x y : Text) : Decidable (p.MatchesToEnd x y) :=
  inferInstanceAs (Decidable (∃ u ∈ ways p.options p.body (.between x.reverse y []), u.after = []))

theorem searchFrom_eq {before after : Text} {n : Nat} (h : n = after.length) :
    p.searchFrom before after n h = (List.range (after.length + 1)).findSome? fun i =>
      p.matchAt? (.between ((after.take i).reverse ++ before) (after.drop i) []) := by
  induction after generalizing before n with
  | nil =>
    subst h
    simp [searchFrom, Point.between]
  | cons c rest ih =>
    subst h
    have hr : List.range ((c :: rest).length + 1) = 0 :: (List.range (rest.length + 1)).map .succ :=
      List.range_succ_eq_map
    rw [searchFrom, ih, hr, List.findSome?_cons, List.findSome?_map]
    simp only [List.take_zero, List.reverse_nil, List.nil_append, List.drop_zero,
      Function.comp_def, List.take_succ_cons, List.reverse_cons, List.append_assoc,
      List.singleton_append, List.drop_succ_cons]
    show (p.matchAt? (.between before (c :: rest) []) <|> _) = _
    cases p.matchAt? (.between before (c :: rest) []) <;> rfl

/-- A search tries the places of a text in order. -/
theorem search_eq (p : Compiled) (t : Text) : p.search t = (List.range (t.length + 1)).findSome?
    fun i => p.matchAt? (.between (t.take i).reverse (t.drop i) []) := by
  simp only [search, searchFrom_eq, List.append_nil]

section TextEnd

/-- What ends with the end of the text is a match where the rest of it goes that far. -/
theorem isSome_matchAt?_textEnd (hp : p.body = .seq q (.seq (.anchor .textEnd) .empty)) :
    (p.matchAt? s).isSome = true ↔ ∃ u ∈ ways p.options q s, u.after = [] := by
  rw [matchAt?, Option.isSome_map, hp]
  simp only [run, run_eq_findSome? _ q, List.findSome?_isSome_iff]
  refine exists_congr fun u => and_congr_right fun _ => ?_
  simp [Anchor.holds]

theorem matchAt?_textEnd (hp : p.body = .seq q (.seq (.anchor .textEnd) .empty))
    (h : p.matchAt? s = some m) :
    m.start = s.before.length ∧ m.stop = s.before.length + s.after.length := by
  obtain ⟨u, hu, rfl⟩ := Option.map_eq_some_iff.1 h
  obtain ⟨ha, hb⟩ := ((run_advances _ _).leads hu).upTo_eq
  rw [hp] at hu
  obtain ⟨v, -, hv⟩ := run_advances _ q _ _ _ hu
  simp only [run, Anchor.holds, Option.ite_none_right_eq_some, List.isEmpty_iff] at hv
  obtain ⟨hend, ⟨⟩⟩ := hv
  rw [hend, List.append_nil] at ha
  refine ⟨rfl, ?_⟩
  rw [hb, ← ha, List.length_append, List.length_reverse, Nat.add_comm]

/-- From the left, the first place from which the pattern goes to the end of the text is found. -/
theorem search_of_reachesEnd (hp : p.body = .seq q (.seq (.anchor .textEnd) .empty)) {x y : Text}
    (hy : ReachesEnd p.options q (.between x.reverse y []))
    (hx : ∀ u v, x = u ++ v → v ≠ [] → ¬ReachesEnd p.options q (.between u.reverse (v ++ y) [])) :
    ∃ m, p.search (x ++ y) = some m ∧ m.matched = y := by
  obtain ⟨m, hm⟩ := Option.isSome_iff_exists.1 ((isSome_matchAt?_textEnd hp).2 hy)
  have hsearch : p.search (x ++ y) = some m := by
    refine searchFrom_of_leftmost (fun u v hv hne => ?_) (by simpa using hm) rfl
    refine Option.not_isSome_iff_eq_none.1 fun hs => hx u v hv hne ?_
    rw [List.append_nil] at hs
    exact (isSome_matchAt?_textEnd hp).1 hs
  obtain ⟨z, hz, hstart, -⟩ := text_eq_of_search_textEnd hp hsearch
  have hlen : x.length = z.length := by
    rw [← hstart, (matchAt?_textEnd hp hm).1]
    simp [Point.between]
  exact ⟨m, hsearch, (List.append_inj_right hz hlen).symm⟩

end TextEnd

end Compiled

end LatexSnippets.Pattern
