import LatexSnippets.Proofs.Firing

/-!
The stops of an expansion are the first ranges of its fields, visited in the order of their numbers
and then left by the exit. A fired rule moves them to where it puts the expansion.
-/

namespace LatexSnippets

/-- The range of the first piece that has the number `id`, in the text that the pieces give. -/
inductive Piece.IsFirst (id : Nat) : List Piece → Span → Prop
  | here {p : Piece} {rest : List Piece} (h : p.id? = some id) :
      IsFirst id (p :: rest) ⟨0, p.text.length⟩
  | later {p : Piece} {rest : List Piece} {s : Span} (h : p.id? ≠ some id)
      (hs : IsFirst id rest s) : IsFirst id (p :: rest) (s.shift p.text.length)

namespace Fields

theorem pairwise_ofPieces (k : Nat) (ps : List Piece) :
    (ofPieces k ps).Pairwise fun f g => f.2.stop ≤ g.2.start := by
  induction ps generalizing k with
  | nil => exact List.Pairwise.nil
  | cons p ps ih =>
    rw [ofPieces]
    cases p.id? with
    | none => exact ih _
    | some d =>
      refine List.pairwise_cons.2 ⟨?_, (ih _).sublist List.filter_sublist⟩
      intro f hf
      exact (within_ofPieces _ ps f (List.mem_filter.1 hf).1).1

theorem get?_ofPieces {d k : Nat} {s : Span} {ps : List Piece} :
    (ofPieces k ps).get? d = some s ↔ ∃ u, Piece.IsFirst d ps u ∧ s = u.shift k := by
  induction ps generalizing k with
  | nil =>
    refine iff_of_false (by simp [ofPieces, get?]) ?_
    rintro ⟨u, hu, -⟩
    cases hu
  | cons p ps ih =>
    have later (hd : p.id? ≠ some d) : (∃ u, Piece.IsFirst d (p :: ps) u ∧ s = u.shift k) ↔
        ∃ u, Piece.IsFirst d ps u ∧ s = u.shift (k + p.text.length : Nat) := by
      constructor
      · rintro ⟨u, hu, rfl⟩
        cases hu with
        | here h => exact absurd h hd
        | later _ hu => exact ⟨_, hu, by rw [Span.shift_shift]; congr 1; omega⟩
      · rintro ⟨u, hu, rfl⟩
        exact ⟨_, .later hd hu, by rw [Span.shift_shift]; congr 1; omega⟩
    rw [ofPieces]
    cases hp : p.id? with
    | none => rw [ih, later (by simp [hp])]
    | some i =>
      by_cases hi : i = d
      · subst hi
        rw [get?_cons, if_pos rfl, Option.some.injEq]
        constructor
        · rintro rfl
          exact ⟨_, .here hp, by simp [Span.shift, Int.add_comm]⟩
        · rintro ⟨u, hu, rfl⟩
          cases hu with
          | here => simp [Span.shift, Int.add_comm]
          | later h => exact absurd hp h
      · have hij : (i : Int) ≠ d := by omega
        rw [get?_cons, if_neg hij, get?_filter_ne hij, ih, later (by simpa [hp] using hi)]

theorem exists_id_of_get? {j : Int} {k : Nat} {s : Span} {ps : List Piece}
    (h : (ofPieces k ps).get? j = some s) : ∃ d : Nat, (d : Int) = j := by
  obtain ⟨d, -, hd⟩ := exists_ofPieces.1 ⟨_, mem_of_get? h, rfl⟩
  exact ⟨d, hd⟩

theorem get?_isSome {fs : Fields} {j : Int} : (fs.get? j).isSome = true ↔ j ∈ fs.ids := by
  rw [mem_ids, Option.isSome_iff_exists]
  constructor
  · rintro ⟨s, hs⟩
    exact ⟨_, mem_of_get? hs, rfl⟩
  · exact exists_get?

theorem map_get?_numbered (fs : Fields) :
    (fs.ids.filter (· ≠ 0)).map fs.get? = fs.numbered.map some := by
  rw [numbered, List.map_filterMap_some_eq_filter_map_isSome, eq_comm, List.filter_eq_self]
  intro o ho
  obtain ⟨j, hj, rfl⟩ := List.mem_map.1 ho
  exact get?_isSome.2 (List.mem_filter.1 hj).1

end Fields

/-- The fields and the stops of an expansion as its pieces define them. -/
structure Expansion.IsLaidOut (x : Expansion) (ps : List Piece) : Prop where
  text_eq : x.text = ps.flatMap Piece.text
  field_iff : ∀ j s, x.fields.get? j = some s ↔ ∃ d : Nat, (d : Int) = j ∧ Piece.IsFirst d ps s
  fields_within : ∀ f ∈ x.fields, f.2.Within x.text.length
  fields_apart : x.fields.Pairwise fun f g => f.2.stop ≤ g.2.start
  stops_eq : ∃ (ids : List Int) (stops : List Span), ids.Pairwise (· < ·) ∧
    (∀ j, j ∈ ids ↔ j ≠ 0 ∧ (x.fields.get? j).isSome) ∧ ids.map x.fields.get? = stops.map some ∧
    x.entry :: x.remaining = stops ++ [(x.fields.get? 0).getD (.caret x.text.length)]

theorem Expansion.isLaidOut_ofPieces (ps : List Piece) : (ofPieces ps).IsLaidOut ps where
  text_eq := rfl
  field_iff j s := by
    constructor
    · intro h
      obtain ⟨d, rfl⟩ := Fields.exists_id_of_get? h
      obtain ⟨u, hu, rfl⟩ := Fields.get?_ofPieces.1 h
      exact ⟨d, rfl, by simpa using hu⟩
    · rintro ⟨d, rfl, hs⟩
      exact Fields.get?_ofPieces.2 ⟨s, hs, by simp⟩
  fields_within f hf := by
    have := Fields.within_ofPieces 0 ps f hf
    simp only [Span.Within, Span.Proper, ofPieces]
    omega
  fields_apart := Fields.pairwise_ofPieces 0 ps
  stops_eq := by
    refine ⟨(Fields.ofPieces 0 ps).ids.filter (· ≠ 0), (Fields.ofPieces 0 ps).numbered,
      (Fields.pairwise_ids _).filter _, ?_, Fields.map_get?_numbered _, Fields.order_eq _ _⟩
    intro j
    rw [List.mem_filter, decide_eq_true_eq, and_comm]
    exact and_congr_right fun _ => Fields.get?_isSome.symm

/-- The expansion `x` stands in place of the trigger that ends at the caret. -/
structure Fired.Puts (f : Fired) (t : Text) (caret : Int) (x : Expansion) : Prop where
  stop_eq : f.stop = caret
  start_nonneg : 0 ≤ f.start
  start_lt : f.start < caret
  text_eq : f.text = t.upTo f.start ++ x.text ++ t.onward caret
  selection_eq : f.selection = x.entry.shift f.start
  fields_eq : f.fields = x.remaining.map (·.shift f.start)
  stops_within : ∀ s ∈ f.selection :: f.fields, f.start ≤ s.start ∧ s.start ≤ s.stop ∧
    s.stop ≤ f.text.length - (t.length - caret)

theorem Fired.puts_ofExpansion {t : Text} {caret : Int} {r : Ranked} {k : Nat} {raw : Text}
    (h₀ : 0 ≤ caret) (hc : caret ≤ t.length) (hk : k < (t.upTo caret).length) :
    (ofExpansion (t.upTo caret) (t.onward caret) caret r k (.ofText raw)).Puts t caret
      (.ofText raw) := by
  have hp := Text.place_eq h₀ hc
  rw [Text.length_upTo] at hk
  have ht : (ofExpansion (t.upTo caret) (t.onward caret) caret r k (.ofText raw)).text =
      t.upTo k ++ (Expansion.ofText raw).text ++ t.onward caret := by
    rw [ofExpansion, ← Text.upTo_natCast, Text.upTo_upTo (by omega) (by omega) hc]
  have hl : ((ofExpansion (t.upTo caret) (t.onward caret) caret r k (.ofText raw)).text.length :
      Int) = k + (Expansion.ofText raw).text.length + (t.length - caret) := by
    have := Text.place_eq (n := t.length) (i := k) (by omega) (by omega)
    rw [ht, List.length_append, List.length_append, Text.length_upTo, Text.length_onward]
    omega
  have within {s : Span} (hs : s.Within (Expansion.ofText raw).text.length) :
      (k : Int) ≤ (s.shift k).start ∧ (s.shift k).start ≤ (s.shift k).stop ∧
        (s.shift k).stop ≤ k + (Expansion.ofText raw).text.length := by
    obtain ⟨⟨h₀, h₁⟩, h₂⟩ := hs
    simp only [Span.shift_start, Span.shift_stop]
    omega
  obtain ⟨entry, remaining⟩ := Expansion.within_ofText raw
  refine ⟨rfl, Int.natCast_nonneg k, by simp only [ofExpansion]; omega, ht, rfl, rfl, ?_⟩
  rw [hl, Int.add_sub_cancel]
  intro s hs
  rcases List.mem_cons.1 hs with rfl | hs
  · exact within entry
  · obtain ⟨u, hu, rfl⟩ := List.mem_map.1 hs
    exact within (remaining u hu)

/-- What a template gives is laid out as its pieces are: the ranges of the fields lie in the text in
order and apart, and the stops are the fields by their numbers, followed by the exit. A rule that
fires puts that in place of its trigger, which ends at the caret and is not empty. -/
theorem expansion_laid_out_and_put :
    (∀ (template : Template) (captures : Captures) (visual : Text),
      (¬template.Unreadable → ∃ x, template.compile captures visual = .ok x) ∧
      ∀ x, template.compile captures visual = .ok x →
        ∃ raw, template.render captures visual = .ok raw ∧ x.IsLaidOut (Piece.readAll raw)) ∧
    ∀ (t : Text) (caret : Int) (rules : List Rule) (forceMath auto manual : Bool) (f : Fired),
      0 ≤ caret → caret ≤ t.length → fire t caret rules forceMath auto manual = .ok (some f) →
        ∃ hit x, f.rule.rule.hit (t.upTo caret) = .ok (some hit) ∧ hit.start = f.start ∧
          f.rule.rule.template.compile hit.captures [] = .ok x ∧ f.Puts t caret x := by
  refine ⟨fun template captures visual => ⟨fun h => ?_, fun x hx => ?_⟩,
    fun t caret rules forceMath auto manual f h₀ hc hf => ?_⟩
  · obtain ⟨raw, hr⟩ := Template.exists_render h captures visual
    exact ⟨_, Template.compile_eq_ok.2 ⟨raw, hr, rfl⟩⟩
  · obtain ⟨raw, hr, rfl⟩ := Template.compile_eq_ok.1 hx
    exact ⟨raw, hr, Expansion.isLaidOut_ofPieces _⟩
  · obtain ⟨hit, x, hh, hx, hf⟩ := givesAt_of_fire hf
    obtain ⟨raw, -, rfl⟩ := Template.compile_eq_ok.1 hx
    rw [hf]
    exact ⟨hit, _, hh, rfl, hx, Fired.puts_ofExpansion h₀ hc (Rule.start_hit hh)⟩

/-- The fields come in another order than their numbers, one of them twice, beside an escaped dollar
sign. -/
theorem expansion_laid_out_and_put_reordered :
    let template : Template := .text "$\x7b2:b\x7d-$1\\$$2"
    let rule : Rule := ⟨.literal "//", template, [], 0, []⟩
    let x : Expansion := ⟨"b-$", ⟨2, 2⟩, [⟨0, 1⟩, ⟨3, 3⟩], [(2, ⟨0, 1⟩), (1, ⟨2, 2⟩)]⟩
    x.IsLaidOut (Piece.readAll "$\x7b2:b\x7d-$1\\$$2") ∧
      ∃ f, fire "a//c" 3 [rule] false false true = .ok (some f) ∧ f.Puts "a//c" 3 x := by
  intro template rule x
  have hx : template.compile [] [] = .ok x := by decide +kernel
  have hh : rule.hit (Text.upTo "a//c" 3) = .ok (some ⟨1, []⟩) := by decide +kernel
  have he : rule.isEligible ⟨false || Latex.insideMath "a//c" 3, false, true⟩ = true := by
    decide +kernel
  have hf := fire_singleton he hh hx
  obtain ⟨raw, hr, hl⟩ := (expansion_laid_out_and_put.1 template [] []).2 x hx
  obtain ⟨hit, y, hh', -, hy, hp⟩ :=
    expansion_laid_out_and_put.2 _ _ _ _ _ _ _ (by decide) (by decide) hf
  have hw : template.render [] [] = .ok "$\x7b2:b\x7d-$1\\$$2".toList := by decide +kernel
  obtain rfl := Except.ok.inj (hr.symm.trans hw)
  obtain rfl := Option.some.inj (Except.ok.inj (hh'.symm.trans hh))
  obtain rfl := Except.ok.inj (hy.symm.trans hx)
  exact ⟨hl, _, hf, hp⟩

end LatexSnippets
