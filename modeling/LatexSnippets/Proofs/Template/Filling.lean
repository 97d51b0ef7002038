import LatexSnippets.Proofs.FieldQueue
import LatexSnippets.Proofs.Template.Layout

/-!
Putting a text into a field of a template: the fields after it move with the text, those before it
stay where they are.
-/

namespace LatexSnippets.Template.Node

def fill (w : Text) : Node → Node
  | literal t => literal t
  | stop d | filled d _ => filled d w

@[simp] theorem id?_fill (w : Text) (nd : Node) : (nd.fill w).id? = nd.id? := by
  cases nd <;> rfl

@[simp] theorem fill_fill (v w : Text) (nd : Node) : (nd.fill v).fill w = nd.fill w := by
  cases nd <;> rfl

theorem text_fill {nd : Node} {d : Nat} (h : nd.id? = some d) (w : Text) : (nd.fill w).text = w := by
  cases nd with
  | literal => contradiction
  | stop | filled => rfl

variable {d n : Nat} {k : Int} {pre post : List Node} {nd : Node}

theorem ids_fill (w : Text) (pre post : List Node) (nd : Node) :
    ids (pre ++ nd.fill w :: post) = ids (pre ++ nd :: post) := by
  simp [ids, List.filterMap_append, List.filterMap_cons]

theorem leads_fill (h : nd.id? = some d) (w : Text) (pre post : List Node) :
    leads (pre ++ nd.fill w :: post) = leads (pre ++ nd :: post) := by
  induction pre with
  | nil =>
    rw [List.nil_append, List.nil_append, leads_field h,
      leads_field ((id?_fill w nd).trans h)]
  | cons x pre ih =>
    match x with
    | literal [] => exact ih
    | literal (_ :: _) | stop _ | filled _ _ => rfl

theorem apart_fill (h : nd.id? = some d) (w : Text) (pre post : List Node) :
    apart (pre ++ nd.fill w :: post) = apart (pre ++ nd :: post) := by
  induction pre with
  | nil => cases nd <;> rfl
  | cons x pre ih =>
    cases x with
    | literal => exact ih
    | stop | filled => simp only [List.cons_append, apart, ih, leads_fill h]

theorem Numbered.fill (hn : Numbered (pre ++ nd :: post) n) (h : nd.id? = some d) (h₀ : 0 < d)
    (w : Text) : Numbered (pre ++ nd.fill w :: post) n := by
  refine ⟨?_, ?_, ?_⟩
  · rw [ids_fill]
    exact hn.ids
  · intro x hx hx₀
    simp only [List.mem_append, List.mem_cons] at hx
    rcases hx with hx | rfl | hx
    · exact hn.exit x (by simp [hx]) hx₀
    · rw [id?_fill, h, Option.some.injEq] at hx₀
      omega
    · exact hn.exit x (by simp [hx]) hx₀
  · rw [apart_fill h]
    exact hn.apart

theorem layout_fill (h : nd.id? = some d) (w : Text) (pre post : List Node) :
    ((layout (pre ++ nd.fill w :: post)).length : Int) =
      (layout (pre ++ nd :: post)).length + (w.length - nd.text.length) := by
  simp only [layout_append, layout_cons, text_fill h, List.length_append]
  omega

section Shift

variable {w : Text} {p : Int}

/-- A change of the field `d` at the offset `p` moves every other field to where it lies with the new
text. -/
theorem move_range? (ha : apart (pre ++ nd :: post) = true) (h : nd.id? = some d) (hk : 0 ≤ k)
    (hp : k + (layout pre).length ≤ p) (hp' : p ≤ k + (layout pre).length + nd.text.length)
    {j : Nat} (hj : j ≠ d) :
    (range? j k (pre ++ nd :: post)).bind (FieldQueue.move (w.length - nd.text.length) p) =
      range? j k (pre ++ nd.fill w :: post) := by
  have hne : nd.id? ≠ some j := by
    rw [h]
    simpa using Ne.symm hj
  rw [range?_append, range?_append, range?_cons_ne hne, range?_cons_ne (by rwa [id?_fill]),
    text_fill h]
  cases hs : range? j k pre with
  | some s =>
    have hb := range?_bounds hs
    have := lt_of_apart ha h hs
    rw [Option.some_or, Option.some_or, Option.bind_some]
    exact FieldQueue.move_of_lt (by omega) (by omega)
  | none =>
    have hshift := range?_shift j (k + (layout pre).length + nd.text.length)
      (w.length - nd.text.length) post
    rw [Option.none_or, Option.none_or,
      show k + (layout pre).length + (w.length : Int) = k + (layout pre).length + nd.text.length +
        (w.length - nd.text.length) by omega, hshift]
    cases hs : range? j (k + (layout pre).length + nd.text.length) post with
    | none => rfl
    | some s =>
      have hb := range?_bounds hs
      exact FieldQueue.move_of_le (by omega) (by omega)

theorem move_exit (ha : apart (pre ++ nd :: post) = true) (h : nd.id? = some d) (h₀ : 0 < d)
    (hk : 0 ≤ k) (hp : k + (layout pre).length ≤ p)
    (hp' : p ≤ k + (layout pre).length + nd.text.length) :
    FieldQueue.move (w.length - nd.text.length) p (exit k (pre ++ nd :: post)) =
      some (exit k (pre ++ nd.fill w :: post)) := by
  have hm := move_range? (w := w) ha h hk hp hp' (j := 0) (by omega)
  have hl := layout_fill h w pre post
  rw [exit, exit]
  cases hs : range? 0 k (pre ++ nd :: post) with
  | some s =>
    have hmem : 0 ∈ ids (pre ++ nd.fill w :: post) := by
      rw [ids_fill, ← Decidable.not_not (p := 0 ∈ ids _), ← range?_eq_none_iff (k := k), hs]
      simp
    obtain ⟨s', hs'⟩ := exists_range? hmem k
    rw [hs, hs', Option.bind_some] at hm
    rw [hs', Option.getD_some, hm, Option.getD_some]
  | none =>
    rw [hs, Option.bind_none] at hm
    rw [← hm, Option.getD_none, Option.getD_none, FieldQueue.move_of_le]
    · simp only [Span.shift, Span.caret, hl, Option.some.injEq, Span.mk.injEq]
      omega
    · simp only [Span.caret, layout_append, layout_cons, List.length_append]
      omega
    · simp only [Span.caret, layout_append, layout_cons, List.length_append]
      omega

theorem move_ranges (ha : apart (pre ++ nd :: post) = true) (h : nd.id? = some d) (hk : 0 ≤ k)
    (hp : k + (layout pre).length ≤ p) (hp' : p ≤ k + (layout pre).length + nd.text.length)
    {js : List Nat} (hj : d ∉ js) :
    (js.filterMap (range? · k (pre ++ nd :: post))).filterMap
        (FieldQueue.move (w.length - nd.text.length) p) =
      js.filterMap (range? · k (pre ++ nd.fill w :: post)) := by
  rw [List.filterMap_filterMap]
  induction js with
  | nil => rfl
  | cons j js ih =>
    rw [List.mem_cons, not_or] at hj
    obtain ⟨hne, hj⟩ := hj
    rw [List.filterMap_cons, List.filterMap_cons, move_range? ha h hk hp hp' (Ne.symm hne), ih hj]

theorem shift_queue (hn : Numbered (pre ++ nd :: post) n) (h : nd.id? = some d) (h₀ : 0 < d)
    (hk : 0 ≤ k) (hp : k + (layout pre).length ≤ p)
    (hp' : p ≤ k + (layout pre).length + nd.text.length) :
    FieldQueue.shift (queue (d + 1) n k (pre ++ nd :: post)) (w.length - nd.text.length) p =
      queue (d + 1) n k (pre ++ nd.fill w :: post) := by
  have hd : d ∉ List.range' (d + 1) (n + 1 - (d + 1)) := by
    rw [List.mem_range'_1]
    omega
  rw [FieldQueue.shift_eq_filterMap, queue, List.filterMap_append,
    move_ranges hn.apart h hk hp hp' hd,
    List.filterMap_cons_some (move_exit hn.apart h h₀ hk hp hp'), queue]
  rfl

end Shift

theorem exit_shift (k δ : Int) (ns : List Node) : exit (k + δ) ns = (exit k ns).shift δ := by
  rw [exit, exit, range?_shift]
  cases range? 0 k ns with
  | some s => rfl
  | none =>
    simp only [Option.map_none, Option.getD_none, Span.caret, Span.shift, Span.mk.injEq]
    omega

theorem queue_shift (d n : Nat) (k δ : Int) (ns : List Node) :
    (queue d n k ns).map (·.shift δ) = queue d n (k + δ) ns := by
  simp only [queue, List.map_append, List.map_filterMap, ← range?_shift, List.map_cons,
    List.map_nil, ← exit_shift]

theorem queue_eq_cons {s : Span} {ns : List Node} (hd : d ≤ n) (hs : range? d k ns = some s) :
    queue d n k ns = s :: queue (d + 1) n k ns := by
  rw [queue, show n + 1 - d = n - d + 1 by omega, List.range'_succ,
    List.filterMap_cons_some (f := (range? · k ns)) hs, queue, show n + 1 - (d + 1) = n - d by omega]
  rfl

/-- The node with the text that is meant for it, if it is a numbered field. -/
def put (vs : List Text) (nd : Node) : Node :=
  match nd.id? with
  | some (d + 1) => ((vs[d]?).map (nd.fill ·)).getD nd
  | _ => nd

def fillAt (d : Nat) (w : Text) (nd : Node) : Node := if nd.id? = some d then nd.fill w else nd

theorem put_nil (nd : Node) : nd.put [] = nd := by
  rw [put]
  split <;> rfl

@[simp] theorem id?_put (vs : List Text) (nd : Node) : (nd.put vs).id? = nd.id? := by
  rw [put]
  split
  · next d _ => cases vs[d]? <;> simp
  · rfl

theorem put_take_succ {vs : List Text} {j : Nat} (hj : j < vs.length) (nd : Node) :
    nd.put (vs.take (j + 1)) = (nd.put (vs.take j)).fillAt (j + 1) vs[j] := by
  rw [fillAt, id?_put]
  rw [put, put]
  cases nd.id? with
  | none => simp
  | some d =>
    cases d with
    | zero => simp
    | succ d =>
      simp only [List.getElem?_take, Option.some.injEq, Nat.add_right_cancel_iff]
      by_cases h : d = j
      · subst h
        simp [hj]
      · rw [if_neg h]
        have hlt : d < j + 1 ↔ d < j := by omega
        simp only [hlt]

theorem map_fillAt_eq_self {ns : List Node} (h : d ∉ ids ns) (w : Text) :
    ns.map (fillAt d w) = ns := by
  have hid : ∀ nd ∈ ns, fillAt d w nd = id nd := by
    intro nd hm
    apply if_neg
    intro hd
    exact h (List.mem_filterMap.2 ⟨nd, hm, hd⟩)
  rw [List.map_congr_left hid, List.map_id]

theorem map_fillAt {pre post : List Node} {nd : Node} (hn : (ids (pre ++ nd :: post)).Nodup)
    (h : nd.id? = some d) (w : Text) :
    (pre ++ nd :: post).map (fillAt d w) = pre ++ nd.fill w :: post := by
  rw [ids_append, ids_cons_of_some h, List.nodup_append, List.nodup_cons] at hn
  obtain ⟨-, ⟨hpost, -⟩, hpre⟩ := hn
  have hpre : d ∉ ids pre := fun hm => hpre d hm d (by simp) rfl
  rw [List.map_append, List.map_cons, map_fillAt_eq_self hpre, map_fillAt_eq_self hpost, fillAt,
    if_pos h]

end LatexSnippets.Template.Node
