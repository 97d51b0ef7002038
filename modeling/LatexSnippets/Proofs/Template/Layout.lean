import LatexSnippets.Proofs.Template.Node

/-!
Where the fields of a template lie in its clean text, and in what order they are visited.
-/

namespace LatexSnippets.Template.Node

def layout (ns : List Node) : Text := ns.flatMap text

def ids (ns : List Node) : List Nat := ns.filterMap id?

/-- Where field `d` lies in nodes that are laid out from the offset `k` on. -/
def range? (d : Nat) : Int → List Node → Option Span
  | _, [] => none
  | k, nd :: rest =>
    let stop := k + nd.text.length
    if nd.id? = some d then some ⟨k, stop⟩ else range? d stop rest

/-- Where the caret leaves the snippet. -/
def exit (k : Int) (ns : List Node) : Span := (range? 0 k ns).getD (.caret (k + (layout ns).length))

def queue (d n : Nat) (k : Int) (ns : List Node) : List Span :=
  (List.range' d (n + 1 - d)).filterMap (range? · k ns) ++ [exit k ns]

/-- Whether there is text before the first field. -/
def leads : List Node → Bool
  | [] => true
  | literal [] :: ns => leads ns
  | literal (_ :: _) :: _ => true
  | _ => false

/-- Whether there is text between any two fields. -/
def apart : List Node → Bool
  | [] => true
  | literal _ :: ns => apart ns
  | _ :: ns => leads ns && apart ns

/-- Each field from 1 to `n` stands in the template once, in any order, and there may be a field 0
without text. -/
structure Numbered (ns : List Node) (n : Nat) : Prop where
  ids : (ids ns).Perm (List.range' 1 n) ∨ (ids ns).Perm (List.range (n + 1))
  exit : ∀ nd ∈ ns, nd.id? = some 0 → nd.text = []
  apart : apart ns = true

@[simp] theorem layout_nil : layout [] = [] := rfl

@[simp] theorem layout_cons (nd : Node) (ns : List Node) :
    layout (nd :: ns) = nd.text ++ layout ns := rfl

@[simp] theorem layout_append (ns ms : List Node) : layout (ns ++ ms) = layout ns ++ layout ms :=
  List.flatMap_append

theorem ids_append (ns ms : List Node) : ids (ns ++ ms) = ids ns ++ ids ms :=
  List.filterMap_append

theorem ids_cons_of_some {nd : Node} {d : Nat} (h : nd.id? = some d) (ns : List Node) :
    ids (nd :: ns) = d :: ids ns :=
  List.filterMap_cons_some h

theorem range?_cons_self {nd : Node} {d : Nat} (h : nd.id? = some d) (k : Int) (ns : List Node) :
    range? d k (nd :: ns) = some ⟨k, k + nd.text.length⟩ :=
  if_pos h

theorem range?_cons_ne {nd : Node} {d : Nat} (h : nd.id? ≠ some d) (k : Int) (ns : List Node) :
    range? d k (nd :: ns) = range? d (k + nd.text.length) ns :=
  if_neg h

theorem range?_eq_none_iff {d : Nat} {k : Int} {ns : List Node} :
    range? d k ns = none ↔ d ∉ ids ns := by
  induction ns generalizing k with
  | nil => simp [range?, ids]
  | cons nd ns ih =>
    by_cases h : nd.id? = some d
    · simp [range?_cons_self h, ids_cons_of_some h]
    · rw [range?_cons_ne h, ih]
      cases hd : nd.id? with
      | none => rw [ids, ids, List.filterMap_cons_none hd]
      | some j =>
        have hj : d ≠ j := by
          rintro rfl
          exact h hd
        simp [ids_cons_of_some hd, hj]

theorem exists_range? {d : Nat} {ns : List Node} (h : d ∈ ids ns) (k : Int) :
    ∃ s, range? d k ns = some s := by
  cases hs : range? d k ns with
  | none => exact absurd h (range?_eq_none_iff.1 hs)
  | some s => exact ⟨s, rfl⟩

theorem range?_append (d : Nat) (k : Int) (ns ms : List Node) :
    range? d k (ns ++ ms) = (range? d k ns).or (range? d (k + (layout ns).length) ms) := by
  induction ns generalizing k with
  | nil => simp [range?]
  | cons nd ns ih =>
    by_cases h : nd.id? = some d
    · rw [List.cons_append, range?_cons_self h, range?_cons_self h, Option.some_or]
    · rw [List.cons_append, range?_cons_ne h, range?_cons_ne h, ih, layout_cons, List.length_append,
        Int.natCast_add, Int.add_assoc]

theorem range?_shift (d : Nat) (k δ : Int) (ns : List Node) :
    range? d (k + δ) ns = (range? d k ns).map (·.shift δ) := by
  induction ns generalizing k with
  | nil => rfl
  | cons nd ns ih =>
    by_cases h : nd.id? = some d
    · rw [range?_cons_self h, range?_cons_self h]
      simp only [Option.map_some, Option.some.injEq, Span.shift, Span.mk.injEq, true_and]
      omega
    · rw [range?_cons_ne h, range?_cons_ne h, ← ih, Int.add_right_comm]

theorem range?_bounds {d : Nat} {k : Int} {ns : List Node} {s : Span}
    (h : range? d k ns = some s) :
    k ≤ s.start ∧ s.start ≤ s.stop ∧ s.stop ≤ k + (layout ns).length := by
  induction ns generalizing k with
  | nil => contradiction
  | cons nd ns ih =>
    by_cases hd : nd.id? = some d
    · rw [range?_cons_self hd] at h
      obtain rfl := Option.some.inj h
      simp only [layout_cons, List.length_append]
      omega
    · rw [range?_cons_ne hd] at h
      have := ih h
      simp only [layout_cons, List.length_append]
      omega

theorem split_of_range? {d : Nat} {k : Int} {ns : List Node} {s : Span}
    (h : range? d k ns = some s) : ∃ pre nd post, ns = pre ++ nd :: post ∧ nd.id? = some d ∧
      d ∉ ids pre ∧ s = ⟨k + (layout pre).length, k + (layout pre).length + nd.text.length⟩ := by
  induction ns generalizing k with
  | nil => contradiction
  | cons x ns ih =>
    by_cases hx : x.id? = some d
    · rw [range?_cons_self hx] at h
      exact ⟨[], x, ns, rfl, hx, by simp [ids], by simpa using h.symm⟩
    · rw [range?_cons_ne hx] at h
      obtain ⟨pre, nd, post, rfl, hd, hpre, rfl⟩ := ih h
      refine ⟨x :: pre, nd, post, rfl, hd, ?_, ?_⟩
      · rw [← range?_eq_none_iff (k := 0), range?_cons_ne hx, range?_eq_none_iff]
        exact hpre
      · simp [Int.add_assoc]

theorem range?_of_first {d : Nat} {pre : List Node} {nd : Node} (hpre : d ∉ ids pre)
    (h : nd.id? = some d) (k : Int) (post : List Node) :
    range? d k (pre ++ nd :: post) =
      some ⟨k + (layout pre).length, k + (layout pre).length + nd.text.length⟩ := by
  rw [range?_append, range?_eq_none_iff.2 hpre, Option.none_or, range?_cons_self h]

theorem range?_middle {d : Nat} {pre post : List Node} {nd : Node}
    (hn : (ids (pre ++ nd :: post)).Nodup) (h : nd.id? = some d) (k : Int) :
    range? d k (pre ++ nd :: post) =
      some ⟨k + (layout pre).length, k + (layout pre).length + nd.text.length⟩ := by
  rw [ids_append, ids_cons_of_some h, List.nodup_append] at hn
  exact range?_of_first (fun hm => hn.2.2 d hm d (by simp) rfl) h k post

theorem leads_append {ns ms : List Node} (h : leads (ns ++ ms) = true) (hm : leads ms = false) :
    0 < (layout ns).length := by
  induction ns with
  | nil =>
    rw [List.nil_append, hm] at h
    contradiction
  | cons nd ns ih =>
    match nd, h with
    | literal [], h => exact ih h
    | literal (c :: t), _ => simp [text]

theorem leads_field {nd : Node} {d : Nat} (h : nd.id? = some d) (ns : List Node) :
    leads (nd :: ns) = false := by
  cases nd <;> trivial

theorem lt_of_leads {d : Nat} {k : Int} {ns : List Node} {s : Span} (h : leads ns = true)
    (hs : range? d k ns = some s) : k < s.start := by
  induction ns generalizing k with
  | nil => contradiction
  | cons nd ns ih =>
    match nd, h with
    | literal [], h =>
      rw [range?_cons_ne (by simp [id?])] at hs
      simpa [text] using ih h hs
    | literal (c :: t), _ =>
      rw [range?_cons_ne (by simp [id?])] at hs
      have := (range?_bounds hs).1
      simp only [text, List.length_cons] at this
      omega

theorem apart_append (ns : List Node) {ms : List Node} (h : apart (ns ++ ms) = true) :
    apart ms = true := by
  induction ns with
  | nil => exact h
  | cons nd ns ih =>
    cases nd with
    | literal => exact ih h
    | stop | filled => exact ih (Bool.and_eq_true_iff.1 h).2

theorem lt_of_apart {d j : Nat} {k : Int} {pre post : List Node} {nd : Node} {s : Span}
    (h : apart (pre ++ nd :: post) = true) (hd : nd.id? = some d) (hs : range? j k pre = some s) :
    s.stop < k + (layout pre).length := by
  induction pre generalizing k with
  | nil => contradiction
  | cons x pre ih =>
    by_cases hx : x.id? = some j
    · rw [range?_cons_self hx] at hs
      obtain rfl := Option.some.inj hs
      have hl : leads (pre ++ nd :: post) = true := by
        cases x with
        | literal => contradiction
        | stop | filled => exact (Bool.and_eq_true_iff.1 h).1
      have := leads_append hl (leads_field hd post)
      simp only [layout_cons, List.length_append]
      omega
    · rw [range?_cons_ne hx] at hs
      have := ih (apart_append [x] h) hs
      simp only [layout_cons, List.length_append]
      omega

theorem gt_of_apart {d j : Nat} {k : Int} {pre post : List Node} {nd : Node} {s : Span}
    (h : apart (pre ++ nd :: post) = true) (hd : nd.id? = some d) (hs : range? j k post = some s) :
    k < s.start := by
  have h := apart_append pre h
  cases nd with
  | literal => contradiction
  | stop | filled => exact lt_of_leads (Bool.and_eq_true_iff.1 h).1 hs

theorem ne_of_apart {d j : Nat} {k : Int} {ns : List Node} {r s : Span} (h : apart ns = true)
    (hr : range? d k ns = some r) (hs : range? j k ns = some s) (hj : j ≠ d) :
    r.stop ≠ s.start := by
  obtain ⟨pre, nd, post, rfl, hd, -, rfl⟩ := split_of_range? hr
  have hne : nd.id? ≠ some j := by
    rw [hd]
    simpa using Ne.symm hj
  rw [range?_append, range?_cons_ne hne, Option.or_eq_some_iff] at hs
  rcases hs with hs | ⟨-, hs⟩
  · have := lt_of_apart h hd hs
    have := range?_bounds hs
    simp only
    omega
  · have := gt_of_apart h hd hs
    simp only
    omega

theorem flatMap_text_pieces (ns : List Node) :
    (ns.flatMap pieces).flatMap Piece.text = layout ns := by
  induction ns with
  | nil => rfl
  | cons nd ns ih =>
    rw [List.flatMap_cons, List.flatMap_append, ih, layout_cons]
    cases nd with
    | literal t => simp [pieces, text, List.flatMap_map, Piece.text]
    | stop | filled => simp [pieces, text, Piece.text]

theorem ofPieces_cons (k : Nat) (nd : Node) (ns : List Node) :
    Fields.ofPieces k ((nd :: ns).flatMap pieces) =
      match nd.id? with
      | none => Fields.ofPieces (k + nd.text.length) (ns.flatMap pieces)
      | some d => ((d : Int), ⟨k, (k + nd.text.length : Nat)⟩) ::
        (Fields.ofPieces (k + nd.text.length) (ns.flatMap pieces)).filter (·.1 ≠ (d : Int)) := by
  rw [List.flatMap_cons]
  cases nd with
  | literal t => exact Fields.ofPieces_chars k t _
  | stop | filled => rfl

theorem get?_ofPieces (d k : Nat) (ns : List Node) :
    (Fields.ofPieces k (ns.flatMap pieces)).get? d = range? d k ns := by
  induction ns generalizing k with
  | nil => rfl
  | cons nd ns ih =>
    rw [ofPieces_cons]
    cases h : nd.id? with
    | none =>
      rw [range?_cons_ne (by simp [h])]
      simpa using ih (k + nd.text.length)
    | some j =>
      simp only
      rw [Fields.get?_cons]
      by_cases hj : j = d
      · rw [if_pos (by simp [hj]), range?_cons_self (hj ▸ h)]
        simp
      · have hne : (j : Int) ≠ d := by omega
        rw [if_neg hne, Fields.get?_filter_ne hne, ih, range?_cons_ne (by simp [h, hj])]
        simp

theorem filterMap_id?_pieces (ns : List Node) :
    (ns.flatMap pieces).filterMap Piece.id? = ids ns := by
  induction ns with
  | nil => rfl
  | cons nd ns ih =>
    rw [List.flatMap_cons, List.filterMap_append, ih]
    cases nd with
    | literal t =>
      have hchars : (t.map Piece.char).filterMap Piece.id? = [] := by
        simp [List.filterMap_map, Piece.id?]
      rw [pieces, hchars]
      rfl
    | stop | filled => rfl

theorem mem_ids_ofPieces {j : Int} {k : Nat} {ns : List Node} :
    j ∈ (Fields.ofPieces k (ns.flatMap pieces)).ids ↔ ∃ d ∈ ids ns, (d : Int) = j := by
  rw [Fields.mem_ids_ofPieces, filterMap_id?_pieces]

/-- A written template is read back as the text of its nodes, with the range of the first node of
each number that occurs and of no other. -/
theorem read_written_template (ns : List Node) :
    let x := Expansion.ofText (ns.flatMap write)
    x.text = ns.flatMap text ∧ (x.fields.map Prod.fst).Nodup ∧
      ∀ (j : Int) (s : Span), x.fields.get? j = some s ↔
        ∃ (d : Nat) (pre : List Node) (nd : Node) (post : List Node), (d : Int) = j ∧
          ns = pre ++ nd :: post ∧ nd.id? = some d ∧ (∀ x ∈ pre, x.id? ≠ some d) ∧
          s = ⟨(layout pre).length, (layout pre).length + nd.text.length⟩ := by
  simp only [Expansion.ofText, Expansion.ofPieces, readAll_write]
  refine ⟨flatMap_text_pieces ns, Fields.nodup_ofPieces 0 _, ?_⟩
  intro j s
  constructor
  · intro h
    obtain ⟨d, -, rfl⟩ := mem_ids_ofPieces.1 (Fields.mem_ids.2 ⟨_, Fields.mem_of_get? h, rfl⟩)
    rw [get?_ofPieces] at h
    obtain ⟨pre, nd, post, hns, hd, hpre, rfl⟩ := split_of_range? h
    refine ⟨d, pre, nd, post, rfl, hns, hd, ?_, by simp⟩
    intro x hx hxd
    exact hpre (List.mem_filterMap.2 ⟨x, hx, hxd⟩)
  · rintro ⟨d, pre, nd, post, rfl, rfl, hd, hpre, rfl⟩
    have hpre : d ∉ ids pre := by
      intro hm
      obtain ⟨x, hx, hxd⟩ := List.mem_filterMap.1 hm
      exact hpre x hx hxd
    rw [get?_ofPieces, range?_of_first hpre hd]
    simp

namespace Numbered

variable {ns : List Node} {n : Nat}

theorem nodup (h : Numbered ns n) : (Node.ids ns).Nodup := by
  rcases h.ids with h | h
  · exact h.nodup_iff.2 List.nodup_range'
  · exact h.nodup_iff.2 List.nodup_range

theorem mem_ids (h : Numbered ns n) {d : Nat} (h₀ : 0 < d) : d ∈ Node.ids ns ↔ d ≤ n := by
  rcases h.ids with h | h
  · rw [h.mem_iff, List.mem_range'_1]
    omega
  · rw [h.mem_iff, List.mem_range]
    omega

theorem exists_range (h : Numbered ns n) {d : Nat} (h₀ : 0 < d) (hd : d ≤ n) (k : Int) :
    ∃ s, range? d k ns = some s :=
  exists_range? ((h.mem_ids h₀).2 hd) k

theorem numbered_ids (h : Numbered ns n) :
    (Fields.ofPieces 0 (ns.flatMap pieces)).ids.filter (· ≠ 0) =
      (List.range' 1 n).map Int.ofNat := by
  have hp := Fields.pairwise_ids (Fields.ofPieces 0 (ns.flatMap pieces))
  have hr : ((List.range' 1 n).map Int.ofNat).Pairwise (· < ·) := by
    rw [List.pairwise_map]
    exact (List.pairwise_lt_range' 1).imp fun h => Int.ofNat_lt.2 h
  have hf := hp.sublist (List.filter_sublist (p := (· ≠ 0)))
  refine hf.eq_of_mem_iff hr fun j => ?_
  rw [List.mem_filter, mem_ids_ofPieces]
  simp only [List.mem_map, List.mem_range'_1, decide_eq_true_eq]
  constructor
  · rintro ⟨⟨d, hd, rfl⟩, hne⟩
    have h₀ : 0 < d := by omega
    have := (h.mem_ids h₀).1 hd
    exact ⟨d, by omega, rfl⟩
  · rintro ⟨d, hd, rfl⟩
    exact ⟨⟨d, (h.mem_ids (by omega)).2 (by omega), rfl⟩, by simp; omega⟩

/-- Field 1 is entered first, the other fields follow by number. -/
theorem expansion (h : Numbered ns n) (hn : 0 < n) :
    (Expansion.ofText (ns.flatMap write)).text = layout ns ∧
      range? 1 0 ns = some (Expansion.ofText (ns.flatMap write)).entry ∧
      (Expansion.ofText (ns.flatMap write)).remaining = queue 2 n 0 ns := by
  obtain ⟨s, hs⟩ := h.exists_range (d := 1) (by omega) hn 0
  have hl : (Fields.ofPieces 0 (ns.flatMap pieces)).numbered =
      s :: (List.range' 2 (n - 1)).filterMap (range? · 0 ns) := by
    rw [Fields.numbered, h.numbered_ids, List.filterMap_map]
    obtain ⟨m, rfl⟩ : ∃ m, n = m + 1 := ⟨n - 1, by omega⟩
    rw [List.range'_succ, List.filterMap_cons_some (b := s)]
    · congr 2
      funext d
      exact get?_ofPieces d 0 ns
    · exact (get?_ofPieces 1 0 ns).trans hs
  have hx : (Fields.ofPieces 0 (ns.flatMap pieces)).exit (layout ns).length = Node.exit 0 ns := by
    have h₀ := get?_ofPieces 0 0 ns
    simp only [Int.natCast_zero] at h₀
    rw [Fields.exit, Node.exit, Int.zero_add, h₀]
  have ho : (Fields.ofPieces 0 (ns.flatMap pieces)).order (layout ns).length =
      (s, queue 2 n 0 ns) := by
    rw [Fields.order, hl, hx]
    rfl
  simp only [Expansion.ofText, readAll_write, Expansion.ofPieces, flatMap_text_pieces, ho, hs,
    and_self]

end Numbered

end LatexSnippets.Template.Node
