import Mathlib.Data.List.Sort
import LatexSnippets.Template.Field
import LatexSnippets.Proofs.Span

/-!
The ranges of the fields of an expansion: all of them, and so the stop to enter first and those that
follow, lie in its text.
-/

namespace LatexSnippets

namespace Fields

theorem mem_of_get? {fs : Fields} {id : Int} {s : Span} (h : fs.get? id = some s) :
    (id, s) ∈ fs := by
  obtain ⟨f, hf, rfl⟩ := Option.map_eq_some_iff.1 h
  have hid : f.1 = id := by simpa using List.find?_some hf
  exact hid ▸ List.mem_of_find?_eq_some hf

theorem ofPieces_chars (k : Nat) (t : Text) (ps : List Piece) :
    ofPieces k (t.map .char ++ ps) = ofPieces (k + t.length) ps := by
  induction t generalizing k with
  | nil => rfl
  | cons c t ih =>
    simp only [List.map_cons, List.cons_append, ofPieces, Piece.id?, Piece.text, ih]
    simp only [List.length_cons, List.length_nil]
    congr 1
    omega

theorem within_ofPieces (k : Nat) (ps : List Piece) : ∀ f ∈ ofPieces k ps,
    (k : Int) ≤ f.2.start ∧ f.2.start ≤ f.2.stop ∧
      f.2.stop ≤ k + (ps.flatMap Piece.text).length := by
  induction ps generalizing k with
  | nil => simp [ofPieces]
  | cons p ps ih =>
    intro f hf
    have others : f ∈ ofPieces (k + p.text.length) ps → (k : Int) ≤ f.2.start ∧
        f.2.start ≤ f.2.stop ∧ f.2.stop ≤ k + ((p :: ps).flatMap Piece.text).length := by
      intro hf
      have := ih _ f hf
      simp only [List.flatMap_cons, List.length_append]
      omega
    simp only [ofPieces] at hf
    split at hf
    · exact others hf
    · rcases List.mem_cons.1 hf with rfl | hf
      · simp only [List.flatMap_cons, List.length_append]
        omega
      · exact others (List.mem_filter.1 hf).1

theorem order_eq (fs : Fields) (n : Nat) :
    (fs.order n).1 :: (fs.order n).2 = fs.numbered ++ [fs.exit n] := by
  unfold order
  split
  · next h => simp [h]
  · next h => simp [h]

/-- What holds of every range and of the end of the text holds of every stop. -/
theorem forall_order {P : Span → Prop} {fs : Fields} {n : Nat} (h : ∀ f ∈ fs, P f.2)
    (hn : P (.caret n)) : P (fs.order n).1 ∧ ∀ s ∈ (fs.order n).2, P s := by
  have get : ∀ {id s}, fs.get? id = some s → P s := by
    intro id s hs
    exact h _ (mem_of_get? hs)
  have exit : P (fs.exit n) := by
    unfold Fields.exit
    cases h₀ : fs.get? 0 with
    | none => exact hn
    | some s => exact get h₀
  have stops : ∀ s ∈ (fs.order n).1 :: (fs.order n).2, P s := by
    rw [order_eq]
    intro s hs
    rcases List.mem_append.1 hs with hs | hs
    · obtain ⟨id, -, hs⟩ := List.mem_filterMap.1 hs
      exact get hs
    · rw [List.mem_singleton.1 hs]
      exact exit
  exact List.forall_mem_cons.1 stops

theorem mem_insertId {id x : Int} {l : List Int} : x ∈ insertId id l ↔ x = id ∨ x ∈ l := by
  induction l with
  | nil => simp [insertId]
  | cons y l ih =>
    rw [insertId]
    split
    · simp
    · split
      · next h => simp [h]
      · simp only [List.mem_cons, ih]
        grind

theorem pairwise_insertId (id : Int) {l : List Int} (h : l.Pairwise (· < ·)) :
    (insertId id l).Pairwise (· < ·) := by
  induction l with
  | nil => simp [insertId]
  | cons y l ih =>
    obtain ⟨hy, hl⟩ := List.pairwise_cons.1 h
    rw [insertId]
    split
    · next hlt =>
      refine List.pairwise_cons.2 ⟨?_, h⟩
      intro x hx
      rcases List.mem_cons.1 hx with rfl | hx
      · exact hlt
      · exact Int.lt_trans hlt (hy x hx)
    · split
      · exact h
      · refine List.pairwise_cons.2 ⟨?_, ih hl⟩
        intro x hx
        rcases mem_insertId.1 hx with rfl | hx
        · omega
        · exact hy x hx

theorem mem_ids {fs : Fields} {id : Int} : id ∈ fs.ids ↔ ∃ f ∈ fs, f.1 = id := by
  induction fs with
  | nil => simp [ids]
  | cons f fs ih =>
    rw [ids, List.foldr_cons, mem_insertId, ← ids, ih]
    simp [eq_comm]

theorem pairwise_ids (fs : Fields) : fs.ids.Pairwise (· < ·) := by
  induction fs with
  | nil => exact List.Pairwise.nil
  | cons f fs ih => exact pairwise_insertId f.1 ih

theorem ids_congr {fs gs : Fields} (h : ∀ j, j ∈ fs.ids ↔ j ∈ gs.ids) : fs.ids = gs.ids :=
  (pairwise_ids fs).eq_of_mem_iff (pairwise_ids gs) h

theorem get?_cons (id : Int) (s : Span) (fs : Fields) (j : Int) :
    get? ((id, s) :: fs) j = if id = j then some s else fs.get? j := by
  by_cases h : id = j <;> simp [get?, h]

theorem get?_filter_ne {id j : Int} (h : id ≠ j) (fs : Fields) :
    get? (fs.filter (·.1 ≠ id)) j = fs.get? j := by
  induction fs with
  | nil => rfl
  | cons f fs ih =>
    obtain ⟨i, s⟩ := f
    by_cases hi : i = id
    · rw [List.filter_cons_of_neg (by simpa using hi), ih, get?_cons, if_neg (hi ▸ h)]
    · rw [List.filter_cons_of_pos (by simpa using hi), get?_cons, get?_cons, ih]

theorem mem_of_ne_filter {fs : Fields} {id j : Int} :
    (∃ f ∈ fs.filter (·.1 ≠ id), f.1 = j) ↔ j ≠ id ∧ ∃ f ∈ fs, f.1 = j := by
  constructor
  · rintro ⟨f, hf, rfl⟩
    obtain ⟨hf, hne⟩ := List.mem_filter.1 hf
    exact ⟨by simpa using hne, f, hf, rfl⟩
  · rintro ⟨hne, f, hf, rfl⟩
    exact ⟨f, List.mem_filter.2 ⟨hf, by simpa using hne⟩, rfl⟩

theorem exists_get? {fs : Fields} {id : Int} (h : ∃ f ∈ fs, f.1 = id) :
    ∃ s, fs.get? id = some s := by
  obtain ⟨f, hm, hf⟩ := h
  cases hg : fs.find? (·.1 = id) with
  | none => exact absurd hf (by simpa using List.find?_eq_none.1 hg f hm)
  | some g => exact ⟨g.2, by rw [get?, hg, Option.map_some]⟩

theorem exists_ofPieces {j : Int} {k : Nat} {ps : List Piece} :
    (∃ f ∈ ofPieces k ps, f.1 = j) ↔ ∃ d ∈ ps.filterMap Piece.id?, (d : Int) = j := by
  induction ps generalizing k with
  | nil => simp [ofPieces]
  | cons p ps ih =>
    rw [ofPieces]
    cases hp : p.id? with
    | none => rw [List.filterMap_cons_none hp, ih]
    | some d =>
      rw [List.filterMap_cons_some hp]
      simp only [List.mem_cons, exists_eq_or_imp]
      rw [mem_of_ne_filter, ih]
      by_cases hj : (d : Int) = j
      · simp [hj]
      · simp [hj, Ne.symm hj]

/-- The numbers of the fields are those in the pieces. -/
theorem mem_ids_ofPieces {j : Int} {k : Nat} {ps : List Piece} :
    j ∈ (ofPieces k ps).ids ↔ ∃ d ∈ ps.filterMap Piece.id?, (d : Int) = j :=
  mem_ids.trans exists_ofPieces

/-- Each field has one range. -/
theorem nodup_ofPieces (k : Nat) (ps : List Piece) : ((ofPieces k ps).map Prod.fst).Nodup := by
  induction ps generalizing k with
  | nil => exact List.nodup_nil
  | cons p ps ih =>
    rw [ofPieces]
    cases p.id? with
    | none => exact ih _
    | some d =>
      refine List.nodup_cons.2 ⟨?_, (ih _).sublist (List.filter_sublist.map Prod.fst)⟩
      intro hm
      obtain ⟨f, hf, hd⟩ := List.mem_map.1 hm
      exact (mem_of_ne_filter.1 ⟨f, hf, hd⟩).1 rfl

end Fields

namespace Expansion

theorem remaining_ne_nil {raw : Text} {p : Piece} {id : Nat} (hp : p ∈ Piece.readAll raw)
    (hid : p.id? = some id) (h₀ : 0 < id) : (ofText raw).remaining ≠ [] := by
  have hf : ∃ f ∈ Fields.ofPieces 0 (Piece.readAll raw), f.1 = (id : Int) :=
    Fields.exists_ofPieces.2 ⟨id, List.mem_filterMap.2 ⟨p, hp, hid⟩, rfl⟩
  obtain ⟨s, hs⟩ := Fields.exists_get? hf
  have hn : s ∈ (Fields.ofPieces 0 (Piece.readAll raw)).numbered :=
    List.mem_filterMap.2 ⟨id, List.mem_filter.2 ⟨Fields.mem_ids.2 hf, by simp; omega⟩, hs⟩
  simp only [ofText, ofPieces, Fields.order]
  split
  · next hq =>
    rw [hq] at hn
    contradiction
  · simp

/-- Every stop of an expansion lies in its text. -/
theorem within_ofText (raw : Text) : (ofText raw).entry.Within (ofText raw).text.length ∧
    ∀ s ∈ (ofText raw).remaining, s.Within (ofText raw).text.length := by
  apply Fields.forall_order (P := (·.Within ((Piece.readAll raw).flatMap Piece.text).length))
  · intro f hf
    have := Fields.within_ofPieces 0 _ f hf
    simp only [Span.Within, Span.Proper]
    omega
  · exact Span.within_caret (by omega) (by omega)

end Expansion

end LatexSnippets
