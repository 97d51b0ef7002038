import Mathlib.Data.List.Induction
import LatexSnippets.Assoc

/-!
Tables by their keys: what setting and removing an entry does to them.
-/

namespace LatexSnippets

namespace Assoc

variable {α : Type} {m : Assoc α} {k : Text} {v : α}

@[simp] theorem keys_nil : keys ([] : Assoc α) = [] := rfl

@[simp] theorem keys_cons (e : Text × α) (m : Assoc α) : keys (e :: m) = e.1 :: keys m := rfl

theorem keys_append (m l : Assoc α) : keys (m ++ l) = m.keys ++ l.keys := List.map_append

theorem put_of_not_mem (h : k ∉ m.keys) : m.put k v = m ++ [(k, v)] := by
  induction m with
  | nil => rfl
  | cons e m ih =>
    rw [keys_cons, List.mem_cons, not_or] at h
    rw [put, if_neg (Ne.symm h.1), ih h.2, List.cons_append]

theorem keys_put_of_mem (h : k ∈ m.keys) : (m.put k v).keys = m.keys := by
  induction m with
  | nil => cases h
  | cons e m ih =>
    rw [put]
    split
    · next he => rw [keys_cons, keys_cons, he]
    · next he => rw [keys_cons, keys_cons, ih ((List.mem_cons.1 h).resolve_left (Ne.symm he))]

theorem keys_put (m : Assoc α) (k : Text) (v : α) :
    (m.put k v).keys = if k ∈ m.keys then m.keys else m.keys ++ [k] := by
  split
  · next h => exact keys_put_of_mem h
  · next h =>
    rw [put_of_not_mem h, keys_append]
    rfl

theorem mem_keys_put {k' : Text} (h : k' ∈ (m.put k v).keys) : k' ∈ m.keys ∨ k' = k := by
  rw [keys_put] at h
  split at h
  · exact .inl h
  · simpa using h

theorem nodup_put (h : m.keys.Nodup) : (m.put k v).keys.Nodup := by
  rw [keys_put]
  split
  · exact h
  · next hk =>
    rw [List.nodup_append]
    exact ⟨h, by simp, fun a ha b hb he => hk (by rwa [← List.mem_singleton.1 hb, ← he])⟩

theorem keys_erase_sublist (m : Assoc α) (k : Text) : (m.erase k).keys.Sublist m.keys :=
  List.filter_sublist.map _

theorem get?_cons (e : Text × α) (m : Assoc α) (k : Text) :
    get? (e :: m) k = if e.1 = k then some e.2 else m.get? k := by
  rw [get?, List.find?_cons]
  by_cases h : e.1 = k <;> simp [h, get?]

theorem get?_put_self (m : Assoc α) (k : Text) (v : α) : (m.put k v).get? k = some v := by
  induction m with
  | nil => simp [put, get?_cons]
  | cons e m ih =>
    rw [put]
    split
    · simp [get?_cons]
    · next h => rw [get?_cons, if_neg h, ih]

theorem get?_put_of_ne {k' : Text} (h : k ≠ k') (m : Assoc α) (v : α) :
    (m.put k v).get? k' = m.get? k' := by
  induction m with
  | nil => simp [put, get?_cons, h]
  | cons e m ih =>
    rw [put]
    split
    · next he => rw [get?_cons, get?_cons, if_neg h, if_neg (he ▸ h)]
    · rw [get?_cons, get?_cons, ih]

theorem get?_erase_of_ne {k' : Text} (h : k ≠ k') (m : Assoc α) :
    (m.erase k).get? k' = m.get? k' := by
  induction m with
  | nil => rfl
  | cons e m ih =>
    rw [erase] at ih ⊢
    rw [List.filter_cons]
    split
    · rw [get?_cons, get?_cons, ih]
    · next he =>
      rw [ih, get?_cons, if_neg]
      rw [show e.1 = k by simpa using he]
      exact h

theorem get?_eq_none (h : k ∉ m.keys) : m.get? k = none := by
  rw [get?, Option.map_eq_none_iff, List.find?_eq_none]
  intro e he hk
  exact h (of_decide_eq_true hk ▸ List.mem_map_of_mem he)

theorem ofEntries_concat (entries : List (Text × α)) (e : Text × α) :
    ofEntries (entries ++ [e]) = (ofEntries entries).put e.1 e.2 := by
  rw [ofEntries, List.foldl_append]
  rfl

/-- Where a key occurs twice, the last value counts. -/
theorem get?_ofEntries (entries : List (Text × α)) (k : Text) :
    (ofEntries entries).get? k = get? entries.reverse k := by
  induction entries using List.reverseRecOn with
  | nil => rfl
  | append_singleton entries e ih =>
    rw [ofEntries_concat, List.reverse_append, List.reverse_singleton, List.singleton_append,
      get?_cons]
    split
    · next h => rw [h, get?_put_self]
    · next h => rw [get?_put_of_ne h, ih]

/-- Keys stand where they first occurred. -/
theorem keys_ofEntries (entries : List (Text × α)) :
    (ofEntries entries).keys = (keys entries).eraseDups := by
  induction entries using List.reverseRecOn with
  | nil => rfl
  | append_singleton entries e ih =>
    rw [ofEntries_concat, keys_put, ih, keys_append, List.eraseDups_append]
    by_cases h : e.1 ∈ keys entries
    · simp [List.removeAll, h]
    · simp [List.removeAll, h, List.eraseDups_cons]

theorem nodup_ofEntries (entries : List (Text × α)) : (ofEntries entries).keys.Nodup := by
  induction entries using List.reverseRecOn with
  | nil => exact List.nodup_nil
  | append_singleton entries e ih =>
    rw [ofEntries_concat]
    exact nodup_put ih

/-- Entries with different keys are a table as they stand. -/
theorem ofEntries_of_nodup {entries : Assoc α} (h : entries.keys.Nodup) :
    ofEntries entries = entries := by
  have hf : ∀ m : Assoc α, (m ++ entries).keys.Nodup →
      entries.foldl (fun m e => m.put e.1 e.2) m = m ++ entries := by
    clear h
    induction entries with
    | nil => simp
    | cons e entries ih =>
      intro m hm
      have he : e.1 ∉ m.keys := by
        rw [keys_append, List.nodup_append] at hm
        exact fun hk => hm.2.2 _ hk _ List.mem_cons_self rfl
      rw [List.foldl_cons, put_of_not_mem he, ih _ (by rwa [List.append_assoc]),
        List.append_assoc, List.singleton_append]
  exact hf [] h

end Assoc

end LatexSnippets
