import LatexSnippets.Proofs.Assoc
import LatexSnippets.Proofs.Json.Writing
import LatexSnippets.Store.Basic

/-!
What a file holds for a store: the strings of a JSON object. What was written for a table is read
back as that table.
-/

namespace LatexSnippets

namespace Json

def text? : Json → Option Text
  | .text t => some t
  | _ => none

/-- The string that a document has by a name: the last value of the name in an object, if that is a
string. -/
def string? : Json → Text → Option Text
  | .object ms, k => (Assoc.get? ms.reverse k).bind text?
  | _, _ => none

/-- The names in an object, each where it first stands. -/
def names : Json → List Text
  | .object ms => (Assoc.keys ms).eraseDups
  | _ => []

end Json

namespace Store

/-- That a table holds the strings of a document and nothing else, in the order of their names. -/
structure Contributes (v : Json) (entries : Assoc Text) : Prop where
  get? : ∀ k, entries.get? k = v.string? k
  keys : entries.keys = v.names.filter fun k => (v.string? k).isSome
  nodup : entries.keys.Nodup

section Texts

variable {m : Assoc Json} {v : Json} {k t : Text}

theorem texts_cons_some (h : v.text? = some t) (k : Text) (m : Assoc Json) :
    texts ((k, v) :: m) = (k, t) :: texts m := by
  cases v with
  | text t' =>
    obtain rfl := Option.some.inj h
    rfl
  | _ => contradiction

theorem texts_cons_none (h : v.text? = none) (k : Text) (m : Assoc Json) :
    texts ((k, v) :: m) = texts m := by
  cases v with
  | text t => contradiction
  | _ => rfl

theorem keys_texts_sublist (m : Assoc Json) : (texts m).keys.Sublist m.keys := by
  induction m with
  | nil => exact .slnil
  | cons e m ih =>
    obtain ⟨k, v⟩ := e
    cases h : v.text? with
    | none =>
      rw [texts_cons_none h]
      exact ih.cons k
    | some t =>
      rw [texts_cons_some h]
      exact ih.cons_cons k

theorem get?_texts (h : m.keys.Nodup) (k : Text) :
    (texts m).get? k = (m.get? k).bind Json.text? := by
  induction m with
  | nil => rfl
  | cons e m ih =>
    obtain ⟨k', v⟩ := e
    rw [Assoc.keys_cons, List.nodup_cons] at h
    rw [Assoc.get?_cons]
    cases hv : v.text? with
    | none =>
      rw [texts_cons_none hv, ih h.2]
      split
      · next hk =>
        subst hk
        rw [Assoc.get?_eq_none h.1, Option.bind_some, hv]
        rfl
      · rfl
    | some t =>
      rw [texts_cons_some hv, Assoc.get?_cons, ih h.2]
      split
      · rw [Option.bind_some, hv]
      · rfl

theorem keys_texts (h : m.keys.Nodup) :
    (texts m).keys = m.keys.filter fun k => ((m.get? k).bind Json.text?).isSome := by
  induction m with
  | nil => rfl
  | cons e m ih =>
    obtain ⟨k, v⟩ := e
    rw [Assoc.keys_cons, List.nodup_cons] at h
    have hm : (Assoc.keys m).filter
        (fun k' => ((Assoc.get? ((k, v) :: m) k').bind Json.text?).isSome) = (texts m).keys := by
      rw [ih h.2]
      refine List.filter_congr fun k' hk' => ?_
      rw [Assoc.get?_cons, if_neg]
      rintro rfl
      exact h.1 hk'
    rw [Assoc.keys_cons, List.filter_cons, hm, Assoc.get?_cons, if_pos rfl, Option.bind_some]
    cases hv : v.text? with
    | none =>
      rw [texts_cons_none hv]
      rfl
    | some t =>
      rw [texts_cons_some hv]
      rfl

end Texts

theorem contributes_entriesOf (v : Json) : Contributes v (entriesOf v) := by
  cases v with
  | object ms =>
    have hn : (Json.members ms).keys.Nodup := Assoc.nodup_ofEntries ms
    refine ⟨fun k => ?_, ?_, hn.sublist (keys_texts_sublist _)⟩
    · rw [entriesOf, get?_texts hn, Json.members, Assoc.get?_ofEntries]
      rfl
    · rw [entriesOf, keys_texts hn, Json.members, Assoc.keys_ofEntries]
      simp only [Assoc.get?_ofEntries]
      rfl
  | _ => exact ⟨fun _ => rfl, rfl, List.nodup_nil⟩

section Encoding

variable {levels : Nat} {entries : Assoc Text}

theorem fromUTF8?_toUTF8 (s : String) : String.fromUTF8? s.toUTF8 = some s := by
  rw [String.fromUTF8?, dif_pos (show s.toUTF8.IsValidUTF8 from s.isValidUTF8)]
  rfl

theorem decode_write {v : Json} (h : v.Fits (dialect levels).depth) :
    decode levels (String.ofList (Json.write true v ++ ['\n'])).toUTF8 = .ok (some (entriesOf v)) := by
  have hb : Json.Blanks ['\n'] [] := ⟨['\n'], rfl, by simp [Json.Reader.isBlank]⟩
  have hr := (Json.isDocument_write (dialect levels) true v hb).gives.eq_ok h
  simp only [decode, fromUTF8?_toUTF8, String.toList_ofList, hr]

/-- What the file of a table holds is decoded to that table. -/
theorem decode_encode (h : entries.keys.Nodup) :
    decode levels (encode entries) = .ok (some entries) := by
  rw [encode, decode_write, entriesOf, Json.members, Assoc.ofEntries_of_nodup, texts,
    List.filterMap_map]
  · exact congrArg (fun l => Except.ok (some l)) List.filterMap_some
  · rw [Assoc.keys, List.map_map]
    exact h
  · refine .object fun m hm => ?_
    obtain ⟨e, -, rfl⟩ := List.mem_map.1 hm
    exact .text e.2

end Encoding

end Store

end LatexSnippets
