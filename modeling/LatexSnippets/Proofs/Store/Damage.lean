import LatexSnippets.Proofs.Json.Limits
import LatexSnippets.Proofs.Store.Requests

/-!
Files with any content. What is no document counts as an empty store and is reported; a document
contributes its strings. Only what is not UTF-8, or goes beyond the limits of the reader, makes
requests fail.
-/

namespace LatexSnippets.Store

section Loading

variable {path : Path} {levels : Nat} {tree : FileTree} {content : ByteArray} {s : String}
  {e : StoreError}

/-- What fails is only what is not UTF-8 or goes beyond the limits of the reader. -/
theorem decode_eq_error_iff : (∃ e, decode levels content = .error e) ↔
    String.fromUTF8? content = none ∨
      ∃ s, String.fromUTF8? content = some s ∧ Json.Exceeds (dialect levels) s := by
  cases hs : String.fromUTF8? content with
  | none => simp [decode, hs]
  | some s =>
    have hd : (∃ e, decode levels content = .error e) ↔
        Json.Refused (Json.read (dialect levels) s) := by
      rw [decode, hs, Json.Refused]
      cases hr : Json.read (dialect levels) s with
      | ok v => simp [hr]
      | error e => cases e <;> simp [hr]
    rw [hd, Json.refused_iff]
    simp

end Loading

end LatexSnippets.Store
