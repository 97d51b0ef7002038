import LatexSnippets.Expr.Token
import LatexSnippets.Proofs.Numeral
import LatexSnippets.Proofs.Unicode.Case

/-!
Tokens written down and read again. Whatever blanks stand around them, tokens are read as they are
written, as long as no digit or name runs into the token after it.
-/

namespace LatexSnippets

namespace Unicode

/-- A blank is no part of a number or a name. -/
theorem isDecimal_isWord_of_isBlank {c : Char} (h : isBlank c = true) :
    isDecimal c = false ∧ isWord c = false := by
  exact forall_isBlank (P := fun c => isDecimal c = false ∧ isWord c = false)
    (by decide +kernel) h

end Unicode

namespace Expr

open Unicode

variable {c : Char} {t u raw after : Text} {tok : Token} {ts : List Token}

namespace Token

/-- What stands between quotes for a text. -/
def escape (t : Text) : Text := t.flatMap fun c => if c = '"' ∨ c = '\\' then ['\\', c] else [c]

theorem escape_cons (c : Char) (t : Text) :
    escape (c :: t) = (if c = '"' ∨ c = '\\' then ['\\', c] else [c]) ++ escape t := rfl

theorem unescape_escape (t : Text) : unescape (escape t) = t := by
  induction t with
  | nil => rfl
  | cons c t ih =>
    rw [escape_cons]
    split
    · simp [unescape, ih]
    · next h =>
      rw [not_or] at h
      rw [List.singleton_append, unescape, ih]
      exact fun _ _ hc => absurd hc h.2

theorem readQuoted_escape (t after : Text) :
    readQuoted (escape t ++ '"' :: after) = some (escape t, after) := by
  induction t with
  | nil => rw [escape, List.flatMap_nil, List.nil_append, readQuoted]
  | cons c t ih =>
    rw [escape_cons]
    split
    · next h =>
      have hn : c ≠ '\n' := by
        rintro rfl
        simp at h
      simp [readQuoted, hn, ih]
    · next h =>
      rw [not_or] at h
      rw [List.append_assoc, List.singleton_append, readQuoted, ih]
      · rfl
      · exact fun hc _ => absurd hc h.2
      · exact h.1
      · exact fun _ _ hc => absurd hc h.2

/-- Nothing that follows runs into a token before it. -/
def Bounds (after : Text) : Prop := ∀ c ∈ after.head?, isDecimal c = false ∧ isWord c = false

theorem span_append {p : Char → Bool} (ht : ∀ c ∈ t, p c = true)
    (ha : ∀ c ∈ after.head?, p c = false) :
    (t ++ after).takeWhile p = t ∧ (t ++ after).dropWhile p = after := by
  rw [List.takeWhile_append_of_pos ht, List.dropWhile_append_of_pos ht]
  cases after with
  | nil => simp
  | cons c after => simp [ha c rfl]

theorem read?_int (hc : c.isDigit = true) (ht : ∀ d ∈ t, d.isDigit = true) (ha : Bounds after) :
    read? (c :: t ++ after) = some (.int (c :: t), after) := by
  obtain ⟨htake, hdrop⟩ := span_append (fun d hd => Numeral.isDecimal_of_isDigit (ht d hd))
    fun d hd => (ha d hd).1
  rw [List.cons_append, read?, if_pos (Numeral.isDecimal_of_isDigit hc), htake, hdrop]
  · rintro rfl
    contradiction
  · rintro _ rfl
    contradiction

theorem read?_capture (hc : c.isDigit = true) (ht : ∀ d ∈ t, d.isDigit = true) (after : Text) :
    read? ('[' :: '[' :: (c :: t ++ [']', ']']) ++ after) = some (.capture (c :: t), after) := by
  have hd : ∀ d ∈ c :: t, isDecimal d = true :=
    List.forall_mem_cons.2 ⟨Numeral.isDecimal_of_isDigit hc,
      fun d hd => Numeral.isDecimal_of_isDigit (ht d hd)⟩
  have ha : ∀ d ∈ (']' :: ']' :: after).head?, isDecimal d = false := by
    rintro _ ⟨⟩
    rfl
  obtain ⟨htake, hdrop⟩ := span_append hd ha
  have hr : Placeholder.readCapture (c :: t ++ ([']', ']'] ++ after)) = some (c :: t, after) := by
    simp only [Placeholder.readCapture, List.cons_append, List.nil_append] at *
    rw [htake, hdrop]
    rfl
  rw [List.cons_append, List.cons_append, List.append_assoc, read?, hr]
  rfl

theorem read?_quoted (t after : Text) :
    read? ('"' :: (escape t ++ ['"']) ++ after) = some (.quoted (escape t), after) := by
  rw [List.cons_append, List.append_assoc, read?, List.singleton_append, readQuoted_escape]
  rfl

/-- Whether a text is read as one name. -/
def isName : Text → Bool
  | [] => false
  | c :: t => isNameStart c && !isDecimal c && !isBlank c && t.all isWord

theorem isName_name (f : Function) : isName f.name = true := by
  cases f with
  | conversion f => cases f <;> decide +kernel
  | repeated | zeros => decide +kernel

theorem isName_cons : isName (c :: t) = true ↔ isNameStart c = true ∧ isDecimal c = false ∧
    isBlank c = false ∧ ∀ d ∈ t, isWord d = true := by
  simp [isName, and_assoc]

theorem read?_name (ht : isName (c :: t) = true) (ha : Bounds after) :
    read? (c :: t ++ after) = some (.name (c :: t), after) := by
  obtain ⟨hs, hd, -, hw⟩ := isName_cons.1 ht
  obtain ⟨htake, hdrop⟩ := span_append hw fun d hd => (ha d hd).2
  rw [List.cons_append, read?, if_neg (by rw [hd]; decide), if_pos hs, htake, hdrop]
  · rintro rfl
    contradiction
  · rintro _ rfl
    contradiction

theorem read?_symbol (s : Symbol) (after : Text) :
    read? (s.text ++ after) = some (.symbol s, after) := by
  cases s <;> rfl

/-- A token as a printer writes it. -/
def IsPrinted : Token → Prop
  | .int digits | .capture digits => ∃ n, digits = Numeral.ofNat n
  | .quoted raw => ∃ t, raw = escape t
  | .name t => isName t = true
  | .symbol _ => True

/-- Whether digits or letters right behind the token would belong to it. -/
def runsOn : Token → Bool
  | .int _ | .name _ => true
  | _ => false

/-- Nothing or a symbol comes first. -/
def Stops : List Token → Prop
  | [] | .symbol _ :: _ => True
  | _ => False

/-- Printed tokens that can be told apart without blanks between them. -/
def Apart : List Token → Prop
  | [] => True
  | tok :: ts => tok.IsPrinted ∧ (tok.runsOn = true → Stops ts) ∧ Apart ts

/-- The tokens of a text, with any blanks around them. -/
inductive Shows : List Token → Text → Prop
  | nil {blanks : Text} (hb : ∀ c ∈ blanks, isBlank c = true) : Shows [] blanks
  | cons {blanks t : Text} {tok : Token} {ts : List Token} (hb : ∀ c ∈ blanks, isBlank c = true)
      (ht : Shows ts t) : Shows (tok :: ts) (blanks ++ tok.text ++ t)

theorem shows_spaced {blanks : Text} (hb : ∀ c ∈ blanks, isBlank c = true) (ts : List Token) :
    Shows ts (ts.flatMap fun tok => blanks ++ tok.text) := by
  induction ts with
  | nil => exact .nil nofun
  | cons tok ts ih => exact .cons hb ih

theorem isBlank_of_isDigit (h : c.isDigit = true) : isBlank c = false := by
  rw [Bool.eq_false_iff]
  intro hb
  have hd := (isDecimal_isWord_of_isBlank hb).1
  rw [Numeral.isDecimal_of_isDigit h] at hd
  contradiction

theorem IsPrinted.exists_text (h : tok.IsPrinted) : ∃ c t, tok.text = c :: t ∧ isBlank c = false := by
  cases tok with
  | int digits =>
    obtain ⟨n, rfl⟩ := h
    obtain ⟨c, t, ht, hc⟩ := Numeral.exists_ofNat n
    exact ⟨c, t, ht, isBlank_of_isDigit hc⟩
  | quoted raw => exact ⟨_, _, rfl, by decide⟩
  | capture digits => exact ⟨_, _, rfl, by decide⟩
  | name t =>
    cases t with
    | nil => contradiction
    | cons c t => exact ⟨c, t, rfl, (isName_cons.1 h).2.2.1⟩
  | symbol s => cases s <;> exact ⟨_, _, rfl, by decide⟩

theorem IsPrinted.read?_text (h : tok.IsPrinted) (ha : tok.runsOn = true → Bounds after) :
    read? (tok.text ++ after) = some (tok, after) := by
  cases tok with
  | int digits =>
    obtain ⟨n, rfl⟩ := h
    have hd : ∀ c ∈ Numeral.ofNat n, c.isDigit = true := fun _ => Numeral.isDigit_of_mem_ofNat
    obtain ⟨c, t, ht, -⟩ := Numeral.exists_ofNat n
    rw [ht, List.forall_mem_cons] at hd
    rw [text, ht, read?_int hd.1 hd.2 (ha rfl)]
  | quoted raw =>
    obtain ⟨t, rfl⟩ := h
    exact read?_quoted t after
  | capture digits =>
    obtain ⟨n, rfl⟩ := h
    have hd : ∀ c ∈ Numeral.ofNat n, c.isDigit = true := fun _ => Numeral.isDigit_of_mem_ofNat
    obtain ⟨c, t, ht, -⟩ := Numeral.exists_ofNat n
    rw [ht, List.forall_mem_cons] at hd
    rw [text, ht, read?_capture hd.1 hd.2]
  | name t =>
    cases t with
    | nil => contradiction
    | cons c t => exact read?_name h (ha rfl)
  | symbol s => exact read?_symbol s after

theorem bounds_blanks {blanks : Text} (hb : ∀ c ∈ blanks, isBlank c = true) (ha : Bounds after) :
    Bounds (blanks ++ after) := by
  cases blanks with
  | nil => exact ha
  | cons c blanks =>
    rintro _ ⟨⟩
    exact isDecimal_isWord_of_isBlank (hb c List.mem_cons_self)

theorem bounds_symbol (s : Symbol) (after : Text) : Bounds (s.text ++ after) := by
  cases s <;> rintro _ ⟨⟩ <;> decide

theorem Shows.bounds (h : Shows ts t) (hs : Stops ts) : Bounds t := by
  cases h with
  | nil hb =>
    rw [← List.append_nil t]
    exact bounds_blanks hb (by rintro _ ⟨⟩)
  | @cons blanks t tok ts hb ht =>
    cases tok with
    | symbol s =>
      rw [List.append_assoc]
      exact bounds_blanks hb (bounds_symbol s t)
    | _ => exact hs.elim

theorem readAll_cons {source blanks : Text} (hb : ∀ c ∈ blanks, isBlank c = true)
    (hc : isBlank c = false) (hr : read? (c :: t) = some (tok, after)) :
    readAll source (blanks ++ c :: t) = (readAll source after).map (tok :: ·) := by
  have ht : Text.trimLeft (blanks ++ c :: t) = c :: t := by
    rw [Text.trimLeft, List.dropWhile_append_of_pos hb, List.dropWhile_cons_of_neg (by simp [hc])]
  rw [readAll]
  split
  · next h => rw [ht] at h; contradiction
  · next h =>
    rw [ht] at h
    cases h
    split
    · next h => rw [hr] at h; contradiction
    · next h =>
      rw [hr] at h
      cases h
      rfl

theorem readAll_blanks {source blanks : Text} (hb : ∀ c ∈ blanks, isBlank c = true) :
    readAll source blanks = .ok [] := by
  have ht : Text.trimLeft blanks = [] := by
    rw [← List.append_nil blanks, Text.trimLeft, List.dropWhile_append_of_pos hb, List.dropWhile_nil]
  rw [readAll]
  split
  · rfl
  · next h => rw [ht] at h; contradiction

/-- Tokens that can be told apart are read as they are written. -/
theorem Shows.readAll {source : Text} (h : Shows ts t) (ha : Apart ts) :
    readAll source t = .ok ts := by
  induction h with
  | nil hb => exact readAll_blanks hb
  | @cons blanks t tok ts hb hs ih =>
    obtain ⟨hp, hr, ha⟩ := ha
    obtain ⟨c, u, hu, hc⟩ := hp.exists_text
    have hread := hp.read?_text fun hrun => hs.bounds (hr hrun)
    rw [hu] at hread
    rw [List.append_assoc, hu]
    exact (readAll_cons hb hc hread).trans (by rw [ih ha]; rfl)

end Token

end Expr

end LatexSnippets
