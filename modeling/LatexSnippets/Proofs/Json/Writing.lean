import LatexSnippets.Json.Writer
import LatexSnippets.Proofs.Json.Grammar

/-!
What is written as JSON goes by the grammar, and is read back: texts through their code units,
numbers through their digits, and arrays and objects as deep as the dialect allows.
-/

namespace LatexSnippets.Json

open Reader

section Texts

/-- The code units that a character of a string is written as. -/
def codeUnits (ascii : Bool) (c : Char) : List Nat :=
  if ascii && 0x10000 ≤ c.toNat then
    [0xD800 + (c.toNat - 0x10000) / 0x400, 0xDC00 + (c.toNat - 0x10000) % 0x400]
  else [c.toNat]

theorem hexValue?_hexDigit (n : Nat) : hexValue? (Text.hexDigit n) = some (n % 16) := by
  have h : ∀ d < 16, hexValue? (Nat.digitChar d) = some d := by decide
  exact h (n % 16) (Nat.mod_lt n (by decide))

variable {n : Nat} {c : Char} {t u : Text} {ns : List Nat} {ascii halves : Bool}

theorem unit_append (n : Nat) (t : Text) :
    Writer.unit n ++ t = '\\' :: 'u' :: Text.hexDigit (n / 16 / 16 / 16) ::
      Text.hexDigit (n / 16 / 16) :: Text.hexDigit (n / 16) :: Text.hexDigit n :: t := rfl

theorem Units.unit_write (hn : n < 0x10000) (h : Units t ns u) :
    Units (Writer.unit n ++ t) (n :: ns) u := by
  have hu : (((n / 16 / 16 / 16 % 16) * 16 + n / 16 / 16 % 16) * 16 + n / 16 % 16) * 16 + n % 16 =
      n := by
    omega
  rw [unit_append]
  refine .unit ?_ h
  simp only [unit?, hexValue?_hexDigit, Option.bind_eq_bind, Option.bind_some, hu, pure]

theorem codeUnits_of_lt (h : c.toNat < 0x10000) : codeUnits ascii c = [c.toNat] := by
  rw [codeUnits, if_neg]
  simp [Nat.not_le.2 h]

theorem toNat_bounds (c : Char) : c.toNat < 0xD800 ∨ 0xDFFF < c.toNat ∧ c.toNat < 0x110000 :=
  c.valid

theorem Units.char_write (ascii : Bool) (c : Char) (h : Units t ns u) :
    Units (Writer.char ascii c ++ t) (codeUnits ascii c ++ ns) u := by
  have hb := toNat_bounds c
  have escaped : ∀ {e c' : Char}, c = c' → escaped? e = some c' → c'.toNat < 0x10000 →
      Units (['\\', e] ++ t) (codeUnits ascii c ++ ns) u := by
    rintro e _ rfl he hc
    rw [codeUnits_of_lt hc]
    exact .escape he h
  rw [Writer.char]
  split
  · exact escaped ‹_› rfl (by decide)
  split
  · exact escaped ‹_› rfl (by decide)
  split
  · exact escaped ‹_› rfl (by decide)
  split
  · exact escaped ‹_› rfl (by decide)
  split
  · exact escaped ‹_› rfl (by decide)
  split
  · exact escaped ‹_› rfl (by decide)
  split
  · exact escaped ‹_› rfl (by decide)
  -- The characters without an escape of their own: below a blank, plain, in one unit, in two.
  split
  · rw [codeUnits_of_lt (by omega)]
    exact h.unit_write (by omega)
  split
  · next hp =>
    have hc : codeUnits ascii c = [c.toNat] := by
      rcases Bool.or_eq_true_iff.1 hp with ha | hl
      · simp only [Bool.not_eq_eq_eq_not, Bool.not_true] at ha
        simp [codeUnits, ha]
      · exact codeUnits_of_lt (Nat.lt_trans (of_decide_eq_true hl) (by decide))
    rw [hc]
    exact .plain ‹_› ‹_› (by omega) h
  split
  · rw [codeUnits_of_lt ‹_›]
    exact h.unit_write ‹_›
  · next ha _ =>
    have ha : ascii = true := by simp at ha; exact ha.1
    rw [codeUnits, if_pos (by simp [ha]; omega), List.append_assoc]
    exact .unit_write (by omega) (.unit_write (by omega) h)

theorem units_write (ascii : Bool) (t u : Text) :
    Units (t.flatMap (Writer.char ascii) ++ '"' :: u) (t.flatMap (codeUnits ascii)) u := by
  induction t with
  | nil => exact .quote
  | cons c t ih =>
    rw [List.flatMap_cons, List.append_assoc, List.flatMap_cons]
    exact .char_write ascii c ih

theorem joinHalves_cons (hh : isHigh n = false) (hl : isLow n = false) :
    joinHalves halves (n :: ns) = (joinHalves halves ns).map (Char.ofNat n :: ·) := by
  cases ns with
  | nil => simp [joinHalves, hh, hl]
  | cons m ns => simp [joinHalves, hh, hl]

theorem joinHalves_pair {m : Nat} (hh : isHigh n = true) (hl : isLow m = true) :
    joinHalves halves (n :: m :: ns) =
      (joinHalves halves ns).map
        (Char.ofNat (0x10000 + (n - 0xD800) * 0x400 + (m - 0xDC00)) :: ·) := by
  simp [joinHalves, hh, hl]

theorem joinHalves_codeUnits (c : Char) :
    joinHalves halves (codeUnits ascii c ++ ns) = (joinHalves halves ns).map (c :: ·) := by
  have hb := toNat_bounds c
  rw [codeUnits]
  split
  · next hc =>
    simp only [Bool.and_eq_true, decide_eq_true_eq] at hc
    rw [List.cons_append, List.singleton_append, joinHalves_pair]
    · rw [show 0x10000 + (0xD800 + (c.toNat - 0x10000) / 0x400 - 0xD800) * 0x400 +
        (0xDC00 + (c.toNat - 0x10000) % 0x400 - 0xDC00) = c.toNat by omega, Char.ofNat_toNat]
    · simp [isHigh]
      omega
    · simp [isLow]
      omega
  · rw [List.singleton_append, joinHalves_cons, Char.ofNat_toNat]
    · simp [isHigh]
      omega
    · simp [isLow]
      omega

theorem joinHalves_string (ascii halves : Bool) (t : Text) :
    joinHalves halves (t.flatMap (codeUnits ascii)) = some t := by
  induction t with
  | nil => rfl
  | cons c t ih => rw [List.flatMap_cons, joinHalves_codeUnits, ih, Option.map_some]

theorem quoted_write (d : Dialect) (ascii : Bool) (t u : Text) :
    Quoted d (t.flatMap (Writer.char ascii) ++ '"' :: u) t u :=
  ⟨_, units_write ascii t u, joinHalves_string ascii _ t⟩

end Texts

section Numbers

theorem isDigits_ofNat (n : Nat) : IsDigits (Numeral.ofNat n) :=
  ⟨Numeral.ofNat_ne_nil n, fun _ => Numeral.isDigit_of_mem_ofNat⟩

theorem isWhole_ofNat (n : Nat) : IsWhole (Numeral.ofNat n) := by
  by_cases h : (Numeral.ofNat n).head? = some '0'
  · rw [Numeral.eq_zero_of_head?_ofNat h]
    exact .inl rfl
  · exact .inr ⟨isDigits_ofNat n, h⟩

theorem valueOf_ofNat (n : Nat) : valueOf (Numeral.ofNat n) = n := Numeral.ofDigits_ofNat n

theorem number_ofNat (negative : Bool) (n : Nat) :
    Number (sign negative ++ Numeral.ofNat n) (.int (if negative then -(n : Int) else n)) := by
  simpa [numberOf, valueOf_ofNat] using Number.mk negative (isWhole_ofNat n) .nothing .nothing

theorem number_ofInt (n : Int) : Number (Numeral.ofInt n) (.int n) := by
  cases n with
  | ofNat n => exact number_ofNat false n
  | negSucc n => exact number_ofNat true (n + 1)

theorem signed_ofInt (n : Int) : Signed (Numeral.ofInt n) n := by
  cases n with
  | ofNat n =>
    have h := Signed.plain (isDigits_ofNat n)
    rwa [valueOf_ofNat] at h
  | negSucc n =>
    have h := Signed.minus (isDigits_ofNat (n + 1))
    rwa [valueOf_ofNat] at h

theorem number_decimal (negative : Bool) (digits : Nat) (exponent : Int) :
    Number (Writer.decimal negative digits exponent) (.decimal negative digits exponent) := by
  have h := Number.mk negative (isWhole_ofNat digits) .nothing
    (.power (.inl rfl) (signed_ofInt exponent))
  simpa [sign, numberOf, valueOf_ofNat, Writer.decimal] using h

end Numbers

section Values

variable {d : Dialect} {ascii : Bool} {level : Nat}

theorem blanks_newline (level : Nat) (t : Text) : Blanks (Writer.newline level ++ t) t := by
  refine ⟨_, rfl, fun c h => ?_⟩
  rcases List.mem_cons.1 h with rfl | h
  · rfl
  · rw [List.eq_of_mem_replicate h]
    rfl

/-- Items between brackets, with what follows them. -/
theorem block_append (level : Nat) (opening closing : Char) (piece : Text) (pieces : List Text)
    (u : Text) : Writer.block level opening closing (piece :: pieces) ++ u =
      opening :: (Writer.newline (level + 1) ++
        (Text.joinWith (',' :: Writer.newline (level + 1)) (piece :: pieces) ++
          (Writer.newline level ++ closing :: u))) := by
  simp [Writer.block]

/-- That what is written for a value goes by the grammar. -/
def Written (d : Dialect) (ascii : Bool) (v : Json) : Prop :=
  ∀ level u, Spells d (.value v) (Writer.value ascii level v ++ u) u

theorem spells_items {v : Json} {vs : List Json} (h : ∀ w ∈ v :: vs, Written d ascii w)
    (level close : Nat) (u : Text) :
    Spells d (.items (v :: vs)) (Writer.newline level ++
      (Text.joinWith (',' :: Writer.newline level) (Writer.items ascii level (v :: vs)) ++
        (Writer.newline close ++ ']' :: u))) u := by
  induction vs generalizing v with
  | nil =>
    rw [Writer.items, Writer.items, Text.joinWith, List.intercalate_singleton]
    exact .lastItem (blanks_newline level _) (h v (by simp) level _) (blanks_newline close _)
  | cons w vs ih =>
    rw [Writer.items, Writer.items, Text.joinWith, List.intercalate_cons_cons, List.append_assoc,
      List.append_assoc, List.cons_append]
    exact .item (blanks_newline level _) (h v (by simp) level _) (.refl _)
      (ih fun v hv => h v (.tail _ hv))

theorem named_write (d : Dialect) (ascii : Bool) {t : Text} (s u : Text)
    (h : Blanks t (Writer.string ascii s ++ ':' :: u)) : Named d t s u := by
  rw [Writer.string, List.cons_append, List.append_assoc] at h
  exact ⟨_, _, h, quoted_write d ascii s _, .refl _⟩

theorem spells_members {m : Text × Json} {ms : List (Text × Json)}
    (h : ∀ e ∈ m :: ms, Written d ascii e.2) (level close : Nat) (u : Text) :
    Spells d (.members (m :: ms)) (Writer.newline level ++
      (Text.joinWith (',' :: Writer.newline level) (Writer.members ascii level (m :: ms)) ++
        (Writer.newline close ++ '\x7d' :: u))) u := by
  have hb : ∀ t, Blanks (' ' :: t) t := fun t => ⟨[' '], rfl, by simp [isBlank]⟩
  induction ms generalizing m with
  | nil =>
    rw [Writer.members, Writer.members, Text.joinWith, List.intercalate_singleton,
      List.append_assoc, List.append_assoc]
    exact .lastMember (named_write d ascii m.1 _ (blanks_newline level _)) (hb _)
      (h m (by simp) level _) (blanks_newline close _)
  | cons e ms ih =>
    rw [Writer.members, Writer.members, Text.joinWith, List.intercalate_cons_cons,
      List.append_assoc, List.append_assoc, List.append_assoc, List.append_assoc]
    exact .member (named_write d ascii m.1 _ (blanks_newline level _)) (hb _)
      (h m (by simp) level _) (.refl _) (ih fun e he => h e (.tail _ he))

theorem written (d : Dialect) (ascii : Bool) (v : Json) : Written d ascii v := by
  intro level u
  match v with
  | .null => exact .scalar (.word (w := "null") (by simp [words]))
  | .bool true => exact .scalar (.word (w := "true") (by simp [words]))
  | .bool false => exact .scalar (.word (w := "false") (by simp [words]))
  | .int n => exact .scalar (.number (number_ofInt n))
  | .decimal negative digits exponent =>
    exact .scalar (.number (number_decimal negative digits exponent))
  | .notFinite => exact .scalar (.word (w := "NaN") (by simp [words]))
  | .text t =>
    rw [Writer.value, Writer.string, List.cons_append, List.append_assoc]
    exact .scalar (.string (quoted_write d ascii t u))
  | .array [] => exact .emptyArray (.refl _)
  | .array (v :: vs) =>
    rw [Writer.value, Writer.items, block_append]
    exact .array (spells_items (fun w hw => written d ascii w) (level + 1) level u)
  | .object [] => exact .emptyObject (.refl _)
  | .object (m :: ms) =>
    rw [Writer.value, Writer.members, block_append]
    exact .object (spells_members (fun e he => written d ascii e.2) (level + 1) level u)
termination_by v
decreasing_by
  · have := List.sizeOf_lt_of_mem hw
    simp only [Json.array.sizeOf_spec]
    omega
  · have := List.sizeOf_lt_of_mem he
    have : sizeOf e.2 < sizeOf e := by
      cases e
      simp only [Prod.mk.sizeOf_spec]
      omega
    simp only [Json.object.sizeOf_spec]
    omega

/-- What is written, with blanks behind it, is a document. -/
theorem isDocument_write (d : Dialect) (ascii : Bool) (v : Json) {u : Text} (hu : Blanks u []) :
    IsDocument d (write ascii v ++ u) v :=
  ⟨_, u, .refl _, written d ascii v 0 u, hu⟩

/-- What is written is read back, in either spelling of texts and in every dialect that allows the
depth. -/
theorem read_write (ascii : Bool) {v : Json} (h : v.Fits d.depth) :
    read d (write ascii v) = .ok v := by
  have hd := (isDocument_write d ascii v (.refl [])).gives.eq_ok h
  rwa [List.append_nil] at hd

end Values

end LatexSnippets.Json
