import LatexSnippets.Key.Combination
import LatexSnippets.Proofs.Unicode.Case

/-!
The spelling of key combinations. An identifier is the identifier of itself, unless it is a name
without modifiers that begins with a blank: reading it again takes that off.
-/

namespace LatexSnippets

namespace Text

open Unicode

variable {sep : Char} {t head tail : Text}

/-- Whether a text begins with a blank. -/
def startsBlank (t : Text) : Bool := t.head?.any isBlank

/-- Whether a text ends with a blank. -/
def endsBlank (t : Text) : Bool := t.getLast?.any isBlank

theorem endsBlank_reverse (t : Text) : endsBlank t.reverse = t.startsBlank := by
  simp [endsBlank, startsBlank]

theorem startsBlank_trimLeft (t : Text) : t.trimLeft.startsBlank = false := by
  have := List.head?_dropWhile_not isBlank t
  rw [startsBlank, trimLeft]
  cases h : (t.dropWhile isBlank).head? <;> simp_all

theorem trimLeft_eq_self (h : t.startsBlank = false) : t.trimLeft = t := by
  cases t with
  | nil => rfl
  | cons c t => exact List.dropWhile_cons_of_neg (by simpa [startsBlank] using h)

theorem trimRight_eq (t : Text) : t.trimRight = (trimLeft t.reverse).reverse := rfl

theorem trim_eq_self (hs : t.startsBlank = false) (he : t.endsBlank = false) : t.trim = t := by
  rw [← List.reverse_reverse t, endsBlank_reverse] at he
  rw [trim, trimLeft_eq_self hs, trimRight_eq, trimLeft_eq_self he, List.reverse_reverse]

theorem endsBlank_trim (t : Text) : t.trim.endsBlank = false := by
  rw [trim, trimRight_eq, endsBlank_reverse, startsBlank_trimLeft]

theorem trimRight_isPrefix (t : Text) : t.trimRight <+: t := by
  rw [← List.reverse_suffix, trimRight_eq, List.reverse_reverse]
  exact List.dropWhile_suffix _

theorem startsBlank_trim (t : Text) : t.trim.startsBlank = false := by
  obtain ⟨rest, h⟩ := trimRight_isPrefix t.trimLeft
  have hs := startsBlank_trimLeft t
  rw [← h] at hs
  rw [trim]
  cases ht : t.trimLeft.trimRight with
  | nil => rfl
  | cons c u => rwa [ht] at hs

theorem mem_of_mem_trim {c : Char} (h : c ∈ t.trim) : c ∈ t :=
  (List.dropWhile_suffix _).subset ((trimRight_isPrefix _).subset h)

theorem endsBlank_append (head : Text) (h : tail ≠ []) : endsBlank (head ++ tail) = endsBlank tail := by
  rw [endsBlank, List.getLast?_append, Option.or_of_isSome (by simpa using h), endsBlank]

theorem trim_ne_nil (h : t ≠ []) (he : t.endsBlank = false) : t.trim ≠ [] := by
  have ht := List.takeWhile_append_dropWhile (p := isBlank) (l := t)
  have hl : t.trimLeft ≠ [] := by
    intro hn
    rw [trimLeft] at hn
    rw [hn, List.append_nil] at ht
    have hb := List.all_takeWhile (p := isBlank) (l := t)
    rw [ht, List.all_eq_true] at hb
    rw [endsBlank, List.getLast?_eq_some_getLast h, Option.any_some,
      hb _ (List.getLast_mem h)] at he
    contradiction
  have hr : t.trimLeft.endsBlank = false := by
    rw [← endsBlank_append (t.takeWhile isBlank) hl, trimLeft, ht, he]
  rw [trim, trimRight_eq, trimLeft_eq_self (by rwa [← endsBlank_reverse, List.reverse_reverse]),
    List.reverse_reverse]
  exact hl

theorem takeWhile_reverse (h : sep ∉ tail) (rest : Text) :
    (tail.reverse ++ rest).takeWhile (· ≠ sep) = tail.reverse ++ rest.takeWhile (· ≠ sep) :=
  List.takeWhile_append_of_pos fun _ hc =>
    decide_eq_true (ne_of_mem_of_not_mem (List.mem_reverse.1 hc) h)

theorem cutLast?_of_not_mem (h : sep ∉ t) : cutLast? sep t = none := by
  have := takeWhile_reverse h []
  rw [List.takeWhile_nil, List.append_nil] at this
  simp only [cutLast?, this, List.length_reverse, if_true]

theorem cutLast?_append (h : sep ∉ tail) :
    cutLast? sep (head ++ sep :: tail) = some (head, tail) := by
  have ht : (head ++ sep :: tail).reverse.takeWhile (· ≠ sep) = tail.reverse := by
    rw [List.reverse_append, List.reverse_cons, List.append_assoc, takeWhile_reverse h]
    simp
  have hl : (head ++ sep :: tail).length - tail.reverse.length - 1 = head.length := by
    simp only [List.length_append, List.length_cons, List.length_reverse]
    omega
  simp only [cutLast?, ht, hl, List.take_left, List.reverse_reverse]
  exact if_neg (by simp; omega)

theorem joinWith_concat {sep piece : Text} {pieces : List Text} (h : pieces ≠ []) :
    joinWith sep (pieces ++ [piece]) = joinWith sep pieces ++ sep ++ piece := by
  induction pieces with
  | nil => contradiction
  | cons first pieces ih =>
    cases pieces with
    | nil => simp [joinWith]
    | cons second pieces =>
      simp only [joinWith, List.cons_append, List.intercalate_cons_cons] at *
      rw [ih (by simp)]
      simp

theorem exists_last (h : sep ∈ t) : ∃ head tail, t = head ++ sep :: tail ∧ sep ∉ tail := by
  obtain ⟨as, bs, he, hn⟩ := List.eq_append_cons_of_mem (List.mem_reverse.2 h)
  refine ⟨bs.reverse, as.reverse, ?_, by simpa using hn⟩
  rw [← List.reverse_reverse t, he]
  simp

end Text

theorem Unicode.lower_singleton (c : Char) :
    (∃ d, lower [c] = [d]) ∨ lower [c] = [Char.ofNat 0x69, Char.ofNat 0x307] := by
  simp only [lower, lowerFrom, List.append_nil, lowerChar]
  split
  · exact .inl ⟨_, rfl⟩
  · split
    · exact .inr rfl
    · exact .inl ⟨_, rfl⟩

theorem Unicode.length_lower_singleton (c : Char) : (Unicode.lower [c]).length ≤ 2 := by
  rcases lower_singleton c with ⟨d, h⟩ | h <;> simp [h]

namespace Text

open Unicode

variable {t : Text}

theorem startsBlank_lower (h : t.startsBlank = false) : startsBlank (lower t) = false := by
  rw [startsBlank, Option.any_eq_false] at *
  intro c hc
  rcases head?_lowerFrom hc with ht | hs
  · exact h c ht
  · simp [hs.1]

theorem endsBlank_lower (h : t.endsBlank = false) : endsBlank (lower t) = false := by
  rw [endsBlank, Option.any_eq_false] at *
  intro c hc
  rcases getLast?_lowerFrom hc with ht | hs
  · exact h c ht
  · simp [hs.1]

end Text

namespace Key

open Text Unicode

variable {t name : Text}

section Name

theorem resolve_singleton (c : Char) :
    resolve [c] = if c = ' ' then "space".toList else [c] := by
  by_cases h : c = ' '
  · subst h
    decide +kernel
  · have hn : aliases.find? (·.1 = [c]) = none := by
      rw [List.find?_eq_none]
      intro a ha
      simp only [aliases, List.mem_cons, List.not_mem_nil, or_false] at ha
      rcases ha with rfl | rfl | rfl | rfl | rfl | rfl | rfl | rfl | rfl | rfl | rfl | rfl | rfl |
        rfl <;> simp [Ne.symm h]
    rw [resolve, hn, if_neg h]
    rfl

theorem normalizeName_singleton (c : Char) :
    (normalizeName [c]).length ≤ 2 ∨ c = ' ' ∧ normalizeName [c] = "space".toList := by
  rw [normalizeName, resolve_singleton]
  split
  · exact .inl (Unicode.length_lower_singleton c)
  · split
    · exact .inr ⟨‹_›, rfl⟩
    · simp

theorem normalizeName_ne {c : Char} {t : Text} (ht : 2 < t.length) (hs : t ≠ "space".toList) :
    normalizeName [c] ≠ t := by
  rintro rfl
  rcases normalizeName_singleton c with h | ⟨-, h⟩
  · omega
  · exact hs h

theorem normalizeName_of_length_ne (h : t.length ≠ 1) : normalizeName t = resolve (lower t) := by
  rw [normalizeName]
  rintro c rfl
  exact h rfl

theorem resolve_cases (t : Text) : resolve t = t ∨ ∃ a ∈ aliases, resolve t = a.2 := by
  rw [resolve]
  cases h : aliases.find? (·.1 = t) with
  | none => exact .inl rfl
  | some a => exact .inr ⟨a, List.mem_of_find?_eq_some h, rfl⟩

/-- The name of a key: stable, and a piece of an identifier that can be told from the others. -/
structure IsName (name : Text) : Prop where
  ne_nil : name ≠ []
  normalizeName_eq : normalizeName name = name
  eq_or_not_mem : name = ['+'] ∨ '+' ∉ name
  endsBlank_eq : name.endsBlank = false

theorem isName_alias : ∀ a ∈ aliases, IsName a.2 ∧ a.2.startsBlank = false := by
  have : ∀ a ∈ aliases, (a.2 ≠ [] ∧ normalizeName a.2 = a.2 ∧ (a.2 = ['+'] ∨ '+' ∉ a.2) ∧
      a.2.endsBlank = false) ∧ a.2.startsBlank = false := by
    decide +kernel
  exact fun a ha => ⟨⟨(this a ha).1.1, (this a ha).1.2.1, (this a ha).1.2.2.1,
    (this a ha).1.2.2.2⟩, (this a ha).2⟩

theorem normalizeName_cases (t : Text) :
    (∃ a ∈ aliases, normalizeName t = a.2) ∨ normalizeName t = lower t ∨ normalizeName t = t := by
  by_cases hl : t.length = 1
  · obtain ⟨c, rfl⟩ := List.length_eq_one_iff.1 hl
    rw [normalizeName]
    split
    · exact .inr (.inl rfl)
    · exact (resolve_cases [c]).elim (.inr ∘ .inr) .inl
  · rw [normalizeName_of_length_ne hl]
    exact (resolve_cases (lower t)).elim (.inr ∘ .inl) .inl

theorem normalizeName_normalizeName (t : Text) :
    normalizeName (normalizeName t) = normalizeName t := by
  by_cases hl : t.length = 1
  · obtain ⟨c, rfl⟩ := List.length_eq_one_iff.1 hl
    by_cases ha : isAlpha c
    · rw [normalizeName, if_pos ha]
      -- One letter becomes two characters when lowered: the capital I with a dot.
      rcases lower_singleton c with ⟨d, hd⟩ | hd
      · have hs : d ≠ ' ' := by
          rintro rfl
          have hm : ' ' ∈ lower [c] := hd ▸ List.mem_singleton_self ' '
          rcases mem_or_isSolid_of_mem_lowerFrom hm with hc | hc
          · rw [← List.mem_singleton.1 hc] at ha
            exact absurd ha (by decide +kernel)
          · exact absurd hc.1 (by decide)
        rw [hd, normalizeName, resolve_singleton, if_neg hs, ← hd, lower_lower, ite_self]
      · rw [hd]
        decide +kernel
    · rw [normalizeName, if_neg ha, resolve_singleton]
      split
      · decide +kernel
      · next hs => rw [normalizeName, if_neg ha, resolve_singleton, if_neg hs]
  · rw [normalizeName_of_length_ne hl]
    rcases resolve_cases (lower t) with h | ⟨a, ha, h⟩
    · have : (lower t).length ≠ 1 := by
        cases t with
        | nil => decide
        | cons c t => exact fun h1 => hl (by have := length_le_lowerFrom [] (c :: t); grind [lower])
      rw [h, normalizeName_of_length_ne this, lower_lower, h]
    · rw [h, (isName_alias a ha).1.normalizeName_eq]

theorem isName_normalizeName (hn : t ≠ []) (hp : t = ['+'] ∨ '+' ∉ t)
    (he : t.endsBlank = false) : IsName (normalizeName t) := by
  rcases normalizeName_cases t with ⟨a, ha, h⟩ | h | h
  · rw [h]
    exact (isName_alias a ha).1
  all_goals
    refine ⟨?_, normalizeName_normalizeName t, ?_, ?_⟩ <;> rw [h]
  · exact List.ne_nil_of_length_pos
      (Nat.lt_of_lt_of_le (List.length_pos_iff.2 hn) (length_le_lowerFrom [] t))
  · rcases hp with rfl | hp
    · exact .inl (by decide +kernel)
    · exact .inr (plus_not_mem_lower hp)
  · exact endsBlank_lower he
  · exact hn
  · exact hp
  · exact he

theorem startsBlank_normalizeName (h : t.startsBlank = false) :
    (normalizeName t).startsBlank = false := by
  rcases normalizeName_cases t with ⟨a, ha, hn⟩ | hn | hn <;> rw [hn]
  · exact (isName_alias a ha).2
  · exact startsBlank_lower h
  · exact h

end Name

section Identifier

/-- The part of an identifier that lists the modifiers. -/
def modifierText (ms : Modifiers) : Text := Text.joinWith ['+'] (ms.toList.map Modifier.name)

/-- What `normalizeCombination` answers: modifiers in order, then the name of a key. -/
def IsIdentifier (k : Text) : Prop := ∃ ms name, IsName name ∧ k = identifier ms name

@[simp] theorem identifier_none (name : Text) : identifier .none name = name := by
  simp [identifier, Modifiers.toList, Modifier.all, Modifiers.has, Modifiers.none, joinWith]

theorem identifier_eq {ms : Modifiers} (h : ms ≠ .none) (name : Text) :
    identifier ms name = modifierText ms ++ '+' :: name := by
  have hn : ms.toList.map Modifier.name ≠ [] := by
    obtain ⟨ctrl, alt, shift, metaKey⟩ := ms
    cases ctrl <;> cases alt <;> cases shift <;> cases metaKey <;> simp_all +decide
  rw [identifier, joinWith_concat hn, modifierText, List.append_assoc, List.singleton_append]

theorem startsBlank_identifier {ms : Modifiers} (h : ms ≠ .none) (name : Text) :
    (identifier ms name).startsBlank = false := by
  obtain ⟨ctrl, alt, shift, metaKey⟩ := ms
  cases ctrl <;> cases alt <;> cases shift <;> cases metaKey <;> first | rfl | exact absurd rfl h

theorem readModifiers_modifierText (combination : Text) (ms : Modifiers) :
    readModifiers combination (Text.splitAt '+' (modifierText ms)) = .ok ms.toList := by
  obtain ⟨ctrl, alt, shift, metaKey⟩ := ms
  cases ctrl <;> cases alt <;> cases shift <;> cases metaKey <;> rfl

theorem ofList_toList (ms : Modifiers) : Modifiers.ofList ms.toList = ms := by
  obtain ⟨ctrl, alt, shift, metaKey⟩ := ms
  cases ctrl <;> cases alt <;> cases shift <;> cases metaKey <;> rfl

theorem splitCombination_of_not_mem (h : '+' ∉ t) : splitCombination t = ([], t) := by
  rw [splitCombination, cutLast?_of_not_mem h]

theorem splitCombination_append {head key : Text} (hk : '+' ∉ key) (hn : key ≠ []) :
    splitCombination (head ++ '+' :: key) = (head, key) := by
  rw [splitCombination, cutLast?_append hk]
  cases key with
  | nil => contradiction
  | cons c key => rfl

theorem splitCombination_append_plus (head : Text) :
    splitCombination (head ++ ['+', '+']) = (head, ['+']) := by
  rw [List.append_cons, splitCombination, cutLast?_append List.not_mem_nil]
  simp

theorem splitCombination_identifier (hn : IsName name) (ms : Modifiers) :
    splitCombination (identifier ms name) = (modifierText ms, name) := by
  by_cases hm : ms = .none
  · subst hm
    rw [identifier_none, show modifierText .none = [] from rfl]
    rcases hn.eq_or_not_mem with rfl | hp
    · rfl
    · exact splitCombination_of_not_mem hp
  · rw [identifier_eq hm]
    rcases hn.eq_or_not_mem with rfl | hp
    · exact splitCombination_append_plus _
    · exact splitCombination_append hp hn.ne_nil

theorem identifier_ne_nil (hn : IsName name) (ms : Modifiers) : identifier ms name ≠ [] := by
  by_cases hm : ms = .none
  · rw [hm, identifier_none]
    exact hn.ne_nil
  · simp [identifier_eq hm]

theorem endsBlank_identifier (hn : IsName name) (ms : Modifiers) :
    (identifier ms name).endsBlank = false := by
  by_cases hm : ms = .none
  · rw [hm, identifier_none, hn.endsBlank_eq]
  · rw [identifier_eq hm, List.append_cons, endsBlank_append _ hn.ne_nil, hn.endsBlank_eq]

/-- The key of a combination is a plus sign or has none, and ends as the combination does. -/
theorem splitCombination_key (ht : t ≠ []) (he : t.endsBlank = false) :
    (splitCombination t).2 ≠ [] ∧
      ((splitCombination t).2 = ['+'] ∨ '+' ∉ (splitCombination t).2) ∧
        (splitCombination t).2.endsBlank = false := by
  by_cases hp : '+' ∈ t
  · obtain ⟨head, key, rfl, hk⟩ := exists_last hp
    cases key with
    | nil =>
      rw [splitCombination, cutLast?_append hk]
      exact ⟨by simp, .inl rfl, rfl⟩
    | cons c key =>
      rw [splitCombination_append hk (by simp)]
      refine ⟨by simp, .inr hk, ?_⟩
      rwa [List.append_cons, endsBlank_append _ (by simp)] at he
  · rw [splitCombination_of_not_mem hp]
    exact ⟨ht, .inr hp, he⟩

theorem normalizeCombination_eq {combination : Text} (h : combination.trim ≠ []) :
    normalizeCombination combination =
      (readModifiers combination (splitAt '+' (splitCombination combination.trim).1)).map fun ms =>
        identifier (.ofList ms) (normalizeName (splitCombination combination.trim).2) := by
  rw [normalizeCombination]
  simp only [List.isEmpty_iff, h, if_false]
  cases readModifiers combination (splitAt '+' (splitCombination combination.trim).1) <;> rfl

theorem isIdentifier_normalizeCombination {combination k : Text}
    (h : normalizeCombination combination = .ok k) : IsIdentifier k := by
  by_cases ht : combination.trim = []
  · rw [normalizeCombination, ht] at h
    contradiction
  · obtain ⟨hn, hp, he⟩ := splitCombination_key ht (endsBlank_trim combination)
    rw [normalizeCombination_eq ht] at h
    cases hm : readModifiers combination (splitAt '+' (splitCombination combination.trim).1) with
    | error e => simp [hm, Except.map] at h
    | ok ms =>
      simp only [hm, Except.map, Except.ok.injEq] at h
      exact ⟨_, _, isName_normalizeName hn hp he, h.symm⟩

theorem normalizeCombination_identifier (hn : IsName name) {ms : Modifiers}
    (hb : (identifier ms name).startsBlank = false) :
    normalizeCombination (identifier ms name) = .ok (identifier ms name) := by
  have ht := trim_eq_self hb (endsBlank_identifier hn ms)
  have hi := identifier_ne_nil hn ms
  rw [normalizeCombination_eq (by rwa [ht]), ht, splitCombination_identifier hn,
    readModifiers_modifierText, Except.map, ofList_toList, hn.normalizeName_eq]

/-- A name that begins with a blank is read without it. -/
theorem normalizeCombination_of_startsBlank (hn : IsName name) (hb : name.startsBlank = true) :
    normalizeCombination name = .ok (normalizeName name.trim) := by
  have hp : '+' ∉ name := hn.eq_or_not_mem.resolve_left fun h => by rw [h] at hb; contradiction
  have ht : '+' ∉ name.trim := fun h => hp (mem_of_mem_trim h)
  rw [normalizeCombination_eq (trim_ne_nil hn.ne_nil hn.endsBlank_eq),
    splitCombination_of_not_mem ht]
  exact congrArg Except.ok (identifier_none _)

/-- An identifier can be read. What is answered begins with no blank, and is the identifier itself
unless that does. -/
theorem IsIdentifier.exists_normalizeCombination {k : Text} (h : IsIdentifier k) :
    ∃ k', normalizeCombination k = .ok k' ∧ k'.startsBlank = false ∧
      (k.startsBlank = false → k' = k) := by
  obtain ⟨ms, name, hn, rfl⟩ := h
  cases hb : (identifier ms name).startsBlank with
  | false => exact ⟨_, normalizeCombination_identifier hn hb, hb, fun _ => rfl⟩
  | true =>
    obtain rfl : ms = .none := Decidable.byContradiction fun hm => by
      rw [startsBlank_identifier hm] at hb
      contradiction
    rw [identifier_none] at *
    exact ⟨_, normalizeCombination_of_startsBlank hn hb,
      startsBlank_normalizeName (startsBlank_trim name), fun h => by contradiction⟩

end Identifier

end Key

end LatexSnippets
