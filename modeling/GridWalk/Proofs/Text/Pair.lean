import GridWalk.Machine.Preset
import GridWalk.Proofs.Text.Separator

namespace GridWalk

namespace Text

-- A text of two parts with one separator, which stands between them.
def Parted (separator : Char) (text : String) (left right : List Char) : Prop :=
  text.toList = left ++ separator :: right ∧ separator ∉ left ∧ separator ∉ right

-- A numeral with any blanks around it.
def Written {α : Type} (spells : List Char → α → Prop) (text : List Char) (a : α) : Prop :=
  ∃ core, Padded core text ∧ spells core a

-- The integers of a signed 32-bit word.
def Fits32 (z : Int) : Prop := -2 ^ 31 ≤ z ∧ z < 2 ^ 31

theorem fits32_iff {z : Int} : Fits32 z ↔ ∃ word : Int32, word.toInt = z := by
  constructor
  · rintro ⟨hlo, hhi⟩
    exact ⟨Int32.ofInt z, Int32.toInt_ofInt_of_le hlo hhi⟩
  · rintro ⟨word, rfl⟩
    exact ⟨word.le_toInt, word.toInt_lt⟩

-- A reader that accepts the numerals of a grammar and nothing else.
structure Reads {α : Type} (read : List Char → Except NumeralError α)
    (spells : List Char → α → Prop) : Prop where
  eq_ok_iff : ∀ cs a, read cs = .ok a ↔ spells cs a
  isNumeric : ∀ cs a, spells cs a → ∀ c ∈ cs, IsNumeric c

theorem reads_readInt32 : Reads readInt32 fun cs word => SpellsInt cs word.toInt where
  eq_ok_iff _ _ := readInt32_eq_ok_iff
  isNumeric _ _ h _ hc := h.isNumeric hc

theorem reads_readWord : Reads readWord fun cs n => SpellsNat cs n ∧ n < 2 ^ 64 where
  eq_ok_iff _ _ := readWord_eq_ok_iff
  isNumeric _ _ h _ hc := h.1.isNumeric hc

section Written

variable {α : Type} {read : List Char → Except NumeralError α} {spells : List Char → α → Prop}
  {text : List Char} {a : α}

theorem written_and_iff {P : α → Prop} :
    Written (fun cs a => spells cs a ∧ P a) text a ↔ Written spells text a ∧ P a := by
  simp only [Written, ← and_assoc, exists_and_right]

theorem Reads.trim_eq_ok_iff (h : Reads read spells) : read (trim text) = .ok a ↔ Written spells text a := by
  rw [h.eq_ok_iff]
  constructor
  · intro hspells
    exact ⟨trim text, padded_trim text, hspells⟩
  · rintro ⟨core, hpadded, hspells⟩
    have hcore : ∀ c ∈ core, isBlank c = false :=
      fun c hc => not_isBlank_of_isNumeric (h.isNumeric core a hspells c hc)
    rwa [trim_of_padded hpadded, trim_of_not_blank hcore]

theorem Reads.exists_error (h : Reads read spells) (hbad : ∀ a, ¬Written spells text a) :
    ∃ cause, read (trim text) = .error cause := by
  cases hread : read (trim text) with
  | error cause => exact ⟨cause, rfl⟩
  | ok a => exact absurd (h.trim_eq_ok_iff.mp hread) (hbad a)

theorem Reads.not_mem (h : Reads read spells) (hwritten : Written spells text a) {c : Char}
    (hnumeric : ¬IsNumeric c) (hblank : isBlank c = false) : c ∉ text := by
  obtain ⟨core, ⟨before, after, rfl, hbefore, hafter⟩, hspells⟩ := hwritten
  have hpadding : ∀ cs : List Char, (∀ c ∈ cs, isBlank c = true) → c ∉ cs := by
    intro cs hcs hmem
    rw [hcs c hmem] at hblank
    cases hblank
  rw [List.mem_append, List.mem_append, not_or, not_or]
  exact ⟨⟨hpadding before hbefore, fun hmem => hnumeric (h.isNumeric core a hspells c hmem)⟩,
    hpadding after hafter⟩

end Written

-- How to read two numbers, what to make of them, and how to report what cannot be read.
structure PairReader (α β γ ε : Type) where
  separator : Char
  readLeft : List Char → Except NumeralError α
  readRight : List Char → Except NumeralError β
  pair : α → β → γ
  unparted : String → ε
  badLeft : String → NumeralError → ε
  badRight : String → NumeralError → ε

namespace PairReader

variable {α β γ ε : Type}

-- The text is cut at its first separator, and the left number is read first.
def read (reader : PairReader α β γ ε) (text : String) : Except ε γ :=
  match splitFirst reader.separator text.toList with
  | none => .error (reader.unparted text)
  | some (left, right) =>
      match reader.readLeft (trim left) with
      | .error cause => .error (reader.badLeft (String.ofList (trim left)) cause)
      | .ok a =>
          match reader.readRight (trim right) with
          | .error cause => .error (reader.badRight (String.ofList (trim right)) cause)
          | .ok b => .ok (reader.pair a b)

-- The numbers are those of two grammars, and the separator can be part of neither of them nor of
-- the blanks around them.
structure Lawful (reader : PairReader α β γ ε) (spellsLeft : List Char → α → Prop)
    (spellsRight : List Char → β → Prop) : Prop where
  left : Reads reader.readLeft spellsLeft
  right : Reads reader.readRight spellsRight
  not_numeric : ¬IsNumeric reader.separator
  not_blank : isBlank reader.separator = false

section Lawful

variable {reader : PairReader α β γ ε} {spellsLeft : List Char → α → Prop}
  {spellsRight : List Char → β → Prop} {text : String} {left right : List Char} {a : α} {b : β} {c : γ}

theorem read_eq_ok_iff_split :
    reader.read text = .ok c ↔ ∃ parts, splitFirst reader.separator text.toList = some parts ∧
      ∃ a b, reader.readLeft (trim parts.1) = .ok a ∧ reader.readRight (trim parts.2) = .ok b ∧
        reader.pair a b = c := by
  unfold read
  cases splitFirst reader.separator text.toList with
  | none => simp
  | some parts =>
      cases hleft : reader.readLeft (trim parts.1) with
      | error cause => simp [hleft]
      | ok a => cases hright : reader.readRight (trim parts.2) <;> simp [hleft, hright]

-- A second separator would stand in the right part, which is then no number.
theorem Lawful.read_eq_ok_iff (h : reader.Lawful spellsLeft spellsRight) :
    reader.read text = .ok c ↔ ∃ left right a b, Parted reader.separator text left right ∧
      Written spellsLeft left a ∧ Written spellsRight right b ∧ reader.pair a b = c := by
  simp only [read_eq_ok_iff_split, h.left.trim_eq_ok_iff, h.right.trim_eq_ok_iff, Prod.exists,
    splitFirst_eq_some_iff]
  constructor
  · rintro ⟨left, right, ⟨htext, hnot⟩, a, b, ha, hb, hpair⟩
    have hnot' := h.right.not_mem hb h.not_numeric h.not_blank
    exact ⟨left, right, a, b, ⟨htext, hnot, hnot'⟩, ha, hb, hpair⟩
  · rintro ⟨left, right, a, b, ⟨htext, hnot, _⟩, ha, hb, hpair⟩
    exact ⟨left, right, ⟨htext, hnot⟩, a, b, ha, hb, hpair⟩

theorem Lawful.read_of_written (h : reader.Lawful spellsLeft spellsRight) (ha : Written spellsLeft left a)
    (hb : Written spellsRight right b) :
    reader.read (String.ofList (left ++ reader.separator :: right)) = .ok (reader.pair a b) := by
  have hnot := h.left.not_mem ha h.not_numeric h.not_blank
  have hnot' := h.right.not_mem hb h.not_numeric h.not_blank
  exact h.read_eq_ok_iff.mpr ⟨left, right, a, b, ⟨String.toList_ofList, hnot, hnot'⟩, ha, hb, rfl⟩

theorem Lawful.read_of_left_bad (h : reader.Lawful spellsLeft spellsRight) (hnot : reader.separator ∉ left)
    (hbad : ∀ a, ¬Written spellsLeft left a) (right : List Char) :
    ∃ cause, reader.readLeft (trim left) = .error cause ∧
      reader.read (String.ofList (left ++ reader.separator :: right)) =
        .error (reader.badLeft (String.ofList (trim left)) cause) := by
  obtain ⟨cause, hcause⟩ := h.left.exists_error hbad
  exact ⟨cause, hcause, by simp only [read, String.toList_ofList, splitFirst_append hnot, hcause]⟩

end Lawful

end PairReader

end Text

open Text

-- Points and presets are read alike, but for their separator, their numbers and their reports.
def Point.reader : PairReader Int32 Int32 Point ReadError :=
  ⟨',', readInt32, readInt32, Point.mk, .noComma, .badX, .badY⟩

def Preset.reader : PairReader Nat Int32 Preset ReadError :=
  ⟨'=', readWord, readInt32, Preset.mk, .noEquals, .badIndex, .badValue⟩

theorem Point.read_eq (text : String) : Point.read text = Point.reader.read text := by
  simp only [Point.read, PairReader.read, Point.reader]
  grind

theorem Preset.read_eq (text : String) : Preset.read text = Preset.reader.read text := by
  simp only [Preset.read, PairReader.read, Preset.reader]
  grind

theorem Point.lawful_reader : Point.reader.Lawful (fun cs word => SpellsInt cs word.toInt)
    fun cs word => SpellsInt cs word.toInt :=
  ⟨reads_readInt32, reads_readInt32, by decide, by decide⟩

theorem Preset.lawful_reader : Preset.reader.Lawful (fun cs n => SpellsNat cs n ∧ n < 2 ^ 64)
    fun cs word => SpellsInt cs word.toInt :=
  ⟨reads_readWord, reads_readInt32, by decide, by decide⟩

-- A point is read from exactly the texts of two integers with one comma between them, and a
-- preset from those of a natural number and an integer with one equals sign, all of them in the
-- range of their words and with any blanks around them. So what is printed is read back. Where
-- the left number is bad it is the one reported, however bad the right one is.
theorem readers_accept_exact_grammar :
    (∀ (text : String) (x y : Int),
      (∃ p, Point.read text = .ok p ∧ p.x.toInt = x ∧ p.y.toInt = y) ↔
        ∃ left right, Parted ',' text left right ∧
          (Written SpellsInt left x ∧ Fits32 x) ∧ (Written SpellsInt right y ∧ Fits32 y)) ∧
    (∀ (text : String) (index : Nat) (value : Int),
      (∃ p, Preset.read text = .ok p ∧ p.index = index ∧ p.value.toInt = value) ↔
        ∃ left right, Parted '=' text left right ∧
          (Written SpellsNat left index ∧ index < 2 ^ 64) ∧ (Written SpellsInt right value ∧ Fits32 value)) ∧
    (∀ (p : Point) (left right : List Char),
      Padded (toString p.x).toList left → Padded (toString p.y).toList right →
      Point.read (String.ofList (left ++ ',' :: right)) = .ok p) ∧
    (∀ (p : Preset) (left right : List Char), p.index < 2 ^ 64 →
      Padded (toString p.index).toList left → Padded (toString p.value).toList right →
      Preset.read (String.ofList (left ++ '=' :: right)) = .ok p) ∧
    (∀ left right : List Char, ',' ∉ left → (¬∃ x, Written SpellsInt left x ∧ Fits32 x) →
      ∃ cause, readInt32 (trim left) = .error cause ∧
        Point.read (String.ofList (left ++ ',' :: right)) =
          .error (.badX (String.ofList (trim left)) cause)) ∧
    ∀ left right : List Char, '=' ∉ left → (¬∃ index, Written SpellsNat left index ∧ index < 2 ^ 64) →
      ∃ cause, readWord (trim left) = .error cause ∧
        Preset.read (String.ofList (left ++ '=' :: right)) =
          .error (.badIndex (String.ofList (trim left)) cause) := by
  simp only [Point.read_eq, Preset.read_eq]
  refine ⟨?_, ?_, ?_, ?_, ?_, ?_⟩
  · intro text x y
    simp only [Point.lawful_reader.read_eq_ok_iff, fits32_iff]
    constructor
    · rintro ⟨_, ⟨left, right, x, y, hparted, hx, hy, rfl⟩, rfl, rfl⟩
      exact ⟨left, right, hparted, ⟨hx, x, rfl⟩, hy, y, rfl⟩
    · rintro ⟨left, right, hparted, ⟨hx, x, rfl⟩, hy, y, rfl⟩
      exact ⟨_, ⟨left, right, x, y, hparted, hx, hy, rfl⟩, rfl, rfl⟩
  · intro text index value
    simp only [Preset.lawful_reader.read_eq_ok_iff, written_and_iff, fits32_iff]
    constructor
    · rintro ⟨_, ⟨left, right, index, value, hparted, hindex, hvalue, rfl⟩, rfl, rfl⟩
      exact ⟨left, right, hparted, hindex, hvalue, value, rfl⟩
    · rintro ⟨left, right, hparted, hindex, hvalue, value, rfl⟩
      exact ⟨_, ⟨left, right, index, value, hparted, hindex, hvalue, rfl⟩, rfl, rfl⟩
  · intro p left right hleft hright
    exact Point.lawful_reader.read_of_written ⟨_, hleft, spellsInt_toString p.x⟩
      ⟨_, hright, spellsInt_toString p.y⟩
  · intro p left right hword hleft hright
    exact Preset.lawful_reader.read_of_written ⟨_, hleft, spellsNat_toString p.index, hword⟩
      ⟨_, hright, spellsInt_toString p.value⟩
  · intro left right hcomma hbad
    have hnone : ∀ x : Int32, ¬Written SpellsInt left x.toInt :=
      fun x hx => hbad ⟨x.toInt, hx, fits32_iff.mpr ⟨x, rfl⟩⟩
    exact Point.lawful_reader.read_of_left_bad hcomma hnone right
  · intro left right hequals hbad
    exact Preset.lawful_reader.read_of_left_bad hequals
      (fun index hindex => hbad ⟨index, written_and_iff.mp hindex⟩) right

-- Numbers at both ends of their words with blanks around them, signs and leading zeros, a second
-- comma, and pairs without a right number whose left one is out of range.
theorem readers_accept_exact_grammar_limits :
    let least := ['\u3000'] ++ (toString Int32.minValue).toList ++ ['\t']
    let greatest := (toString 18446744073709551615).toList ++ ['\u00a0', ' ']
    Point.read (String.ofList (least ++ ',' :: (toString Int32.maxValue).toList)) =
      .ok ⟨Int32.minValue, Int32.maxValue⟩ ∧
    Preset.read (String.ofList (greatest ++ '=' :: (toString (-1 : Int32)).toList)) =
      .ok ⟨18446744073709551615, -1⟩ ∧
    (∃ p, Point.read "+007,-0" = .ok p ∧ p.x.toInt = 7 ∧ p.y.toInt = 0) ∧
    (¬∃ p, Point.read "1,2,3" = .ok p) ∧
    Point.read (String.ofList ("2147483648".toList ++ ',' :: "-".toList)) =
      .error (.badX "2147483648" .tooLarge) ∧
    Preset.read (String.ofList ("-0".toList ++ '=' :: "".toList)) = .error (.badIndex "-0" .invalidDigit) := by
  intro least greatest
  obtain ⟨hpoint, _, hprinted, hprintedPreset, hbad, hbadIndex⟩ := readers_accept_exact_grammar
  have hbare : ∀ core, Padded core core := fun core => ⟨[], [], by simp, by simp, by simp⟩
  have hseven : Digits "007".toList 7 :=
    ⟨by decide +kernel, List.all_eq_true.mp (by decide +kernel), by decide +kernel⟩
  have hzero : Digits "0".toList 0 :=
    ⟨by decide +kernel, List.all_eq_true.mp (by decide +kernel), by decide +kernel⟩
  have hsigned : ∃ p, Point.read "+007,-0" = .ok p ∧ p.x.toInt = 7 ∧ p.y.toInt = 0 :=
    (hpoint _ _ _).mpr ⟨'+' :: "007".toList, '-' :: "0".toList,
      ⟨by decide +kernel, by decide +kernel, by decide +kernel⟩,
      ⟨⟨_, hbare _, .natural (.plus hseven)⟩, by decide, by decide⟩,
      ⟨⟨_, hbare _, .minus hzero⟩, by decide, by decide⟩⟩
  have htwice : ¬∃ p, Point.read "1,2,3" = .ok p := by
    rintro ⟨p, hp⟩
    obtain ⟨left, right, ⟨htext, hleft, hright⟩, _⟩ := (hpoint _ _ _).mp ⟨p, hp, rfl, rfl⟩
    have hcount : "1,2,3".toList.count ',' = 1 := by
      rw [htext, List.count_append, List.count_cons_self, List.count_eq_zero.mpr hleft,
        List.count_eq_zero.mpr hright]
    exact absurd hcount (by decide +kernel)
  have hlarge : readInt32 (trim "2147483648".toList) = .error .tooLarge := rfl
  have hnoPoint : ¬∃ x, Written SpellsInt "2147483648".toList x ∧ Fits32 x := by
    rintro ⟨x, hx, hfits⟩
    obtain ⟨word, rfl⟩ := fits32_iff.mp hfits
    have hread := reads_readInt32.trim_eq_ok_iff.mpr hx
    rw [hlarge] at hread
    cases hread
  obtain ⟨cause, hcause, hpointError⟩ := hbad _ "-".toList (by decide +kernel) hnoPoint
  cases hlarge.symm.trans hcause
  have hsign : readWord (trim "-0".toList) = .error .invalidDigit := rfl
  have hnoIndex : ¬∃ index, Written SpellsNat "-0".toList index ∧ index < 2 ^ 64 := by
    rintro ⟨index, hindex⟩
    have hread := reads_readWord.trim_eq_ok_iff.mpr (written_and_iff.mpr hindex)
    rw [hsign] at hread
    cases hread
  obtain ⟨cause, hcause, hpresetError⟩ := hbadIndex _ "".toList (by decide +kernel) hnoIndex
  cases hsign.symm.trans hcause
  have hleast : Padded (toString Int32.minValue).toList least :=
    ⟨_, _, rfl, List.all_eq_true.mp (by decide), List.all_eq_true.mp (by decide)⟩
  have hgreatest : Padded (toString 18446744073709551615).toList greatest :=
    ⟨[], _, rfl, by simp, List.all_eq_true.mp (by decide)⟩
  exact ⟨hprinted _ _ _ hleast (hbare _), hprintedPreset _ _ _ (by decide) hgreatest (hbare _), hsigned,
    htwice, hpointError, hpresetError⟩

end GridWalk
