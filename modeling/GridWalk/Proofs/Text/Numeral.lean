import GridWalk.Text.Blank
import GridWalk.Text.Numeral
import Mathlib.Algebra.Group.Int.Defs
import Mathlib.Algebra.Group.Nat.Defs

namespace GridWalk.Text

-- One or more ASCII digits and the number that they stand for.
structure Digits (cs : List Char) (n : Nat) : Prop where
  ne_nil : cs ≠ []
  isDigit : ∀ c ∈ cs, c.isDigit = true
  value : Nat.ofDigitChars 10 cs 0 = n

-- Digits behind an optional plus sign.
inductive SpellsNat : List Char → Nat → Prop where
  | bare {cs : List Char} {n : Nat} (h : Digits cs n) : SpellsNat cs n
  | plus {cs : List Char} {n : Nat} (h : Digits cs n) : SpellsNat ('+' :: cs) n

-- Digits behind an optional sign.
inductive SpellsInt : List Char → Int → Prop where
  | natural {cs : List Char} {n : Nat} (h : SpellsNat cs n) : SpellsInt cs n
  | minus {cs : List Char} {n : Nat} (h : Digits cs n) : SpellsInt ('-' :: cs) (-n)

-- A character that numerals are made of.
def IsNumeric (c : Char) : Prop := c.isDigit = true ∨ c = '+' ∨ c = '-'

instance (c : Char) : Decidable (IsNumeric c) := inferInstanceAs (Decidable (_ ∨ _ ∨ _))

section Grammar

variable {cs : List Char} {c : Char} {n : Nat} {z : Int}

theorem Digits.unique {m : Nat} (h : Digits cs n) (hother : Digits cs m) : n = m :=
  h.value.symm.trans hother.value

theorem SpellsNat.isNumeric (h : SpellsNat cs n) (hc : c ∈ cs) : IsNumeric c := by
  cases h with
  | bare h => exact .inl (h.isDigit c hc)
  | plus h =>
      rcases List.mem_cons.mp hc with rfl | hc
      · exact .inr (.inl rfl)
      · exact .inl (h.isDigit c hc)

theorem SpellsInt.isNumeric (h : SpellsInt cs z) (hc : c ∈ cs) : IsNumeric c := by
  cases h with
  | natural h => exact h.isNumeric hc
  | minus h =>
      rcases List.mem_cons.mp hc with rfl | hc
      · exact .inr (.inr rfl)
      · exact .inl (h.isDigit c hc)

-- A sign is no digit, so it is told apart by the first character.
theorem spellsNat_plus_iff : SpellsNat ('+' :: cs) n ↔ Digits cs n := by
  constructor
  · intro h
    cases h with
    | bare h => exact absurd (h.isDigit '+' (by simp)) (by decide)
    | plus h => exact h
  · exact .plus

theorem spellsNat_iff_of_no_plus (hplus : ∀ ds, cs ≠ '+' :: ds) : SpellsNat cs n ↔ Digits cs n := by
  constructor
  · intro h
    cases h with
    | bare h => exact h
    | plus h => exact absurd rfl (hplus _)
  · exact .bare

theorem not_spellsNat_minus : ¬SpellsNat ('-' :: cs) n := by
  intro h
  cases h with
  | bare h => exact absurd (h.isDigit '-' (by simp)) (by decide)

theorem spellsInt_minus_iff : SpellsInt ('-' :: cs) z ↔ ∃ n, Digits cs n ∧ z = -(n : Int) := by
  constructor
  · intro h
    cases h with
    | natural h => exact absurd h not_spellsNat_minus
    | minus h => exact ⟨_, h, rfl⟩
  · rintro ⟨n, h, rfl⟩
    exact .minus h

theorem spellsInt_iff_of_no_minus (hminus : ∀ ds, cs ≠ '-' :: ds) :
    SpellsInt cs z ↔ ∃ n, SpellsNat cs n ∧ z = (n : Int) := by
  constructor
  · intro h
    cases h with
    | natural h => exact ⟨_, h, rfl⟩
    | minus h => exact absurd rfl (hminus _)
  · rintro ⟨n, h, rfl⟩
    exact .natural h

end Grammar

section Decimal

-- The text that a number is printed as spells that number.
theorem digits_repr (n : Nat) : Digits n.repr.toList n := by
  rw [Nat.repr_eq_ofList_toDigits, String.toList_ofList]
  exact ⟨Nat.toDigits_ne_nil, fun _ hc => Nat.isDigit_of_mem_toDigits (by decide) (by decide) hc,
    Nat.ofDigitChars_ten_toDigits⟩

theorem spellsNat_toString (n : Nat) : SpellsNat (toString n).toList n := .bare (digits_repr n)

theorem spellsInt_repr (z : Int) : SpellsInt z.repr.toList z := by
  rw [Int.repr_eq_if]
  by_cases hz : 0 ≤ z
  · have hnatural := SpellsInt.natural (.bare (digits_repr z.toNat))
    rw [Int.toNat_of_nonneg hz] at hnatural
    rwa [if_pos hz]
  · have hminus := SpellsInt.minus (digits_repr (-z).toNat)
    rw [Int.toNat_of_nonneg (by omega), Int.neg_neg] at hminus
    rw [if_neg hz, String.toList_append]
    exact hminus

theorem spellsInt_toString (word : Int32) : SpellsInt (toString word).toList word.toInt :=
  spellsInt_repr word.toInt

end Decimal

section Read

variable {cs : List Char} {limit least greatest value n : Nat} {beyond : NumeralError}

-- A further digit never makes the number smaller.
theorem le_ofDigitChars (cs : List Char) (value : Nat) : value ≤ Nat.ofDigitChars 10 cs value := by
  induction cs generalizing value with
  | nil => exact Nat.le_refl value
  | cons c rest ih =>
      rw [Nat.ofDigitChars_cons]
      exact Nat.le_trans (by omega) (ih _)

-- So the value may be compared with the limit after each digit or once at the end.
theorem readDigits_eq_ok_iff (hvalue : value ≤ limit) :
    readDigits limit beyond value cs = .ok n ↔
      (∀ c ∈ cs, c.isDigit = true) ∧ Nat.ofDigitChars 10 cs value = n ∧ n ≤ limit := by
  fun_induction readDigits limit beyond value cs with
  | case1 value =>
      simp only [Except.ok.injEq, Nat.ofDigitChars_nil]
      constructor
      · rintro rfl
        exact ⟨by simp, rfl, hvalue⟩
      · exact fun h => h.2.1
  | case2 value c rest hdigit next hnext ih =>
      rw [ih hnext, List.forall_mem_cons, Nat.ofDigitChars_cons, Nat.mul_comm 10 value]
      simp only [hdigit, true_and]
      rfl
  | case3 value c rest hdigit next hnext =>
      rw [Nat.ofDigitChars_cons, Nat.mul_comm 10 value]
      have hgrows : next ≤ Nat.ofDigitChars 10 rest (value * 10 + (c.toNat - '0'.toNat)) :=
        le_ofDigitChars rest next
      constructor
      · intro h
        cases h
      · rintro ⟨_, rfl, hlimit⟩
        exact absurd (Nat.le_trans hgrows hlimit) hnext
  | case4 value c rest hdigit =>
      constructor
      · intro h
        cases h
      · exact fun h => absurd (h.1 c (by simp)) hdigit

theorem readMagnitude_eq_ok_iff : readMagnitude limit beyond cs = .ok n ↔ Digits cs n ∧ n ≤ limit := by
  cases cs with
  | nil =>
      constructor
      · intro h
        cases h
      · exact fun h => absurd rfl h.1.ne_nil
  | cons c rest =>
      rw [readMagnitude, readDigits_eq_ok_iff (Nat.zero_le limit)]
      · constructor
        · rintro ⟨hdigits, hvalue, hlimit⟩
          exact ⟨⟨by simp, hdigits, hvalue⟩, hlimit⟩
        · rintro ⟨h, hlimit⟩
          exact ⟨h.isDigit, h.value, hlimit⟩
      · simp

theorem map_eq_ok_iff {ε α β : Type} {f : α → β} {x : Except ε α} {b : β} :
    f <$> x = .ok b ↔ ∃ a, x = .ok a ∧ f a = b := by
  cases x <;> simp [Functor.map, Except.map]

theorem readNat_eq_ok_iff : readNat greatest cs = .ok n ↔ SpellsNat cs n ∧ n ≤ greatest := by
  fun_cases readNat greatest cs with
  | case1 =>
      rw [spellsNat_iff_of_no_plus (by simp)]
      constructor
      · intro h
        cases h
      · exact fun h => absurd rfl h.1.ne_nil
  | case2 digits => rw [readMagnitude_eq_ok_iff, spellsNat_plus_iff]
  | case3 _ _ hplus => rw [readMagnitude_eq_ok_iff, spellsNat_iff_of_no_plus hplus]

theorem readInt_minus (cs : List Char) :
    readInt least greatest ('-' :: cs) =
      (fun n : Nat => -(n : Int)) <$> readMagnitude least .tooSmall cs := by
  rw [readInt]
  cases readMagnitude least .tooSmall cs <;> rfl

theorem readInt_of_no_minus (hminus : ∀ ds, cs ≠ '-' :: ds) :
    readInt least greatest cs = Int.ofNat <$> readNat greatest cs := by
  fun_cases readNat greatest cs with
  | case1 => rfl
  | case2 digits => rfl
  | case3 hplus hne => rw [readInt] <;> assumption

theorem readInt_eq_ok_iff {z : Int} :
    readInt least greatest cs = .ok z ↔ SpellsInt cs z ∧ -(least : Int) ≤ z ∧ z ≤ greatest := by
  by_cases hminus : ∃ digits, cs = '-' :: digits
  · obtain ⟨digits, rfl⟩ := hminus
    rw [readInt_minus, map_eq_ok_iff, spellsInt_minus_iff]
    simp only [readMagnitude_eq_ok_iff]
    constructor
    · rintro ⟨n, ⟨h, hlimit⟩, rfl⟩
      exact ⟨⟨n, h, rfl⟩, by omega, by omega⟩
    · rintro ⟨⟨n, h, rfl⟩, hlo, _⟩
      exact ⟨n, ⟨h, by omega⟩, rfl⟩
  · rw [not_exists] at hminus
    rw [readInt_of_no_minus hminus, map_eq_ok_iff, spellsInt_iff_of_no_minus hminus]
    simp only [readNat_eq_ok_iff]
    constructor
    · rintro ⟨n, ⟨h, hlimit⟩, rfl⟩
      exact ⟨⟨n, h, rfl⟩, by simp only [Int.ofNat_eq_natCast]; omega, by simpa using hlimit⟩
    · rintro ⟨⟨n, h, rfl⟩, _, hhi⟩
      exact ⟨n, ⟨h, by omega⟩, rfl⟩

theorem readWord_eq_ok_iff : readWord cs = .ok n ↔ SpellsNat cs n ∧ n < 2 ^ 64 := by
  have hword : n ≤ maxWord ↔ n < 2 ^ 64 := by unfold maxWord; omega
  rw [readWord, readNat_eq_ok_iff, hword]

theorem readInt32_eq_ok_iff {word : Int32} : readInt32 cs = .ok word ↔ SpellsInt cs word.toInt := by
  rw [readInt32, map_eq_ok_iff]
  simp only [readInt_eq_ok_iff]
  constructor
  · rintro ⟨z, ⟨h, hlo, hhi⟩, rfl⟩
    rwa [Int32.toInt_ofInt_of_le (by omega) (by omega)]
  · intro h
    have hlo := word.le_toInt
    have hhi := word.toInt_lt
    exact ⟨word.toInt, ⟨h, by omega, by omega⟩, word.ofInt_toInt⟩

-- A word can be read back from its text, so no other word has the same text.
theorem eq_of_repr_toInt {x y : Int32} (h : x.toInt.repr.toList = y.toInt.repr.toList) : x = y := by
  have hx := readInt32_eq_ok_iff.mpr (spellsInt_repr x.toInt)
  have hy := readInt32_eq_ok_iff.mpr (spellsInt_repr y.toInt)
  rw [h, hy] at hx
  exact (Except.ok.inj hx).symm

end Read

section Trim

variable {core text : List Char}

-- A text with blanks around its core, and nothing else.
def Padded (core text : List Char) : Prop :=
  ∃ before after, text = before ++ core ++ after ∧ (∀ c ∈ before, isBlank c = true) ∧
    ∀ c ∈ after, isBlank c = true

theorem padded_trim (text : List Char) : Padded (trim text) text := by
  have hblank : ∀ cs : List Char, ∀ c ∈ cs.takeWhile isBlank, isBlank c = true :=
    fun cs => List.all_eq_true.mp List.all_takeWhile
  refine ⟨text.takeWhile isBlank, ((text.dropWhile isBlank).reverse.takeWhile isBlank).reverse, ?_,
    hblank text, by simpa using hblank (text.dropWhile isBlank).reverse⟩
  rw [trim, List.append_assoc, ← List.reverse_append, List.takeWhile_append_dropWhile, List.reverse_reverse,
    List.takeWhile_append_dropWhile]

theorem trim_of_padded (h : Padded core text) : trim text = trim core := by
  obtain ⟨before, after, rfl, hbefore, hafter⟩ := h
  rw [trim, trim, List.append_assoc, List.dropWhile_append_of_pos hbefore, List.dropWhile_append]
  by_cases hcore : (core.dropWhile isBlank).isEmpty = true
  · have hall : after.dropWhile isBlank = [] := by
      rw [← List.append_nil after, List.dropWhile_append_of_pos hafter, List.dropWhile_nil]
    rw [if_pos hcore, hall, List.isEmpty_iff.mp hcore]
  · rw [if_neg hcore, List.reverse_append, List.dropWhile_append_of_pos (by simpa using hafter)]

theorem trim_of_not_blank (h : ∀ c ∈ core, isBlank c = false) : trim core = core := by
  have hkept : ∀ cs : List Char, (∀ c ∈ cs, isBlank c = false) → cs.dropWhile isBlank = cs := by
    intro cs hcs
    cases cs with
    | nil => rfl
    | cons c rest => simp [hcs c (by simp)]
  rw [trim, hkept core h, hkept _ (by simpa using h), List.reverse_reverse]

theorem not_isBlank_of_isNumeric {c : Char} (hc : IsNumeric c) : isBlank c = false := by
  rcases hc with hdigit | rfl | rfl
  · have hrange : 48 ≤ c.toNat ∧ c.toNat ≤ 57 := by
      simpa [Char.isDigit, UInt32.le_iff_toNat_le] using hdigit
    simp [isBlank]
    omega
  · decide
  · decide

end Trim

end GridWalk.Text
