import GridWalk.Proofs.Text.Numeral

namespace GridWalk.Text

section Separator

variable {separator : Char}

theorem splitFirst_append {left : List Char} (h : separator ∉ left) (right : List Char) :
    splitFirst separator (left ++ separator :: right) = some (left, right) := by
  induction left with
  | nil => simp [splitFirst]
  | cons c rest ih =>
      rw [List.mem_cons, not_or] at h
      simp [splitFirst, Ne.symm h.1, ih h.2]

theorem splitFirst_eq_some_iff {text left right : List Char} :
    splitFirst separator text = some (left, right) ↔
      text = left ++ separator :: right ∧ separator ∉ left := by
  constructor
  · intro h
    induction text generalizing left with
    | nil => simp [splitFirst] at h
    | cons c rest ih =>
        by_cases hc : c = separator
        · simp only [splitFirst, if_pos hc, Option.some.injEq, Prod.mk.injEq] at h
          obtain ⟨rfl, rfl⟩ := h
          exact ⟨by rw [hc]; rfl, by simp⟩
        · rw [splitFirst, if_neg hc, Option.map_eq_some_iff] at h
          obtain ⟨⟨before, after⟩, hrest, hparts⟩ := h
          cases hparts
          obtain ⟨rfl, hnot⟩ := ih hrest
          exact ⟨rfl, by simp [Ne.symm hc, hnot]⟩
  · rintro ⟨rfl, h⟩
    exact splitFirst_append h right

-- A text that is cut at the first separator comes apart in one way.
theorem append_separator_inj {left left' right right' : List Char} (h : separator ∉ left)
    (h' : separator ∉ left') (heq : left ++ separator :: right = left' ++ separator :: right') :
    left = left' ∧ right = right' := by
  have hsplit := congrArg (splitFirst separator) heq
  rw [splitFirst_append h, splitFirst_append h'] at hsplit
  simpa using hsplit

-- So does one in which every word is closed by the separator.
theorem closed_words_inj {words words' : List (List Char)} (h : ∀ word ∈ words, separator ∉ word)
    (h' : ∀ word ∈ words', separator ∉ word)
    (heq : words.flatMap (· ++ [separator]) = words'.flatMap (· ++ [separator])) : words = words' := by
  induction words generalizing words' with
  | nil =>
      cases words' with
      | nil => rfl
      | cons word' rest' => simp at heq
  | cons word rest ih =>
      cases words' with
      | nil => simp at heq
      | cons word' rest' =>
          rw [List.forall_mem_cons] at h h'
          simp only [List.flatMap_cons, List.append_assoc, List.singleton_append] at heq
          obtain ⟨rfl, hrest⟩ := append_separator_inj h.1 h'.1 heq
          rw [ih h.2 h'.2 hrest]

end Separator

-- Words of one length need no mark of their ends, whatever stands between them.
theorem equal_words_inj {between : List Char} {length : Nat} {words words' : List (List Char)}
    (h : ∀ word ∈ words, word.length = length) (h' : ∀ word ∈ words', word.length = length)
    (hcount : words.length = words'.length)
    (heq : between.intercalate words = between.intercalate words') : words = words' := by
  induction words generalizing words' with
  | nil => exact (List.length_eq_zero_iff.mp hcount.symm).symm
  | cons word rest ih =>
      cases words' with
      | nil => simp at hcount
      | cons word' rest' =>
          rw [List.forall_mem_cons] at h h'
          have hlength : word.length = word'.length := h.1.trans h'.1.symm
          have hcount' : rest.length = rest'.length := Nat.succ.inj hcount
          match rest, rest' with
          | [], [] => simpa using heq
          | next :: more, next' :: more' =>
              simp only [List.intercalate_cons_cons, List.append_assoc] at heq
              obtain ⟨rfl, hrest⟩ := List.append_inj heq hlength
              rw [ih h.2 h'.2 hcount' (List.append_cancel_left hrest)]

theorem not_mem_intercalate {between : List Char} {words : List (List Char)} {c : Char} (hc : c ∉ between)
    (h : ∀ word ∈ words, c ∉ word) : c ∉ between.intercalate words := by
  induction words with
  | nil => simp
  | cons word rest ih =>
      rw [List.forall_mem_cons] at h
      cases rest with
      | nil => simpa using h.1
      | cons next more =>
          rw [List.intercalate_cons_cons, List.mem_append, List.mem_append, not_or, not_or]
          exact ⟨⟨h.1, hc⟩, ih h.2⟩

-- A natural number is written with digits, an integer with digits behind an optional sign.
theorem not_mem_repr (n : Nat) {c : Char} (hc : c.isDigit = false) : c ∉ n.repr.toList := by
  intro hmem
  rw [(digits_repr n).isDigit c hmem] at hc
  cases hc

theorem not_mem_int_repr (z : Int) {c : Char} (hc : c.isDigit = false) (hsign : c ≠ '-') :
    c ∉ z.repr.toList := by
  rw [Int.repr_eq_if]
  by_cases hz : 0 ≤ z
  · rw [if_pos hz]
    exact not_mem_repr _ hc
  · rw [if_neg hz, String.toList_append, List.mem_append, not_or]
    exact ⟨by simpa using hsign, not_mem_repr _ hc⟩

end GridWalk.Text
