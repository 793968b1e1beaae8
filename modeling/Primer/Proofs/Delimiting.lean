import Mathlib.Tactic.SplitIfs
import Primer.Numeral
import Primer.Text.Quoted

/-!
# Texts that tell where they end

Names, numerals and quoted texts are written one behind the other, with marks in between.
What was written can be told apart again: a name is not the start of another name, a
numeral ends in front of the first character that is no digit, and a quoted text ends with
the first quotation mark that is not part of an escape.

Main definitions:

- `SelfDelimiting` describes a way of writing that tells the value and where its text ends.
- `Quoted.Escaped` lists the three forms of a character between quotation marks.

Main results:

- Theorems `split_first` and `split_last`: a text is split in one way at a character.
- Theorem `SelfDelimiting.of_apart`: names that do not start each other tell where they
  end.
- Theorems `Numeral.ofNat_append_inj` and `Numeral.ofInt_append_inj`: a numeral is told in
  front of anything but a digit.
- Theorem `Quoted.render_selfDelimiting`: a quoted text tells where it ends.
-/

namespace Primer

section

variable {c : Char} {front front' back back' : List Char}

/-- A text is split in one way at the first of its characters that is the given one. -/
theorem split_first (hfront : c ∉ front) (hfront' : c ∉ front')
    (h : front ++ c :: back = front' ++ c :: back') : front = front' ∧ back = back' := by
  induction front generalizing front' with
  | nil =>
      cases front' with
      | nil => exact ⟨rfl, (List.cons.inj h).2⟩
      | cons d front' => exact absurd (List.cons.inj h).1 (List.ne_of_not_mem_cons hfront')
  | cons d front ih =>
      cases front' with
      | nil => exact absurd (List.cons.inj h).1.symm (List.ne_of_not_mem_cons hfront)
      | cons d' front' =>
          obtain ⟨rfl, hrest⟩ := List.cons.inj h
          obtain ⟨rfl, hback⟩ := ih (List.not_mem_of_not_mem_cons hfront)
            (List.not_mem_of_not_mem_cons hfront') hrest
          exact ⟨rfl, hback⟩

/-- A text is split in one way at the last of its characters that is the given one. -/
theorem split_last (hback : c ∉ back) (hback' : c ∉ back')
    (h : front ++ c :: back = front' ++ c :: back') : front = front' ∧ back = back' := by
  have hreverse : back.reverse ++ c :: front.reverse = back'.reverse ++ c :: front'.reverse := by
    simpa using congrArg List.reverse h
  have hparts := split_first (by simpa using hback) (by simpa using hback') hreverse
  exact ⟨List.reverse_inj.1 hparts.2, List.reverse_inj.1 hparts.1⟩

end

/-- What is written tells the value and where its text ends, whatever stands behind it. -/
def SelfDelimiting {α : Type} (write : α → String) : Prop :=
  ∀ ⦃a b : α⦄ ⦃back back' : List Char⦄,
    (write a).toList ++ back = (write b).toList ++ back' → a = b ∧ back = back'

namespace SelfDelimiting

variable {α : Type} {write : α → String}

/-- Names that do not start each other tell where they end. -/
theorem of_apart (h : ∀ a b, a ≠ b → ¬ (write a).toList <+: (write b).toList) :
    SelfDelimiting write := by
  intro a b back back' heq
  by_cases hab : a = b
  · subst hab
    exact ⟨rfl, List.append_cancel_left heq⟩
  · have hfront : (write a).toList <+: (write b).toList ++ back' := ⟨back, heq⟩
    rcases List.prefix_or_prefix_of_prefix hfront (List.prefix_append _ back') with hab' | hba
    · exact absurd hab' (h a b hab)
    · exact absurd hba (h b a (Ne.symm hab))

/-- With nothing behind it, what is written tells the value. -/
theorem inj (h : SelfDelimiting write) {a b : α} (heq : write a = write b) : a = b :=
  (@h a b [] [] (by rw [heq])).1

end SelfDelimiting

/-! ## Numerals -/

namespace Numeral

variable {c : Char} {back back' : List Char}

/-- A number is told by its digits. -/
theorem digits_inj {n m : Nat} (h : digits n = digits m) : n = m := by
  rw [← value_digits n, h, value_digits]

/-- A natural number is told in front of anything but a digit. -/
theorem ofNat_append_inj {n m : Nat} (hc : c.isDigit = false)
    (h : (ofNat n).toList ++ c :: back = (ofNat m).toList ++ c :: back') :
    n = m ∧ back = back' := by
  have hdigits (k : Nat) : c ∉ digits k := by
    intro hmem
    rw [isDigit_of_mem_digits hmem] at hc
    cases hc
  simp only [ofNat, String.toList_ofList] at h
  obtain ⟨hfront, hback⟩ := split_first (hdigits n) (hdigits m) h
  exact ⟨digits_inj hfront, hback⟩

/-- A number that is not negative starts with a digit. -/
theorem ofNat_ne_minus {n : Nat} {rest : List Char} :
    (ofNat n).toList ++ back ≠ '-' :: rest := by
  intro h
  rw [ofNat, String.toList_ofList] at h
  cases hdigits : digits n with
  | nil => exact digits_ne_nil n hdigits
  | cons d ds =>
      rw [hdigits, List.cons_append] at h
      have hd : d.isDigit = true := isDigit_of_mem_digits (hdigits ▸ List.mem_cons_self)
      rw [(List.cons.inj h).1] at hd
      exact absurd hd (by decide)

/-- An integer is told in front of anything but a digit. -/
theorem ofInt_append_inj {n m : Int} (hc : c.isDigit = false)
    (h : (ofInt n).toList ++ c :: back = (ofInt m).toList ++ c :: back') :
    n = m ∧ back = back' := by
  unfold ofInt at h
  by_cases hn : n < 0
  · by_cases hm : m < 0
    · rw [if_pos hn, if_pos hm] at h
      have hrest : (ofNat n.natAbs).toList ++ c :: back =
          (ofNat m.natAbs).toList ++ c :: back' := by
        simpa using h
      obtain ⟨habs, hback⟩ := ofNat_append_inj hc hrest
      exact ⟨by omega, hback⟩
    · rw [if_pos hn, if_neg hm] at h
      exact absurd h.symm (by simpa using ofNat_ne_minus)
  · by_cases hm : m < 0
    · rw [if_neg hn, if_pos hm] at h
      exact absurd h (by simpa using ofNat_ne_minus)
    · rw [if_neg hn, if_neg hm] at h
      obtain ⟨habs, hback⟩ := ofNat_append_inj hc h
      exact ⟨by omega, hback⟩

end Numeral

/-! ## Quoted texts -/

namespace Quoted

variable {c d : Char} {cs ds back back' : List Char}

/-- A hexadecimal digit tells its value. -/
theorem hexDigit_inj {n m : Nat} (hn : n < 16) (hm : m < 16) (h : hexDigit n = hexDigit m) :
    n = m := by
  have hall : ∀ i j : Fin 16, hexDigit i = hexDigit j → i = j := by decide
  exact Fin.mk.inj (hall ⟨n, hn⟩ ⟨m, hm⟩ h)

/-- No hexadecimal digit is the bracket that closes an escape. -/
theorem hexDigit_ne_bracket {n : Nat} (hn : n < 16) : hexDigit n ≠ '\x7d' := by
  have hall : ∀ i : Fin 16, hexDigit i ≠ '\x7d' := by decide
  exact hall ⟨n, hn⟩

/-- Digits are written in front of what stands behind them. -/
theorem hexOnto_append (n : Nat) (front rest : List Char) :
    hexOnto n (front ++ rest) = hexOnto n front ++ rest := by
  induction n using Nat.strongRecOn generalizing front with
  | ind n ih =>
      rw [hexOnto.eq_def n (front ++ rest), hexOnto.eq_def n front]
      split
      · rfl
      · exact ih (n / 16) (by omega) (hexDigit (n % 16) :: front)

/-- A value below sixteen is written with one hexadecimal digit. -/
theorem hexOnto_of_lt {n : Nat} (h : n < 16) : hexOnto n [] = [hexDigit n] := by
  rw [hexOnto, if_pos h]

/-- The last hexadecimal digit of a larger value is its remainder by sixteen. -/
theorem hexOnto_of_ge {n : Nat} (h : 16 ≤ n) :
    hexOnto n [] = hexOnto (n / 16) [] ++ [hexDigit (n % 16)] := by
  rw [hexOnto, if_neg (by omega)]
  exact hexOnto_append (n / 16) [] [hexDigit (n % 16)]

/-- A value is written with at least one hexadecimal digit. -/
theorem hexOnto_ne_nil (n : Nat) : hexOnto n [] ≠ [] := by
  by_cases h : n < 16
  · simp [hexOnto_of_lt h]
  · simp [hexOnto_of_ge (Nat.le_of_not_lt h)]

/-- The bracket that closes an escape is met behind its digits only. -/
theorem bracket_not_mem_hexOnto (n : Nat) : '\x7d' ∉ hexOnto n [] := by
  induction n using Nat.strongRecOn with
  | ind n ih =>
      by_cases h : n < 16
      · rw [hexOnto_of_lt h]
        exact mt List.mem_singleton.1 (hexDigit_ne_bracket h).symm
      · have hlast := hexDigit_ne_bracket (Nat.mod_lt n (by decide : 0 < 16))
        rw [hexOnto_of_ge (Nat.le_of_not_lt h), List.mem_append, List.mem_singleton]
        exact not_or.2 ⟨ih (n / 16) (by omega), hlast.symm⟩

/-- A number is told by its hexadecimal digits. -/
theorem hexOnto_inj {n m : Nat} (h : hexOnto n [] = hexOnto m []) : n = m := by
  induction n using Nat.strongRecOn generalizing m with
  | ind n ih =>
      by_cases hn : n < 16
      · by_cases hm : m < 16
        · rw [hexOnto_of_lt hn, hexOnto_of_lt hm] at h
          exact hexDigit_inj hn hm (List.cons.inj h).1
        · rw [hexOnto_of_lt hn, hexOnto_of_ge (Nat.le_of_not_lt hm)] at h
          exact absurd (List.append_eq_singleton_iff.1 h.symm) (by simp [hexOnto_ne_nil])
      · by_cases hm : m < 16
        · rw [hexOnto_of_ge (Nat.le_of_not_lt hn), hexOnto_of_lt hm] at h
          exact absurd (List.append_eq_singleton_iff.1 h) (by simp [hexOnto_ne_nil])
        · rw [hexOnto_of_ge (Nat.le_of_not_lt hn), hexOnto_of_ge (Nat.le_of_not_lt hm)] at h
          obtain ⟨hfront, hlast⟩ := List.append_inj' h rfl
          have hdiv := ih (n / 16) (by omega) hfront
          have hmod := hexDigit_inj (Nat.mod_lt n (by decide)) (Nat.mod_lt m (by decide))
            (List.cons.inj hlast).1
          omega

/-- The characters that have an escape of their own, each with the letter that stands for it
behind a backslash. -/
def letters : List (Char × Char) :=
  [('\x00', '0'), ('\t', 't'), ('\r', 'r'), ('\n', 'n'), ('"', '"'), ('\\', '\\')]

/-- How a character stands between quotation marks: with its letter behind a backslash, by
itself, or with its code point. -/
inductive Escaped : Char → List Char → Prop where
  | letter {c l : Char} (h : (c, l) ∈ letters) : Escaped c ['\\', l]
  | itself {c : Char} (hquote : c ≠ '"') (hbackslash : c ≠ '\\') : Escaped c [c]
  | point (c : Char) : Escaped c (codePoint c)

/-- Every character has one of the three forms when it is quoted. -/
theorem escaped_escape (c : Char) : Escaped c (escape c) := by
  unfold escape
  split_ifs with hnul htab hreturn hfeed hquote hbackslash hprintable
  · subst hnul
    exact .letter (by decide)
  · subst htab
    exact .letter (by decide)
  · subst hreturn
    exact .letter (by decide)
  · subst hfeed
    exact .letter (by decide)
  · subst hquote
    exact .letter (by decide)
  · subst hbackslash
    exact .letter (by decide)
  · exact .itself hquote hbackslash
  · exact .point c

/-- A letter behind a backslash stands for one character. -/
theorem letters_inj {l : Char} (hc : (c, l) ∈ letters) (hd : (d, l) ∈ letters) : c = d := by
  have hall : ∀ p ∈ letters, ∀ q ∈ letters, p.2 = q.2 → p.1 = q.1 := by decide
  exact hall _ hc _ hd rfl

/-- The letter that starts a numbered escape names no character of its own. -/
theorem letter_ne_u {l : Char} (h : (c, l) ∈ letters) : l ≠ 'u' := by
  have hall : ∀ p ∈ letters, p.2 ≠ 'u' := by decide
  exact hall _ h

/-- A code point is written as digits between brackets. -/
theorem codePoint_append (c : Char) (rest : List Char) :
    codePoint c ++ rest = '\\' :: 'u' :: '\x7b' :: (hexOnto c.toNat [] ++ '\x7d' :: rest) := by
  have hdigits := hexOnto_append c.toNat [] ['\x7d']
  rw [List.nil_append] at hdigits
  simp [codePoint, hdigits]

/-- What stands for a character tells the character and where it ends. -/
theorem Escaped.append_inj (hc : Escaped c cs) (hd : Escaped d ds)
    (h : cs ++ back = ds ++ back') : c = d ∧ back = back' := by
  cases hc with
  | letter hc =>
      cases hd with
      | letter hd =>
          simp only [List.cons_append, List.nil_append, List.cons.injEq, true_and] at h
          obtain ⟨rfl, hback⟩ := h
          exact ⟨letters_inj hc hd, hback⟩
      | itself hquote hbackslash => exact absurd (List.cons.inj h).1.symm hbackslash
      | point =>
          rw [codePoint_append] at h
          exact absurd (List.cons.inj (List.cons.inj h).2).1 (letter_ne_u hc)
  | itself hquote hbackslash =>
      cases hd with
      | letter hd => exact absurd (List.cons.inj h).1 hbackslash
      | itself hquote' hbackslash' => exact ⟨(List.cons.inj h).1, (List.cons.inj h).2⟩
      | point =>
          rw [codePoint_append] at h
          exact absurd (List.cons.inj h).1 hbackslash
  | point =>
      rw [codePoint_append] at h
      cases hd with
      | letter hd => exact absurd (List.cons.inj (List.cons.inj h).2).1.symm (letter_ne_u hd)
      | itself hquote hbackslash => exact absurd (List.cons.inj h).1.symm hbackslash
      | point =>
          rw [codePoint_append] at h
          simp only [List.cons.injEq, true_and] at h
          obtain ⟨hdigits, hback⟩ :=
            split_first (bracket_not_mem_hexOnto _) (bracket_not_mem_hexOnto _) h
          exact ⟨Char.toNat_inj.1 (hexOnto_inj hdigits), hback⟩

/-- No character stands as the quotation mark that ends a text. -/
theorem Escaped.append_ne_mark (h : Escaped c cs) : cs ++ back ≠ '"' :: back' := by
  cases h with
  | letter h => exact fun heq => absurd (List.cons.inj heq).1 (by decide)
  | itself hquote hbackslash => exact fun heq => hquote (List.cons.inj heq).1
  | point =>
      rw [codePoint_append]
      exact fun heq => absurd (List.cons.inj heq).1 (by decide)

/-- What stands between quotation marks tells the text, and where it ends. -/
theorem flatMap_escape_append_inj
    (h : cs.flatMap escape ++ '"' :: back = ds.flatMap escape ++ '"' :: back') :
    cs = ds ∧ back = back' := by
  induction cs generalizing ds with
  | nil =>
      cases ds with
      | nil => exact ⟨rfl, (List.cons.inj h).2⟩
      | cons d ds =>
          rw [List.flatMap_cons, List.append_assoc] at h
          exact absurd h.symm (escaped_escape d).append_ne_mark
  | cons c cs ih =>
      cases ds with
      | nil =>
          rw [List.flatMap_cons, List.append_assoc] at h
          exact absurd h (escaped_escape c).append_ne_mark
      | cons d ds =>
          rw [List.flatMap_cons, List.flatMap_cons, List.append_assoc, List.append_assoc] at h
          obtain ⟨rfl, hrest⟩ := (escaped_escape c).append_inj (escaped_escape d) h
          obtain ⟨rfl, hback⟩ := ih hrest
          exact ⟨rfl, hback⟩

/-- A quoted text tells the text, and where it ends. -/
theorem render_selfDelimiting : SelfDelimiting render := by
  intro text text' back back' h
  simp only [render, String.toList_ofList, List.cons_append, List.append_assoc,
    List.nil_append, List.cons.injEq, true_and] at h
  obtain ⟨htext, hback⟩ := flatMap_escape_append_inj h
  exact ⟨String.toList_inj.1 htext, hback⟩

end Quoted
end Primer
