import Mathlib.Tactic.IntervalCases
import PhraseStructure.Text.Quoted

/-!
# Quoted text

A text is determined by how it is shown between quotes (`quotedChars_injective`). Behind a backslash
stands a letter that tells what is escaped: one of a few characters, or any by its number, written
with as many hexadecimal digits as the letter announces (`Escapes`). So no escape is the beginning
of another one, and where the escape of a character ends does not depend on what follows
(`Escapes.eq_of_append_eq`).
-/

namespace PhraseStructure.Text

variable {quote c d : Char} {cs ds rest rest' : List Char}

section Digits

/-- The value of a hexadecimal digit. -/
def hexValue (digit : Char) : Nat :=
  if digit.toNat < 0x3A then digit.toNat - 0x30 else digit.toNat - 0x57

/-- The number that hexadecimal digits stand for. -/
def hexNumber (digits : List Char) : Nat :=
  digits.foldl (fun number digit => 16 * number + hexValue digit) 0

/-- A hexadecimal digit is written as the character that has its value. -/
theorem hexValue_digitChar {n : Nat} (h : n < 16) : hexValue n.digitChar = n := by
  interval_cases n <;> rfl

/-- The digits of a number stand for this number. -/
theorem hexNumber_toDigits (n : Nat) : hexNumber (Nat.toDigits 16 n) = n := by
  induction n using Nat.strong_induction_on with
  | _ n ih =>
    rw [Nat.toDigits_eq_if (by decide)]
    split
    · next hsmall => simp [hexNumber, hexValue_digitChar hsmall]
    · have hlast := hexValue_digitChar (Nat.mod_lt n (by decide : 0 < 16))
      have hfront := ih (n / 16) (by omega)
      rw [hexNumber] at hfront ⊢
      rw [List.foldl_append, hfront, List.foldl_cons, List.foldl_nil, hlast]
      omega

/-- The number can be told from its digits. -/
theorem hexNumber_hexDigits (width n : Nat) : hexNumber (hexDigits width n) = n := by
  have hzeros : ∀ k, (List.replicate k '0').foldl
      (fun number digit => 16 * number + hexValue digit) 0 = 0 := by
    intro k
    induction k with
    | zero => rfl
    | succ k ih => exact ih
  rw [hexDigits, hexNumber, List.foldl_append, hzeros]
  exact hexNumber_toDigits n

/-- A number that does not need more digits has as many digits as it should have. -/
theorem length_hexDigits {width n : Nat} (hwidth : 0 < width) (hn : n < 16 ^ width) :
    (hexDigits width n).length = width := by
  have hlength := (Nat.length_toDigits_le_iff (b := 16) (by decide) hwidth).mpr hn
  rw [hexDigits, List.length_append, List.length_replicate]
  omega

/-- Of as many digits each, numbers can be told apart whatever follows. -/
theorem hexDigits_append_inj {width m n : Nat} (hwidth : 0 < width) (hm : m < 16 ^ width)
    (hn : n < 16 ^ width) (h : hexDigits width m ++ rest = hexDigits width n ++ rest') :
    m = n ∧ rest = rest' := by
  have hlength := (length_hexDigits hwidth hm).trans (length_hexDigits hwidth hn).symm
  obtain ⟨hdigits, hrest⟩ := List.append_inj h hlength
  have hnumber := congrArg hexNumber hdigits
  rw [hexNumber_hexDigits, hexNumber_hexDigits] at hnumber
  exact ⟨hnumber, hrest⟩

end Digits

section Codes

/-- The halves of characters have codes of their own. -/
theorem isHalf_iff {code : Nat} : isHalf code = true ↔ 0xD800 ≤ code ∧ code < 0xE000 := by
  simp [isHalf]

/-- No character has the code of a half. -/
theorem toNat_cases (c : Char) : c.toNat < 0xD800 ∨ 0xDFFF < c.toNat ∧ c.toNat < 0x110000 := c.valid

/-- The number of a character is its own, or that of the half that it stands for, which is the
number of no character. -/
theorem codeOf_injective : Function.Injective codeOf := by
  intro c d h
  have hc := toNat_cases c
  have hd := toNat_cases d
  have hsame : c.toNat = d.toNat := by
    unfold codeOf at h
    split at h <;> split at h <;> simp only [isHalf_iff] at * <;> omega
  exact Char.toNat_inj.mp hsame

/-- Eight digits are enough for every code. -/
theorem codeOf_lt (c : Char) : codeOf c < 16 ^ 8 := by
  have hc := toNat_cases c
  unfold codeOf
  split <;> omega

end Codes

section Escapes

/-- How many digits follow a letter behind a backslash. -/
def escapeWidth : Char → Option Nat
  | 'x' => some 2
  | 'u' => some 4
  | 'U' => some 8
  | _ => none

/-- The character that a letter stands for that no digits follow. -/
def letterValue : Char → Char
  | 'n' => '\n'
  | 'r' => '\r'
  | 't' => '\t'
  | l => l

/-- How a character may be written between quotes. -/
inductive Escapes (c : Char) : List Char → Prop
  | plain : c ≠ '\\' → Escapes c [c]
  | letter {l : Char} : escapeWidth l = none → letterValue l = c → Escapes c ['\\', l]
  | number {l : Char} {width : Nat} : escapeWidth l = some width → 0 < width →
      codeOf c < 16 ^ width → Escapes c ('\\' :: l :: hexDigits width (codeOf c))

/-- Between quotes, a character is written in one of the ways in which it may be. -/
theorem escapes_escape (hquote : quote = '\'' ∨ quote = '"') (c : Char) :
    Escapes c (escape quote c) := by
  unfold escape
  split
  · next h =>
    rcases (by simpa using h : c = '\\' ∨ c = quote) with rfl | rfl
    · exact .letter rfl rfl
    · rcases hquote with rfl | rfl <;> exact .letter rfl rfl
  · next h =>
    split_ifs with hfeed hreturn htab hprintable hshort hmiddle
    · exact .letter rfl hfeed.symm
    · exact .letter rfl hreturn.symm
    · exact .letter rfl htab.symm
    · exact .plain (by simp_all)
    · exact .number rfl (by decide) hshort
    · exact .number rfl (by decide) hmiddle
    · exact .number rfl (by decide) (codeOf_lt c)

/-- Where a character ends that is written between quotes does not depend on what follows. -/
theorem Escapes.eq_of_append_eq (hc : Escapes c cs) (hd : Escapes d ds)
    (h : cs ++ rest = ds ++ rest') : c = d ∧ rest = rest' := by
  have hletter : ∀ {l l' : Char} {xs ys : List Char},
      ('\\' :: l :: xs) ++ rest = ('\\' :: l' :: ys) ++ rest' →
        l = l' ∧ xs ++ rest = ys ++ rest' := by
    intro l l' xs ys h
    simpa using h
  cases hc with
  | plain hc =>
    cases hd with
    | plain => simpa using h
    | letter | number =>
      rw [List.singleton_append, List.cons_append, List.cons.injEq] at h
      exact absurd h.1 hc
  | letter hwidth hvalue =>
    cases hd with
    | plain hd =>
      rw [List.singleton_append, List.cons_append, List.cons.injEq] at h
      exact absurd h.1.symm hd
    | letter _ hvalue' =>
      obtain ⟨rfl, hrest⟩ := hletter h
      exact ⟨hvalue.symm.trans hvalue', hrest⟩
    | number hwidth' =>
      obtain ⟨rfl, -⟩ := hletter h
      cases hwidth.symm.trans hwidth'
  | number hwidth hpos hlt =>
    cases hd with
    | plain hd =>
      rw [List.singleton_append, List.cons_append, List.cons.injEq] at h
      exact absurd h.1.symm hd
    | letter hwidth' =>
      obtain ⟨rfl, -⟩ := hletter h
      cases hwidth.symm.trans hwidth'
    | number hwidth' _ hlt' =>
      obtain ⟨rfl, hdigits⟩ := hletter h
      cases hwidth.symm.trans hwidth'
      obtain ⟨hcode, hrest⟩ := hexDigits_append_inj hpos hlt hlt' hdigits
      exact ⟨codeOf_injective hcode, hrest⟩

end Escapes

section Quotes

/-- The characters between quotes can be told from what is written. -/
theorem flatMap_escape_injective (hquote : quote = '\'' ∨ quote = '"') :
    Function.Injective fun cs : List Char => cs.flatMap (escape quote) := by
  have hne : ∀ c, escape quote c ≠ [] := by
    intro c hnil
    have hc := escapes_escape hquote c
    rw [hnil] at hc
    cases hc
  intro cs ds h
  induction cs generalizing ds with
  | nil =>
    cases ds with
    | nil => rfl
    | cons d ds => simp [hne] at h
  | cons c cs ih =>
    cases ds with
    | nil => simp [hne] at h
    | cons d ds =>
      obtain ⟨rfl, hrest⟩ :=
        (escapes_escape hquote c).eq_of_append_eq (escapes_escape hquote d) h
      rw [ih hrest]

/-- The quote is a single or a double one. -/
theorem quoteFor_cases (cs : List Char) : quoteFor cs = '\'' ∨ quoteFor cs = '"' := by
  unfold quoteFor
  split
  · exact .inr rfl
  · exact .inl rfl

/-- A text is determined by how it is shown between quotes. -/
theorem quotedChars_injective : Function.Injective quotedChars := by
  intro cs ds h
  obtain ⟨hquote, hinner⟩ := List.cons.inj h
  rw [← hquote] at hinner
  exact flatMap_escape_injective (quoteFor_cases cs) (List.append_cancel_right hinner)

end Quotes

end PhraseStructure.Text
