import Mathlib.Data.List.Basic
import PhraseStructure.Text.Utf8

/-!
# Decoding what was encoded

The first byte of a character tells how many there are (`IsCharacter`), so that a decoder takes them
together, and keeps those of a character that is cut off. Text in UTF-8 is decoded to the text
again, as a whole (`decodeUtf8_encodeUtf8`) and also in blocks, wherever these divide it
(`decodeBlocksFrom_of_begins`).
-/

namespace PhraseStructure.Text

variable {b b₁ : UInt8} {bytes front rest pending : List UInt8} {c : Char} {cs : List Char}

/-- The bytes of a text in UTF-8. -/
def encodeUtf8 (cs : List Char) : List UInt8 := cs.flatMap String.utf8EncodeChar

section Characters

/-- The bytes are those that the decoder takes for this character. -/
inductive IsCharacter (c : Char) : List UInt8 → Prop
  | one {b : UInt8} : b < 0x80 → Char.ofNat b.toNat = c → IsCharacter c [b]
  | two {b b₁ : UInt8} : 0xC2 ≤ b ∧ b ≤ 0xDF → isContinuation b₁ = true →
      Char.ofNat ((b.toNat - 0xC0) * 0x40 + payload b₁) = c → IsCharacter c [b, b₁]
  | three {b b₁ b₂ : UInt8} : 0xE0 ≤ b ∧ b ≤ 0xEF → isSecond b b₁ = true →
      isContinuation b₂ = true →
      Char.ofNat ((b.toNat - 0xE0) * 0x1000 + payload b₁ * 0x40 + payload b₂) = c →
      IsCharacter c [b, b₁, b₂]
  | four {b b₁ b₂ b₃ : UInt8} : 0xF0 ≤ b ∧ b ≤ 0xF4 → isSecond b b₁ = true →
      isContinuation b₂ = true → isContinuation b₃ = true →
      Char.ofNat ((b.toNat - 0xF0) * 0x40000 + payload b₁ * 0x1000 + payload b₂ * 0x40 +
        payload b₃) = c →
      IsCharacter c [b, b₁, b₂, b₃]

/-- The bytes that go on with a character are those from 80 to BF, in hexadecimal. -/
theorem isContinuation_iff : isContinuation b = true ↔ 0x80 ≤ b.toNat ∧ b.toNat ≤ 0xBF := by
  simp [isContinuation, UInt8.le_iff_toNat_le]

/-- Behind some first bytes, only a part of the bytes can go on with the character. -/
theorem isSecond_iff : isSecond b b₁ = true ↔ (0x80 ≤ b₁.toNat ∧ b₁.toNat ≤ 0xBF) ∧
    (b.toNat = 0xE0 → 0xA0 ≤ b₁.toNat) ∧ (b.toNat = 0xED → b₁.toNat < 0xA0) ∧
    (b.toNat = 0xF0 → 0x90 ≤ b₁.toNat) ∧ (b.toNat = 0xF4 → b₁.toNat < 0x90) := by
  rw [isSecond, Bool.and_eq_true, isContinuation_iff]
  refine and_congr_right fun _ => ?_
  have heq : ∀ n : UInt8, b = n ↔ b.toNat = n.toNat := fun n => UInt8.toNat_inj.symm
  simp only [heq]
  split_ifs <;> simp_all [UInt8.le_iff_toNat_le, UInt8.lt_iff_toNat_lt]

/-- What is written of six bits goes on with a character. -/
theorem isContinuation_ofNat (n : Nat) : isContinuation (UInt8.ofNat (n % 64 + 128)) = true := by
  rw [isContinuation_iff, UInt8.toNat_ofNat']
  omega

/-- The six bits are those that were written. -/
theorem payload_ofNat (n : Nat) : payload (UInt8.ofNat (n % 64 + 128)) = n % 64 := by
  rw [payload, UInt8.toNat_ofNat']
  omega

/-- The bytes that a character is encoded by are taken for it. -/
theorem isCharacter_utf8EncodeChar (c : Char) : IsCharacter c (String.utf8EncodeChar c) := by
  have hvalid : c.toNat < 0xD800 ∨ 0xDFFF < c.toNat ∧ c.toNat < 0x110000 := c.valid
  have hself : ∀ n, n = c.toNat → Char.ofNat n = c := by
    rintro n rfl
    exact Char.ofNat_toNat c
  simp only [String.utf8EncodeChar, Char.toNat_val]
  split_ifs with hone htwo hthree
  · refine .one ?_ (hself _ ?_)
    · simp only [UInt8.lt_iff_toNat_lt, UInt8.toNat_ofNat', UInt8.toNat_ofNat]
      omega
    · rw [UInt8.toNat_ofNat']
      omega
  · refine .two ?_ (isContinuation_ofNat _) (hself _ ?_)
    · simp only [UInt8.le_iff_toNat_le, UInt8.toNat_ofNat', UInt8.toNat_ofNat]
      omega
    · rw [payload_ofNat, UInt8.toNat_ofNat']
      omega
  · refine .three ?_ ?_ (isContinuation_ofNat _) (hself _ ?_)
    · simp only [UInt8.le_iff_toNat_le, UInt8.toNat_ofNat', UInt8.toNat_ofNat]
      omega
    · -- Behind the byte 0xED a second byte from 0xA0 on would make a surrogate, which is no `Char`.
      rw [isSecond_iff, UInt8.toNat_ofNat', UInt8.toNat_ofNat']
      omega
    · simp only [payload_ofNat, UInt8.toNat_ofNat']
      omega
  · refine .four ?_ ?_ (isContinuation_ofNat _) (isContinuation_ofNat _) (hself _ ?_)
    · simp only [UInt8.le_iff_toNat_le, UInt8.toNat_ofNat', UInt8.toNat_ofNat]
      omega
    · rw [isSecond_iff, UInt8.toNat_ofNat', UInt8.toNat_ofNat']
      omega
    · simp only [payload_ofNat, UInt8.toNat_ofNat']
      omega

/-- The first byte of two is above those that stand alone. -/
theorem not_lt_of_two_le (h : 0xC2 ≤ b) : ¬b < 0x80 :=
  UInt8.not_lt.mpr (UInt8.le_trans (by decide) h)

/-- The first byte of three is above that of two. -/
theorem not_le_of_three_le (h : 0xE0 ≤ b) : ¬b < 0x80 ∧ ¬b ≤ 0xDF :=
  ⟨not_lt_of_two_le (UInt8.le_trans (by decide) h),
    UInt8.not_le.mpr (UInt8.lt_of_lt_of_le (by decide) h)⟩

/-- The first byte of four is above that of three. -/
theorem not_le_of_four_le (h : 0xF0 ≤ b) : ¬b < 0x80 ∧ ¬b ≤ 0xDF ∧ ¬b ≤ 0xEF :=
  have hthree := not_le_of_three_le (UInt8.le_trans (by decide) h)
  ⟨hthree.1, hthree.2, UInt8.not_le.mpr (UInt8.lt_of_lt_of_le (by decide) h)⟩

namespace IsCharacter

/-- A decoder takes the bytes of a character together. -/
theorem decodeFrom_append (h : IsCharacter c bytes) (place : Nat) (decoded : List Char)
    (rest : List UInt8) : decodeFrom place decoded (bytes ++ rest) =
      decodeFrom (place + bytes.length) (c :: decoded) rest := by
  rw [decodeFrom.eq_def]
  cases h with
  | one hb hc =>
    subst hc
    simp [hb]
  | two hb hb₁ hc =>
    subst hc
    simp [not_lt_of_two_le hb.1, hb, hb₁]
  | three hb hb₁ hb₂ hc =>
    subst hc
    simp [not_le_of_three_le hb.1, hb, hb₁, hb₂]
  | four hb hb₁ hb₂ hb₃ hc =>
    subst hc
    simp [not_le_of_four_le hb.1, hb, hb₁, hb₂, hb₃]

/-- A decoder keeps the bytes of a character that is cut off. -/
theorem decodeFrom_take (h : IsCharacter c bytes) (place : Nat) (decoded : List Char) {n : Nat}
    (hpos : 0 < n) (hn : n < bytes.length) : decodeFrom place decoded (bytes.take n) =
      (decoded.reverse, .cutOff place (bytes.take n)) := by
  rw [decodeFrom.eq_def]
  cases h with
  | one hb hc =>
    simp only [List.length_cons, List.length_nil] at hn
    omega
  | two hb hb₁ hc =>
    obtain rfl : n = 1 := by
      simp only [List.length_cons, List.length_nil] at hn
      omega
    simp [not_lt_of_two_le hb.1, hb]
  | three hb hb₁ hb₂ hc =>
    obtain rfl | rfl : n = 1 ∨ n = 2 := by
      simp only [List.length_cons, List.length_nil] at hn
      omega
    · simp [not_le_of_three_le hb.1, hb]
    · simp [not_le_of_three_le hb.1, hb, hb₁]
  | four hb hb₁ hb₂ hb₃ hc =>
    obtain rfl | rfl | rfl : n = 1 ∨ n = 2 ∨ n = 3 := by
      simp only [List.length_cons, List.length_nil] at hn
      omega
    · simp [not_le_of_four_le hb.1, hb]
    · simp [not_le_of_four_le hb.1, hb, hb₁]
    · simp [not_le_of_four_le hb.1, hb, hb₁, hb₂]

end IsCharacter

end Characters

section Texts

/-- The bytes of the first character come before the others. -/
theorem encodeUtf8_cons (c : Char) (cs : List Char) :
    encodeUtf8 (c :: cs) = String.utf8EncodeChar c ++ encodeUtf8 cs := List.flatMap_cons

/-- The characters of a text are decoded one by one. -/
theorem decodeFrom_encodeUtf8 (cs decoded : List Char) (place : Nat) (rest : List UInt8) :
    decodeFrom place decoded (encodeUtf8 cs ++ rest) =
      decodeFrom (place + (encodeUtf8 cs).length) (cs.reverse ++ decoded) rest := by
  induction cs generalizing place decoded with
  | nil => rfl
  | cons c cs ih =>
    rw [encodeUtf8_cons, List.append_assoc, (isCharacter_utf8EncodeChar c).decodeFrom_append, ih,
      List.length_append, Nat.add_assoc, List.reverse_cons, List.append_assoc,
      List.singleton_append]

/-- A text that was encoded is decoded to this text. -/
theorem decodeUtf8_encodeUtf8 (cs : List Char) : decodeUtf8 (encodeUtf8 cs) = .ok cs := by
  have hall := decodeFrom_encodeUtf8 cs [] 0 []
  rw [List.append_nil, List.append_nil, decodeFrom, List.reverse_reverse] at hall
  rw [decodeUtf8, hall]

/-- The bytes begin a text, but do not make up its first character. -/
structure Begins (pending rest : List UInt8) (cs : List Char) : Prop where
  append_eq : pending ++ rest = encodeUtf8 cs
  length_lt : ∀ c ∈ cs.head?, pending.length < (String.utf8EncodeChar c).length

/-- Wherever the bytes of a text are divided, some characters stand before, and the bytes behind
these begin what is left of the text. -/
theorem exists_begins (h : front ++ rest = encodeUtf8 cs) :
    ∃ done later pending, cs = done ++ later ∧ front = encodeUtf8 done ++ pending ∧
      Begins pending rest later := by
  induction cs generalizing front with
  | nil => exact ⟨[], [], front, rfl, rfl, h, by simp⟩
  | cons c cs ih =>
    by_cases hlength : front.length < (String.utf8EncodeChar c).length
    · exact ⟨[], c :: cs, front, rfl, rfl, h, by simpa using hlength⟩
    · have hprefix : String.utf8EncodeChar c <+: front :=
        List.prefix_of_prefix_length_le (List.prefix_append _ _) (h ▸ List.prefix_append _ _)
          (Nat.not_lt.mp hlength)
      obtain ⟨front, rfl⟩ := hprefix
      rw [encodeUtf8_cons, List.append_assoc, List.append_cancel_left_eq] at h
      obtain ⟨done, later, pending, rfl, rfl, hbegins⟩ := ih h
      exact ⟨c :: done, later, pending, rfl, by simp [encodeUtf8], hbegins⟩

/-- Bytes that begin a text are kept until there are more of them. -/
theorem Begins.decodeFrom_eq (h : Begins pending rest cs) (place : Nat) (decoded : List Char) :
    decodeFrom place decoded pending =
      (decoded.reverse, if pending = [] then .complete else .cutOff place pending) := by
  obtain ⟨happend, hlength⟩ := h
  by_cases hnil : pending = []
  · rw [hnil, decodeFrom, if_pos rfl]
  · cases cs with
    | nil => exact absurd (List.append_eq_nil_iff.mp happend).1 hnil
    | cons c cs =>
      have hlt : pending.length < (String.utf8EncodeChar c).length := hlength c rfl
      have hprefix : pending <+: String.utf8EncodeChar c :=
        List.prefix_of_prefix_length_le (happend ▸ List.prefix_append _ _)
          (List.prefix_append _ _) (Nat.le_of_lt hlt)
      have hpos := List.length_pos_iff.mpr hnil
      have htake := (isCharacter_utf8EncodeChar c).decodeFrom_take place decoded hpos hlt
      rw [← List.prefix_iff_eq_take.mp hprefix] at htake
      rw [htake, if_neg hnil]

/-- Wherever blocks divide the bytes of a text, they are decoded to this text, and no fault ends
it early. -/
theorem decodeBlocksFrom_of_begins {blocks : List (List UInt8)}
    (h : Begins pending blocks.flatten cs) : decodeBlocksFrom pending blocks = (cs, none) := by
  induction blocks generalizing pending cs with
  | nil =>
    obtain ⟨happend, hlength⟩ := h
    rw [List.flatten_nil, List.append_nil] at happend
    subst happend
    cases cs with
    | nil => rfl
    | cons c cs =>
      have hlt : (encodeUtf8 (c :: cs)).length < (String.utf8EncodeChar c).length := hlength c rfl
      rw [encodeUtf8_cons, List.length_append] at hlt
      omega
  | cons block blocks ih =>
    have hfront : (pending ++ block) ++ blocks.flatten = encodeUtf8 cs := by
      rw [← h.append_eq, List.flatten_cons, List.append_assoc]
    obtain ⟨done, later, left, rfl, hblock, hbegins⟩ := exists_begins hfront
    have hdecode : decodeFrom 0 [] (pending ++ block) =
        (done, if left = [] then .complete else .cutOff (encodeUtf8 done).length left) := by
      rw [hblock, decodeFrom_encodeUtf8, hbegins.decodeFrom_eq]
      simp
    have hlater := ih hbegins
    rw [decodeBlocksFrom, hdecode]
    by_cases hnil : left = []
    · subst hnil
      rw [if_pos rfl]
      simp only [hlater]
    · rw [if_neg hnil]
      simp only [hlater]

/-- The blocks make up the bytes. -/
theorem flatten_blocks (size : Nat) (bytes : List UInt8) : (blocks size bytes).flatten = bytes := by
  fun_induction blocks size bytes with
  | case1 => rfl
  | case2 b rest ih => rw [List.flatten_cons, ih, List.cons_append, List.take_append_drop]

/-- A text that was encoded is decoded in blocks to this text. -/
theorem decodeInBlocks_encodeUtf8 (cs : List Char) :
    decodeInBlocks (encodeUtf8 cs) = (cs, none) := by
  refine decodeBlocksFrom_of_begins ⟨?_, fun c _ => ?_⟩
  · rw [List.nil_append, flatten_blocks]
  · exact List.length_pos_iff.mpr String.utf8EncodeChar_ne_nil

end Texts

end PhraseStructure.Text
