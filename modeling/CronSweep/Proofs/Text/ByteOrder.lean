import Mathlib.Data.String.Basic

namespace CronSweep.Text

def bytes (s : String) : List UInt8 := s.toByteArray.data.toList

theorem bytes_eq_flatMap (s : String) : bytes s = s.toList.flatMap String.utf8EncodeChar := by
  rw [bytes, ← String.utf8Encode_toList, List.utf8Encode]
  exact List.toList_data_toByteArray

theorem codePoint_lt (c : Char) : c.val.toNat < 0x110000 := by
  have h : c.toNat < 0xd800 ∨ 0xdfff < c.toNat ∧ c.toNat < 0x110000 := c.valid
  change c.toNat < _
  omega

/-- Two different characters are told apart within their own bytes, whatever follows. -/
theorem encode_append_lt {c d : Char} (h : c < d) (as bs : List UInt8) :
    String.utf8EncodeChar c ++ as < String.utf8EncodeChar d ++ bs := by
  have hc : c.val.toNat < d.val.toNat := h
  have hd := codePoint_lt d
  revert hc hd
  rw [String.utf8EncodeChar, String.utf8EncodeChar]
  generalize c.val.toNat = m
  generalize d.val.toNat = n
  intro hc hd
  -- Nested quotients by 64: of the divisors 64, 4096 and 262144 side by side omega loses track.
  have hdigits (k : Nat) : k / 4096 = k / 64 / 64 ∧ k / 262144 = k / 64 / 64 / 64 := by omega
  simp only [(hdigits m).1, (hdigits m).2, (hdigits n).1, (hdigits n).2]
  split_ifs <;> simp only [List.cons_append, List.nil_append, List.cons_lt_cons_iff,
    UInt8.lt_iff_toNat_lt, ← UInt8.toNat_inj, UInt8.toNat_ofNat'] <;> omega

theorem encode_lt {s t : List Char} (h : s < t) :
    s.flatMap String.utf8EncodeChar < t.flatMap String.utf8EncodeChar := by
  induction s generalizing t with
  | nil =>
      cases t with
      | nil => exact absurd h (List.lt_irrefl _)
      | cons d t =>
          obtain ⟨b, bs, hb⟩ := List.exists_cons_of_ne_nil (String.utf8EncodeChar_ne_nil (c := d))
          simp [hb]
  | cons c s ih =>
      cases t with
      | nil => exact absurd h (List.not_lt_nil _)
      | cons d t =>
          rw [List.flatMap_cons, List.flatMap_cons]
          rcases List.cons_lt_cons_iff.mp h with hcd | ⟨rfl, hst⟩
          · exact encode_append_lt hcd _ _
          · exact List.append_left_lt (ih hst)

/-- Texts compare by their bytes as they compare by their code points. -/
theorem bytes_lt_iff (s t : String) : bytes s < bytes t ↔ s < t := by
  rw [bytes_eq_flatMap, bytes_eq_flatMap, String.lt_iff_toList_lt]
  constructor
  · intro h
    rcases lt_trichotomy s.toList t.toList with hlt | heq | hgt
    · exact hlt
    · exact absurd h (heq ▸ List.lt_irrefl _)
    · exact absurd (encode_lt hgt) (List.lt_asymm h)
  · exact encode_lt

end CronSweep.Text
