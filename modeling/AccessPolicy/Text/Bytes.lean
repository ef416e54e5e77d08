import AccessPolicy.Text.Ascending
import Mathlib.Tactic.SplitIfs

/-!
The UTF-8 form of texts. Its bytes compare as the code points do: the form of a character says by its
first byte how long it is, longer forms begin with larger bytes and stand for larger code points, and
forms of one length are digits in base 64.
-/
namespace AccessPolicy.Text

/-- The UTF-8 form. -/
def bytes (s : String) : List UInt8 := s.toUTF8.data.toList

theorem bytes_eq (s : String) : bytes s = s.toList.flatMap String.utf8EncodeChar := by
  have he : s.toByteArray = s.toList.utf8Encode := by
    rw [← String.toByteArray_ofList, String.ofList_toList]
  rw [bytes, String.toUTF8_eq_toByteArray, he, List.utf8Encode, List.toList_data_toByteArray]

/-- Numbers of up to four digits compare as their first different digits do. -/
theorem digits_lt {m n : Nat} (h : m < n) :
    m / 262144 < n / 262144 ∨ m / 262144 = n / 262144 ∧
      (m / 4096 % 64 < n / 4096 % 64 ∨ m / 4096 % 64 = n / 4096 % 64 ∧
        (m / 64 % 64 < n / 64 % 64 ∨ m / 64 % 64 = n / 64 % 64 ∧ m % 64 < n % 64)) := by
  omega

theorem toNat_lt_of_valid (c : Char) : c.val.toNat < 0x110000 := by
  rcases c.valid with h | h
  · omega
  · exact h.2

/-- The forms of two characters differ before either ends, so it is of no account what follows. -/
theorem utf8EncodeChar_append_lt {c d : Char} (h : c < d) (xs ys : List UInt8) :
    String.utf8EncodeChar c ++ xs < String.utf8EncodeChar d ++ ys := by
  have hlt : c.val.toNat < d.val.toNat := by
    rw [Char.lt_def, UInt32.lt_iff_toNat_lt] at h
    exact h
  have hdigits := digits_lt hlt
  -- every number fits into the byte that it is written onto
  have hmore (n : Nat) : (n % 64 + 128) % 2 ^ 8 = n % 64 + 128 := by omega
  have hlead (c : Char) :
      (c.val.toNat / 262144 % 8 + 240) % 2 ^ 8 = c.val.toNat / 262144 + 240 := by
    have := toNat_lt_of_valid c
    omega
  unfold String.utf8EncodeChar
  simp only
  split_ifs <;>
    simp only [List.cons_append, List.nil_append, List.cons_lt_cons_iff, UInt8.lt_iff_toNat_lt,
      ← UInt8.toNat_inj, UInt8.toNat_ofNat', hlead, hmore] <;>
    omega

theorem flatMap_utf8EncodeChar_lt {cs ds : List Char} (h : cs < ds) :
    cs.flatMap String.utf8EncodeChar < ds.flatMap String.utf8EncodeChar := by
  induction cs generalizing ds with
  | nil =>
    cases ds with
    | nil => exact absurd h (List.lt_irrefl [])
    | cons d ds =>
      obtain ⟨x, xs, hx⟩ := List.exists_cons_of_ne_nil (String.utf8EncodeChar_ne_nil (c := d))
      rw [List.flatMap_cons, hx]
      exact List.nil_lt_cons x _
  | cons c cs ih =>
    cases ds with
    | nil => exact absurd h (List.not_lt_nil _)
    | cons d ds =>
      rw [List.flatMap_cons, List.flatMap_cons]
      rcases List.cons_lt_cons_iff.1 h with hc | ⟨rfl, hcs⟩
      · exact utf8EncodeChar_append_lt hc _ _
      · exact List.append_left_lt (ih hcs)

theorem bytes_lt_of_before {a b : String} (h : before a b = true) : bytes a < bytes b := by
  rw [bytes_eq, bytes_eq]
  exact flatMap_utf8EncodeChar_lt (String.lt_iff.1 (of_decide_eq_true h))

/-- The order of texts is the order of their UTF-8 forms. -/
theorem before_iff_bytes_lt {a b : String} : before a b = true ↔ bytes a < bytes b := by
  constructor
  · exact bytes_lt_of_before
  · intro h
    cases hab : before a b with
    | true => rfl
    | false =>
      cases hba : before b a with
      | true => exact absurd (bytes_lt_of_before hba) (List.lt_asymm h)
      | false =>
        have he : a = b := before_strictTotal.connected a b hab hba
        exact absurd h (he ▸ List.lt_irrefl _)

theorem bytes_lt_iff {a b : String} : bytes a < bytes b ↔ a.toList < b.toList := by
  rw [← before_iff_bytes_lt, before, decide_eq_true_eq, String.lt_iff]

end AccessPolicy.Text
