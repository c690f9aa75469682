import Mathlib.Data.String.Basic
import Mathlib.Tactic.SplitIfs

namespace TemplateCompiler.Text

/-- The bytes of a text in its UTF-8 form. -/
def bytes (text : String) : List UInt8 :=
  text.toUTF8.data.toList

theorem bytes_eq (text : String) : bytes text = text.toList.flatMap String.utf8EncodeChar := by
  rw [bytes, String.toUTF8, ← String.utf8Encode_toList, List.utf8Encode, List.data_toByteArray]

theorem ofNat_lt_iff {a b : Nat} (small : a < 256) (small' : b < 256) :
    UInt8.ofNat a < UInt8.ofNat b ↔ a < b := by
  rw [UInt8.lt_iff_toNat_lt, UInt8.toNat_ofNat_of_lt' small, UInt8.toNat_ofNat_of_lt' small']

theorem ofNat_eq_iff {a b : Nat} (small : a < 256) (small' : b < 256) :
    UInt8.ofNat a = UInt8.ofNat b ↔ a = b := by
  rw [← UInt8.toNat_inj, UInt8.toNat_ofNat_of_lt' small, UInt8.toNat_ofNat_of_lt' small']

/-- The order of two numbers is that of their digits to base 64, from the highest on. -/
theorem digits_of_lt {m n : Nat} (less : m < n) :
    m / 64 / 64 / 64 < n / 64 / 64 / 64 ∨ m / 64 / 64 / 64 = n / 64 / 64 / 64 ∧
      (m / 64 / 64 % 64 < n / 64 / 64 % 64 ∨ m / 64 / 64 % 64 = n / 64 / 64 % 64 ∧
        (m / 64 % 64 < n / 64 % 64 ∨ m / 64 % 64 = n / 64 % 64 ∧ m % 64 < n % 64)) := by
  have last : ∀ {a b : Nat}, a < b → a / 64 < b / 64 ∨ a / 64 = b / 64 ∧ a % 64 < b % 64 := by omega
  rcases last less with less | ⟨same, units⟩
  · rcases last less with less | ⟨same, units⟩
    · rcases last less with less | ⟨same, units⟩
      · exact .inl less
      · exact .inr ⟨same, .inl units⟩
    · exact .inr ⟨congrArg (· / 64) same, .inr ⟨congrArg (· % 64) same, .inl units⟩⟩
  · refine .inr ⟨congrArg (· / 64 / 64) same, .inr ⟨congrArg (· / 64 % 64) same, .inr ⟨?_, units⟩⟩⟩
    exact congrArg (· % 64) same

/-- Of two characters the smaller one has the smaller encoding, whatever follows. -/
theorem utf8EncodeChar_lt {c d : Char} (less : c < d) (rest rest' : List UInt8) :
    String.utf8EncodeChar c ++ rest < String.utf8EncodeChar d ++ rest' := by
  have ordered : c.val.toNat < d.val.toNat := less
  have bound : d.val.toNat < 0x110000 := by
    have valid := d.valid
    unfold UInt32.isValidChar Nat.isValidChar at valid
    omega
  rw [String.utf8EncodeChar, String.utf8EncodeChar]
  generalize c.val.toNat = m at *
  generalize d.val.toNat = n at *
  have digits := digits_of_lt ordered
  simp only [Nat.div_div_eq_div_mul, Nat.reduceMul] at digits
  have leading : ∀ k < 0x110000, k / 262144 % 8 = k / 262144 := fun k _ => Nat.mod_eq_of_lt (by omega)
  -- Encodings of different length differ in their first byte, and others in the first digit that does.
  split_ifs <;>
    simp only [List.cons_append, List.nil_append, List.cons_lt_cons_iff] <;>
    simp (disch := omega) only [ofNat_lt_iff, ofNat_eq_iff, leading] <;> omega

theorem encoded_lt_of_lt {first second : List Char} (less : first < second) :
    first.flatMap String.utf8EncodeChar < second.flatMap String.utf8EncodeChar := by
  rw [← List.lex_lt] at less
  induction less with
  | @nil c second =>
    obtain ⟨byte, others, encoded⟩ := List.exists_cons_of_ne_nil (String.utf8EncodeChar_ne_nil (c := c))
    rw [List.flatMap_cons, encoded]
    exact List.nil_lt_cons ..
  | rel smaller => exact utf8EncodeChar_lt smaller _ _
  | cons _ ih => exact List.append_left_lt ih

/-- Texts are in the order of their bytes. -/
theorem bytes_lt_iff {first second : String} : bytes first < bytes second ↔ first < second := by
  have ascending : ∀ {a b : String}, a < b → bytes a < bytes b := by
    intro a b less
    rw [bytes_eq, bytes_eq]
    exact encoded_lt_of_lt (String.lt_iff_toList_lt.mp less)
  refine ⟨fun less => ?_, ascending⟩
  rcases lt_trichotomy first second with before | same | after
  · exact before
  · rw [same] at less
    exact absurd less (List.lt_irrefl _)
  · exact absurd less (List.lt_asymm (ascending after))

end TemplateCompiler.Text
