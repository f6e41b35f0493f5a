import IrExcerpt.Text.NameSet
import Mathlib.Order.Defs.LinearOrder
import Mathlib.Data.String.Basic
import Mathlib.Tactic.SplitIfs

/-!
# Texts as bytes

Names are compared character by character, and the files and paths that hold
them consist of bytes. The encoding keeps the order: of two characters the
smaller one has the smaller bytes, and it does so before either of them ends.
So a set of names is sorted by its bytes as well.
-/

namespace IrExcerpt.Text

/-! ## The bytes of a text -/

theorem toList_loop (bytes : ByteArray) (i : Nat) (done : List UInt8) :
    ByteArray.toList.loop bytes i done =
      done.reverse ++ bytes.data.toList.drop i := by
  fun_induction ByteArray.toList.loop bytes i done with
  | case1 i done hlt ih =>
      have hget : bytes.get! i = bytes.data.toList[i] :=
        getElem!_pos bytes.data i hlt
      rw [ih, List.reverse_cons, List.append_assoc, List.singleton_append, hget,
        List.getElem_cons_drop]
  | case2 i done hle =>
      rw [List.drop_eq_nil_of_le (Nat.not_lt.1 hle), List.append_nil]

theorem toList_toUTF8 (text : String) :
    text.toUTF8.toList = text.toList.flatMap String.utf8EncodeChar := by
  rw [ByteArray.toList, toList_loop, String.toUTF8_eq_toByteArray,
    ← String.utf8Encode_toList]
  exact List.toList_data_toByteArray

/-! ## The order -/

/-- Where texts of one length are in order, what follows does not matter. -/
theorem append_lt_append {as bs : List UInt8} (hlength : as.length = bs.length)
    (h : as < bs) (s t : List UInt8) : as ++ s < bs ++ t := by
  induction as generalizing bs with
  | nil =>
      cases bs with
      | nil => cases h
      | cons b bs => cases hlength
  | cons a as ih =>
      cases bs with
      | nil => cases hlength
      | cons b bs =>
          rw [List.cons_append, List.cons_append, List.cons_lt_cons_iff]
          rcases List.cons_lt_cons_iff.1 h with hlt | ⟨heq, hrest⟩
          · exact .inl hlt
          · exact .inr ⟨heq, ih (Nat.succ.inj hlength) hrest⟩

/-- The last `k` digits of a number in base 64, as the bytes that continue a
character. -/
def digits (n : Nat) : (k : Nat) → List UInt8
  | 0 => []
  | k + 1 => UInt8.ofNat (n / 64 ^ k % 64 + 128) :: digits n k

theorem length_digits (n k : Nat) : (digits n k).length = k := by
  induction k with
  | zero => rfl
  | succ k ih => rw [digits, List.length_cons, ih]

theorem ofNat_lt {m n : Nat} (h : m < n) (hn : n < 256) :
    UInt8.ofNat m < UInt8.ofNat n := by
  rw [UInt8.lt_iff_toNat_lt, UInt8.toNat_ofNat', UInt8.toNat_ofNat']
  omega

/-- Numbers with the same digits in front compare as the rest. -/
theorem digits_lt {m n k : Nat} (h : m < n) (hfront : m / 64 ^ k = n / 64 ^ k) :
    digits m k < digits n k := by
  induction k with
  | zero =>
      rw [Nat.pow_zero, Nat.div_one, Nat.div_one] at hfront
      omega
  | succ k ih =>
      rw [Nat.pow_succ, ← Nat.div_div_eq_div_mul, ← Nat.div_div_eq_div_mul]
        at hfront
      rw [digits, digits, List.cons_lt_cons_iff]
      have hle : m / 64 ^ k ≤ n / 64 ^ k := Nat.div_le_div_right (Nat.le_of_lt h)
      rcases Nat.lt_or_eq_of_le hle with hlt | heq
      · generalize m / 64 ^ k = a, n / 64 ^ k = b at hfront hlt
        exact .inl (ofNat_lt (by omega) (by omega))
      · exact .inr ⟨by rw [heq], ih heq⟩

theorem toNat_lt (c : Char) : c.toNat < 0x110000 := by
  have hvalid := c.valid
  simp only [UInt32.isValidChar, Nat.isValidChar] at hvalid
  show c.val.toNat < 0x110000
  omega

/-- How many bytes continue a character. -/
def width (n : Nat) : Nat :=
  if n ≤ 0x7f then 0 else if n ≤ 0x7ff then 1 else if n ≤ 0xffff then 2 else 3

/-- The bits that tell how many bytes continue a character. -/
def mark : Nat → Nat
  | 0 => 0
  | 1 => 0xc0
  | 2 => 0xe0
  | _ => 0xf0

/-- The first byte of a character. -/
def lead (n : Nat) : Nat := n / 64 ^ width n + mark (width n)

/-- The bytes of a character are a mark for their number, together with the
first digits, and one byte for every other digit. -/
theorem utf8EncodeChar_eq (c : Char) :
    String.utf8EncodeChar c =
      UInt8.ofNat (lead c.toNat) :: digits c.toNat (width c.toNat) := by
  have hmax : c.toNat < 0x110000 := toNat_lt c
  simp only [String.utf8EncodeChar, Char.toNat_val, lead, width]
  generalize c.toNat = v at hmax
  split_ifs
  · simp [digits, mark]
  · simp only [digits, mark, Nat.reducePow, Nat.div_one]
    rw [Nat.mod_eq_of_lt (by omega : v / 64 < 32)]
  · simp only [digits, mark, Nat.reducePow, Nat.div_one]
    rw [Nat.mod_eq_of_lt (by omega : v / 4096 < 16)]
  · simp only [digits, mark, Nat.reducePow, Nat.div_one]
    rw [Nat.mod_eq_of_lt (by omega : v / 262144 < 8)]

theorem lead_bounds {n : Nat} (h : n < 0x110000) :
    lead n < 248 ∧ (lead n < 128 → lead n = n) := by
  unfold lead width
  split_ifs <;> simp only [mark, Nat.reducePow] <;> omega

theorem lead_lt {m n : Nat} (h : m < n) (hmax : n < 0x110000)
    (hwidth : width m ≠ width n) : lead m < lead n := by
  unfold lead
  revert hwidth
  unfold width
  split_ifs <;> simp only [mark, Nat.reducePow] <;> omega

/-- Of two characters the smaller one has the smaller bytes, whatever follows.
If they take equally many bytes, these are digits; if not, the first ones
differ. -/
theorem utf8EncodeChar_append_lt {c d : Char} (h : c < d) (s t : List UInt8) :
    String.utf8EncodeChar c ++ s < String.utf8EncodeChar d ++ t := by
  have hval : c.toNat < d.toNat := h
  have hmax := toNat_lt d
  have hlead := (lead_bounds hmax).1
  rw [utf8EncodeChar_eq, utf8EncodeChar_eq]
  by_cases hwidth : width c.toNat = width d.toNat
  · refine append_lt_append (by simp [length_digits, hwidth]) ?_ s t
    have hle : c.toNat / 64 ^ width d.toNat ≤ d.toNat / 64 ^ width d.toNat :=
      Nat.div_le_div_right (Nat.le_of_lt hval)
    unfold lead at hlead ⊢
    rw [hwidth]
    rcases Nat.lt_or_eq_of_le hle with hlt | heq
    · exact List.cons_lt_cons_iff.2 (.inl (ofNat_lt (by omega) (by omega)))
    · exact List.cons_lt_cons_iff.2 (.inr ⟨by rw [heq], digits_lt hval heq⟩)
  · have hlt := lead_lt hval hmax hwidth
    exact List.cons_lt_cons_iff.2 (.inl (ofNat_lt hlt (by omega)))

theorem flatMap_utf8EncodeChar_lt {cs ds : List Char} (h : cs < ds) :
    cs.flatMap String.utf8EncodeChar < ds.flatMap String.utf8EncodeChar := by
  induction cs generalizing ds with
  | nil =>
      cases ds with
      | nil => cases h
      | cons d ds =>
          rw [List.flatMap_cons]
          cases hd : String.utf8EncodeChar d with
          | nil => exact absurd hd String.utf8EncodeChar_ne_nil
          | cons b bs => exact List.nil_lt_cons _ _
  | cons c cs ih =>
      cases ds with
      | nil => cases h
      | cons d ds =>
          rw [List.flatMap_cons, List.flatMap_cons]
          rcases List.cons_lt_cons_iff.1 h with hlt | ⟨rfl, hrest⟩
          · exact utf8EncodeChar_append_lt hlt _ _
          · exact List.append_left_lt (ih hrest)

/-- Names are in the order of their bytes. -/
theorem lt_iff_toUTF8_lt {a b : String} :
    a < b ↔ a.toUTF8.toList < b.toUTF8.toList := by
  rw [toList_toUTF8, toList_toUTF8]
  constructor
  · exact flatMap_utf8EncodeChar_lt
  · intro h
    rcases lt_trichotomy a b with hlt | rfl | hgt
    · exact hlt
    · exact absurd h (List.lt_irrefl _)
    · exact absurd (List.lt_trans h (flatMap_utf8EncodeChar_lt hgt))
        (List.lt_irrefl _)

/-! ## Which bytes stand in a text -/

theorem mem_digits {b : UInt8} {n k : Nat} (h : b ∈ digits n k) :
    128 ≤ b.toNat ∧ b.toNat < 192 := by
  induction k with
  | zero => cases h
  | succ k ih =>
      rcases List.mem_cons.1 h with rfl | h
      · rw [UInt8.toNat_ofNat']
        omega
      · exact ih h

/-- A small byte is a character of its own, and large ones do not occur. -/
theorem mem_utf8EncodeChar {b : UInt8} {c : Char}
    (h : b ∈ String.utf8EncodeChar c) :
    b.toNat < 248 ∧ (b.toNat < 128 → b.toNat = c.toNat) := by
  have hlead := lead_bounds (toNat_lt c)
  rw [utf8EncodeChar_eq] at h
  rcases List.mem_cons.1 h with rfl | h
  · rw [UInt8.toNat_ofNat', Nat.mod_eq_of_lt (by omega)]
    exact hlead
  · have hbounds := mem_digits h
    omega

theorem mem_toUTF8 {b : UInt8} {text : String} (h : b ∈ text.toUTF8.toList) :
    b.toNat < 248 ∧ (b.toNat < 128 → ∃ c ∈ text.toList, b.toNat = c.toNat) := by
  rw [toList_toUTF8] at h
  obtain ⟨c, hc, hb⟩ := List.mem_flatMap.1 h
  obtain ⟨hlarge, hsmall⟩ := mem_utf8EncodeChar hb
  exact ⟨hlarge, fun hlt => ⟨c, hc, hsmall hlt⟩⟩

end IrExcerpt.Text
