import Lockbox.Proofs.Text.Case
import Lockbox.Proofs.Text.Utf8
import Lockbox.Text.Hex

/-!
# Hexadecimal texts

A text is read as bytes exactly if it spells them, two digits each and in either case:

    decode_eq_ok_iff : decode s = .ok bytes ↔ Text.lowerAscii s = encode bytes

and it spells `n` bytes exactly if it has `2 * n` characters that are all digits
(`exists_spelled_iff`). A character that is no digit shows in its first byte already
(`encoded_cases`), so that texts beyond ASCII need no care of their own.
-/

namespace Lockbox.Hex

/-- A digit, of either case. -/
def IsDigit (c : Char) : Prop := ∃ n < 16, c.toLower = digit n

def digitsOf (b : UInt8) : List Char := [digit (b.toNat / 16), digit (b.toNat % 16)]

/-! ## Single characters -/

theorem digit_injective {m n : Nat} (hm : m < 16) (hn : n < 16)
    (h : digit m = digit n) : m = n := by
  have all : ∀ m n : Fin 16, digit m = digit n → m = n := by decide
  exact Fin.mk.inj_iff.1 (all ⟨m, hm⟩ ⟨n, hn⟩ h)

/-- The value of the byte of an ASCII character tells whether the character is a digit. -/
theorem value?_ascii {c : Char} (h : c.toNat < 0x80) :
    (∀ n ∈ value? (UInt8.ofNat c.toNat), n < 16 ∧ c.toLower = digit n) ∧
      (value? (UInt8.ofNat c.toNat) = none → ∀ n < 16, c.toLower ≠ digit n) := by
  have all : ∀ k : Fin 0x80,
      (∀ n ∈ value? (UInt8.ofNat k), n < 16 ∧ (Char.ofNat k).toLower = digit n) ∧
        (value? (UInt8.ofNat k) = none → ∀ n < 16, (Char.ofNat k).toLower ≠ digit n) := by
    decide +kernel
  have digits := all ⟨c.toNat, h⟩
  rwa [Char.ofNat_toNat] at digits

theorem value?_of_high {b : UInt8} (h : 0x80 ≤ b.toNat) : value? b = none := by
  simp only [value?, Bool.and_eq_true, decide_eq_true_iff, UInt8.le_iff_toNat_le,
    UInt8.reduceToNat]
  rw [if_neg (by omega), if_neg (by omega), if_neg (by omega)]

/-- A digit is one byte, which has its value; any other character begins with a byte that has
none. -/
theorem encoded_cases (c : Char) :
    (∃ b n, String.utf8EncodeChar c = [b] ∧ value? b = some n ∧ n < 16 ∧ c.toLower = digit n) ∨
      ∃ b more, String.utf8EncodeChar c = b :: more ∧ value? b = none ∧ ¬IsDigit c := by
  by_cases ascii : c.toNat < 0x80
  · have single : String.utf8EncodeChar c = [UInt8.ofNat c.toNat] := by
      have number : c.val.toNat = c.toNat := rfl
      rw [String.utf8EncodeChar, number, if_pos (by omega)]
    obtain ⟨known, unknown⟩ := value?_ascii ascii
    cases value : value? (UInt8.ofNat c.toNat) with
    | some n => exact .inl ⟨_, n, single, value, known n value⟩
    | none =>
      refine .inr ⟨_, [], single, value, ?_⟩
      rintro ⟨n, small, eq⟩
      exact unknown value n small eq
  · right
    cases bytes : String.utf8EncodeChar c with
    | nil =>
      have byte := String.length_utf8EncodeChar c
      rw [bytes] at byte
      exact absurd byte.symm (Nat.ne_of_gt c.utf8Size_pos)
    | cons b more =>
      have high : 0x80 ≤ b.toNat := by
        refine Nat.le_of_not_lt fun low => ascii ?_
        have mem : b ∈ String.utf8EncodeChar c := bytes ▸ List.mem_cons_self
        rwa [Utf8.toNat_of_mem_utf8EncodeChar mem low]
      refine ⟨b, more, rfl, value?_of_high high, ?_⟩
      rintro ⟨n, small, eq⟩
      rw [Text.toLower_eq_self (by omega)] at eq
      have digits : ∀ n < 16, (digit n).toNat < 0x80 := by decide
      have := digits n small
      rw [← eq] at this
      omega

/-! ## Whole texts -/

theorem encode_eq (bytes : List UInt8) : (encode bytes).toList = bytes.flatMap digitsOf := by
  rw [encode, String.toList_ofList]
  rfl

theorem length_encode (bytes : List UInt8) : (encode bytes).toList.length = 2 * bytes.length := by
  rw [encode_eq]
  induction bytes with
  | nil => rfl
  | cons b rest ih =>
    rw [List.flatMap_cons, List.length_append, ih, List.length_cons, digitsOf, List.length_cons,
      List.length_cons, List.length_nil]
    omega

/-- A byte is that of its two digits. -/
theorem digitsOf_ofNat {h l : Nat} (hh : h < 16) (hl : l < 16) :
    digitsOf (UInt8.ofNat (16 * h + l)) = [digit h, digit l] := by
  have number : (UInt8.ofNat (16 * h + l)).toNat = 16 * h + l := by
    rw [UInt8.toNat_ofNat']
    omega
  rw [digitsOf, number]
  congr 2 <;> congr 1 <;> omega

/-- A digit is read as what it stands for. -/
theorem encoded_of_digit {c : Char} {n : Nat} (small : n < 16) (spells : c.toLower = digit n) :
    ∃ b, String.utf8EncodeChar c = [b] ∧ value? b = some n := by
  rcases encoded_cases c with ⟨b, m, single, value, small', spelled⟩ | ⟨-, -, -, -, not_digit⟩
  · obtain rfl : m = n := digit_injective small' small (spelled.symm.trans spells)
    exact ⟨b, single, value⟩
  · exact absurd ⟨n, small, spells⟩ not_digit

theorem decodeFrom_of_spelled (position : Nat) {cs : List Char} {bytes : List UInt8}
    (spelled : cs.map Char.toLower = bytes.flatMap digitsOf) :
    (cs.flatMap String.utf8EncodeChar).length % 2 = 0 ∧
      decodeFrom position (cs.flatMap String.utf8EncodeChar) = .ok bytes := by
  induction bytes generalizing cs position with
  | nil =>
    obtain rfl : cs = [] := List.map_eq_nil_iff.1 spelled
    exact ⟨rfl, rfl⟩
  | cons b rest ih =>
    have bound := b.toNat_lt
    -- the two digits of the byte stand in front
    obtain ⟨c, cs, rfl, high, spelled⟩ := List.map_eq_cons_iff.1 spelled
    obtain ⟨d, cs, rfl, low, spelled⟩ := List.map_eq_cons_iff.1 spelled
    obtain ⟨h, encoded, highValue⟩ := encoded_of_digit (by omega) high
    obtain ⟨l, encoded', lowValue⟩ := encoded_of_digit (by omega) low
    have whole : UInt8.ofNat (16 * (b.toNat / 16) + b.toNat % 16) = b := by
      rw [Nat.div_add_mod, UInt8.ofNat_toNat]
    obtain ⟨even, read⟩ := ih (position + 2) spelled
    rw [List.flatMap_cons, List.flatMap_cons, encoded, encoded', List.singleton_append,
      List.singleton_append]
    constructor
    · rw [List.length_cons, List.length_cons]
      omega
    · rw [decodeFrom, highValue, lowValue]
      dsimp only
      rw [read, whole]
      rfl

/-- Reading stops at a byte that begins no digit. -/
theorem decodeFrom_of_none {b : UInt8} {rest : List UInt8} (position : Nat)
    (bad : value? b = none) (even : (b :: rest).length % 2 = 0) :
    ∃ fault, decodeFrom position (b :: rest) = .error fault := by
  cases rest with
  | nil => cases even
  | cons low rest =>
    rw [decodeFrom, bad]
    exact ⟨_, rfl⟩

theorem spelled_of_decodeFrom {position : Nat} {cs : List Char} {bytes : List UInt8}
    (even : (cs.flatMap String.utf8EncodeChar).length % 2 = 0)
    (read : decodeFrom position (cs.flatMap String.utf8EncodeChar) = .ok bytes) :
    cs.map Char.toLower = bytes.flatMap digitsOf := by
  match cs with
  | [] =>
    cases read
    rfl
  | c :: rest =>
    rw [List.flatMap_cons] at even read
    rcases encoded_cases c with ⟨b, h, single, value, small, high⟩ | ⟨b, more, spread, bad, -⟩
    · rw [single, List.singleton_append] at even read
      match rest with
      | [] => cases even
      | d :: rest =>
        rw [List.flatMap_cons] at even read
        rcases encoded_cases d with
          ⟨b', l, single', value', small', low⟩ | ⟨b', more, spread, bad, -⟩
        · rw [single', List.singleton_append] at even read
          rw [decodeFrom, value, value'] at read
          dsimp only at read
          cases later : decodeFrom (position + 2) (rest.flatMap String.utf8EncodeChar) with
          | error fault =>
            rw [later] at read
            cases read
          | ok left =>
            rw [later] at read
            cases read
            have even' : (rest.flatMap String.utf8EncodeChar).length % 2 = 0 := by
              rw [List.length_cons, List.length_cons] at even
              omega
            rw [List.map_cons, List.map_cons, spelled_of_decodeFrom even' later,
              List.flatMap_cons, digitsOf_ofNat small small', high, low]
            rfl
        · rw [spread, List.cons_append, decodeFrom, value, bad] at read
          cases read
    · rw [spread, List.cons_append] at even read
      obtain ⟨fault, fails⟩ := decodeFrom_of_none position bad even
      rw [fails] at read
      cases read

/-- A text spells bytes if its characters are their digits in either case. -/
theorem lowerAscii_eq_encode_iff {s : String} {bytes : List UInt8} :
    Text.lowerAscii s = encode bytes ↔ s.toList.map Char.toLower = bytes.flatMap digitsOf := by
  rw [← String.toList_inj, encode_eq, Text.lowerAscii, String.toList_ofList]

/-- A text is read as the bytes that it spells. -/
theorem decode_eq_ok_iff {s : String} {bytes : List UInt8} :
    decode s = .ok bytes ↔ Text.lowerAscii s = encode bytes := by
  rw [lowerAscii_eq_encode_iff, decode, Utf8.encode_eq_flatMap]
  constructor
  · intro read
    split at read
    · cases read
    · exact spelled_of_decodeFrom (by omega) read
  · intro spelled
    obtain ⟨even, read⟩ := decodeFrom_of_spelled 0 spelled
    rw [if_neg (by omega), read]

/-- Digits spell bytes if their number is even. -/
theorem exists_spelled_of_digits (n : Nat) {cs : List Char} (size : cs.length = 2 * n)
    (digits : ∀ c ∈ cs, IsDigit c) :
    ∃ bytes : List UInt8, bytes.length = n ∧ cs.map Char.toLower = bytes.flatMap digitsOf := by
  induction n generalizing cs with
  | zero =>
    obtain rfl : cs = [] := List.eq_nil_of_length_eq_zero size
    exact ⟨[], rfl, rfl⟩
  | succ n ih =>
    match cs, size with
    | c :: d :: rest, size =>
      obtain ⟨h, hh, high⟩ := digits c (.head _)
      obtain ⟨l, hl, low⟩ := digits d (.tail _ (.head _))
      have less : rest.length = 2 * n := by
        rw [List.length_cons, List.length_cons] at size
        omega
      obtain ⟨bytes, count, spelled⟩ := ih less fun e he => digits e (.tail _ (.tail _ he))
      refine ⟨UInt8.ofNat (16 * h + l) :: bytes, by rw [List.length_cons, count], ?_⟩
      rw [List.map_cons, List.map_cons, spelled, List.flatMap_cons, digitsOf_ofNat hh hl, high, low]
      rfl

theorem isDigit_of_spelled {cs : List Char} {bytes : List UInt8}
    (spelled : cs.map Char.toLower = bytes.flatMap digitsOf) : ∀ c ∈ cs, IsDigit c := by
  intro c hc
  have mem : c.toLower ∈ bytes.flatMap digitsOf := spelled ▸ List.mem_map_of_mem hc
  obtain ⟨b, -, digit⟩ := List.mem_flatMap.1 mem
  have bound := b.toNat_lt
  rw [digitsOf, List.mem_cons, List.mem_singleton] at digit
  rcases digit with eq | eq
  · exact ⟨_, by omega, eq⟩
  · exact ⟨_, by omega, eq⟩

/-- A text spells as many bytes as it has pairs of digits. -/
theorem exists_spelled_iff {s : String} {n : Nat} :
    (∃ bytes : List UInt8, bytes.length = n ∧ Text.lowerAscii s = encode bytes) ↔
      s.toList.length = 2 * n ∧ ∀ c ∈ s.toList, IsDigit c := by
  constructor
  · rintro ⟨bytes, rfl, eq⟩
    refine ⟨?_, isDigit_of_spelled (lowerAscii_eq_encode_iff.1 eq)⟩
    rw [← length_encode, ← eq, Text.lowerAscii, String.toList_ofList, List.length_map]
  · rintro ⟨size, digits⟩
    obtain ⟨bytes, count, eq⟩ := exists_spelled_of_digits n size digits
    exact ⟨bytes, count, lowerAscii_eq_encode_iff.2 eq⟩

end Lockbox.Hex
