/-!
# Base64

Bytes are regrouped into numbers of six bits (`sextets`), each written as one digit of the standard
alphabet, and the text is filled up with `=` to a multiple of four. Reading accepts exactly what
writing produces, since padding is required and unused bits have to be zero:

    decode_eq_some_iff : decode s = some bytes ↔ s = encode bytes
-/

namespace Lockbox.Base64

/-- The six-bit groups of the bytes, the last one filled up with zero bits. -/
def sextets : List UInt8 → List Nat
  | [] => []
  | [a] => [a.toNat / 4, a.toNat % 4 * 16]
  | [a, b] => [a.toNat / 4, a.toNat % 4 * 16 + b.toNat / 16, b.toNat % 16 * 4]
  | a :: b :: c :: rest =>
    a.toNat / 4 :: (a.toNat % 4 * 16 + b.toNat / 16) :: (b.toNat % 16 * 4 + c.toNat / 64) ::
      c.toNat % 64 :: sextets rest

def digit (n : Nat) : Char :=
  if n < 26 then Char.ofNat (n + 65)
  else if n < 52 then Char.ofNat (n + 71)
  else if n < 62 then Char.ofNat (n - 4)
  else if n = 62 then '+' else '/'

def value? (c : Char) : Option Nat :=
  if 'A' ≤ c ∧ c ≤ 'Z' then some (c.toNat - 65)
  else if 'a' ≤ c ∧ c ≤ 'z' then some (c.toNat - 71)
  else if '0' ≤ c ∧ c ≤ '9' then some (c.toNat + 4)
  else if c = '+' then some 62
  else if c = '/' then some 63
  else none

/-- What fills up the text of `n` bytes. -/
def padding (n : Nat) : List Char := List.replicate ((3 - n % 3) % 3) '='

/-- The digits of the bytes and their padding. -/
def encodeChars (bytes : List UInt8) : List Char :=
  (sextets bytes).map digit ++ padding bytes.length

def encode (bytes : List UInt8) : String := String.ofList (encodeChars bytes)

/-- The byte that the first two groups of four make up. -/
def firstByte (p q : Nat) : UInt8 := UInt8.ofNat (p * 4 + q / 16)

/-- The byte that the middle two groups of four make up. -/
def secondByte (q r : Nat) : UInt8 := UInt8.ofNat (q % 16 * 16 + r / 4)

/-- The byte that the last two groups of four make up. -/
def thirdByte (r s : Nat) : UInt8 := UInt8.ofNat (r % 4 * 64 + s)

/-- Read digits in groups of four; only the last group may be padded. -/
def decodeChars : List Char → Option (List UInt8)
  | [] => some []
  | [a, b, '=', '='] => do
    let p ← value? a
    let q ← value? b
    if q % 16 = 0 then some [firstByte p q] else none
  | [a, b, c, '='] => do
    let p ← value? a
    let q ← value? b
    let r ← value? c
    if r % 4 = 0 then some [firstByte p q, secondByte q r] else none
  | a :: b :: c :: d :: rest => do
    let p ← value? a
    let q ← value? b
    let r ← value? c
    let s ← value? d
    let more ← decodeChars rest
    some (firstByte p q :: secondByte q r :: thirdByte r s :: more)
  | _ => none

def decode (s : String) : Option (List UInt8) := decodeChars s.toList

/-! ### Digits -/

theorem value?_digit {n : Nat} (h : n < 64) : value? (digit n) = some n := by
  have all : ∀ n : Fin 64, value? (digit n) = some n.val := by decide +kernel
  exact all ⟨n, h⟩

theorem digit_ne_padding {n : Nat} (h : n < 64) : digit n ≠ '=' := by
  intro e
  have := value?_digit h
  rw [e] at this
  cases this

theorem digit_of_value? {c : Char} {n : Nat} (h : value? c = some n) : n < 64 ∧ digit n = c := by
  have bounds {low high : Char} (h : low ≤ c ∧ c ≤ high) :
      low.toNat ≤ c.toNat ∧ c.toNat ≤ high.toNat := h
  unfold value? at h
  split at h
  · next upper =>
    have := bounds upper
    cases h
    simp at this
    refine ⟨by omega, ?_⟩
    rw [digit, if_pos (by omega), show c.toNat - 65 + 65 = c.toNat by omega, Char.ofNat_toNat]
  · split at h
    · next lower =>
      have := bounds lower
      cases h
      simp at this
      refine ⟨by omega, ?_⟩
      rw [digit, if_neg (by omega), if_pos (by omega), show c.toNat - 71 + 71 = c.toNat by omega,
        Char.ofNat_toNat]
    · split at h
      · next decimal =>
        have := bounds decimal
        cases h
        simp at this
        refine ⟨by omega, ?_⟩
        rw [digit, if_neg (by omega), if_neg (by omega), if_pos (by omega),
          show c.toNat + 4 - 4 = c.toNat by omega, Char.ofNat_toNat]
      · split at h
        · next plus => cases h; subst plus; decide
        · split at h
          · next stroke => cases h; subst stroke; decide
          · cases h

/-! ### Groups and bytes -/

theorem firstByte_split (a : UInt8) {x : Nat} (hx : x < 16) :
    firstByte (a.toNat / 4) (a.toNat % 4 * 16 + x) = a := by
  have ha := a.toNat_lt
  apply UInt8.toNat_inj.1
  simp only [firstByte, UInt8.toNat_ofNat']
  omega

theorem secondByte_split (b : UInt8) (y : Nat) {z : Nat} (hz : z < 4) :
    secondByte (y * 16 + b.toNat / 16) (b.toNat % 16 * 4 + z) = b := by
  have hb := b.toNat_lt
  apply UInt8.toNat_inj.1
  simp only [secondByte, UInt8.toNat_ofNat']
  omega

theorem thirdByte_split (c : UInt8) (w : Nat) :
    thirdByte (w * 4 + c.toNat / 64) (c.toNat % 64) = c := by
  have hc := c.toNat_lt
  apply UInt8.toNat_inj.1
  simp only [thirdByte, UInt8.toNat_ofNat']
  omega

theorem toNat_firstByte {p q : Nat} (hp : p < 64) (hq : q < 64) :
    (firstByte p q).toNat = p * 4 + q / 16 := by
  simp only [firstByte, UInt8.toNat_ofNat']
  omega

theorem toNat_secondByte {q r : Nat} (hr : r < 64) :
    (secondByte q r).toNat = q % 16 * 16 + r / 4 := by
  simp only [secondByte, UInt8.toNat_ofNat']
  omega

theorem toNat_thirdByte {r s : Nat} (hs : s < 64) : (thirdByte r s).toNat = r % 4 * 64 + s := by
  simp only [thirdByte, UInt8.toNat_ofNat']
  omega

/-! ### Reading undoes writing -/

theorem decodeChars_digits {p q r s : Nat} (hp : p < 64) (hq : q < 64) (hr : r < 64) (hs : s < 64)
    (rest : List Char) :
    decodeChars (digit p :: digit q :: digit r :: digit s :: rest) =
      (decodeChars rest).map (firstByte p q :: secondByte q r :: thirdByte r s :: ·) := by
  rw [decodeChars]
  · simp only [value?_digit, hp, hq, hr, hs, Option.bind_eq_bind, Option.bind_some,
      Option.map_eq_bind]
    rfl
  · intro _ e
    exact absurd e (digit_ne_padding hs)
  · intro e
    exact absurd e (digit_ne_padding hs)

theorem encodeChars_cons (a b c : UInt8) (rest : List UInt8) :
    encodeChars (a :: b :: c :: rest) =
      digit (a.toNat / 4) :: digit (a.toNat % 4 * 16 + b.toNat / 16) ::
        digit (b.toNat % 16 * 4 + c.toNat / 64) :: digit (c.toNat % 64) :: encodeChars rest := by
  simp only [encodeChars, sextets, padding, List.map_cons, List.length_cons, List.cons_append,
    show rest.length + 1 + 1 + 1 = rest.length + 3 by omega, Nat.add_mod_right]

theorem decodeChars_encodeChars (bytes : List UInt8) :
    decodeChars (encodeChars bytes) = some bytes := by
  fun_induction sextets bytes with
  | case1 => rfl
  | case2 a =>
    have ha := a.toNat_lt
    have code : encodeChars [a] = [digit (a.toNat / 4), digit (a.toNat % 4 * 16 + 0), '=', '='] :=
      rfl
    rw [code, decodeChars, value?_digit (by omega), value?_digit (by omega)]
    simp only [Option.bind_eq_bind, Option.bind_some, firstByte_split a (show 0 < 16 by omega)]
    exact if_pos (by omega)
  | case3 a b =>
    have ha := a.toNat_lt
    have hb := b.toNat_lt
    have code : encodeChars [a, b] = [digit (a.toNat / 4), digit (a.toNat % 4 * 16 + b.toNat / 16),
      digit (b.toNat % 16 * 4 + 0), '='] := rfl
    rw [code, decodeChars, value?_digit (by omega), value?_digit (by omega),
      value?_digit (by omega)]
    · simp only [Option.bind_eq_bind, Option.bind_some,
        firstByte_split a (show b.toNat / 16 < 16 by omega),
        secondByte_split b _ (show 0 < 4 by omega)]
      exact if_pos (by omega)
    · intro e
      exact absurd e (digit_ne_padding (by omega))
  | case4 a b c rest ih =>
    have ha := a.toNat_lt
    have hb := b.toNat_lt
    have hc := c.toNat_lt
    rw [encodeChars_cons, decodeChars_digits (by omega) (by omega) (by omega) (by omega), ih,
      firstByte_split a (by omega), secondByte_split b _ (by omega), thirdByte_split c]
    rfl

/-! ### Writing undoes reading -/

theorem eq_encodeChars_of_decodeChars {cs : List Char} {bytes : List UInt8}
    (h : decodeChars cs = some bytes) : cs = encodeChars bytes := by
  fun_induction decodeChars cs generalizing bytes with
  | case1 => cases h; rfl
  | case2 a b =>
    simp only [Option.bind_eq_bind, Option.bind_eq_some_iff] at h
    obtain ⟨p, hp, q, hq, h⟩ := h
    obtain ⟨p64, rfl⟩ := digit_of_value? hp
    obtain ⟨q64, rfl⟩ := digit_of_value? hq
    split at h
    · next zero =>
      cases h
      have code : encodeChars [firstByte p q] = [digit ((firstByte p q).toNat / 4),
        digit ((firstByte p q).toNat % 4 * 16), '=', '='] := rfl
      rw [code, toNat_firstByte p64 q64, show (p * 4 + q / 16) / 4 = p by omega,
        show (p * 4 + q / 16) % 4 * 16 = q by omega]
    · cases h
  | case3 a b c =>
    simp only [Option.bind_eq_bind, Option.bind_eq_some_iff] at h
    obtain ⟨p, hp, q, hq, r, hr, h⟩ := h
    obtain ⟨p64, rfl⟩ := digit_of_value? hp
    obtain ⟨q64, rfl⟩ := digit_of_value? hq
    obtain ⟨r64, rfl⟩ := digit_of_value? hr
    split at h
    · next zero =>
      cases h
      have code : encodeChars [firstByte p q, secondByte q r] = [digit ((firstByte p q).toNat / 4),
        digit ((firstByte p q).toNat % 4 * 16 + (secondByte q r).toNat / 16),
        digit ((secondByte q r).toNat % 16 * 4), '='] := rfl
      rw [code, toNat_firstByte p64 q64, toNat_secondByte r64,
        show (p * 4 + q / 16) / 4 = p by omega,
        show (p * 4 + q / 16) % 4 * 16 + (q % 16 * 16 + r / 4) / 16 = q by omega,
        show (q % 16 * 16 + r / 4) % 16 * 4 = r by omega]
    · cases h
  | case4 a b c d rest _ _ ih =>
    simp only [Option.bind_eq_bind, Option.bind_eq_some_iff] at h
    obtain ⟨p, hp, q, hq, r, hr, s, hs, more, hmore, h⟩ := h
    obtain ⟨p64, rfl⟩ := digit_of_value? hp
    obtain ⟨q64, rfl⟩ := digit_of_value? hq
    obtain ⟨r64, rfl⟩ := digit_of_value? hr
    obtain ⟨s64, rfl⟩ := digit_of_value? hs
    cases h
    rw [encodeChars_cons, ← ih hmore, toNat_firstByte p64 q64, toNat_secondByte r64,
      toNat_thirdByte s64, show (p * 4 + q / 16) / 4 = p by omega,
      show (p * 4 + q / 16) % 4 * 16 + (q % 16 * 16 + r / 4) / 16 = q by omega,
      show (q % 16 * 16 + r / 4) % 16 * 4 + (r % 4 * 64 + s) / 64 = r by omega,
      show (r % 4 * 64 + s) % 64 = s by omega]
  | case5 => cases h

theorem decode_encode (bytes : List UInt8) : decode (encode bytes) = some bytes := by
  simp [decode, encode, decodeChars_encodeChars]

theorem eq_encode_of_decode {s : String} {bytes : List UInt8} (h : decode s = some bytes) :
    s = encode bytes := by
  rw [encode, ← eq_encodeChars_of_decodeChars h, String.ofList_toList]

theorem decode_eq_some_iff {s : String} {bytes : List UInt8} :
    decode s = some bytes ↔ s = encode bytes :=
  ⟨eq_encode_of_decode, fun h => h ▸ decode_encode bytes⟩

end Lockbox.Base64
