/-!
# Texts as bytes

`Utf8.encode` and `Utf8.decode` are inverse to each other: `decode_eq_some_iff` says that a byte
list is read as a text exactly when it is that text's encoding. `Utf8.lossy` reads any bytes and
puts a replacement character for each longest piece that could have begun a character.
-/

namespace Lockbox.Utf8

def encode (s : String) : List UInt8 := s.toUTF8.data.toList

def decode (bytes : List UInt8) : Option String := String.fromUTF8? ⟨bytes.toArray⟩

theorem decode_encode (s : String) : decode (encode s) = some s := by
  simp only [decode, encode, String.fromUTF8?, Array.toArray_toList]
  exact dif_pos s.isValidUTF8

theorem eq_encode_of_decode {bytes : List UInt8} {s : String} (h : decode bytes = some s) :
    bytes = encode s := by
  unfold decode String.fromUTF8? at h
  split at h
  · cases h; simp [encode, String.fromUTF8]
  · cases h

theorem decode_eq_some_iff {bytes : List UInt8} {s : String} :
    decode bytes = some s ↔ bytes = encode s :=
  ⟨eq_encode_of_decode, fun h => h ▸ decode_encode s⟩

/-! ### Reading damaged bytes -/

/-- A byte that continues a character. -/
def isContinuation (b : UInt8) : Bool := 0x80 ≤ b && b ≤ 0xbf

/-- What a first byte above ASCII announces: the bounds of the second byte, which exclude overlong
forms, surrogates and numbers past the last code point, and how many bytes follow in all. -/
structure Lead where
  low : UInt8
  high : UInt8
  following : Nat

/-- The announcement of a first byte, if it is one. -/
def lead? (b : UInt8) : Option Lead :=
  if 0xc2 ≤ b && b ≤ 0xdf then some ⟨0x80, 0xbf, 1⟩
  else if b == 0xe0 then some ⟨0xa0, 0xbf, 2⟩
  else if b == 0xed then some ⟨0x80, 0x9f, 2⟩
  else if 0xe1 ≤ b && b ≤ 0xef then some ⟨0x80, 0xbf, 2⟩
  else if b == 0xf0 then some ⟨0x90, 0xbf, 3⟩
  else if 0xf1 ≤ b && b ≤ 0xf3 then some ⟨0x80, 0xbf, 3⟩
  else if b == 0xf4 then some ⟨0x80, 0x8f, 3⟩
  else none

/-- The bytes at the head of `rest` that can continue the character begun by a first byte. -/
def continuation (lead : Lead) (rest : List UInt8) : List UInt8 :=
  match rest with
  | b :: more =>
    if lead.low ≤ b && b ≤ lead.high then
      b :: (more.take (lead.following - 1)).takeWhile isContinuation
    else []
  | [] => []

def codePoint (first : UInt8) (lead : Lead) (more : List UInt8) : Nat :=
  more.foldl (fun n b => n * 64 + b.toNat % 64) (first.toNat % Nat.pow 2 (6 - lead.following))

/-- The character that marks damage. -/
def replacement : Char := '\ufffd'

/-- The first character of `first :: rest` and how many bytes of `rest` it takes. -/
def nextChar (first : UInt8) (rest : List UInt8) : Char × Nat :=
  if first < 0x80 then (Char.ofNat first.toNat, 0)
  else
    match lead? first with
    | none => (replacement, 0)
    | some lead =>
      let more := continuation lead rest
      if more.length = lead.following then (Char.ofNat (codePoint first lead more), more.length)
      else (replacement, more.length)

/-- The characters of any bytes, damage marked. -/
def lossyChars : List UInt8 → List Char
  | [] => []
  | first :: rest => (nextChar first rest).1 :: lossyChars (rest.drop (nextChar first rest).2)
termination_by bytes => bytes.length

def lossy (bytes : List UInt8) : String := String.ofList (lossyChars bytes)

end Lockbox.Utf8
