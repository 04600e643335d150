/-!
# The AES block cipher

Blocks of four columns, keys of 16, 24 or 32 bytes. Enciphering runs through the round keys from
first to last and deciphering from last to first, each round undoing one: substitution by
`unsubstitute`, row shifts by `unshiftRows`, column mixing by `unmixColumn`, key addition by itself.
-/

namespace Lockbox.Aes

structure Column where
  a : UInt8
  b : UInt8
  c : UInt8
  d : UInt8
  deriving DecidableEq

structure Block where
  w : Column
  x : Column
  y : Column
  z : Column
  deriving DecidableEq

def Column.map (f : UInt8 → UInt8) (v : Column) : Column := ⟨f v.a, f v.b, f v.c, f v.d⟩

def Block.map (f : Column → Column) (s : Block) : Block := ⟨f s.w, f s.x, f s.y, f s.z⟩

def Column.add (u v : Column) : Column := ⟨u.a ^^^ v.a, u.b ^^^ v.b, u.c ^^^ v.c, u.d ^^^ v.d⟩

def Block.add (s t : Block) : Block := ⟨s.w.add t.w, s.x.add t.x, s.y.add t.y, s.z.add t.z⟩

theorem Column.add_add (u v : Column) : (u.add v).add v = u := by
  simp only [Column.add, UInt8.xor_assoc, UInt8.xor_self, UInt8.xor_zero]

theorem Block.add_add (s t : Block) : (s.add t).add t = s := by
  simp [Block.add, Column.add_add]

/-! ### Substitution -/

/-- The substitution box: the inverse in the field of 256 elements followed by an affine map. -/
def box : Array UInt8 :=
  #[0x63, 0x7c, 0x77, 0x7b, 0xf2, 0x6b, 0x6f, 0xc5, 0x30, 0x01, 0x67, 0x2b, 0xfe, 0xd7, 0xab, 0x76,
    0xca, 0x82, 0xc9, 0x7d, 0xfa, 0x59, 0x47, 0xf0, 0xad, 0xd4, 0xa2, 0xaf, 0x9c, 0xa4, 0x72, 0xc0,
    0xb7, 0xfd, 0x93, 0x26, 0x36, 0x3f, 0xf7, 0xcc, 0x34, 0xa5, 0xe5, 0xf1, 0x71, 0xd8, 0x31, 0x15,
    0x04, 0xc7, 0x23, 0xc3, 0x18, 0x96, 0x05, 0x9a, 0x07, 0x12, 0x80, 0xe2, 0xeb, 0x27, 0xb2, 0x75,
    0x09, 0x83, 0x2c, 0x1a, 0x1b, 0x6e, 0x5a, 0xa0, 0x52, 0x3b, 0xd6, 0xb3, 0x29, 0xe3, 0x2f, 0x84,
    0x53, 0xd1, 0x00, 0xed, 0x20, 0xfc, 0xb1, 0x5b, 0x6a, 0xcb, 0xbe, 0x39, 0x4a, 0x4c, 0x58, 0xcf,
    0xd0, 0xef, 0xaa, 0xfb, 0x43, 0x4d, 0x33, 0x85, 0x45, 0xf9, 0x02, 0x7f, 0x50, 0x3c, 0x9f, 0xa8,
    0x51, 0xa3, 0x40, 0x8f, 0x92, 0x9d, 0x38, 0xf5, 0xbc, 0xb6, 0xda, 0x21, 0x10, 0xff, 0xf3, 0xd2,
    0xcd, 0x0c, 0x13, 0xec, 0x5f, 0x97, 0x44, 0x17, 0xc4, 0xa7, 0x7e, 0x3d, 0x64, 0x5d, 0x19, 0x73,
    0x60, 0x81, 0x4f, 0xdc, 0x22, 0x2a, 0x90, 0x88, 0x46, 0xee, 0xb8, 0x14, 0xde, 0x5e, 0x0b, 0xdb,
    0xe0, 0x32, 0x3a, 0x0a, 0x49, 0x06, 0x24, 0x5c, 0xc2, 0xd3, 0xac, 0x62, 0x91, 0x95, 0xe4, 0x79,
    0xe7, 0xc8, 0x37, 0x6d, 0x8d, 0xd5, 0x4e, 0xa9, 0x6c, 0x56, 0xf4, 0xea, 0x65, 0x7a, 0xae, 0x08,
    0xba, 0x78, 0x25, 0x2e, 0x1c, 0xa6, 0xb4, 0xc6, 0xe8, 0xdd, 0x74, 0x1f, 0x4b, 0xbd, 0x8b, 0x8a,
    0x70, 0x3e, 0xb5, 0x66, 0x48, 0x03, 0xf6, 0x0e, 0x61, 0x35, 0x57, 0xb9, 0x86, 0xc1, 0x1d, 0x9e,
    0xe1, 0xf8, 0x98, 0x11, 0x69, 0xd9, 0x8e, 0x94, 0x9b, 0x1e, 0x87, 0xe9, 0xce, 0x55, 0x28, 0xdf,
    0x8c, 0xa1, 0x89, 0x0d, 0xbf, 0xe6, 0x42, 0x68, 0x41, 0x99, 0x2d, 0x0f, 0xb0, 0x54, 0xbb, 0x16]

def substitute (b : UInt8) : UInt8 := box.getD b.toNat 0

/-- The substitution box read backwards. -/
def inverseBox : Array UInt8 :=
  #[0x52, 0x09, 0x6a, 0xd5, 0x30, 0x36, 0xa5, 0x38, 0xbf, 0x40, 0xa3, 0x9e, 0x81, 0xf3, 0xd7, 0xfb,
    0x7c, 0xe3, 0x39, 0x82, 0x9b, 0x2f, 0xff, 0x87, 0x34, 0x8e, 0x43, 0x44, 0xc4, 0xde, 0xe9, 0xcb,
    0x54, 0x7b, 0x94, 0x32, 0xa6, 0xc2, 0x23, 0x3d, 0xee, 0x4c, 0x95, 0x0b, 0x42, 0xfa, 0xc3, 0x4e,
    0x08, 0x2e, 0xa1, 0x66, 0x28, 0xd9, 0x24, 0xb2, 0x76, 0x5b, 0xa2, 0x49, 0x6d, 0x8b, 0xd1, 0x25,
    0x72, 0xf8, 0xf6, 0x64, 0x86, 0x68, 0x98, 0x16, 0xd4, 0xa4, 0x5c, 0xcc, 0x5d, 0x65, 0xb6, 0x92,
    0x6c, 0x70, 0x48, 0x50, 0xfd, 0xed, 0xb9, 0xda, 0x5e, 0x15, 0x46, 0x57, 0xa7, 0x8d, 0x9d, 0x84,
    0x90, 0xd8, 0xab, 0x00, 0x8c, 0xbc, 0xd3, 0x0a, 0xf7, 0xe4, 0x58, 0x05, 0xb8, 0xb3, 0x45, 0x06,
    0xd0, 0x2c, 0x1e, 0x8f, 0xca, 0x3f, 0x0f, 0x02, 0xc1, 0xaf, 0xbd, 0x03, 0x01, 0x13, 0x8a, 0x6b,
    0x3a, 0x91, 0x11, 0x41, 0x4f, 0x67, 0xdc, 0xea, 0x97, 0xf2, 0xcf, 0xce, 0xf0, 0xb4, 0xe6, 0x73,
    0x96, 0xac, 0x74, 0x22, 0xe7, 0xad, 0x35, 0x85, 0xe2, 0xf9, 0x37, 0xe8, 0x1c, 0x75, 0xdf, 0x6e,
    0x47, 0xf1, 0x1a, 0x71, 0x1d, 0x29, 0xc5, 0x89, 0x6f, 0xb7, 0x62, 0x0e, 0xaa, 0x18, 0xbe, 0x1b,
    0xfc, 0x56, 0x3e, 0x4b, 0xc6, 0xd2, 0x79, 0x20, 0x9a, 0xdb, 0xc0, 0xfe, 0x78, 0xcd, 0x5a, 0xf4,
    0x1f, 0xdd, 0xa8, 0x33, 0x88, 0x07, 0xc7, 0x31, 0xb1, 0x12, 0x10, 0x59, 0x27, 0x80, 0xec, 0x5f,
    0x60, 0x51, 0x7f, 0xa9, 0x19, 0xb5, 0x4a, 0x0d, 0x2d, 0xe5, 0x7a, 0x9f, 0x93, 0xc9, 0x9c, 0xef,
    0xa0, 0xe0, 0x3b, 0x4d, 0xae, 0x2a, 0xf5, 0xb0, 0xc8, 0xeb, 0xbb, 0x3c, 0x83, 0x53, 0x99, 0x61,
    0x17, 0x2b, 0x04, 0x7e, 0xba, 0x77, 0xd6, 0x26, 0xe1, 0x69, 0x14, 0x63, 0x55, 0x21, 0x0c, 0x7d]

def unsubstitute (b : UInt8) : UInt8 := inverseBox.getD b.toNat 0

/-! ### Row shifts and column mixing -/

/-- Move the rows of a block to the left by 0, 1, 2 and 3 columns. -/
def shiftRows (s : Block) : Block :=
  ⟨⟨s.w.a, s.x.b, s.y.c, s.z.d⟩, ⟨s.x.a, s.y.b, s.z.c, s.w.d⟩,
   ⟨s.y.a, s.z.b, s.w.c, s.x.d⟩, ⟨s.z.a, s.w.b, s.x.c, s.y.d⟩⟩

def unshiftRows (s : Block) : Block :=
  ⟨⟨s.w.a, s.z.b, s.y.c, s.x.d⟩, ⟨s.x.a, s.w.b, s.z.c, s.y.d⟩,
   ⟨s.y.a, s.x.b, s.w.c, s.z.d⟩, ⟨s.z.a, s.y.b, s.x.c, s.w.d⟩⟩

/-- Twice a byte, in the field of 256 elements. -/
def double (b : UInt8) : UInt8 := if b < 0x80 then b <<< 1 else (b <<< 1) ^^^ 0x1b

def times3 (b : UInt8) : UInt8 := double b ^^^ b

def times9 (b : UInt8) : UInt8 := double (double (double b)) ^^^ b

def times11 (b : UInt8) : UInt8 := double (double (double b)) ^^^ double b ^^^ b

def times13 (b : UInt8) : UInt8 := double (double (double b)) ^^^ double (double b) ^^^ b

def times14 (b : UInt8) : UInt8 := double (double (double b)) ^^^ double (double b) ^^^ double b

def mixColumn (v : Column) : Column :=
  ⟨double v.a ^^^ times3 v.b ^^^ v.c ^^^ v.d, v.a ^^^ double v.b ^^^ times3 v.c ^^^ v.d,
   v.a ^^^ v.b ^^^ double v.c ^^^ times3 v.d, times3 v.a ^^^ v.b ^^^ v.c ^^^ double v.d⟩

def unmixColumn (v : Column) : Column :=
  ⟨times14 v.a ^^^ times11 v.b ^^^ times13 v.c ^^^ times9 v.d,
   times9 v.a ^^^ times14 v.b ^^^ times11 v.c ^^^ times13 v.d,
   times13 v.a ^^^ times9 v.b ^^^ times14 v.c ^^^ times11 v.d,
   times11 v.a ^^^ times13 v.b ^^^ times9 v.c ^^^ times14 v.d⟩

/-! ### The key schedule -/

/-- The `n`-th round constant, from one on: powers of two in the field. -/
def roundConstant : Nat → UInt8
  | 0 => 0
  | 1 => 1
  | n + 2 => double (roundConstant (n + 1))

/-- What is added to the column `size` places back to get column `i`, from the column before it. -/
def scheduleStep (size i : Nat) (previous : Column) : Column :=
  if i % size = 0 then
    Column.add ⟨substitute previous.b, substitute previous.c, substitute previous.d,
      substitute previous.a⟩ ⟨roundConstant (i / size), 0, 0, 0⟩
  else if 6 < size ∧ i % size = 4 then previous.map substitute
  else previous

/-- The next `count` columns of a schedule; `recent` holds the last `size` columns in order. -/
def scheduleFrom (size : Nat) : Nat → Nat → List Column → List Column
  | 0, _, _ => []
  | count + 1, i, recent =>
    match recent, recent.getLast? with
    | oldest :: newer, some previous =>
      let next := oldest.add (scheduleStep size i previous)
      next :: scheduleFrom size count (i + 1) (newer ++ [next])
    | _, _ => []

/-- Bytes as columns; what does not fill one is left out. -/
def columns : List UInt8 → List Column
  | a :: b :: c :: d :: rest => ⟨a, b, c, d⟩ :: columns rest
  | _ => []

/-- Columns as blocks; what does not fill one is left out. -/
def blocks : List Column → List Block
  | w :: x :: y :: z :: rest => ⟨w, x, y, z⟩ :: blocks rest
  | _ => []

def Column.toBytes (v : Column) : List UInt8 := [v.a, v.b, v.c, v.d]

def Block.toBytes (s : Block) : List UInt8 :=
  s.w.toBytes ++ s.x.toBytes ++ s.y.toBytes ++ s.z.toBytes

def blocksOfBytes (bytes : List UInt8) : List Block := blocks (columns bytes)

def bytesOfBlocks (bs : List Block) : List UInt8 := bs.flatMap Block.toBytes

def keyLengths : List Nat := [16, 24, 32]

/-- The round keys that a key of a proper length unfolds into. -/
def roundKeys (key : List UInt8) : List Block :=
  let first := columns key
  let size := first.length
  blocks (first ++ scheduleFrom size (3 * size + 28) size first)

/-! ### Enciphering and deciphering -/

/-- A round other than the last. -/
def round (key s : Block) : Block :=
  ((shiftRows (s.map (Column.map substitute))).map mixColumn).add key

/-- The last round, which does not mix columns. -/
def lastRound (key s : Block) : Block := (shiftRows (s.map (Column.map substitute))).add key

def unround (key s : Block) : Block :=
  (unshiftRows ((s.add key).map unmixColumn)).map (Column.map unsubstitute)

def unlastRound (key s : Block) : Block := (unshiftRows (s.add key)).map (Column.map unsubstitute)

def rounds : List Block → Block → Block
  | [], s => s
  | key :: keys, s => if keys.isEmpty then lastRound key s else rounds keys (round key s)

def unrounds : List Block → Block → Block
  | [], s => s
  | key :: keys, s => if keys.isEmpty then unlastRound key s else unround key (unrounds keys s)

def encipher : List Block → Block → Block
  | [], s => s
  | key :: keys, s => rounds keys (s.add key)

def decipher : List Block → Block → Block
  | [], s => s
  | key :: keys, s => (unrounds keys s).add key

end Lockbox.Aes
