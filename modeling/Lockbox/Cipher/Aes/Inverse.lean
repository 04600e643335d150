import Lockbox.Cipher.Aes

/-!
# Deciphering is the inverse of enciphering

Each step of a round has an inverse on either side, hence each round has, hence the cipher:

    decipher_encipher : decipher keys (encipher keys s) = s
    encipher_decipher : encipher keys (decipher keys s) = s

for any round keys at all. Substitution is checked byte by byte. Column mixing is linear, so that it
is enough to look at columns with one byte (`eq_self_of_keeps`).
-/

namespace Lockbox.Aes

/-- What holds of every number below 256 holds of every byte. -/
theorem forall_byte {p : UInt8 → Prop} (h : ∀ n : Fin 256, p (UInt8.ofFin n)) (b : UInt8) :
    p b := by
  simpa using h b.toFin

/-! ### Substitution -/

theorem unsubstitute_substitute (b : UInt8) : unsubstitute (substitute b) = b :=
  forall_byte (p := fun b => unsubstitute (substitute b) = b) (by decide +kernel) b

theorem substitute_unsubstitute (b : UInt8) : substitute (unsubstitute b) = b :=
  forall_byte (p := fun b => substitute (unsubstitute b) = b) (by decide +kernel) b

/-! ### Multiples of bytes -/

/-- What doubling adds to a shifted byte, by the bit that was shifted out. -/
def carry (top : UInt8) : UInt8 := if top = 0 then 0 else 0x1b

/-- Doubling shifts a byte by one bit and adds what the carry calls for. -/
theorem double_eq (b : UInt8) : double b = (b <<< 1) ^^^ carry (b &&& 0x80) :=
  forall_byte (p := fun b => double b = (b <<< 1) ^^^ carry (b &&& 0x80)) (by decide +kernel) b

theorem top_eq (b : UInt8) : b &&& 0x80 = 0 ∨ b &&& 0x80 = 0x80 :=
  forall_byte (p := fun b => b &&& 0x80 = 0 ∨ b &&& 0x80 = 0x80) (by decide +kernel) b

/-- The bit that is shifted out of a sum is the sum of those that are shifted out. -/
theorem carry_xor (a b : UInt8) :
    carry ((a ^^^ b) &&& 0x80) = carry (a &&& 0x80) ^^^ carry (b &&& 0x80) := by
  have top : (a ^^^ b) &&& 0x80 = (a &&& 0x80) ^^^ (b &&& 0x80) := by
    -- bit by bit, for it is a law of any three bits
    apply UInt8.toBitVec_inj.1
    ext i
    simp
    grind
  rw [top]
  -- four cases are left, by the top bits of the two bytes
  rcases top_eq a with ha | ha <;> rcases top_eq b with hb | hb <;> simp only [ha, hb] <;> decide

/-- A function of bytes that takes sums to sums. -/
structure IsAdditive (f : UInt8 → UInt8) : Prop where
  map_xor : ∀ a b, f (a ^^^ b) = f a ^^^ f b

theorem isAdditive_double : IsAdditive double where
  map_xor a b := by
    rw [double_eq, double_eq, double_eq, carry_xor, UInt8.shiftLeft_xor]
    ac_rfl

theorem isAdditive_id : IsAdditive fun b => b := ⟨fun _ _ => rfl⟩

theorem IsAdditive.comp {f g : UInt8 → UInt8} (hf : IsAdditive f) (hg : IsAdditive g) :
    IsAdditive fun b => f (g b) where
  map_xor a b := by rw [hg.map_xor, hf.map_xor]

/-- The sum of two additive functions is additive. -/
theorem IsAdditive.xor {f g : UInt8 → UInt8} (hf : IsAdditive f) (hg : IsAdditive g) :
    IsAdditive fun b => f b ^^^ g b where
  map_xor a b := by
    rw [hf.map_xor, hg.map_xor]
    ac_rfl

/-! Every multiple that is used is a sum of doublings. -/

theorem isAdditive_times3 : IsAdditive times3 := isAdditive_double.xor isAdditive_id

theorem isAdditive_times4 : IsAdditive fun b => double (double b) :=
  isAdditive_double.comp isAdditive_double

theorem isAdditive_times8 : IsAdditive fun b => double (double (double b)) :=
  isAdditive_double.comp isAdditive_times4

theorem isAdditive_times9 : IsAdditive times9 := isAdditive_times8.xor isAdditive_id

theorem isAdditive_times11 : IsAdditive times11 :=
  (isAdditive_times8.xor isAdditive_double).xor isAdditive_id

theorem isAdditive_times13 : IsAdditive times13 :=
  (isAdditive_times8.xor isAdditive_times4).xor isAdditive_id

theorem isAdditive_times14 : IsAdditive times14 :=
  (isAdditive_times8.xor isAdditive_times4).xor isAdditive_double

/-! ### Column mixing -/

/-- Column mixing takes sums of columns to sums. -/
theorem mixColumn_add (u v : Column) : mixColumn (u.add v) = (mixColumn u).add (mixColumn v) := by
  simp only [mixColumn, Column.add, isAdditive_double.map_xor, isAdditive_times3.map_xor,
    Column.mk.injEq]
  refine ⟨?_, ?_, ?_, ?_⟩ <;> ac_rfl

theorem unmixColumn_add (u v : Column) :
    unmixColumn (u.add v) = (unmixColumn u).add (unmixColumn v) := by
  simp only [unmixColumn, Column.add, isAdditive_times9.map_xor, isAdditive_times11.map_xor,
    isAdditive_times13.map_xor, isAdditive_times14.map_xor, Column.mk.injEq]
  refine ⟨?_, ?_, ?_, ?_⟩ <;> ac_rfl

/-- Whether a function keeps the columns that hold a byte in one place and zeros elsewhere. -/
def Keeps (f : Column → Column) (b : UInt8) : Prop :=
  f ⟨b, 0, 0, 0⟩ = ⟨b, 0, 0, 0⟩ ∧ f ⟨0, b, 0, 0⟩ = ⟨0, b, 0, 0⟩ ∧
    f ⟨0, 0, b, 0⟩ = ⟨0, 0, b, 0⟩ ∧ f ⟨0, 0, 0, b⟩ = ⟨0, 0, 0, b⟩

instance (f : Column → Column) (b : UInt8) : Decidable (Keeps f b) :=
  inferInstanceAs (Decidable (_ ∧ _))

/-- A linear function that keeps the columns of one byte keeps every column. -/
theorem eq_self_of_keeps {f : Column → Column} (add : ∀ u v, f (u.add v) = (f u).add (f v))
    (keeps : ∀ b, Keeps f b) (v : Column) : f v = v := by
  obtain ⟨a, b, c, d⟩ := v
  -- a column is the sum of four columns with one byte each
  have parts : (⟨a, b, c, d⟩ : Column) =
      (Column.add ⟨a, 0, 0, 0⟩ ⟨0, b, 0, 0⟩).add (Column.add ⟨0, 0, c, 0⟩ ⟨0, 0, 0, d⟩) := by
    simp [Column.add]
  rw [parts, add, add, add, (keeps a).1, (keeps b).2.1, (keeps c).2.2.1, (keeps d).2.2.2]

/-- Both mixings are linear, so that it is enough to try the columns of one byte, which are few. -/
theorem unmixColumn_mixColumn (v : Column) : unmixColumn (mixColumn v) = v :=
  eq_self_of_keeps (f := fun v => unmixColumn (mixColumn v))
    (fun u v => by rw [mixColumn_add, unmixColumn_add]) (forall_byte (by decide +kernel)) v

theorem mixColumn_unmixColumn (v : Column) : mixColumn (unmixColumn v) = v :=
  eq_self_of_keeps (f := fun v => mixColumn (unmixColumn v))
    (fun u v => by rw [unmixColumn_add, mixColumn_add]) (forall_byte (by decide +kernel)) v

/-! ### Blocks -/

theorem Block.map_map (f g : Column → Column) (s : Block) :
    (s.map f).map g = s.map fun v => g (f v) := rfl

theorem Block.map_eq_self {f : Column → Column} (h : ∀ v, f v = v) (s : Block) : s.map f = s := by
  simp [Block.map, h]

theorem Column.map_unsubstitute_substitute (v : Column) :
    (v.map substitute).map unsubstitute = v := by
  simp [Column.map, unsubstitute_substitute]

theorem Column.map_substitute_unsubstitute (v : Column) :
    (v.map unsubstitute).map substitute = v := by
  simp [Column.map, substitute_unsubstitute]

/-- Shifting rows only moves bytes around. -/
theorem unshiftRows_shiftRows (s : Block) : unshiftRows (shiftRows s) = s := rfl

theorem shiftRows_unshiftRows (s : Block) : shiftRows (unshiftRows s) = s := rfl

/-! ### Rounds -/

/-- A round is undone by undoing its steps in the opposite order. -/
theorem unround_round (key s : Block) : unround key (round key s) = s := by
  simp only [unround, round, Block.add_add, Block.map_map,
    Block.map_eq_self unmixColumn_mixColumn, unshiftRows_shiftRows]
  exact Block.map_eq_self Column.map_unsubstitute_substitute s

theorem round_unround (key s : Block) : round key (unround key s) = s := by
  simp only [unround, round, Block.map_map, Block.map_eq_self Column.map_substitute_unsubstitute,
    shiftRows_unshiftRows, Block.map_eq_self mixColumn_unmixColumn, Block.add_add]

theorem unlastRound_lastRound (key s : Block) : unlastRound key (lastRound key s) = s := by
  simp only [unlastRound, lastRound, Block.add_add, unshiftRows_shiftRows, Block.map_map]
  exact Block.map_eq_self Column.map_unsubstitute_substitute s

/-- The last round mixes no columns, and neither does its inverse. -/
theorem lastRound_unlastRound (key s : Block) : lastRound key (unlastRound key s) = s := by
  simp only [unlastRound, lastRound, Block.map_map,
    Block.map_eq_self Column.map_substitute_unsubstitute, shiftRows_unshiftRows, Block.add_add]

/-- The rounds are undone from the last one on. -/
theorem unrounds_rounds (keys : List Block) (s : Block) : unrounds keys (rounds keys s) = s := by
  -- on the round keys, the last of which is used without column mixing
  fun_induction rounds keys s with
  | case1 s => rfl
  | case2 key keys s last => rw [unrounds, if_pos last, unlastRound_lastRound]
  | case3 key keys s more ih => rw [unrounds, if_neg more, ih, unround_round]

theorem rounds_unrounds (keys : List Block) (s : Block) : rounds keys (unrounds keys s) = s := by
  fun_induction unrounds keys s with
  | case1 s => rfl
  | case2 key keys s last => rw [rounds, if_pos last, lastRound_unlastRound]
  | case3 key keys s more ih => rw [rounds, if_neg more, round_unround, ih]

/-! ### The cipher -/

/-- Deciphering gives back the block that was enciphered. -/
theorem decipher_encipher (keys : List Block) (s : Block) :
    decipher keys (encipher keys s) = s := by
  cases keys with
  | nil => rfl
  | cons key keys => simp only [decipher, encipher, unrounds_rounds, Block.add_add]

/-- Enciphering gives back the block that was deciphered, so that no two blocks decipher alike. -/
theorem encipher_decipher (keys : List Block) (s : Block) :
    encipher keys (decipher keys s) = s := by
  cases keys with
  | nil => rfl
  | cons key keys => simp only [decipher, encipher, Block.add_add, rounds_unrounds]

end Lockbox.Aes
