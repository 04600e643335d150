import Mathlib.Data.List.Forall2
import Lockbox.Proofs.Cipher.Length
import Lockbox.Proofs.Store.Generation
import Lockbox.Proofs.Store.Journey

/-!
# What is drawn

Bytes are drawn for key values and for the initial blocks of blobs, and for nothing else. In a run
(`World.Run`) one thing is done after another that draws bytes, and anything else in between that
draws none. The draws cut the source into pieces, each thing is made of its own piece, and a blob
tells its initial block. So blobs are as different as their blocks are:

    draws_take_pieces : w.Run draws v → … ∧
      ((w.entropy.blocks draws).Nodup → (Draw.blobs draws).Nodup)

All that a store does is such a run (`run_journey`), whatever happens to it meanwhile.
-/

namespace Lockbox

/-- Something that draws bytes, and what comes of it. -/
inductive Draw where
  | generated (value : String)
  | enciphered (key : List UInt8) (text : String) (answer : Except Error String)

namespace Draw

def size : Draw → Nat
  | generated _ => Generation.valueBytes
  | enciphered _ _ _ => Cbc.blockLength

/-- The blob that is made, if one is. -/
def blob? : Draw → Option String
  | enciphered _ _ (.ok blob) => some blob
  | _ => none

def total : List Draw → Nat
  | [] => 0
  | draw :: rest => draw.size + total rest

/-- What comes of drawing these bytes. -/
inductive MadeOf : Draw → List UInt8 → Prop
  | generated {bytes : List UInt8} (full : bytes.length = Generation.valueBytes) :
    MadeOf (.generated (Generation.valueOf bytes)) bytes
  | enciphered {iv : List UInt8} (key : List UInt8) (text : String)
    (full : iv.length = Cbc.blockLength) :
    MadeOf (.enciphered key text ((Blob.encrypt iv key text).mapError Error.cipher)) iv

/-- A blob that is made of bytes has them for its initial block. -/
theorem encrypt_of_madeOf {key iv : List UInt8} {text blob : String}
    (h : MadeOf (.enciphered key text (.ok blob)) iv) :
    iv.length = Cbc.blockLength ∧ Blob.encrypt iv key text = .ok blob := by
  generalize answered : (.ok blob : Except Error String) = answer at h
  cases h with
  | enciphered _ _ full =>
    cases result : Blob.encrypt iv key text with
    | ok other =>
      rw [result] at answered
      cases answered
      exact ⟨full, rfl⟩
    | error fault =>
      rw [result] at answered
      cases answered

def blobs (draws : List Draw) : List String := draws.filterMap blob?

@[simp] theorem blobs_generated (value : String) (draws : List Draw) :
    blobs (.generated value :: draws) = blobs draws := rfl

theorem blobs_append (draws more : List Draw) : blobs (draws ++ more) = blobs draws ++ blobs more :=
  List.filterMap_append

end Draw

/-! ## Pieces of a source -/

namespace Entropy

variable {e : Entropy} {draws : List Draw}

/-- The pieces of a source that draws take, each behind the one before. -/
def pieces (e : Entropy) : List Draw → List (List UInt8)
  | [] => []
  | draw :: rest => e.peek draw.size :: (e.advance draw.size).pieces rest

/-- Those of the pieces that are the initial blocks of blobs. -/
def blocks (e : Entropy) : List Draw → List (List UInt8)
  | [] => []
  | .generated _ :: rest => (e.advance Generation.valueBytes).blocks rest
  | .enciphered _ _ _ :: rest => e.peek Cbc.blockLength :: (e.advance Cbc.blockLength).blocks rest

theorem advance_add (e : Entropy) (m n : Nat) : e.advance (m + n) = (e.advance m).advance n :=
  congrArg (Entropy.mk e.stream) (Nat.add_assoc e.drawn m n).symm

/-- The pieces make up what is drawn in all: none is left out, and no two share a byte. -/
theorem flatten_pieces (e : Entropy) (draws : List Draw) :
    (e.pieces draws).flatten = e.peek (Draw.total draws) := by
  -- on the draws, as the source moves on
  induction draws generalizing e with
  | nil => rfl
  | cons draw rest ih =>
    rw [pieces, List.flatten_cons, ih, ← peek_add]
    rfl

/-- Every blob was made under one of the blocks. -/
theorem exists_block_of_mem_blobs {blob : String}
    (made : List.Forall₂ Draw.MadeOf draws (e.pieces draws)) (mem : blob ∈ Draw.blobs draws) :
    ∃ iv ∈ e.blocks draws, iv.length = Cbc.blockLength ∧
      ∃ key text, Blob.encrypt iv key text = .ok blob := by
  induction draws generalizing e with
  | nil => cases mem
  | cons draw rest ih =>
    obtain ⟨first, others⟩ := List.forall₂_cons.1 made
    cases draw with
    | generated value => exact ih others mem
    | enciphered key text answer =>
      have later (mem : blob ∈ Draw.blobs rest) :
          ∃ iv ∈ e.blocks (.enciphered key text answer :: rest), iv.length = Cbc.blockLength ∧
            ∃ key text, Blob.encrypt iv key text = .ok blob := by
        obtain ⟨iv, drawn, block⟩ := ih others mem
        exact ⟨iv, List.mem_cons_of_mem _ drawn, block⟩
      cases answer with
      | error fault => exact later mem
      | ok other =>
        rcases List.mem_cons.1 mem with rfl | mem
        · obtain ⟨full, enciphered⟩ := Draw.encrypt_of_madeOf first
          exact ⟨_, List.mem_cons_self, full, key, text, enciphered⟩
        · exact later mem

/-- Blobs are as different as the blocks that they were made under. -/
theorem nodup_blobs (made : List.Forall₂ Draw.MadeOf draws (e.pieces draws))
    (fresh : (e.blocks draws).Nodup) : (Draw.blobs draws).Nodup := by
  -- on the draws, each of which has its piece behind it
  induction draws generalizing e with
  | nil => exact List.nodup_nil
  | cons draw rest ih =>
    obtain ⟨first, others⟩ := List.forall₂_cons.1 made
    cases draw with
    | generated value => exact ih others fresh
    | enciphered key text answer =>
      obtain ⟨unused, apart⟩ := List.nodup_cons.1 fresh
      cases answer with
      | error fault => exact ih others apart
      | ok blob =>
        refine List.nodup_cons.2 ⟨fun mem => ?_, ih others apart⟩
        -- a second blob like this one would have been made under the same block
        obtain ⟨full, enciphered⟩ := Draw.encrypt_of_madeOf first
        obtain ⟨iv, drawn, block, _, _, again⟩ := exists_block_of_mem_blobs others mem
        rw [← Blob.block_eq_of_encrypt full block enciphered again] at drawn
        exact unused drawn

end Entropy

/-! ## Runs -/

namespace World

variable {σ : Type} {hosting : Hosting} {u v w : World σ} {draws more : List Draw}

/-- How surroundings become others, and what draws bytes on the way: key values are generated, texts
are enciphered, and in between anything is done, by anyone, that draws no bytes. -/
inductive Run : World σ → List Draw → World σ → Prop
  | done (w : World σ) : Run w [] w
  | other {u v w : World σ} {draws : List Draw} (kept : u.entropy = w.entropy)
    (rest : Run u draws v) : Run w draws v
  | generated {u v w : World σ} {draws : List Draw} {value : String}
    (runs : Generation.value.run.run w = (.ok value, u)) (rest : Run u draws v) :
    Run w (.generated value :: draws) v
  | enciphered {u v w : World σ} {draws : List Draw} {key : List UInt8} {text : String}
    {answer : Except Error String} (runs : (Action.encrypt key text).run.run w = (answer, u))
    (rest : Run u draws v) : Run w (.enciphered key text answer :: draws) v

theorem Run.quiet (kept : v.entropy = w.entropy) : w.Run [] v := .other kept (.done v)

theorem Run.append (h : w.Run draws u) (k : u.Run more v) : w.Run (draws ++ more) v := by
  induction h with
  | done _ => exact k
  | other kept _ ih => exact .other kept (ih k)
  | generated runs _ ih => exact .generated runs (ih k)
  | enciphered runs _ ih => exact .enciphered runs (ih k)

/-- Whatever is drawn is made of the pieces that the source is cut into, and they are gone. -/
theorem Run.taken (run : w.Run draws v) :
    List.Forall₂ Draw.MadeOf draws (w.entropy.pieces draws) ∧
      v.entropy = w.entropy.advance (Draw.total draws) := by
  -- on the run: what draws takes the next piece, and all else leaves the source where it is
  induction run with
  | done w => exact ⟨.nil, rfl⟩
  | other kept _ ih =>
    rw [← kept]
    exact ih
  | @generated u v w draws value runs _ ih =>
    obtain ⟨rfl, rfl⟩ : value = Generation.valueOf (w.entropy.peek Generation.valueBytes) ∧
        u = { w with entropy := w.entropy.advance Generation.valueBytes } := by
      cases runs
      exact ⟨rfl, rfl⟩
    refine ⟨.cons (.generated (Entropy.length_peek _ _)) ih.1, ?_⟩
    exact ih.2.trans (Entropy.advance_add _ _ _).symm
  | @enciphered u v w draws key text answer runs _ ih =>
    rw [Action.run_encrypt] at runs
    obtain ⟨rfl, rfl⟩ := Prod.mk.inj runs
    refine ⟨.cons (.enciphered key text (Entropy.length_peek _ _)) ih.1, ?_⟩
    exact ih.2.trans (Entropy.advance_add _ _ _).symm

/-- Under a key that can be used, a text is enciphered behind the block that is drawn next. -/
theorem exists_framed (w : World σ) {key : List UInt8} (text : String)
    (proper : key.length ∈ Aes.keyLengths) :
    ∃ blob behind, (Action.encrypt key text).run.run w =
        (.ok blob, { w with entropy := w.entropy.advance Cbc.blockLength }) ∧
      Base64.decode blob = some (w.entropy.peek Cbc.blockLength ++ behind) ∧
      behind.length = Cbc.blockLength * ((Utf8.encode text).length / Cbc.blockLength + 1) := by
  obtain ⟨blob, enciphered⟩ := Blob.exists_encrypt proper (w.entropy.peek Cbc.blockLength) text
  obtain ⟨behind, decoded, size⟩ := Blob.decode_of_encrypt (Entropy.length_peek _ _) enciphered
  refine ⟨blob, behind, ?_, decoded, size⟩
  rw [Action.run_encrypt, enciphered]
  rfl

/-- Enciphering takes the next sixteen bytes, and the blob is those and whole blocks for the text
and its padding. In a run each draw is made of a piece of the source, the pieces follow one
another without a gap, and if no two texts are enciphered under one block, then no two blobs are
the same. -/
theorem draws_take_pieces (run : w.Run draws v) :
    (∀ (u : World σ) (key : List UInt8) (text : String), key.length ∈ [16, 24, 32] →
      ∃ blob behind, (Action.encrypt key text).run.run u =
          (.ok blob, { u with entropy := u.entropy.advance 16 }) ∧
        Base64.decode blob = some (u.entropy.peek 16 ++ behind) ∧
        behind.length = 16 * ((Utf8.encode text).length / 16 + 1)) ∧
    List.Forall₂ Draw.MadeOf draws (w.entropy.pieces draws) ∧
    (w.entropy.pieces draws).flatten = w.entropy.peek (Draw.total draws) ∧
    v.entropy = w.entropy.advance (Draw.total draws) ∧
    ((w.entropy.blocks draws).Nodup → (Draw.blobs draws).Nodup) := by
  obtain ⟨made, left⟩ := run.taken
  exact ⟨fun u _ text proper => exists_framed u text proper, made, Entropy.flatten_pieces _ _, left,
    Entropy.nodup_blobs made⟩

/-- A text that is enciphered twice under the same key has two blobs, also if a key value is
generated meanwhile. -/
theorem draws_take_pieces_twice : ∃ first value second v,
    Vault.aliased.Run [.enciphered (List.replicate 24 7) "text" (.ok first), .generated value,
      .enciphered (List.replicate 24 7) "text" (.ok second)] v ∧ first ≠ second := by
  obtain ⟨framed, -⟩ := draws_take_pieces (.done Vault.aliased)
  obtain ⟨first, -, made, -⟩ :=
    framed Vault.aliased (List.replicate 24 7) "text" (by decide)
  obtain ⟨second, -, again, -⟩ :=
    framed { Vault.aliased with entropy := Entropy.counting.advance 56 }
      (List.replicate 24 7) "text"
      (by decide)
  have run := Run.enciphered made (.generated rfl (.enciphered again (.done _)))
  obtain ⟨-, -, -, -, differ⟩ := draws_take_pieces run
  have fresh : [Entropy.counting.peek 16, (Entropy.counting.advance 56).peek 16].Nodup := by decide
  refine ⟨first, _, second, _, run, ?_⟩
  intro eq
  exact absurd (differ fresh) (by simp [Draw.blobs, Draw.blob?, eq])

/-- What is told by where ids lead draws nothing. -/
theorem run_of_told {α : Type} {a : Action σ α} {tells : Key.Lookup → Except Error α}
    (told : Action.Told hosting a tells) {answer : Except Error α}
    (runs : a.run.run w = (answer, v)) : w.Run [] v := by
  obtain ⟨u, hushed, given⟩ := told w
  obtain ⟨-, rfl⟩ := Prod.mk.inj (runs.symm.trans given)
  exact .quiet hushed.entropy.symm

end World

/-! ## Keys that are made -/

/-- The blobs among secrets. -/
def Secret.blobs (secrets : List Secret) : List String := (secrets.filter isEncrypted).map value

theorem Secret.blobs_append (secrets more : List Secret) :
    blobs (secrets ++ more) = blobs secrets ++ blobs more := by
  rw [blobs, List.filter_append, List.map_append]
  rfl

variable {σ : Type} {vault : Vault} {w v : World σ}

/-- Bringing a secret into its form at rest draws a block for its blob, if it is to have one. -/
theorem Vault.run_write {s : Secret} {answer : Except Error Secret}
    (writes : (vault.write s).run.run w = (answer, v)) :
    ∃ draws, w.Run draws v ∧ ∀ t, answer = .ok t → Draw.blobs draws = Secret.blobs [t] := by
  rw [write, converter] at writes
  -- a plain secret is kept as it is, and draws nothing
  cases encrypts : vault.encrypts with
  | false =>
    rw [encrypts] at writes
    obtain ⟨rfl, rfl⟩ := Prod.mk.inj writes
    refine ⟨[], .done w, ?_⟩
    rintro t ⟨⟩
    rfl
  | true =>
    rw [encrypts] at writes
    have enciphers : (Converter.encipherValue vault.hosting s).run.run w = (answer, v) := writes
    rcases Action.run_bind_cases enciphers with ⟨e, missing, rfl⟩ | ⟨key, u, found, enciphers⟩
    · refine ⟨[], World.run_of_told (Converter.told_keyFor s.keyId?) missing, ?_⟩
      rintro t ⟨⟩
    have looked := World.run_of_told (Converter.told_keyFor s.keyId?) found
    rcases Action.run_bind_cases enciphers with ⟨e, fails, rfl⟩ | ⟨blob, u', made, done⟩
    · refine ⟨_, looked.append (.enciphered fails (.done v)), ?_⟩
      rintro t ⟨⟩
    · obtain ⟨rfl, rfl⟩ := Prod.mk.inj done
      refine ⟨_, looked.append (.enciphered made (.done _)), ?_⟩
      rintro t ⟨⟩
      rfl

namespace Generation

/-- A key draws a value and, behind it, a block if it is to be enciphered. -/
theorem run_secret {name : String} {answer : Except Error Secret}
    (runs : (secret vault name).run.run w = (answer, v)) :
    ∃ value draws, w.Run (.generated value :: draws) v ∧
      ∀ t, answer = .ok t → Draw.blobs draws = Secret.blobs [t] := by
  rcases Action.run_bind_cases runs with ⟨e, fails, -⟩ | ⟨value, u, drawn, written⟩
  · cases fails
  · obtain ⟨draws, continues, agree⟩ := Vault.run_write written
    exact ⟨value, draws, .generated drawn continues, agree⟩

theorem run_host {answer : Except Error HostSecrets}
    (runs : (host vault).run.run w = (answer, v)) :
    ∃ draws, w.Run draws v ∧ ∀ made, answer = .ok made →
      Draw.blobs draws = Secret.blobs (made.masterKey :: made.functionKeys) := by
  rcases Action.run_bind_cases runs with ⟨e, fails, rfl⟩ | ⟨master, u, first, runs⟩
  · obtain ⟨value, draws, run, -⟩ := run_secret fails
    refine ⟨_, run, ?_⟩
    rintro made ⟨⟩
  obtain ⟨value, draws, run, blob⟩ := run_secret first
  rcases Action.run_bind_cases runs with ⟨e, fails, rfl⟩ | ⟨function, u', second, done⟩
  · obtain ⟨other, more, continues, -⟩ := run_secret fails
    refine ⟨_, run.append continues, ?_⟩
    rintro made ⟨⟩
  · obtain ⟨other, more, continues, blob'⟩ := run_secret second
    obtain ⟨rfl, rfl⟩ := Prod.mk.inj done
    refine ⟨_, run.append continues, ?_⟩
    rintro made ⟨⟩
    rw [Draw.blobs_append, Draw.blobs_generated, Draw.blobs_generated, blob master rfl,
      blob' function rfl]
    exact (Secret.blobs_append [master] [function]).symm

theorem run_function {answer : Except Error (List Secret)}
    (runs : (function vault).run.run w = (answer, v)) :
    ∃ draws, w.Run draws v ∧ ∀ made, answer = .ok made →
      Draw.blobs draws = Secret.blobs made := by
  rcases Action.run_bind_cases runs with ⟨e, fails, rfl⟩ | ⟨key, u, made, done⟩
  · obtain ⟨value, draws, run, -⟩ := run_secret fails
    refine ⟨_, run, ?_⟩
    rintro made ⟨⟩
  · obtain ⟨value, draws, run, blob⟩ := run_secret made
    obtain ⟨rfl, rfl⟩ := Prod.mk.inj done
    refine ⟨_, run, ?_⟩
    rintro keys ⟨⟩
    rw [Draw.blobs_generated, blob key rfl]

end Generation

/-! ## Stores -/

theorem Scope.run_generate (c : Scope) {answer : Except Error c.Records}
    (generates : (c.form vault).generate.run.run w = (answer, v)) : ∃ draws, w.Run draws v := by
  cases c with
  | host =>
    obtain ⟨draws, run, -⟩ := Generation.run_host generates
    exact ⟨draws, run⟩
  | function name =>
    obtain ⟨draws, run, -⟩ := Generation.run_function generates
    exact ⟨draws, run⟩

variable [Volume σ]

theorem Load.run_stored (p : Path) (text : String) (log : List Event) (w : World σ) :
    w.Run [] (Load.stored p text log w) := .quiet rfl

/-- A load draws bytes if it makes keys, and otherwise none. -/
theorem Load.run_opened {α β : Type} {hosting : Hosting} {form : Load.Form σ α}
    {finish : α → Action σ β} {values : Key.Lookup → α → Except Error β} {p : Path}
    (reliable : Load.Reliable hosting form finish values)
    (generates : ∀ w v answer, form.generate.run.run w = (answer, v) → ∃ draws, w.Run draws v)
    {answer : Except Error β} (loads : (Load.opened form p finish).run.run w = (answer, v)) :
    ∃ draws, w.Run draws v := by
  obtain ⟨given, u, opens, hushed, -⟩ := Load.exists_opening_of_load reliable loads
  have finished : u.Run [] v := .quiet hushed.entropy.symm
  -- by how the document is opened: keys are made only where it is missing
  cases opens with
  | unreadable => exact ⟨[], finished⟩
  | current => exact ⟨[], finished⟩
  | outdated => exact ⟨[], (Load.run_stored p _ _ w).append finished⟩
  | barren _ fails =>
    obtain ⟨draws, run⟩ := generates _ _ _ fails
    exact ⟨_, run.append finished⟩
  | unwritable _ made =>
    obtain ⟨draws, run⟩ := generates _ _ _ made
    exact ⟨_, run.append ((Load.run_stored p _ _ _).append finished)⟩
  | made _ made =>
    obtain ⟨draws, run⟩ := generates _ _ _ made
    exact ⟨_, run.append ((Load.run_stored p _ _ _).append finished)⟩

namespace Store

variable {s t : Store σ} {c : Scope}

/-- An access is a run: it loads at most once. -/
theorem run_access {answer : Answer} (h : s.Access c answer t) :
    ∃ draws, s.world.Run draws t.world := by
  cases h with
  | held _ _ world _ => exact ⟨[], world ▸ .done s.world⟩
  | loads _ runs _ _ _ =>
    exact Load.run_opened (c.reliable s.vault) (fun _ _ _ => c.run_generate) runs

/-- Whatever a turn is, bytes are drawn by loads alone. -/
theorem run_turn (s : Store σ) (next : Turn σ) :
    ∃ draws, s.world.Run draws (s.turn next).world := by
  cases next with
  | environment env => exact ⟨[], .quiet rfl⟩
  | step next =>
    cases next with
    | host =>
      have given : s.turn (.step .host) = s.hostKeys.2 := rfl
      rw [given]
      exact run_access (access_hostKeys s)
    | function name =>
      have given : s.turn (.step (.function name)) = (s.functionKeys name).2 := rfl
      rw [given]
      cases usable : Scope.ofFunction name with
      | ok n => exact run_access (access_functionKeys s usable)
      | error e =>
        rw [functionKeys_of_refused usable]
        exact ⟨[], .done s.world⟩
    | purge root =>
      obtain ⟨orphans, log, left⟩ := exists_pruned_of_purge s root
      have purged : s.turn (.step (.purge root)) = s.purge root := rfl
      rw [purged, left]
      exact ⟨[], .quiet rfl⟩
    | invalidate p =>
      obtain ⟨-, -, -, alike⟩ := world_invalidate s p
      have cleared : s.turn (.step (.invalidate p)) = s.invalidate p := rfl
      rw [cleared]
      exact ⟨[], .quiet (alike s.vault.hosting).entropy.symm⟩
    | change n f => exact ⟨[], .quiet rfl⟩

/-- Whatever happens to a store and its surroundings, bytes are drawn for nothing but key values and
the blocks of blobs. -/
theorem run_journey (s : Store σ) (turns : List (Turn σ)) :
    ∃ draws, s.world.Run draws (s.journey turns).world := by
  induction turns generalizing s with
  | nil => exact ⟨[], .done s.world⟩
  | cons next rest ih =>
    obtain ⟨draws, run⟩ := run_turn s next
    obtain ⟨more, continues⟩ := ih (s.turn next)
    exact ⟨draws ++ more, run.append continues⟩

end Store

end Lockbox
