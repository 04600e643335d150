import Mathlib.Data.List.Induction
import Mathlib.Logic.Function.Basic
import Lockbox.Key.Cache

/-!
# Remembered keys in many hands

Any number of calls use one cache, in moves that interleave in any order. A call looks into its
slot. If there is no key it sets out to find one, and may never come back; nothing is locked
meanwhile, so that others may find another one for the same slot. What it has found goes into the
slot unless there is a key by then. Others read slots, or clear the cache.

A key that is in its slot stays there until the cache is cleared (`get?_after`), each call goes one
of a few courses (`Course`), and what it is answered was in its slot when it last used the cache
(`served_after`). Hence the first key that gets into a slot is everyone's key (`first_key_wins`).
-/

namespace Lockbox.KeyCache

variable {ε : Type}

theorem get?_insertIfNew_of_some {c : KeyCache} {slot : String} {present : Key}
    (h : c.get? slot = some present) (slot' : String) (key : Key) :
    (c.insertIfNew slot' key).2.get? slot = some present := by
  by_cases eq : slot' = slot
  · rw [eq, insertIfNew_of_some h, h]
  · rw [get?_insertIfNew_of_ne c eq, h]

/-! ## States -/

/-- How far a call is that wants the key of a slot. -/
inductive Call (ε : Type) where
  | absent
  | called (slot : String)
  /-- Has found its slot empty. -/
  | missed (slot : String)
  /-- Is about to find a key, or to fail. -/
  | finding (slot : String)
  /-- Has found a key, which is not in the slot yet. -/
  | holding (slot : String) (key : Key)
  | answered (slot : String) (answer : Except ε (Option Key))

/-- A call that has looked into its slot. -/
def Call.ofLook (slot : String) : Option Key → Call ε
  | some key => .answered slot (.ok (some key))
  | none => .missed slot

/-- A call that has found something. Without a key there is nothing left to do. -/
def Call.ofFound (slot : String) : Except ε (Option Key) → Call ε
  | .ok (some key) => .holding slot key
  | found => .answered slot found

/-- Nothing was found, or an error came of it. -/
def Keyless (found : Except ε (Option Key)) : Prop := ∀ key, found ≠ .ok (some key)

theorem Call.ofFound_of_keyless {found : Except ε (Option Key)} (h : Keyless found)
    (slot : String) : ofFound slot found = .answered slot found := by
  match found with
  | .ok (some key) => exact absurd rfl (h key)
  | .ok none => rfl
  | .error e => rfl

/-- A cache and the calls that use it, by number. -/
structure Shared (ε : Type) where
  cache : KeyCache
  call : Nat → Call ε

namespace Shared

def idle (c : KeyCache) : Shared ε := ⟨c, fun _ => .absent⟩

def turn (s : Shared ε) (i : Nat) (call : Call ε) : Shared ε :=
  { s with call := Function.update s.call i call }

end Shared

/-! ## Moves -/

/-- What can happen to a cache. -/
inductive Move (ε : Type) where
  | call (i : Nat) (slot : String)
  | look (i : Nat) (slot : String)
  | start (i : Nat) (slot : String)
  | finish (i : Nat) (slot : String) (found : Except ε (Option Key))
  | insert (i : Nat) (slot : String) (key : Key)
  /-- Someone is told what is in a slot. -/
  | read (slot : String) (told : Option Key)
  | clear

namespace Move

def Enabled (s : Shared ε) : Move ε → Prop
  | .call i _ => s.call i = .absent
  | .look i slot => s.call i = .called slot
  | .start i slot => s.call i = .missed slot
  | .finish i slot _ => s.call i = .finding slot
  | .insert i slot key => s.call i = .holding slot key
  | .read slot told => s.cache.get? slot = told
  | .clear => True

def next (s : Shared ε) : Move ε → Shared ε
  | .call i slot => s.turn i (.called slot)
  | .look i slot => s.turn i (.ofLook slot (s.cache.get? slot))
  | .start i slot => s.turn i (.finding slot)
  | .finish i slot found => s.turn i (.ofFound slot found)
  | .insert i slot key =>
    let (present, cache) := s.cache.insertIfNew slot key
    { s.turn i (.answered slot (.ok (some present))) with cache := cache }
  | .read _ _ => s
  | .clear => { s with cache := .empty }

/-- The call that makes a move. -/
def caller? : Move ε → Option Nat
  | .call i _ => some i
  | .look i _ => some i
  | .start i _ => some i
  | .finish i _ _ => some i
  | .insert i _ _ => some i
  | .read _ _ => none
  | .clear => none

/-- A call uses the cache. -/
def Accesses (i : Nat) : Move ε → Prop
  | .look j _ => j = i
  | .insert j _ _ => j = i
  | _ => False

/-- A call sets out to find a key, or has done so. -/
def Finds (i : Nat) : Move ε → Prop
  | .start j _ => j = i
  | .finish j _ _ => j = i
  | _ => False

theorem Accesses.caller? {m : Move ε} {i : Nat} (h : m.Accesses i) : m.caller? = some i := by
  cases m <;> simp_all [Accesses, Move.caller?]

theorem Finds.caller? {m : Move ε} {i : Nat} (h : m.Finds i) : m.caller? = some i := by
  cases m <;> simp_all [Finds, Move.caller?]

theorem call_next_of_ne {m : Move ε} {i : Nat} (foreign : m.caller? ≠ some i) (s : Shared ε) :
    (m.next s).call i = s.call i := by
  cases m <;> simp_all [Move.caller?, next, Shared.turn, eq_comm]

theorem caller?_ne_of_answered {m : Move ε} {s : Shared ε} {i : Nat} {slot : String}
    {answer : Except ε (Option Key)} (enabled : m.Enabled s)
    (answered : s.call i = .answered slot answer) : m.caller? ≠ some i := by
  intro mine
  cases m <;> simp_all [Move.caller?, Enabled]

theorem get?_next {m : Move ε} {s : Shared ε} {slot : String} {key : Key} (kept : m ≠ .clear)
    (cached : s.cache.get? slot = some key) : (m.next s).cache.get? slot = some key := by
  cases m with
  | insert i other found => exact get?_insertIfNew_of_some cached other found
  | clear => exact absurd rfl kept
  | _ => exact cached

/-- A call that gets a key for its answer now uses the cache now and leaves the key in its slot. -/
theorem accesses_of_answered {m : Move ε} {s : Shared ε} {i : Nat} {slot : String} {key : Key}
    (enabled : m.Enabled s) (before : s.call i ≠ .answered slot (.ok (some key)))
    (answered : (m.next s).call i = .answered slot (.ok (some key))) :
    m.Accesses i ∧ (m.next s).cache.get? slot = some key := by
  -- the answer is new, so the call itself has moved
  have mine : m.caller? = some i := by
    by_contra ne
    exact before ((call_next_of_ne ne s).symm.trans answered)
  cases m with
  | read | clear => cases mine
  | call j other | start j other =>
    cases mine
    simp [next, Shared.turn] at answered
  | look j other =>
    cases mine
    have given : (.ofLook other (s.cache.get? other) : Call ε) =
        .answered slot (.ok (some key)) := by
      simpa [next, Shared.turn] using answered
    cases cache_eq : s.cache.get? other with
    | none =>
      rw [cache_eq] at given
      cases given
    | some present =>
      rw [cache_eq] at given
      cases given
      exact ⟨rfl, cache_eq⟩
  | finish j other found =>
    cases mine
    match found with
    | .ok (some _) | .ok none | .error _ => simp [next, Shared.turn, Call.ofFound] at answered
  | insert j other found =>
    cases mine
    have given : (.answered other (.ok (some (s.cache.insertIfNew other found).1)) : Call ε) =
        .answered slot (.ok (some key)) := by
      simpa [next, Shared.turn] using answered
    cases given
    exact ⟨rfl, get?_insertIfNew_self s.cache slot found⟩

end Move

namespace Shared

def after (s : Shared ε) (moves : List (Move ε)) : Shared ε := moves.foldl Move.next s

def Allowed (s : Shared ε) : List (Move ε) → Prop
  | [] => True
  | m :: rest => m.Enabled s ∧ (m.next s).Allowed rest

variable {c : KeyCache} {s t : Shared ε} {m : Move ε} {moves past more : List (Move ε)} {i : Nat}
  {slot : String} {key : Key}

@[simp] theorem after_nil (s : Shared ε) : s.after [] = s := rfl

@[simp] theorem after_cons (s : Shared ε) (m : Move ε) (rest : List (Move ε)) :
    s.after (m :: rest) = (m.next s).after rest := rfl

@[simp] theorem after_append (s : Shared ε) (moves more : List (Move ε)) :
    s.after (moves ++ more) = (s.after moves).after more := List.foldl_append

@[simp] theorem allowed_append :
    s.Allowed (moves ++ more) ↔ s.Allowed moves ∧ (s.after moves).Allowed more := by
  induction moves generalizing s with
  | nil => simp [Allowed]
  | cons m rest ih => simp [Allowed, ih, and_assoc]

theorem allowed_singleton : s.Allowed [m] ↔ m.Enabled s := by simp [Allowed]

/-- What holds at first, and one more move preserves, holds of every run. -/
theorem kept_after {P : List (Move ε) → Prop} (first : P [])
    (step : ∀ past m, s.Allowed past → m.Enabled (s.after past) → P past → P (past ++ [m]))
    (allowed : s.Allowed moves) : P moves := by
  -- on the moves from the end, since a property of runs grows there
  induction moves using List.reverseRecOn with
  | nil => exact first
  | append_singleton past m ih =>
    obtain ⟨before, enabled⟩ := allowed_append.1 allowed
    exact step past m before (allowed_singleton.1 enabled) (ih before)

theorem get?_after (kept : .clear ∉ moves) (cached : s.cache.get? slot = some key) :
    (s.after moves).cache.get? slot = some key := by
  induction moves generalizing s with
  | nil => exact cached
  | cons m rest ih =>
    apply ih (fun later => kept (List.mem_cons_of_mem m later))
    apply Move.get?_next _ cached
    rintro rfl
    exact kept List.mem_cons_self

/-! ## The moves of one call -/

def ofCall (i : Nat) (moves : List (Move ε)) : List (Move ε) :=
  moves.filter (·.caller? = some i)

def without (i : Nat) (moves : List (Move ε)) : List (Move ε) :=
  moves.filter (·.caller? ≠ some i)

theorem mem_ofCall : m ∈ ofCall i moves ↔ m ∈ moves ∧ m.caller? = some i := by simp [ofCall]

theorem ofCall_append (i : Nat) (moves more : List (Move ε)) :
    ofCall i (moves ++ more) = ofCall i moves ++ ofCall i more := List.filter_append moves more

/-- The ways that a call goes, each with the moves that it has made to get there. -/
inductive Course (i : Nat) : List (Move ε) → Call ε → Prop
  | absent : Course i [] .absent
  | called (slot : String) : Course i [.call i slot] (.called slot)
  | served (slot : String) (key : Key) :
    Course i [.call i slot, .look i slot] (.answered slot (.ok (some key)))
  | missed (slot : String) : Course i [.call i slot, .look i slot] (.missed slot)
  | finding (slot : String) :
    Course i [.call i slot, .look i slot, .start i slot] (.finding slot)
  | failed (slot : String) {found : Except ε (Option Key)} (keyless : Keyless found) :
    Course i [.call i slot, .look i slot, .start i slot, .finish i slot found]
      (.answered slot found)
  | holding (slot : String) (key : Key) :
    Course i [.call i slot, .look i slot, .start i slot, .finish i slot (.ok (some key))]
      (.holding slot key)
  | inserted (slot : String) (key present : Key) :
    Course i [.call i slot, .look i slot, .start i slot, .finish i slot (.ok (some key)),
      .insert i slot key] (.answered slot (.ok (some present)))

/-- One more move of its own takes a call one step further on its course. -/
theorem Course.next {own : List (Move ε)} (h : Course i own (s.call i))
    (mine : m.caller? = some i) (enabled : m.Enabled s) :
    Course i (own ++ [m]) ((m.next s).call i) := by
  cases m with
  | read | clear => cases mine
  | call j slot =>
    cases mine
    rw [enabled] at h
    cases h
    simpa [Move.next, turn] using called slot
  | look j slot =>
    cases mine
    rw [enabled] at h
    cases h
    cases slot_eq : s.cache.get? slot with
    | none => simpa [Move.next, turn, slot_eq, Call.ofLook] using missed slot
    | some key => simpa [Move.next, turn, slot_eq, Call.ofLook] using served slot key
  | start j slot =>
    cases mine
    rw [enabled] at h
    cases h
    simpa [Move.next, turn] using finding slot
  | finish j slot found =>
    cases mine
    rw [enabled] at h
    cases h
    -- with a key there is one more thing to do
    by_cases keyless : Keyless found
    · simpa [Move.next, turn, Call.ofFound_of_keyless keyless] using failed slot keyless
    · simp only [Keyless, not_forall, not_not] at keyless
      obtain ⟨key, rfl⟩ := keyless
      simpa [Move.next, turn, Call.ofFound] using holding slot key
  | insert j slot key =>
    cases mine
    rw [enabled] at h
    cases h
    simpa [Move.next, turn] using inserted slot key _

/-- Every call goes its course. -/
theorem course_after (allowed : (idle c).Allowed moves) (i : Nat) :
    Course i (ofCall i moves) (((idle c : Shared ε).after moves).call i) := by
  refine kept_after (P := fun moves => Course i (ofCall i moves) (((idle c).after moves).call i))
    .absent ?_ allowed
  intro past m _ enabled course
  rw [after_append, ofCall_append]
  by_cases mine : m.caller? = some i
  · simpa [ofCall, mine] using course.next mine enabled
  · simpa [ofCall, mine, Move.call_next_of_ne mine] using course

/-- A call that found no key has done nothing since, and put nothing into the cache. -/
theorem Course.of_finish {own : List (Move ε)} {call : Call ε} {found : Except ε (Option Key)}
    (h : Course i own call) (finished : .finish i slot found ∈ own) (keyless : Keyless found) :
    call = .answered slot found ∧ ∀ other key, .insert i other key ∉ own := by
  cases h with
  | failed other _ =>
    obtain ⟨rfl, rfl⟩ : slot = other ∧ found = _ := by simpa using finished
    exact ⟨rfl, by simp⟩
  | holding other key | inserted other key present =>
    obtain ⟨-, rfl⟩ : slot = other ∧ found = .ok (some key) := by simpa using finished
    exact absurd rfl (keyless key)
  | _ => simp at finished

/-- A call that is answered without a key has come to that end itself. -/
theorem Course.finish_mem {own : List (Move ε)} {found : Except ε (Option Key)}
    (h : Course i own (.answered slot found)) (keyless : Keyless found) :
    .finish i slot found ∈ own := by
  cases h with
  | failed => simp
  | served | inserted => exact absurd rfl (keyless _)

theorem after_of_answered {answer : Except ε (Option Key)} (allowed : s.Allowed moves)
    (answered : s.call i = .answered slot answer) :
    (s.after moves).call i = .answered slot answer ∧ ∀ m ∈ moves, m.caller? ≠ some i := by
  -- on the moves, none of which the call can make
  induction moves generalizing s with
  | nil => exact ⟨answered, by simp⟩
  | cons m rest ih =>
    obtain ⟨enabled, later⟩ := allowed
    have ne := Move.caller?_ne_of_answered enabled answered
    obtain ⟨still, others⟩ := ih later ((Move.call_next_of_ne ne s).trans answered)
    exact ⟨still, by simpa using ⟨ne, others⟩⟩

/-! ## What calls are answered -/

/-- A call has been answered with what was in its slot when it last used the cache. -/
def Served (c : KeyCache) (moves : List (Move ε)) (i : Nat) (slot : String) (key : Key) : Prop :=
  ∃ past m later, moves = past ++ m :: later ∧ m.Accesses i ∧ (∀ m ∈ later, ¬ m.Accesses i) ∧
    ((idle c).after (past ++ [m])).cache.get? slot = some key

/-- The moment in question is the last at which the call used the cache: what it is answered
afterwards is what it saw or left there. -/
theorem served_after (allowed : (idle c).Allowed moves)
    (answered : ((idle c).after moves).call i = .answered slot (.ok (some key))) :
    Served c moves i slot key := by
  refine kept_after (P := fun moves => ((idle c).after moves).call i =
    .answered slot (.ok (some key)) → Served c moves i slot key) nofun ?_ allowed answered
  intro past m _ enabled ih answered
  -- either the call was answered before, and uses the cache no more, or it is answered now
  by_cases before : ((idle c).after past).call i = .answered slot (.ok (some key))
  · obtain ⟨first, used, later, rfl, uses, last, cached⟩ := ih before
    refine ⟨first, used, later ++ [m], by simp, uses, ?_, cached⟩
    intro other mem
    rcases List.mem_append.1 mem with earlier | now
    · exact last other earlier
    · rw [List.mem_singleton.1 now]
      exact fun uses => Move.caller?_ne_of_answered enabled before uses.caller?
  · rw [after_append] at answered
    obtain ⟨uses, cached⟩ := Move.accesses_of_answered enabled before answered
    exact ⟨past, m, [], rfl, uses, by simp, by simpa using cached⟩

/-- Someone is given a key of a slot in later moves: a call that uses the cache there is answered
with it, or someone is told of it. -/
inductive Given (s : Shared ε) (later : List (Move ε)) (slot : String) (key : Key) : Prop
  | answered {i : Nat} {m : Move ε} (answer : s.call i = .answered slot (.ok (some key)))
    (mem : m ∈ later) (uses : m.Accesses i) : Given s later slot key
  | told (mem : .read slot (some key) ∈ later) : Given s later slot key

/-- Whoever is given a key while the cache is not cleared, the key is in the slot at the end. -/
theorem get?_of_given {later : List (Move ε)} (allowed : (idle c).Allowed (past ++ later))
    (kept : .clear ∉ later) (given : Given ((idle c).after (past ++ later)) later slot key) :
    ((idle c).after (past ++ later)).cache.get? slot = some key := by
  cases given with
  | answered answer mem uses =>
    obtain ⟨first, m, rest, split, -, last, cached⟩ := served_after allowed answer
    -- the call used the cache last in the later moves
    have within : ∀ m ∈ rest, m ∈ later := by
      rcases List.append_eq_append_iff.1 split with ⟨_, -, rfl⟩ | ⟨between, -, eq⟩
      · simp +contextual
      · cases between with
        | nil =>
          obtain rfl : m :: rest = later := eq
          exact fun _ => List.mem_cons_of_mem m
        | cons _ between =>
          obtain ⟨-, rfl⟩ := List.cons.inj eq
          exact absurd uses (last _ (List.mem_append_right between mem))
    rw [split, List.append_cons, after_append]
    exact get?_after (fun cleared => kept (within _ cleared)) cached
  | told mem =>
    obtain ⟨before, rest, rfl⟩ := List.append_of_mem mem
    rw [← List.append_assoc, allowed_append] at allowed
    rw [← List.append_assoc, after_append]
    refine get?_after (fun cleared => kept (List.mem_append_right before cleared)) allowed.2.1

/-- Two who are given keys of one slot are given one key, for there is one in the slot at the
end. -/
theorem eq_of_given {later : List (Move ε)} {other : Key}
    (allowed : (idle c).Allowed (past ++ later)) (kept : .clear ∉ later)
    (first : Given ((idle c).after (past ++ later)) later slot key)
    (second : Given ((idle c).after (past ++ later)) later slot other) : key = other := by
  have cached := get?_of_given allowed kept first
  have seen := get?_of_given allowed kept second
  exact Option.some.inj (cached.symm.trans seen)

theorem given_of_answered (allowed : (idle c).Allowed moves)
    (answered : ((idle c).after moves).call i = .answered slot (.ok (some key))) :
    Given ((idle c).after moves) moves slot key := by
  obtain ⟨past, m, later, split, uses, -, -⟩ := served_after allowed answered
  refine .answered answered ?_ uses
  rw [split]
  exact List.mem_append_right past List.mem_cons_self

/-! ## Calls that find no key -/

/-- The same but for one call. -/
structure Beside (i : Nat) (s t : Shared ε) : Prop where
  cache : t.cache = s.cache
  call : ∀ j, j ≠ i → t.call j = s.call j

theorem Beside.refl (i : Nat) (s : Shared ε) : Beside i s s := ⟨rfl, fun _ _ => rfl⟩

/-- Others go on as if the call were not there. -/
theorem Beside.next (h : Beside i s t) (foreign : m.caller? ≠ some i) (enabled : m.Enabled s) :
    m.Enabled t ∧ Beside i (m.next s) (m.next t) := by
  obtain ⟨cache, call⟩ := h
  -- a move of another call depends on that call and on the cache, which are the same
  have apart {j : Nat} (mine : m.caller? = some j) : t.call j = s.call j := by
    apply call
    rintro rfl
    exact foreign mine
  cases m with
  | call j slot | look j slot | start j slot | finish j slot found | insert j slot key =>
    refine ⟨(apart rfl).trans enabled, ?_, ?_⟩
    · simp [Move.next, turn, cache]
    · intro k ne
      simp [Move.next, turn, cache, Function.update_apply, call k ne]
  | read slot told =>
    refine ⟨?_, cache, call⟩
    rw [Move.Enabled, cache]
    exact enabled
  | clear => exact ⟨trivial, rfl, call⟩

/-- A call that puts nothing into the cache goes on without anyone else noticing. -/
theorem Beside.skip (h : Beside i s t) (mine : m.caller? = some i)
    (barren : ∀ slot key, m ≠ .insert i slot key) : Beside i (m.next s) t := by
  constructor
  · rw [h.cache]
    cases m with
    | insert j slot key =>
      cases mine
      exact absurd rfl (barren slot key)
    | read | clear => cases mine
    | _ => rfl
  · intro j ne
    rw [h.call j ne, Move.call_next_of_ne]
    rw [mine]
    exact fun eq => ne (Option.some.inj eq).symm

/-- A call that puts nothing into the cache might as well not have been made. -/
theorem beside_after (h : Beside i s t) (allowed : s.Allowed moves)
    (barren : ∀ slot key, .insert i slot key ∉ moves) :
    t.Allowed (without i moves) ∧ Beside i (s.after moves) (t.after (without i moves)) := by
  induction moves generalizing s t with
  | nil => exact ⟨trivial, h⟩
  | cons m rest ih =>
    obtain ⟨enabled, later⟩ := allowed
    have barren' : ∀ slot key, .insert i slot key ∉ rest := fun slot key mem =>
      barren slot key (List.mem_cons_of_mem m mem)
    -- a move of the call is left out, and any other one made in both runs
    by_cases mine : m.caller? = some i
    · have skipped : Beside i (m.next s) t := by
        apply h.skip mine
        rintro slot key rfl
        exact barren slot key List.mem_cons_self
      simpa [without, mine] using ih skipped later barren'
    · obtain ⟨further, beside⟩ := h.next mine enabled
      obtain ⟨onward, apart⟩ := ih beside later barren'
      have eq : without i (m :: rest) = m :: without i rest := by simp [without, mine]
      rw [eq]
      exact ⟨⟨further, onward⟩, apart⟩

/-- A call that found no key is answered so, and everything else is as if it had not been made. -/
theorem beside_of_finish {found : Except ε (Option Key)} (allowed : (idle c).Allowed moves)
    (ended : .finish i slot found ∈ moves) (keyless : Keyless found) :
    ((idle c).after moves).call i = .answered slot found ∧ (idle c).Allowed (without i moves) ∧
      Beside i ((idle c).after moves) ((idle c).after (without i moves)) := by
  have mine : .finish i slot found ∈ ofCall i moves := mem_ofCall.2 ⟨ended, rfl⟩
  obtain ⟨answered, barren⟩ := (course_after allowed i).of_finish mine keyless
  refine ⟨answered, beside_after (.refl i (idle c)) allowed ?_⟩
  exact fun slot key put => barren slot key (mem_ofCall.2 ⟨put, rfl⟩)

/-! ## Calls that find their key in the slot -/

theorem not_finds_of_called (allowed : (idle c).Allowed moves)
    (waits : ((idle c : Shared ε).after moves).call i = .called slot) :
    ∀ m ∈ moves, ¬ m.Finds i := by
  intro m mem finds
  have course := course_after allowed i
  rw [waits] at course
  have mine := mem_ofCall.2 ⟨mem, finds.caller?⟩
  generalize ofCall i moves = own at course mine
  cases course
  rw [List.mem_singleton.1 mine] at finds
  exact finds

/-- A call that sees a key is answered with it and never sets out to find one. -/
theorem answered_of_look {later : List (Move ε)}
    (allowed : (idle c).Allowed (past ++ .look i slot :: later))
    (cached : ((idle c : Shared ε).after past).cache.get? slot = some key) :
    ((idle c).after (past ++ .look i slot :: later)).call i = .answered slot (.ok (some key)) ∧
      ∀ m ∈ past ++ .look i slot :: later, ¬ m.Finds i := by
  obtain ⟨before, enabled, further⟩ := allowed_append.1 allowed
  have answered : ((Move.look i slot).next ((idle c).after past)).call i =
      .answered slot (.ok (some key)) := by
    simp [Move.next, turn, cached, Call.ofLook]
  obtain ⟨still, others⟩ := after_of_answered further answered
  rw [after_append, after_cons]
  refine ⟨still, fun m mem finds => ?_⟩
  rcases List.mem_append.1 mem with earlier | mem
  · exact not_finds_of_called before enabled m earlier finds
  · rcases List.mem_cons.1 mem with rfl | later
    · exact finds
    · exact others m later finds.caller?

/-! ## Calls that nobody interferes with -/

/-- The moves of a call that is alone and finds something. -/
def alone (c : KeyCache) (i : Nat) (slot : String) (found : Except ε (Option Key)) :
    List (Move ε) :=
  [.call i slot, .look i slot] ++ match c.get? slot, found with
    | some _, _ => []
    | none, .ok (some key) => [.start i slot, .finish i slot found, .insert i slot key]
    | none, _ => [.start i slot, .finish i slot found]

/-- A call that is alone comes to what `getOrFind` comes to. -/
theorem alone_eq_getOrFind (absent : s.call i = .absent) (slot : String)
    (found : Except ε (Option Key)) :
    s.Allowed (alone s.cache i slot found) ∧
      (s.after (alone s.cache i slot found)).call i =
        .answered slot (s.cache.getOrFind slot found).1 ∧
      (s.after (alone s.cache i slot found)).cache = (s.cache.getOrFind slot found).2 := by
  -- a key that is there ends the call at its look
  cases slot_eq : s.cache.get? slot with
  | some present =>
    simp [alone, slot_eq, getOrFind, Allowed, Move.Enabled, Move.next, turn, absent, Call.ofLook]
  | none =>
    rcases found with e | _ | key <;>
      simp [alone, slot_eq, getOrFind, Allowed, Move.Enabled, Move.next, turn, absent, Call.ofLook,
        Call.ofFound]

/-! ## The whole -/

/-- What is so of a cache that held the keys of `c` at first, after moves. -/
structure FirstWins (c : KeyCache) (moves : List (Move ε)) (s : Shared ε) : Prop where
  /-- A key stays in its slot while the cache is not cleared. -/
  kept : ∀ past more later slot key, moves = past ++ more ++ later → .clear ∉ more →
    ((idle c : Shared ε).after past).cache.get? slot = some key →
    ((idle c : Shared ε).after (past ++ more)).cache.get? slot = some key
  /-- A key that is answered was in its slot when the call last used the cache. -/
  served : ∀ i slot key, s.call i = .answered slot (.ok (some key)) → Served c moves i slot key
  /-- If the cache is not cleared, all calls for a slot that are answered with keys are answered
  with one. -/
  agree : .clear ∉ moves → ∀ i j slot key other, s.call i = .answered slot (.ok (some key)) →
    s.call j = .answered slot (.ok (some other)) → key = other
  /-- The same holds of all who use the cache since it was cleared. -/
  agreeSince : ∀ past later, moves = past ++ later → .clear ∉ later → ∀ slot key other,
    Given s later slot key → Given s later slot other → key = other
  /-- A call that finds no key is answered so, and everything else is as if it had not been made. -/
  barren : ∀ i slot found, .finish i slot found ∈ moves → Keyless found →
    s.call i = .answered slot found ∧ (idle c).Allowed (without i moves) ∧
      Beside i s ((idle c).after (without i moves))
  /-- No call is answered that there is no key unless it has found so itself. -/
  own : ∀ i slot found, s.call i = .answered slot found → Keyless found →
    .finish i slot found ∈ moves
  /-- A call that sees a key in its slot is answered with it and never sets out to find one. -/
  hit : ∀ past later i slot key, moves = past ++ .look i slot :: later →
    ((idle c : Shared ε).after past).cache.get? slot = some key →
    s.call i = .answered slot (.ok (some key)) ∧ ∀ m ∈ moves, ¬ m.Finds i
  /-- A call that nobody interferes with does what `getOrFind` does. -/
  finds : ∀ i, s.call i = .absent → ∀ slot (found : Except ε (Option Key)), ∃ more,
    s.Allowed more ∧ (s.after more).call i = .answered slot (s.cache.getOrFind slot found).1 ∧
      (s.after more).cache = (s.cache.getOrFind slot found).2

/-- However calls interleave: the first key that gets into a slot is the key of all calls for the
slot, until the cache is cleared, and calls that find no key make no difference to others. -/
theorem first_key_wins (allowed : (idle c).Allowed moves) :
    FirstWins c moves ((idle c).after moves) := by
  constructor
  case kept =>
    rintro past more later slot key - kept cached
    rw [after_append]
    exact get?_after kept cached
  case served => exact fun i slot key => served_after allowed
  case agree =>
    intro kept i j slot key other first second
    -- all moves are those since the start
    have whole : (idle c).Allowed ([] ++ moves) := allowed
    apply eq_of_given whole kept
    · exact given_of_answered allowed first
    · exact given_of_answered allowed second
  case agreeSince =>
    rintro past later rfl kept slot key other first second
    exact eq_of_given allowed kept first second
  case barren => exact fun i slot found => beside_of_finish allowed
  case own =>
    intro i slot found answered keyless
    have course := course_after allowed i
    rw [answered] at course
    exact (mem_ofCall.1 (course.finish_mem keyless)).1
  case hit =>
    rintro past later i slot key rfl cached
    exact answered_of_look allowed cached
  case finds => exact fun i absent slot found => ⟨_, alone_eq_getOrFind absent slot found⟩

/-- Two calls find different keys for one slot, and the second is faster. One call is too late to
look for a key, one fails, and one comes after a clearing. -/
def raced : List (Move String) :=
  let slow : Key := ⟨"k", [0]⟩
  let fast : Key := ⟨"k", [1]⟩
  let late : Key := ⟨"k", [2]⟩
  [.call 0 "k", .call 1 "k", .look 0 "k", .look 1 "k", .start 0 "k", .start 1 "k",
    .finish 0 "k" (.ok (some slow)), .finish 1 "k" (.ok (some fast)), .insert 1 "k" fast,
    .call 2 "k", .look 2 "k", .insert 0 "k" slow, .call 3 "n", .look 3 "n", .start 3 "n",
    .finish 3 "n" (.error "bad material"), .read "k" (some fast), .clear, .call 4 "k", .look 4 "k",
    .start 4 "k", .finish 4 "k" (.ok (some late)), .insert 4 "k" late]

theorem allowed_raced : (idle empty).Allowed raced := by
  simp [raced, Allowed, Move.Enabled, Move.next, idle, turn, Call.ofLook, Call.ofFound, get?,
    insertIfNew, empty]

/-- The faster key is everyone's answer until the clearing, and the failure that of its call
alone. -/
theorem first_key_wins_raced :
    (idle empty).Allowed raced ∧ FirstWins empty raced ((idle empty).after raced) ∧
      ((idle empty).after raced).call 0 = .answered "k" (.ok (some ⟨"k", [1]⟩)) ∧
      ((idle empty).after raced).call 1 = .answered "k" (.ok (some ⟨"k", [1]⟩)) ∧
      ((idle empty).after raced).call 2 = .answered "k" (.ok (some ⟨"k", [1]⟩)) ∧
      ((idle empty).after raced).call 3 = .answered "n" (.error "bad material") ∧
      ((idle empty).after raced).call 4 = .answered "k" (.ok (some ⟨"k", [2]⟩)) :=
  ⟨allowed_raced, first_key_wins allowed_raced, rfl, rfl, rfl, rfl, rfl⟩

end Shared

end Lockbox.KeyCache
