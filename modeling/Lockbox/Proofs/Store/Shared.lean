import Lockbox.Proofs.Slot.Shared
import Lockbox.Proofs.Store.Stage
import Lockbox.Store.Purge
import Lockbox.Volume.Notification

/-!
# Stores in many hands

Any number of calls, invalidations and purges use one store while others change its files, in moves
that interleave in any order. Looking up a slot is one move, and each thing that is done to a slot
another; a load does one stage in a move. Whenever a file is replaced or removed, by the store or by
others, a change that names it is put into the channel, from which a loop takes one change after
another, looks up the slot that it is about and clears it. A purge removes a file, takes the slot of
its function out of the map and clears it.
-/

namespace Lockbox.Store

variable {σ : Type}

/-! ## States -/

/-- Who clears slots. -/
inductive Clearer where
  /-- The loop that takes changes from the channel. -/
  | loop
  | purge (i : Nat)
  /-- An invalidation that someone asks for. -/
  | invalidation (i : Nat)
  deriving DecidableEq

/-- What one who clears slots is about. -/
inductive Errand where
  | idle
  /-- A changed file is known, and its slot has to be looked up. -/
  | looking (p : Path)
  /-- The file of a function was removed, and its slot has to be taken out of the map. -/
  | forgetting (name : String)
  | clearing (c : Scope) (k : Nat)

/-- A slot for the keys of a scope. -/
abbrev ScopeSlot (c : Scope) := Slot.Shared (Load.Stage c.Records) Clearer c.Keys

/-- A store and all that use it. Slots are numbered within their scope; the one in the map is
current. -/
structure Shared (σ : Type) where
  path : Path
  vault : Vault
  world : World σ
  current : Scope → Option Nat
  slots : (c : Scope) → Nat → ScopeSlot c
  channel : List (Path × ChangeKind)
  errand : Clearer → Errand

namespace Shared

/-- A store with nothing loaded. The slot of the host is there from the beginning. -/
def opened (path : Path) (vault : Vault) (world : World σ) : Shared σ where
  path := path
  vault := vault
  world := world
  current c := if c = .host then some 0 else none
  slots _ _ := .fresh
  channel := []
  errand _ := .idle

def put (s : Shared σ) (c : Scope) (k : Nat) (slot : ScopeSlot c) : Shared σ :=
  { s with slots := Function.update s.slots c (Function.update (s.slots c) k slot) }

def use (s : Shared σ) (c : Scope) (k : Nat)
    (m : Slot.Move (Load.Stage c.Records) Clearer c.Keys) : Shared σ :=
  s.put c k (m.next (s.slots c k))

def turn (s : Shared σ) (q : Clearer) (errand : Errand) : Shared σ :=
  { s with errand := Function.update s.errand q errand }

def report (s : Shared σ) (event : Event) : Shared σ :=
  { s with world := { s.world with log := s.world.log ++ [event] } }

def notify (s : Shared σ) (p : Path) (kind : ChangeKind) : Shared σ :=
  { s with channel := s.channel ++ [(p, kind)] }

/-! ## Calls -/

/-- Whether a slot is the one of its scope in the map, or can become it. -/
def Offers (s : Shared σ) (c : Scope) (k : Nat) : Prop :=
  s.current c = some k ∨ s.current c = none ∧ s.slots c k = .fresh

def call (s : Shared σ) (c : Scope) (k i : Nat) : Shared σ :=
  { s.use c k (.call i) with current := Function.update s.current c (some k) }

/-- What a stage of a load does to its slot. -/
def outcome {α β : Type} (i : Nat) :
    Except Error (Load.Stage α ⊕ β) → Slot.Move (Load.Stage α) Clearer β
  | .ok (.inl next) => .work i next
  | .ok (.inr keys) => .finish i (.value keys)
  | .error e => .finish i (.fault e)

/-! ## Clearings -/

/-- Turn to the current slot of a scope, if there is one, in order to clear it. -/
def seek (s : Shared σ) (q : Clearer) (c : Scope) : Shared σ :=
  match s.current c with
  | none => s.turn q .idle
  | some k => (s.use c k (.wantClear q)).turn q (.clearing c k)

/-- Look up the slot that a changed file is about. -/
def find (s : Shared σ) (q : Clearer) (p : Path) : Shared σ :=
  match Scope.ofPath? p with
  | none => s.turn q .idle
  | some c => s.seek q c

/-- What is reported of a slot that was cleared. -/
def cleared (q : Clearer) : Scope → List Event
  | .host => [⟨.debug, .store, "host secrets cache invalidated", []⟩]
  | .function name =>
    match q with
    | .purge _ => []
    | _ => [⟨.debug, .store, "function secrets cache invalidated", [("function", .text name)]⟩]

def settle (s : Shared σ) (q : Clearer) (c : Scope) (k : Nat) : Shared σ :=
  (cleared q c).foldl report ((s.use c k (.leaveClear q)).turn q .idle)

/-- Take the first change from the channel. Files that hold no secrets mean nothing. -/
def take (s : Shared σ) : Shared σ :=
  match s.channel with
  | [] => s
  | (p, kind) :: rest =>
    let t := { s with channel := rest }
    if Scope.isSecretsFile p then
      (t.report ⟨.debug, .watcher, "secrets file changed",
        [("path", .text p.display), ("kind", .text kind.message)]⟩).turn .loop (.looking p)
    else t

def forget (s : Shared σ) (i : Nat) (name : String) : Shared σ :=
  let c := Scope.function name
  { s.seek (.purge i) c with current := Function.update s.current c none }

theorem foldl_report (events : List Event) (s : Shared σ) : events.foldl report s =
    { s with world := { s.world with log := s.world.log ++ events } } := by
  induction events generalizing s with
  | nil => simp
  | cons event rest ih => simp [ih, report]

theorem current_seek (s : Shared σ) (q : Clearer) (c : Scope) :
    (s.seek q c).current = s.current := by
  unfold Shared.seek
  split <;> rfl

theorem vault_seek (s : Shared σ) (q : Clearer) (c : Scope) : (s.seek q c).vault = s.vault := by
  unfold Shared.seek
  split <;> rfl

/-! ## Files -/

variable [Volume σ]

def work (s : Shared σ) (c : Scope) (k i : Nat) (stage : Load.Stage c.Records)
    (kind : ChangeKind) : Shared σ :=
  let p := c.file s.path
  match (stage.advance (c.form s.vault) p (c.resolve s.vault)).run.run s.world with
  | (answer, world) =>
    let t := { s.use c k (outcome i answer) with world := world }
    if stage.writes (c.form s.vault) p s.world.volume then t.notify p kind else t

def remove (s : Shared σ) (i : Nat) (p : Path) (name : String) (kind : ChangeKind) : Shared σ :=
  match Volume.remove p s.world.volume with
  | (done, volume) =>
    let t := { s with world := { s.world with volume := volume } }
    match done with
    | .ok () =>
      ((t.report ⟨.debug, .store, "deleted orphaned secret file",
        [("path", .text p.display)]⟩).notify p kind).turn (.purge i) (.forgetting name)
    | .error fault =>
      t.report ⟨.warn, .store, "failed to delete orphaned secret file",
        [("path", .text p.display), ("error", .text fault.message)]⟩

end Shared

/-! ## Moves -/

/-- What can happen to a store. -/
inductive Move (σ : Type) where
  | host (k i : Nat)
  /-- The keys of a function are asked for, which is named in any case. -/
  | function (name : String) (k i : Nat)
  /-- Something happens to a slot that concerns nothing else. -/
  | use (c : Scope) (k : Nat) (m : Slot.Move (Load.Stage c.Records) Clearer c.Keys)
  | work (c : Scope) (k i : Nat) (stage : Load.Stage c.Records) (kind : ChangeKind)
  | take
  | invalidate (i : Nat) (p : Path)
  | find (q : Clearer) (p : Path)
  | settle (q : Clearer) (c : Scope) (k : Nat)
  /-- A purge comes upon an entry of the secrets directory. -/
  | remove (i : Nat) (functions : List String) (entry : Entry) (name : String) (kind : ChangeKind)
  | forget (i : Nat) (name : String)
  /-- The file of a name in the secrets directory is made, replaced or removed by others. -/
  | change (n : FileName) (f : σ → σ) (kind : ChangeKind)
  /-- A change is told of though there may be none. -/
  | rumour (p : Path) (kind : ChangeKind)
  /-- Something is reported that is about no slot, such as how a purge went. -/
  | report (event : Event)

/-- Whether what happens to a slot concerns nothing else. -/
def IsInward {c : Scope} : Slot.Move (Load.Stage c.Records) Clearer c.Keys → Prop
  | .call _ => False
  | .start _ stage => stage = .reading
  | .work _ _ => False
  | .finish _ (.panic _) => True
  | .finish _ _ => False
  | .wantClear _ => False
  | .leaveClear _ => False
  | _ => True

namespace Move

variable [Volume σ] {dir : Path}

def Enabled (atomic : Atomic σ dir) (s : Shared σ) : Move σ → Prop
  | .host k i => s.Offers .host k ∧ (s.slots .host k).caller i = .absent
  | .function name k i => ∃ n, Scope.ofFunction name = .ok n ∧ s.Offers (.function n) k ∧
    (s.slots (.function n) k).caller i = .absent
  | .use c k m => IsInward m ∧ m.Enabled (s.slots c k)
  | .work c k i stage _ => (s.slots c k).task i = .loading stage
  | .take => s.errand .loop = .idle
  | .invalidate i _ => s.errand (.invalidation i) = .idle
  | .find q p => s.errand q = .looking p
  | .settle q c k => s.errand q = .clearing c k ∧ (s.slots c k).clearing q = .cleared
  | .remove i functions entry name _ => s.errand (.purge i) = .idle ∧ entry.name.IsProper ∧
    ownerName? s.path entry = some name ∧ name ∉ functions
  | .forget i name => s.errand (.purge i) = .forgetting name
  | .change n f _ => n.IsProper ∧ ∀ v, atomic.Fit v → atomic.Spares n v (f v)
  | .rumour _ _ => True
  | .report _ => True

def next (s : Shared σ) : Move σ → Shared σ
  | .host k i => s.call .host k i
  | .function name k i =>
    match Scope.ofFunction name with
    | .error _ => s
    | .ok n => s.call (.function n) k i
  | .use c k m => s.use c k m
  | .work c k i stage kind => s.work c k i stage kind
  | .take => s.take
  | .invalidate i p => s.turn (.invalidation i) (.looking p)
  | .find q p => s.find q p
  | .settle q c k => s.settle q c k
  | .remove i _ entry name kind => s.remove i (s.path.join entry.name) name kind
  | .forget i name => s.forget i name
  | .change n f kind =>
    { s with world := { s.world with volume := f s.world.volume } }.notify (s.path.join n) kind
  | .rumour p kind => s.notify p kind
  | .report event => s.report event

end Move

namespace Shared

variable [Volume σ] {dir : Path}

def after (s : Shared σ) (moves : List (Move σ)) : Shared σ := moves.foldl Move.next s

def Allowed (atomic : Atomic σ dir) (s : Shared σ) : List (Move σ) → Prop
  | [] => True
  | m :: rest => m.Enabled atomic s ∧ (m.next s).Allowed atomic rest

theorem after_append (s : Shared σ) (moves more : List (Move σ)) :
    s.after (moves ++ more) = (s.after moves).after more := List.foldl_append

theorem allowed_append {atomic : Atomic σ dir} {s : Shared σ} {moves more : List (Move σ)} :
    s.Allowed atomic (moves ++ more) ↔
      s.Allowed atomic moves ∧ (s.after moves).Allowed atomic more := by
  induction moves generalizing s with
  | nil => simp [Allowed, after]
  | cons m rest ih => simp [Allowed, after, ih, and_assoc]

/-! ## What no move changes -/

theorem vault_next (s : Shared σ) (m : Move σ) : (m.next s).vault = s.vault := by
  cases m with
  | function name k i =>
    unfold Move.next
    dsimp only
    split <;> rfl
  | work c k i stage kind =>
    show (s.work c k i stage kind).vault = s.vault
    unfold Shared.work
    dsimp only
    split
    split <;> rfl
  | take =>
    show s.take.vault = s.vault
    unfold Shared.take
    split
    · rfl
    · dsimp only
      split <;> rfl
  | find q p =>
    show (s.find q p).vault = s.vault
    unfold Shared.find
    split
    · rfl
    · exact vault_seek s q _
  | settle q c k =>
    show (s.settle q c k).vault = s.vault
    rw [Shared.settle, foldl_report]
    rfl
  | remove i functions entry name kind =>
    show (s.remove i (s.path.join entry.name) name kind).vault = s.vault
    unfold Shared.remove
    dsimp only
    split <;> rfl
  | forget i name => exact vault_seek s _ _
  | _ => rfl

theorem vault_after (s : Shared σ) (moves : List (Move σ)) : (s.after moves).vault = s.vault := by
  induction moves generalizing s with
  | nil => rfl
  | cons m rest ih => exact (ih (m.next s)).trans (vault_next s m)

end Shared

end Lockbox.Store
