import DeviceRegistry.Proofs.Registrar.Evolution

/-! Runs of claims and revokes, as sequences of turns. A turn is told by the states of the registrar
at its beginning and at its end. -/
namespace DeviceRegistry

/-- The keys that a source makes are of a kind. -/
def KeySource.Makes (keys : KeySource) (kind : KeyPair → Prop) : Prop :=
  ∀ n pair, keys.pair n = .ok pair → kind pair

namespace Registrar

/-- What happens to the store in a turn. -/
def Turning (s t : Registrar Store) : Prop := Acts s.store t.store

/-- What happens in a turn if the keys are of a kind. They come from the same source before and
after. -/
structure TurningWith (kind : KeyPair → Prop) (s t : Registrar Store) : Prop where
  acts : ActsWith kind s.store t.store
  source : t.keys.pair = s.keys.pair

theorem TurningWith.of_same {kind : KeyPair → Prop} {s t : Registrar Store}
    (store : t.store = s.store) (source : t.keys.pair = s.keys.pair) : TurningWith kind s t := by
  refine ⟨?_, source⟩
  rw [store]
  exact .idle _

variable {kind : KeyPair → Prop}

theorem undoing_turns {α : Type} (token publicKey : String) (e : RegistrationError)
    (s : Registrar Store) :
    TurningWith kind s (undoing token publicKey e s : Progress _ (Outcome α)).state ∧
      (undoing token publicKey e s : Progress _ (Outcome α)).Turns (TurningWith kind) := by
  have acts := @ActsWith.removes kind token publicKey s.store
  rw [undoing]
  cases removed : removeDevice token publicKey s.store with
  | ok => exact ⟨⟨by rw [removed] at acts; exact acts, rfl⟩, trivial⟩
  | error => exact ⟨⟨by rw [removed] at acts; exact acts, rfl⟩, trivial⟩

theorem recording_turns (r : ClaimRequest) (d : Registered) (uid : String) (s : Registrar Store) :
    TurningWith kind s (recording r d uid s).state ∧
      (recording r d uid s).Turns (TurningWith kind) := by
  have acts := @ActsWith.records kind d.device.id uid s.store
  rw [recording]
  cases recorded : recordStream d.device.id uid s.store with
  | ok => exact ⟨⟨by rw [recorded] at acts; exact acts, rfl⟩, trivial⟩
  | error =>
    exact ⟨⟨by rw [recorded] at acts; exact acts, rfl⟩, fun t => undoing_turns _ _ _ t⟩

theorem answered_turns (r : ClaimRequest) (d : Registered) (answer : Except EncoderError String)
    (s : Registrar Store) :
    TurningWith kind s (answered r d answer s).state ∧
      (answered r d answer s).Turns (TurningWith kind) := by
  cases answer with
  | ok uid => exact ⟨.of_same rfl rfl, fun t => recording_turns r d uid t⟩
  | error e => exact ⟨.of_same rfl rfl, fun t => undoing_turns _ _ _ t⟩

theorem registering_turns {r : ClaimRequest} {location : Location} (valid : r.validate = .ok location)
    {userKeys deviceKeys : KeyPair} (user : kind userKeys) (device : kind deviceKeys)
    (s : Registrar Store) :
    TurningWith kind s (registering r location userKeys deviceKeys s).state ∧
      (registering r location userKeys deviceKeys s).Turns (TurningWith kind) := by
  have acts := ActsWith.registers valid user device s.store
  rw [registering]
  cases registered : register r location userKeys deviceKeys s.store with
  | ok d =>
    refine ⟨⟨by rw [registered] at acts; exact acts, rfl⟩, ?_⟩
    intro answer time t
    obtain ⟨⟨acts, source⟩, turns⟩ := @answered_turns kind r d answer
      { t with metrics := t.metrics.observe .createStream (.of answer) time }
    exact ⟨⟨acts, source⟩, turns⟩
  | error => exact ⟨⟨by rw [registered] at acts; exact acts, rfl⟩, trivial⟩

/-- A claim arrives without touching the store, and goes on in turns with keys of its source. -/
theorem claim_turns (r : ClaimRequest) {s : Registrar Store} (makes : s.keys.Makes kind) :
    (claim r s).state.store = s.store ∧ (claim r s).state.keys.pair = s.keys.pair ∧
      (claim r s).Turns (TurningWith kind) := by
  rw [claim_eq]
  cases valid : r.validate with
  | error => exact ⟨rfl, rfl, trivial⟩
  | ok location =>
    have same : (if s.verbose then { s with log := s.log ++ [.claiming r] } else s).store = s.store := by
      split <;> rfl
    have source : (if s.verbose then { s with log := s.log ++ [.claiming r] } else s).keys =
        s.keys := by
      split <;> rfl
    dsimp only
    generalize (if s.verbose then { s with log := s.log ++ [.claiming r] } else s) = s'
      at same source ⊢
    rw [← source] at makes ⊢
    cases users : s'.keys.pair s'.keys.used with
    | error => exact ⟨same, rfl, trivial⟩
    | ok userKeys =>
      dsimp only
      cases devices : s'.keys.pair (s'.keys.used + 1) with
      | error => exact ⟨same, rfl, trivial⟩
      | ok deviceKeys =>
        exact ⟨same, rfl, fun t =>
          registering_turns valid (makes _ _ users) (makes _ _ devices) t⟩

theorem deleteStreams_turns (token : String) (streams : List StreamRow) (s : Registrar Store) :
    (deleteStreams token streams s : Progress _ (Outcome Unit)).state = s ∧
      (deleteStreams token streams s : Progress _ (Outcome Unit)).Turns (TurningWith kind) := by
  induction streams generalizing s with
  | nil => exact ⟨rfl, trivial⟩
  | cons stream rest ih =>
    rw [deleteStreams, measured_bind]
    refine ⟨rfl, ?_⟩
    intro answer time t
    cases answer with
    | ok done =>
      obtain ⟨state, turns⟩ :=
        ih { t with metrics := t.metrics.observe .deleteStream (.of (.ok done)) time }
      have store := congrArg Registrar.store state
      have source := congrArg (·.keys.pair) state
      exact ⟨.of_same store source, turns⟩
    | error e => exact ⟨.of_same rfl rfl, trivial⟩

theorem map_eq {α β : Type} (x : Work Store α) (b : β) (s : Registrar Store) :
    (do let _ ← x; return b : Work Store β) s =
      (x s).map (Except.map fun _ => b) := by
  show (x s).bind _ = _
  congr 1
  funext outcome s
  cases outcome <;> rfl

theorem removing_turns (r : RevokeRequest) (s : Registrar Store) :
    TurningWith kind s (removing r s).state ∧ (removing r s).Turns (TurningWith kind) := by
  have acts := @ActsWith.removes kind r.deviceToken r.userPublicKey s.store
  rw [removing]
  cases removed : removeDevice r.deviceToken r.userPublicKey s.store with
  | error => exact ⟨⟨by rw [removed] at acts; exact acts, rfl⟩, trivial⟩
  | ok d store =>
    rw [removed] at acts
    obtain ⟨same, turns⟩ := @deleteStreams_turns kind r.deviceToken d.streams { s with store }
    dsimp only
    rw [map_eq]
    refine ⟨?_, Progress.turns_map _ _ turns⟩
    rw [Progress.state_map, same]
    exact ⟨acts, rfl⟩

theorem revoke_turns (r : RevokeRequest) (s : Registrar Store) :
    (revoke r s).state.store = s.store ∧ (revoke r s).state.keys.pair = s.keys.pair ∧
      (revoke r s).Turns (TurningWith kind) := by
  rw [revoke_eq]
  cases r.validate with
  | error => exact ⟨rfl, rfl, trivial⟩
  | ok =>
    refine ⟨?_, ?_, fun t => removing_turns r t⟩
    · show Registrar.store (ite _ _ _) = _
      split <;> rfl
    · show (Registrar.keys (ite _ _ _)).pair = _
      split <;> rfl

inductive Call where
  | claim (r : ClaimRequest)
  | revoke (r : RevokeRequest)

namespace Call

abbrev Response : Call → Type
  | claim _ => ClaimResponse
  | revoke _ => RevokeResponse

def work : (call : Call) → Registrar Store → Progress (Registrar Store) (Outcome call.Response)
  | claim r => Registrar.claim r
  | revoke r => Registrar.revoke r

theorem work_turns_with {kind : KeyPair → Prop} (call : Call) {s : Registrar Store}
    (makes : s.keys.Makes kind) :
    (call.work s).state.store = s.store ∧ (call.work s).state.keys.pair = s.keys.pair ∧
      (call.work s).Turns (TurningWith kind) := by
  cases call with
  | claim r => exact claim_turns r makes
  | revoke r => exact revoke_turns r s

theorem work_turns (call : Call) (s : Registrar Store) :
    (call.work s).state.store = s.store ∧ (call.work s).Turns Turning := by
  obtain ⟨same, -, turns⟩ := @work_turns_with (fun _ => True) call s fun _ _ _ => trivial
  exact ⟨same, Progress.turns_mono (fun _ _ turn => turn.acts.acts) _ turns⟩

theorem work_turning (call : Call) (s : Registrar Store) : Turning s (call.work s).state :=
  (Acts.idle _).same_after (call.work_turns s).1

end Call

/-- A turn, by the states at its beginning and at its end. -/
abbrev Turn := Registrar Store × Registrar Store

/-- Calls one after the other, each to its end. A call begins with the turn in which it arrives. -/
inductive Calls : Registrar Store → List Turn → Registrar Store → Prop where
  | nil (s : Registrar Store) : Calls s [] s
  | cons {s t u : Registrar Store} {turns rest : List Turn} {call : Call}
      {outcome : Outcome call.Response}
      (first : (call.work s).Reaches Progress.Alone turns (.finished outcome t))
      (others : Calls t rest u) : Calls s ((s, (call.work s).state) :: turns ++ rest) u

theorem Calls.one {s t : Registrar Store} {turns : List Turn} (call : Call)
    {outcome : Outcome call.Response}
    (run : (call.work s).Reaches Progress.Alone turns (.finished outcome t)) :
    Calls s ((s, (call.work s).state) :: turns) t := by
  have calls := Calls.cons run (.nil t)
  rwa [List.append_nil] at calls

theorem Calls.append {s t u : Registrar Store} {turns turns' : List Turn} (h : Calls s turns t)
    (h' : Calls t turns' u) : Calls s (turns ++ turns') u := by
  induction h with
  | nil => exact h'
  | cons first _ ih =>
    rw [List.append_assoc]
    exact .cons first (ih h')

theorem Calls.chain {s t : Registrar Store} {turns : List Turn} (h : Calls s turns t) :
    Chain Turning s turns t := by
  induction h with
  | nil => exact .nil _
  | @cons s t u turns rest call outcome first others ih =>
    refine .append (.cons (call.work_turning s) ?_) ih
    exact first.chain (fun _ _ _ => Progress.Alone.chain) (call.work_turns s).2

/-- How many ids of a sequence turns issue. -/
def issuesOf (sequence : String) : List Turn → Nat
  | [] => 0
  | turn :: rest =>
    turn.1.store.tables.issues turn.2.store.tables sequence + issuesOf sequence rest

theorem issuesOf_append (sequence : String) (turns turns' : List Turn) :
    issuesOf sequence (turns ++ turns') = issuesOf sequence turns + issuesOf sequence turns' := by
  induction turns with
  | nil => simp [issuesOf]
  | cons turn turns ih => rw [List.cons_append, issuesOf, issuesOf, ih, Nat.add_assoc]

/-- There is room for the ids of turns that go on only if there was room before. -/
theorem issuesOf_lt_before {turns turns' : List Turn} {n : Nat}
    (few : ∀ q, issuesOf q (turns ++ turns') < n) (q : String) : issuesOf q turns < n := by
  have whole := few q
  rw [issuesOf_append] at whole
  exact Nat.lt_of_le_of_lt (Nat.le_add_right ..) whole

theorem issuesOf_le_length (sequence : String) (turns : List Turn) :
    issuesOf sequence turns ≤ turns.length := by
  induction turns with
  | nil => exact Nat.le_refl 0
  | cons turn turns ih =>
    have := turn.1.store.tables.issues_le_one turn.2.store.tables sequence
    rw [issuesOf, List.length_cons]
    omega

theorem issuesOf_lt {turns : List Turn} {n : Nat} (length : turns.length = n)
    (small : n < UInt64.size) (sequence : String) : issuesOf sequence turns < UInt64.size :=
  Nat.lt_of_le_of_lt (length ▸ issuesOf_le_length sequence turns) small

/-- Turns of a kind that keeps a store good as long as there is room for the ids that it issues. If
there is room for all of them, the store was good before each turn, and it evolved. -/
theorem chain_keeps {turn : Registrar Store → Registrar Store → Prop} {good : Store → Prop}
    (settled : ∀ s, good s → s.Settled)
    (onward : ∀ {s t}, turn s t → good s.store → Onward s.store.tables t.store.tables)
    (keeps : ∀ {s t}, turn s t → good s.store → Spare s.store.tables t.store.tables →
      s.store.Evolves t.store ∧ good t.store)
    {count : String → Nat} {s t : Registrar Store} {turns : List Turn} (h : Chain turn s turns t)
    (start : good s.store) (within : Within count s.store.tables)
    (few : ∀ q, count q + issuesOf q turns < UInt64.size) :
    s.store.Evolves t.store ∧ good t.store ∧
      Within (fun q => count q + issuesOf q turns) t.store.tables ∧
      ∀ taken ∈ turns, turn taken.1 taken.2 ∧ good taken.1.store ∧
        taken.1.store.Evolves taken.2.store ∧ Spare taken.1.store.tables taken.2.store.tables := by
  -- The ids that were counted so far bound the sequences when the next turn begins.
  induction h generalizing count with
  | nil s => exact ⟨.refl (settled _ start), start, within, by simp⟩
  | @cons s t u turns first rest ih =>
    have split : ∀ q, issuesOf q ((s, t) :: turns) =
        s.store.tables.issues t.store.tables q + issuesOf q turns := fun _ => rfl
    simp only [split, ← Nat.add_assoc] at few ⊢
    have room : ∀ q, count q + s.store.tables.issues t.store.tables q < UInt64.size :=
      fun q => Nat.lt_of_le_of_lt (Nat.le_add_right ..) (few q)
    have spare := within.spare room
    obtain ⟨evolves, next⟩ := keeps first start spare
    obtain ⟨evolves', last, within', turns'⟩ := ih next (within.onward (onward first start)) few
    rw [List.forall_mem_cons]
    exact ⟨evolves.trans evolves', last, within', ⟨first, start, evolves, spare⟩, turns'⟩

/-- Turns that issue no more ids than there is room for let the store evolve. -/
theorem chain_evolves {count : String → Nat} {s t : Registrar Store} {turns : List Turn}
    (h : Chain Turning s turns t) (settled : s.store.Settled) (within : Within count s.store.tables)
    (few : ∀ q, count q + issuesOf q turns < UInt64.size) :
    s.store.Evolves t.store ∧ Within (fun q => count q + issuesOf q turns) t.store.tables ∧
      ∀ turn ∈ turns, turn.1.store.Evolves turn.2.store ∧
        Spare turn.1.store.tables turn.2.store.tables := by
  have keeps : ∀ {s t : Registrar Store}, Turning s t → s.store.Settled →
      Spare s.store.tables t.store.tables → s.store.Evolves t.store ∧ t.store.Settled := by
    intro s t acts settled spare
    have evolves := Acts.evolves acts settled spare
    exact ⟨evolves, evolves.after⟩
  obtain ⟨evolves, -, within', turns'⟩ :=
    chain_keeps (fun _ => id) Acts.onward keeps h settled within few
  exact ⟨evolves, within', fun turn taken => (turns' turn taken).2.2⟩

/-- So they do from the first opening on. -/
theorem fresh_evolves {s t : Registrar Store} {turns : List Turn} (fresh : s.store.Fresh)
    (h : Chain Turning s turns t) (few : ∀ q, issuesOf q turns < UInt64.size) :
    s.store.Evolves t.store ∧ ∀ turn ∈ turns, turn.1.store.Evolves turn.2.store ∧
      Spare turn.1.store.tables turn.2.store.tables := by
  obtain ⟨evolves, -, turns⟩ := chain_evolves h fresh.settled fresh.within (by simpa using few)
  exact ⟨evolves, turns⟩

theorem chain_legible {s t : Registrar Store} {turns : List Turn} (h : Chain Turning s turns t)
    (legible : s.store.Legible)
    (spare : ∀ turn ∈ turns, Spare turn.1.store.tables turn.2.store.tables) : t.store.Legible := by
  induction h with
  | nil => exact legible
  | cons first rest ih =>
    rw [List.forall_mem_cons] at spare
    exact ih (Acts.legible first legible spare.1) spare.2

/-- A call that comes after any turns, with others in between whose turns make a chain. -/
theorem call_evolves {others : Registrar Store → List Turn → Registrar Store → Prop}
    {start s : Registrar Store} {history turns : List Turn} {call : Call}
    {p : Progress (Registrar Store) (Outcome call.Response)} (fresh : start.store.Fresh)
    (before : Chain Turning start history s)
    (meanwhile : ∀ s between t, others s between t → Chain Turning s between t)
    (run : (call.work s).Reaches others turns p)
    (few : ∀ q, issuesOf q (history ++ turns) < UInt64.size) :
    s.store.Legible ∧ s.store.Evolves p.state.store ∧ ∀ turn ∈ turns,
      turn.1.store.Evolves turn.2.store ∧ Spare turn.1.store.tables turn.2.store.tables := by
  simp only [issuesOf_append] at few
  have fewBefore : ∀ q, 0 + issuesOf q history < UInt64.size := by
    intro q
    have := few q
    omega
  obtain ⟨evolved, within, spare⟩ := chain_evolves before fresh.settled fresh.within fewBefore
  obtain ⟨same, kind⟩ := call.work_turns s
  obtain ⟨evolves, -, own⟩ := chain_evolves (run.chain meanwhile kind) (same ▸ evolved.after)
    (same ▸ within) (by simpa using few)
  refine ⟨chain_legible before fresh.legible fun turn taken => (spare turn taken).2, ?_, own⟩
  exact same ▸ evolves

/-- A claim that comes after calls one after the other. -/
theorem claim_evolves {others : Registrar Store → List Turn → Registrar Store → Prop}
    {start s : Registrar Store} {history turns : List Turn} {r : ClaimRequest}
    {p : Progress (Registrar Store) (Outcome ClaimResponse)} (fresh : start.store.Fresh)
    (calls : Calls start history s)
    (meanwhile : ∀ s between t, others s between t → Chain Turning s between t)
    (run : (claim r s).Reaches others turns p)
    (few : ∀ q, issuesOf q (history ++ turns) < UInt64.size) :
    s.store.Settled ∧ s.store.Evolves p.state.store ∧ ∀ turn ∈ turns,
      turn.1.store.Evolves turn.2.store ∧ Spare turn.1.store.tables turn.2.store.tables := by
  obtain ⟨-, evolves, own⟩ := @call_evolves others start s history turns (.claim r) p fresh
    calls.chain meanwhile run few
  exact ⟨evolves.before, evolves, own⟩

end Registrar
end DeviceRegistry
