import DeviceRegistry.Proofs.Registrar.Interleaving
import DeviceRegistry.Proofs.Store.Removal
import DeviceRegistry.Proofs.Store.Reopening

/-! The life of a store: claims and revokes, any number of them at once, and openings under its
password in between. An opening changes nothing that a call works with, and no call ever gives
another id to a user who stays. -/
namespace DeviceRegistry

/-- A user with the uid is stored under the id. -/
def Tables.HasUser (t : Tables) (uid : String) (id : UInt64) : Prop :=
  ∃ row : UserRow, Stores t.users id row ∧ row.uid = uid

namespace Tables.Holds

variable {t : Tables} {c : Contents} {uid : String} {id id' : UInt64}

theorem hasUser_iff (h : t.Holds c) :
    t.HasUser uid id ↔ ∃ row, c.users.get? id = some row ∧ row.uid = uid := by
  simp only [HasUser, h.stores_user]

theorem hasUser_unique (h : t.Holds c) (there : t.HasUser uid id) (there' : t.HasUser uid id') :
    id' = id := by
  obtain ⟨row, found, mine⟩ := h.hasUser_iff.1 there
  obtain ⟨row', found', mine'⟩ := h.hasUser_iff.1 there'
  exact h.users.id_eq found' found (mine'.trans mine.symm)

end Tables.Holds

namespace Store

/-- What openings depend on: the metadata, and the cipher that they gave. -/
def lock (s : Store) : Table String Bytes × ColumnCipher := (s.tables.metadata, s.cipher)

/-- A store that has been opened under the password. -/
def Unlocked (password : String) (s : Store) : Prop :=
  ∃ salt check plain, Locked s.tables.metadata salt check ∧ s.cipher = cipherOf password salt ∧
    s.cipher.decrypt checkKey check = .ok plain

variable {password : String} {s t : Store} {e e' : Entropy}

theorem Unlocked.of_lock (h : s.Unlocked password) (same : t.lock = s.lock) : t.Unlocked password := by
  obtain ⟨metadata, cipher⟩ := Prod.mk.inj same
  rw [Unlocked, metadata, cipher]
  exact h

/-- Opened again, it is as it was, up to randomness. -/
theorem Unlocked.reopened (h : s.Unlocked password)
    (opened : Store.opened password s.tables e = .ok t e') :
    t.tables = s.tables ∧ t.cipher = s.cipher := by
  obtain ⟨salt, check, -, locked, cipher, -⟩ := h
  rw [opened_locked_ok locked opened, cipher]
  exact ⟨rfl, rfl⟩

/-- It can be opened again, without a draw. -/
theorem Unlocked.opens (h : s.Unlocked password) :
    Store.opened password s.tables s.entropy = .ok s s.entropy := by
  obtain ⟨salt, check, plain, locked, cipher, opens⟩ := h
  rw [opened_locked locked, ← cipher, opens]

end Store

namespace Registrar

namespace Acts

variable {s t : Store}

theorem lock (h : Acts s t) (settled : s.Settled) (spare : Spare s.tables t.tables) :
    t.lock = s.lock := by
  obtain ⟨c, held, -⟩ := settled
  obtain ⟨-, -, -, metadata, cipher⟩ := h.amends held spare
  exact Prod.ext metadata cipher

/-- A turn adds users or removes some, so that it gives nobody another id. -/
theorem user_stays (h : Acts s t) (settled : s.Settled) (spare : Spare s.tables t.tables)
    {uid : String} {id id' : UInt64} (there : s.tables.HasUser uid id)
    (there' : t.tables.HasUser uid id') : id' = id := by
  obtain ⟨c, held, -⟩ := settled
  obtain ⟨c', held', amended, -⟩ := h.amends held spare
  obtain ⟨row, found, mine⟩ := held.hasUser_iff.1 there
  obtain ⟨row', found', mine'⟩ := held'.hasUser_iff.1 there'
  have same := mine'.trans mine.symm
  cases amended with
  | same => exact held.users.id_eq found' found same
  | enrolled enrolled =>
    exact held'.users.id_eq found' (enrolled.keeps_user held.valid found) same
  | attached attached =>
    rw [attached.made] at found'
    exact held.users.id_eq found' found same
  | removed _ removed => exact held.users.id_eq (removed.old_user found') found same

end Acts

namespace Service

/-- Turns of any calls in any order and, between them, openings of the store under the password. Of
the registrar that goes on with an opened store nothing else is known; calls that were under way
may be given up, or go on. -/
inductive Life (password : String) (start : Registrar Store) : List Turn → Service → Prop where
  | start : Life password start [] ⟨start, []⟩
  | step {turns : List Turn} {turn : Turn} {service service' : Service}
      (life : Life password start turns service) (next : Step service turn service') :
      Life password start (turns ++ [turn]) service'
  | reopened {turns : List Turn} {threads : List Thread} {now next : Registrar Store}
      {e e' : Entropy} (life : Life password start turns ⟨now, threads⟩)
      (opened : Store.opened password now.store.tables e = .ok next.store e') :
      Life password start (turns ++ [(now, next)]) ⟨next, threads⟩

end Service

/-- A turn of a call, or an opening under the password. -/
def Passes (password : String) (s t : Registrar Store) : Prop :=
  Turning s t ∨ ∃ e e', Store.opened password s.store.tables e = .ok t.store e'

/-- A store between transactions that has been opened under the password. -/
def Operative (password : String) (s : Store) : Prop := s.Settled ∧ s.Unlocked password

namespace Passes

variable {password : String} {s t : Registrar Store}

theorem onward (h : Passes password s t) (operative : Operative password s.store) :
    Onward s.store.tables t.store.tables := by
  rcases h with acts | ⟨e, e', opened⟩
  · exact Acts.onward acts operative.1
  · obtain ⟨tables, -⟩ := operative.2.reopened opened
    exact tables ▸ .refl _

theorem keeps (h : Passes password s t) (operative : Operative password s.store)
    (spare : Spare s.store.tables t.store.tables) :
    s.store.Evolves t.store ∧ Operative password t.store := by
  obtain ⟨settled, unlocked⟩ := operative
  rcases h with acts | ⟨e, e', opened⟩
  · have evolves := Acts.evolves acts settled spare
    exact ⟨evolves, evolves.after, unlocked.of_lock (Acts.lock acts settled spare)⟩
  · obtain ⟨tables, cipher⟩ := unlocked.reopened opened
    have same : t.store.lock = s.store.lock := by rw [Store.lock, tables, cipher, Store.lock]
    obtain ⟨c, held, settled⟩ := settled
    have evolves : s.store.Evolves t.store :=
      .of_contents held settled (tables ▸ held) settled (.refl c) cipher
    exact ⟨evolves, evolves.after, unlocked.of_lock same⟩

theorem user_stays (h : Passes password s t) (operative : Operative password s.store)
    (spare : Spare s.store.tables t.store.tables) {uid : String} {id id' : UInt64}
    (there : s.store.tables.HasUser uid id) (there' : t.store.tables.HasUser uid id') : id' = id := by
  rcases h with acts | ⟨e, e', opened⟩
  · exact Acts.user_stays acts operative.1 spare there there'
  · obtain ⟨tables, -⟩ := operative.2.reopened opened
    obtain ⟨c, held, -⟩ := operative.1
    exact held.hasUser_unique there (tables ▸ there')

end Passes

/-- A turn of an operative store, which evolves and issues an id only if there is room for it. -/
structure Steady (password : String) (turn : Turn) : Prop where
  operative : Operative password turn.1.store
  proper : Proper turn

theorem operative_of_opened {password : String} {s : Store} {e e' : Entropy}
    (created : Store.opened password {} e = .ok s e') : Operative password s :=
  ⟨Store.Fresh.settled ⟨password, e, e', created⟩, Store.locked_of_opened created⟩

/-- From the first opening on, each turn is steady. -/
theorem chain_steady {password : String} {start now : Registrar Store} {turns : List Turn}
    {e e' : Entropy} (created : Store.opened password {} e = .ok start.store e')
    (chain : Chain (Passes password) start turns now) (few : ∀ q, issuesOf q turns < UInt64.size) :
    start.store.Evolves now.store ∧ Operative password now.store ∧
      ∀ turn ∈ turns, Steady password turn := by
  have fresh : start.store.Fresh := ⟨password, e, e', created⟩
  obtain ⟨evolves, operative, -, each⟩ := chain_keeps (fun _ => And.left) Passes.onward Passes.keeps chain
    (operative_of_opened created) fresh.within (by simpa using few)
  refine ⟨evolves, operative, fun turn taken => ?_⟩
  obtain ⟨-, operative, proper⟩ := each turn taken
  exact ⟨operative, proper⟩

/-- The call arrived in the state `s` and took its turns among the given ones, in a store that
evolved meanwhile, up to now. -/
structure Thread.Attends (thread : Thread) (turns : List Turn) (s now : Registrar Store) : Prop where
  among : ((s, (thread.call.work s).state) :: thread.turns).Sublist turns
  run : (thread.call.work s).Reaches Meanwhile thread.turns thread.progress
  since : thread.progress.state.store.Evolves now.store

namespace Thread.Attends

variable {thread : Thread} {turns : List Turn} {turn : Turn} {s now t : Registrar Store}

theorem own (h : thread.Attends turns s now) : ∀ taken ∈ thread.turns, taken ∈ turns :=
  fun _ taken => h.among.subset (List.mem_cons_of_mem _ taken)

theorem follows (h : thread.Attends turns s now) (proper : ∀ turn ∈ turns, Proper turn) :
    thread.Follows now :=
  ⟨⟨s, h.run⟩, fun turn taken => proper turn (h.own turn taken), h.since⟩

theorem later (h : thread.Attends turns s now) (evolves : now.store.Evolves t.store) :
    thread.Attends (turns ++ [turn]) s t :=
  ⟨h.among.trans (List.sublist_append_left ..), h.run, h.since.trans evolves⟩

/-- The call takes a turn of its own. -/
theorem next {call : Call} {own : List Turn}
    {p q : Progress (Registrar Store) (Outcome call.Response)}
    (h : Thread.Attends ⟨call, own, p⟩ turns s now)
    (goes : Meanwhile p.state [] now → p.Reaches Meanwhile [(now, q.state)] q)
    (evolves : now.store.Evolves q.state.store) :
    Thread.Attends ⟨call, own ++ [(now, q.state)], q⟩ (turns ++ [(now, q.state)]) s q.state :=
  ⟨h.among.append (.refl _), h.run.trans (goes ⟨rfl, h.since⟩), .refl evolves.after⟩

end Thread.Attends

namespace Service

variable {password : String} {start : Registrar Store} {turns : List Turn} {turn : Turn}
  {service service' : Service}

theorem Step.attends (h : Step service turn service') (evolves : turn.1.store.Evolves turn.2.store)
    (attends : ∀ thread ∈ service.threads, ∃ s, thread.Attends turns s service.registrar) :
    ∀ thread ∈ service'.threads, ∃ s, thread.Attends (turns ++ [turn]) s service'.registrar := by
  have waits : ∀ thread next, (∃ s, Thread.Attends thread turns s service.registrar) →
      service.registrar.store.Evolves next.store →
      ∃ s, Thread.Attends thread (turns ++ [turn]) s next := by
    rintro thread next ⟨s, attends⟩ evolves
    exact ⟨s, attends.later evolves⟩
  cases h with
  | arrived service call =>
    rw [List.forall_mem_append, List.forall_mem_singleton]
    refine ⟨fun thread arrived => waits _ _ (attends thread arrived) evolves, _, ?_, .here _, ?_⟩
    · exact List.sublist_append_right ..
    · exact .refl evolves.after
  | resumed now =>
    refine forall_goesOn attends (fun thread attends => waits thread _ attends evolves) ?_
    rintro ⟨s, goes⟩
    exact ⟨s, goes.next (fun meanwhile => .resumed meanwhile (.here _)) evolves⟩
  | answered now answer time =>
    refine forall_goesOn attends (fun thread attends => waits thread _ attends evolves) ?_
    rintro ⟨s, goes⟩
    exact ⟨s, goes.next (fun meanwhile => .answered meanwhile (.here _)) evolves⟩

/-- The turns of a life follow each other, and so do those of each call among them. -/
theorem Life.attends {e e' : Entropy} (created : Store.opened password {} e = .ok start.store e')
    (life : Life password start turns service) (few : ∀ q, issuesOf q turns < UInt64.size) :
    Chain (Passes password) start turns service.registrar ∧
      ∀ thread ∈ service.threads, ∃ s, thread.Attends turns s service.registrar := by
  induction life with
  | start => exact ⟨.nil _, by simp⟩
  | @step turns turn service service' life next ih =>
    have fewBefore := issuesOf_lt_before few
    obtain ⟨chain, attends⟩ := ih fewBefore
    obtain ⟨-, -, steady⟩ := chain_steady created chain fewBefore
    obtain ⟨first, last, kind⟩ := next.kind fun thread arrived =>
      (attends thread arrived).elim fun _ h => h.follows fun turn taken => (steady turn taken).proper
    obtain ⟨s, t⟩ := turn
    obtain rfl : s = _ := first
    obtain rfl : t = _ := last
    have chain' := chain.append (.cons (.inl kind) (.nil _))
    obtain ⟨-, -, steady'⟩ := chain_steady created chain' few
    exact ⟨chain', next.attends (steady' _ (by simp)).proper.1 attends⟩
  | @reopened turns threads now next e₁ e₂ life opened ih =>
    obtain ⟨chain, attends⟩ := ih (issuesOf_lt_before few)
    have chain' := chain.append (.cons (.inr ⟨e₁, e₂, opened⟩) (.nil _))
    obtain ⟨-, -, steady'⟩ := chain_steady created chain' few
    refine ⟨chain', fun thread arrived => ?_⟩
    obtain ⟨s, attends⟩ := attends thread arrived
    exact ⟨s, attends.later (steady' (now, next) (by simp)).proper.1⟩

theorem Life.alone {past own : List Turn} {threads : List Thread} {call : Call}
    {p q : Progress (Registrar Store) (Outcome call.Response)}
    (life : Life password start past ⟨p.state, threads ++ [⟨call, own, p⟩]⟩)
    (h : p.Reaches Progress.Alone turns q) :
    Life password start (past ++ turns) ⟨q.state, threads ++ [⟨call, own ++ turns, q⟩]⟩ :=
  Step.alone (fun _ _ _ _ => .step) life h

end Service
end Registrar
end DeviceRegistry
