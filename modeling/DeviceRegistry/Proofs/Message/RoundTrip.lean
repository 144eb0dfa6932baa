import DeviceRegistry.Message.Claim
import DeviceRegistry.Message.Problem
import DeviceRegistry.Message.Revoke
import DeviceRegistry.Proofs.Json.Record
import DeviceRegistry.Proofs.Table

/-! Messages and problems are read back as they were written, whatever texts they carry. -/
namespace DeviceRegistry
open Json Json.Shape Json.Shape.Entry

namespace Json

theorem reads_variant {α : Type} {known : List (String × α)} {name : String} {a : α}
    (found : known.find? (·.1 == name) = some (name, a)) :
    Reads (Reader.variant known) (Value.text name).write a := by
  intro rest _
  simp only [Value.write, writeText, List.cons_append, List.append_assoc, List.nil_append]
  rw [Reader.variant, bind_ok (Reader.peekToken?_cons (by rfl) _)]
  dsimp only
  rw [if_pos rfl, bind_ok (Reader.drop_cons _ _), bind_ok (Reader.quotedRest_write name rest), found]
  rfl

/-- A text among texts, written like a member of a record. -/
def textEntry (m : String × String) : Entry (List (String × String)) :=
  .optional m.1 Reader.text (fun s ms => (m.1, s) :: ms) (.text m.2) m.2

theorem textMembers_write (ms : List (String × String)) (fuel : Nat) (first : Bool)
    (acc : List (String × String)) (rest : Bytes) :
    Reader.textMembers (fuel + 1 + ms.length) first acc
        (writeAll first (ms.map textEntry) ++ 0x7d :: rest) = .ok (acc.reverse ++ ms) rest := by
  induction ms generalizing first acc with
  | nil =>
    rw [List.map_nil, writeAll, List.nil_append, List.length_nil, Nat.add_zero, Reader.textMembers,
      bind_ok (Reader.nextName?_none first rest), List.append_nil]
    exact bind_ok (Reader.drop_cons _ _)
  | cons m ms ih =>
    have closes := writeAll_closes (ms.map textEntry) (closes_brace rest)
    have value := Reader.text_write m.2 (writeAll false (ms.map textEntry) ++ 0x7d :: rest)
    rw [List.map_cons, writeAll_cons, List.length_cons, ← Nat.add_assoc, Reader.textMembers,
      bind_ok (Reader.nextName?_write first _ _)]
    dsimp only
    rw [bind_ok (Reader.colon_cons _)]
    apply (bind_ok (Reader.inside_ok value)).trans
    rw [ih]
    simp [textEntry, Entry.name, Entry.optional]

theorem reads_textObject (ms : List (String × String)) :
    Reads Reader.textObject (Value.object (ms.map fun m => (m.1, .text m.2))).write ms := by
  intro rest _
  obtain ⟨n, fuel⟩ := exists_fuel (ms.map textEntry) (0x7d :: rest)
  have members := textMembers_write ms n true [] rest
  rw [List.length_map] at fuel
  rw [← fuel] at members
  have written := write_object (ms.map textEntry)
  rw [List.map_map] at written
  have same : (fun m : String × String => (m.1, Value.text m.2)) =
      (fun e : Entry _ => (e.name, e.value)) ∘ textEntry := rfl
  rw [same, written, List.cons_append, List.append_assoc, Reader.textObject,
    bind_ok (Reader.found_brace _)]
  exact (bind_ok (Reader.drop_cons _ _)).trans members

/-- A value that may be null is one that does not begin like null. -/
theorem reads_nullable {α : Type} {r : Reader α} {w rest : Bytes} {a : α} {c : UInt8}
    (first : w = c :: rest) (token : isBlank c = false) (other : c ≠ 0x6e) (h : Reads r w a) :
    Reads (Reader.nullable r) w (some a) := by
  intro input closes
  rw [first, List.cons_append, Reader.nullable, bind_ok (Reader.peekToken?_cons token _)]
  have absent : ¬ some c = some 0x6e := fun same => other (Option.some.inj same)
  rw [if_neg absent, ← List.cons_append, ← first, bind_ok (h input closes)]
  rfl

theorem reads_written {α : Type} {shape : Shape α} {v : Value} {a : α} {entries : List (Entry α)}
    (written : v = .object (entries.map fun e => (e.name, e.value)))
    (value : changeAll entries shape.initial = a) (readable : ∀ e ∈ entries, e.Readable shape)
    (distinct : (entries.map Entry.name).Nodup)
    (complete : shape.missing? (entries.map Entry.name).reverse = none) :
    Reads shape.read v.write a := by
  rw [written, ← value]
  exact reads_object readable distinct complete

end Json

theorem Disposition.reads (d : Disposition) : Reads Disposition.read d.toJson.write d := by
  intro rest _
  have found : Reader.found (d.toJson.write ++ rest) = .ok (.text d.wireName) rest :=
    Reader.found_text d.wireName rest
  rw [Disposition.read, bind_ok found]
  cases d <;> rfl

namespace Location

def IsFinite (l : Location) : Prop := l.longitude.isFinite = true ∧ l.latitude.isFinite = true

def entries (l : Location) : List (Entry Location) := [
  .optional "longitude" Reader.real (fun x l => { l with longitude := x }) (.real l.longitude)
    l.longitude,
  .optional "latitude" Reader.real (fun x l => { l with latitude := x }) (.real l.latitude) l.latitude]

theorem reads {l : Location} (finite : l.IsFinite) : Reads shape.read l.toJson.write l := by
  have readable : ∀ e ∈ l.entries, e.Readable shape := by
    simp only [entries, List.forall_mem_cons]
    exact ⟨readable_optional rfl (reads_real finite.1), readable_optional rfl (reads_real finite.2),
      nofun⟩
  have names : l.entries.map Entry.name = shape.members.map (·.name) := rfl
  exact reads_written rfl rfl readable (by rw [names]; decide) (by rw [names]; decide)

end Location

namespace ClaimRequest

/-- The coordinates, if there are any, are finite. -/
def IsFinite (r : ClaimRequest) : Prop := ∀ l ∈ r.location, l.IsFinite

def entriesBefore (r : ClaimRequest) : List (Entry ClaimRequest) := [
  .optional "device_token" Reader.text (fun s r => { r with deviceToken := s })
    (.text r.deviceToken) r.deviceToken,
  .optional "user_uid" Reader.text (fun s r => { r with userUid := s }) (.text r.userUid) r.userUid]

def locationEntry (l : Location) : Entry ClaimRequest :=
  .optional "location" (Reader.nullable Location.shape.read) (fun l r => { r with location := l })
    l.toJson (some l)

def entriesAfter (r : ClaimRequest) : List (Entry ClaimRequest) := [
  .optional "disposition" Disposition.read (fun d r => { r with disposition := d })
    r.disposition.toJson r.disposition,
  .optional "broker" Reader.text (fun s r => { r with broker := s }) (.text r.broker) r.broker]

def entries (r : ClaimRequest) : List (Entry ClaimRequest) :=
  r.entriesBefore ++ (r.location.map locationEntry).toList ++ r.entriesAfter

theorem readable_location {l : Location} (finite : l.IsFinite) :
    (locationEntry l).Readable shape := by
  have first : l.toJson.write = 0x7b :: l.toJson.write.tail := rfl
  exact readable_optional rfl (reads_nullable first (by decide) (by decide) (Location.reads finite))

theorem readable {r : ClaimRequest} (finite : r.IsFinite) : ∀ e ∈ r.entries, e.Readable shape := by
  have before : ∀ e ∈ r.entriesBefore, e.Readable shape := by
    simp only [entriesBefore, List.forall_mem_cons]
    exact ⟨readable_optional rfl (reads_text _), readable_optional rfl (reads_text _), nofun⟩
  have after : ∀ e ∈ r.entriesAfter, e.Readable shape := by
    simp only [entriesAfter, List.forall_mem_cons]
    exact ⟨readable_optional rfl r.disposition.reads, readable_optional rfl (reads_text _), nofun⟩
  have location : ∀ e ∈ (r.location.map locationEntry).toList, e.Readable shape := by
    intro e listed
    obtain ⟨l, there, rfl⟩ := Option.mem_map.1 (Option.mem_toList.1 listed)
    exact readable_location (finite l there)
  simp only [entries, List.forall_mem_append]
  exact ⟨⟨before, location⟩, after⟩

/-- A location is left out when there is none, which is what it is then read as. -/
theorem reads {r : ClaimRequest} (finite : r.IsFinite) : Reads shape.read r.toJson.write r := by
  have readable := readable finite
  obtain ⟨token, uid, location, disposition, broker⟩ := r
  have distinct : ["device_token", "user_uid", "location", "disposition", "broker"].Nodup := by decide
  have distinct' : ["device_token", "user_uid", "disposition", "broker"].Nodup := by decide
  cases location with
  | none => exact reads_written rfl rfl readable distinct' rfl
  | some l => exact reads_written rfl rfl readable distinct rfl

end ClaimRequest

namespace ClaimResponse

def entries (c : ClaimResponse) : List (Entry ClaimResponse) := [
  .required "user_private_key" Reader.text (fun s c => { c with userPrivateKey := s })
    (.text c.userPrivateKey) c.userPrivateKey,
  .required "user_public_key" Reader.text (fun s c => { c with userPublicKey := s })
    (.text c.userPublicKey) c.userPublicKey,
  .required "device_public_key" Reader.text (fun s c => { c with devicePublicKey := s })
    (.text c.devicePublicKey) c.devicePublicKey]

theorem reads (c : ClaimResponse) : Reads shape.read c.toJson.write c := by
  have readable : ∀ e ∈ c.entries, e.Readable shape := by
    simp only [entries, List.forall_mem_cons]
    exact ⟨readable_required rfl (reads_text _), readable_required rfl (reads_text _),
      readable_required rfl (reads_text _), nofun⟩
  have names : c.entries.map Entry.name = shape.members.map (·.name) := rfl
  exact reads_written rfl rfl readable (by rw [names]; decide) (by rw [names]; decide)

end ClaimResponse

theorem RevokeResponse.reads (c : RevokeResponse) : Reads shape.read c.toJson.write c :=
  @reads_object _ shape [] nofun .nil rfl

namespace RevokeRequest

def entries (r : RevokeRequest) : List (Entry RevokeRequest) := [
  .optional "device_token" Reader.text (fun s r => { r with deviceToken := s })
    (.text r.deviceToken) r.deviceToken,
  .optional "user_public_key" Reader.text (fun s r => { r with userPublicKey := s })
    (.text r.userPublicKey) r.userPublicKey]

theorem reads (r : RevokeRequest) : Reads shape.read r.toJson.write r := by
  have readable : ∀ e ∈ r.entries, e.Readable shape := by
    simp only [entries, List.forall_mem_cons]
    exact ⟨readable_optional rfl (reads_text _), readable_optional rfl (reads_text _), nofun⟩
  have names : r.entries.map Entry.name = shape.members.map (·.name) := rfl
  exact reads_written rfl rfl readable (by rw [names]; decide) (by rw [names]; decide)

end RevokeRequest

theorem ErrorCode.reads (code : ErrorCode) : Reads read (Value.text code.name).write code := by
  cases code <;> exact reads_variant rfl

namespace Problem

def requiredEntries (p : Problem) : List (Entry Problem) := [
  .required "code" ErrorCode.read (fun c p => { p with code := c }) (.text p.code.name) p.code,
  .required "msg" Reader.text (fun s p => { p with message := s }) (.text p.message) p.message]

def factsEntry (p : Problem) : Entry Problem :=
  .optional "meta" Reader.textObject (fun facts p => { p with facts := .ofList facts })
    (.object (p.facts.entries.map fun m => (m.1, .text m.2))) p.facts.entries

/-- Facts are left out when there are none, which is what they are then read as. -/
theorem reads (p : Problem) : Reads shape.read p.toJson.write p := by
  have readable : ∀ e ∈ p.requiredEntries, e.Readable shape := by
    simp only [requiredEntries, List.forall_mem_cons]
    exact ⟨readable_required rfl p.code.reads, readable_required rfl (reads_text _), nofun⟩
  have facts := p.facts.ofList_entries
  cases empty : p.facts.isEmpty with
  | true =>
    have names : p.requiredEntries.map Entry.name = ["code", "msg"] := rfl
    have none : p.facts = .empty := by
      rw [Table.isEmpty, List.isEmpty_iff] at empty
      rw [← facts, empty]
      rfl
    refine @reads_written _ _ _ _ p.requiredEntries ?_ ?_ readable (by rw [names]; decide) rfl
    · rw [toJson, empty]
      rfl
    · cases p
      cases none
      rfl
  | false =>
    have names : (p.requiredEntries ++ [p.factsEntry]).map Entry.name = ["code", "msg", "meta"] := rfl
    refine @reads_written _ _ _ _ (p.requiredEntries ++ [p.factsEntry]) ?_ ?_ ?_
      (by rw [names]; decide) rfl
    · rw [toJson, empty]
      rfl
    · show { p with facts := Table.ofList p.facts.entries } = p
      rw [facts]
    · rw [List.forall_mem_append, List.forall_mem_singleton]
      exact ⟨readable, readable_optional rfl (reads_textObject _)⟩

end Problem

end DeviceRegistry
