import DeviceRegistry.Proofs.Message.RoundTrip
import DeviceRegistry.Proofs.Text.Base64
import DeviceRegistry.Store.Row

/-! A row is read back as it was stored. The one exception is a device without finite coordinates:
its row is stored, but cannot be read. What its row says otherwise is still determined. -/
namespace DeviceRegistry
open Json

namespace StoredRow

theorem reads_sealed (b : Bytes) : Reads sealedReader (sealedJson b).write b := by
  intro rest _
  rw [sealedReader, sealedJson, Value.write, bind_ok (Reader.text_write _ rest),
    Base64.decode?_encode]
  rfl

variable {ρ : Type} [StoredRow ρ]

/-- A row is written with these members. -/
def WrittenWith (row : ρ) (entries : List (Shape.Entry ρ)) : Prop :=
  toJson row = .object (entries.map fun e => (e.name, e.value))

theorem decode_of_readable {row : ρ} {entries : List (Shape.Entry ρ)}
    (written : WrittenWith row entries) (readable : ∀ e ∈ entries, e.Readable (shape (ρ := ρ)))
    (distinct : (entries.map Shape.Entry.name).Nodup)
    (complete : (shape (ρ := ρ)).missing? (entries.map Shape.Entry.name).reverse = none)
    (value : Shape.Entry.changeAll entries (shape (ρ := ρ)).initial = row) :
    decode (encode row) = .ok row := by
  have reads := (Shape.reads_object readable distinct complete).readPlacing
  rw [decode, encode, written, reads, value]

theorem decode_of_refused {row : ρ} (good : List (Shape.Entry ρ)) {later : List (Shape.Entry ρ)}
    {e : Shape.Entry ρ}
    (written : WrittenWith row (good ++ e :: later))
    (readable : ∀ e ∈ good, e.Readable (shape (ρ := ρ)))
    (distinct : ((good ++ [e]).map Shape.Entry.name).Nodup)
    (known : (shape (ρ := ρ)).member? e.name = some e.member)
    (refused : Refuses e.member.read e.value.write) :
    ∃ error, (decode (encode row) : Except StoreError ρ) = .error error := by
  obtain ⟨f, failed⟩ := Shape.readPlacing_refused later readable distinct known refused
  exact ⟨_, by rw [decode, encode, written, failed]⟩

end StoredRow

open Shape.Entry StoredRow

def UserRow.entries (row : UserRow) : List (Shape.Entry UserRow) := [
  required "id" Reader.natural (fun n => ({ · with id := n })) (.natural row.id) row.id,
  required "uid" Reader.text (fun s => ({ · with uid := s })) (.text row.uid) row.uid,
  required "private_key" sealedReader (fun b => ({ · with privateKey := b }))
    (sealedJson row.privateKey) row.privateKey,
  required "public_key" Reader.text (fun s => ({ · with publicKey := s })) (.text row.publicKey)
    row.publicKey]

def StreamRow.entries (row : StreamRow) : List (Shape.Entry StreamRow) := [
  required "id" Reader.natural (fun n => ({ · with id := n })) (.natural row.id) row.id,
  required "uid" Reader.text (fun s => ({ · with uid := s })) (.text row.uid) row.uid,
  required "device_id" Reader.natural (fun n => ({ · with deviceId := n }))
    (.natural row.deviceId) row.deviceId]

theorem UserRow.writtenWith (row : UserRow) : WrittenWith row row.entries := rfl

theorem StreamRow.writtenWith (row : StreamRow) : WrittenWith row row.entries := rfl

theorem UserRow.decode_encode (row : UserRow) : decode (encode row) = .ok row := by
  have readable : ∀ e ∈ row.entries, e.Readable (shape (ρ := UserRow)) := by
    simp only [entries, List.forall_mem_cons]
    exact ⟨readable_required rfl (reads_natural _), readable_required rfl (reads_text _),
      readable_required rfl (reads_sealed _), readable_required rfl (reads_text _), by simp⟩
  exact decode_of_readable row.writtenWith readable (by simp [entries, name, required]) (by rfl) rfl

theorem StreamRow.decode_encode (row : StreamRow) : decode (encode row) = .ok row := by
  have readable : ∀ e ∈ row.entries, e.Readable (shape (ρ := StreamRow)) := by
    simp only [entries, List.forall_mem_cons]
    exact ⟨readable_required rfl (reads_natural _), readable_required rfl (reads_text _),
      readable_required rfl (reads_natural _), by simp⟩
  exact decode_of_readable row.writtenWith readable (by simp [entries, name, required]) (by rfl) rfl

namespace DeviceRow

/-- What a device's row is written with, up to the coordinates. -/
def entriesBefore (row : DeviceRow) : List (Shape.Entry DeviceRow) := [
  required "id" Reader.natural (fun n => ({ · with id := n })) (.natural row.id) row.id,
  required "token" Reader.text (fun s => ({ · with token := s })) (.text row.token) row.token,
  required "user_id" Reader.natural (fun n => ({ · with userId := n })) (.natural row.userId)
    row.userId,
  required "private_key" sealedReader (fun b => ({ · with privateKey := b }))
    (sealedJson row.privateKey) row.privateKey,
  required "public_key" Reader.text (fun s => ({ · with publicKey := s })) (.text row.publicKey)
    row.publicKey]

def longitudeEntry (row : DeviceRow) : Shape.Entry DeviceRow :=
  required "longitude" Reader.real (fun x r => { r with location.longitude := x })
    (.real row.location.longitude) row.location.longitude

def latitudeEntry (row : DeviceRow) : Shape.Entry DeviceRow :=
  required "latitude" Reader.real (fun x r => { r with location.latitude := x })
    (.real row.location.latitude) row.location.latitude

def dispositionEntry (row : DeviceRow) : Shape.Entry DeviceRow :=
  required "disposition" Disposition.read (fun d => ({ · with disposition := d }))
    row.disposition.toJson row.disposition

def entries (row : DeviceRow) : List (Shape.Entry DeviceRow) :=
  row.entriesBefore ++ [row.longitudeEntry, row.latitudeEntry, row.dispositionEntry]

def IsFinite (row : DeviceRow) : Prop :=
  row.location.longitude.isFinite = true ∧ row.location.latitude.isFinite = true

theorem writtenWith (row : DeviceRow) : WrittenWith row row.entries := rfl

theorem readable_before (row : DeviceRow) :
    ∀ e ∈ row.entriesBefore, e.Readable (shape (ρ := DeviceRow)) := by
  simp only [entriesBefore, List.forall_mem_cons]
  exact ⟨readable_required rfl (reads_natural _), readable_required rfl (reads_text _),
    readable_required rfl (reads_natural _), readable_required rfl (reads_sealed _),
    readable_required rfl (reads_text _), by simp⟩

theorem longitude_known (row : DeviceRow) :
    (shape (ρ := DeviceRow)).member? row.longitudeEntry.name = some row.longitudeEntry.member := rfl

theorem latitude_known (row : DeviceRow) :
    (shape (ρ := DeviceRow)).member? row.latitudeEntry.name = some row.latitudeEntry.member := rfl

theorem readable_longitude {row : DeviceRow} (h : row.location.longitude.isFinite = true) :
    row.longitudeEntry.Readable (shape (ρ := DeviceRow)) :=
  readable_required row.longitude_known (reads_real h)

theorem readable_disposition (row : DeviceRow) :
    row.dispositionEntry.Readable (shape (ρ := DeviceRow)) :=
  readable_required rfl (Disposition.reads _)

theorem names_entries (row : DeviceRow) :
    row.entries.map Shape.Entry.name = (shape (ρ := DeviceRow)).members.map (·.name) := rfl

theorem changeAll_entries (row a : DeviceRow) : changeAll row.entries a = row := by
  simp only [entries, entriesBefore, longitudeEntry, latitudeEntry, dispositionEntry, required,
    changeAll, List.cons_append, List.nil_append, List.foldl_cons, List.foldl_nil]

theorem decode_encode {row : DeviceRow} (finite : row.IsFinite) : decode (encode row) = .ok row := by
  have readable : ∀ e ∈ row.entries, e.Readable (shape (ρ := DeviceRow)) := by
    simp only [entries, List.forall_mem_append, List.forall_mem_cons]
    exact ⟨row.readable_before, readable_longitude finite.1,
      readable_required row.latitude_known (reads_real finite.2), row.readable_disposition, by simp⟩
  refine decode_of_readable row.writtenWith readable ?_ ?_ (row.changeAll_entries _)
  · rw [names_entries]
    decide
  · rw [names_entries]
    decide

theorem decode_encode_infinite {row : DeviceRow} (infinite : ¬ row.IsFinite) :
    ∃ e, (decode (encode row) : Except StoreError DeviceRow) = .error e := by
  cases longitude : row.location.longitude.isFinite with
  | false =>
    have refused : Refuses row.longitudeEntry.member.read row.longitudeEntry.value.write :=
      refuses_required (refuses_real longitude)
    exact decode_of_refused row.entriesBefore row.writtenWith row.readable_before
      (by simp [entriesBefore, longitudeEntry, name, required]) row.longitude_known refused
  | true =>
    have latitude : row.location.latitude.isFinite = false := by
      simpa [IsFinite, longitude] using infinite
    have refused : Refuses row.latitudeEntry.member.read row.latitudeEntry.value.write :=
      refuses_required (refuses_real latitude)
    have written := row.writtenWith
    rw [entries, List.append_cons] at written
    refine decode_of_refused _ written ?_
      (by simp [entriesBefore, longitudeEntry, latitudeEntry, name, required])
      row.latitude_known refused
    simp only [List.forall_mem_append, List.forall_mem_cons]
    exact ⟨row.readable_before, readable_longitude longitude, by simp⟩

/-- Passes over a coordinate. -/
def passedOver : Reader (DeviceRow → DeviceRow) := do
  let _ ← Reader.found
  return fun row => row

/-- How a device's row is read if its coordinates are passed over. -/
def placeless : Shape DeviceRow where
  title := ""
  initial := default
  members := (shape (ρ := DeviceRow)).members.map fun m =>
    if m.name = "longitude" ∨ m.name = "latitude" then { m with read := passedOver } else m

def placelessEntries (row : DeviceRow) : List (Shape.Entry DeviceRow) :=
  row.entriesBefore ++ [⟨⟨"longitude", true, passedOver⟩, .real row.location.longitude, fun row => row⟩,
    ⟨⟨"latitude", true, passedOver⟩, .real row.location.latitude, fun row => row⟩, row.dispositionEntry]

theorem placeless_encode (row : DeviceRow) :
    readPlacing placeless.read (encode row) = .ok { row with location := default } := by
  have passes (x : Binary64) : Reads passedOver (Value.real x).write fun row => row := by
    obtain ⟨f, found⟩ := found_real x
    exact found.map fun _ row => row
  have readable : ∀ e ∈ row.placelessEntries, e.Readable placeless := by
    simp only [placelessEntries, entriesBefore, List.cons_append, List.nil_append,
      List.forall_mem_cons]
    exact ⟨readable_required rfl (reads_natural _), readable_required rfl (reads_text _),
      readable_required rfl (reads_natural _), readable_required rfl (reads_sealed _),
      readable_required rfl (reads_text _), ⟨rfl, passes _⟩, ⟨rfl, passes _⟩,
      readable_required rfl (Disposition.reads _), by simp⟩
  have names : row.placelessEntries.map Shape.Entry.name = placeless.members.map (·.name) := rfl
  have value : changeAll row.placelessEntries placeless.initial = { row with location := default } := by
    simp only [placelessEntries, entriesBefore, dispositionEntry, required, changeAll,
      List.cons_append, List.nil_append, List.foldl_cons, List.foldl_nil]
    rfl
  have written : toJson row = .object (row.placelessEntries.map fun e => (e.name, e.value)) := rfl
  have reads := Shape.reads_object readable (by rw [names]; decide) (by rw [names]; decide)
  rw [encode, written, reads.readPlacing, value]

/-- Rows that are stored alike agree in everything but their coordinates. -/
theorem eq_of_encode {row row' : DeviceRow} (h : encode row = encode row') :
    { row with location := default } = { row' with location := default } := by
  have := row.placeless_encode
  rw [h, placeless_encode] at this
  exact (Except.ok.inj this).symm

/-- A row that can be read is the only one of its stored form. -/
theorem eq_of_encode_finite {row row' : DeviceRow} (finite : row.IsFinite)
    (h : encode row' = encode row) : row' = row := by
  have read := decode_encode finite
  rw [← h] at read
  by_cases finite' : row'.IsFinite
  · rw [decode_encode finite'] at read
    exact Except.ok.inj read
  · obtain ⟨e, unread⟩ := decode_encode_infinite finite'
    rw [unread] at read
    contradiction

end DeviceRow

theorem UserRow.encode_injective {row row' : UserRow} (h : encode row = encode row') :
    row = row' := by
  have := row.decode_encode
  rw [h, decode_encode] at this
  exact (Except.ok.inj this).symm

theorem StreamRow.encode_injective {row row' : StreamRow} (h : encode row = encode row') :
    row = row' := by
  have := row.decode_encode
  rw [h, decode_encode] at this
  exact (Except.ok.inj this).symm

end DeviceRegistry
