import DeviceRegistry.Proofs.Json.Written
import DeviceRegistry.Proofs.Store.Numbering
import DeviceRegistry.Proofs.Store.Placing

/-! Rows that are filed and read again. What was filed is what is read, and nothing is read otherwise
than before anywhere else; a device without finite coordinates is the only row that is lost. -/
namespace DeviceRegistry
open Json StoredRow

theorem UserRow.written (row : UserRow) : Written (toJson row) := by
  apply written_object
  simp only [List.forall_mem_cons]
  exact ⟨written_natural _, written_text _, written_text _, written_text _, List.forall_mem_nil _⟩

theorem DeviceRow.written {row : DeviceRow} (finite : row.IsFinite) : Written (toJson row) := by
  apply written_object
  simp only [List.forall_mem_cons]
  exact ⟨written_natural _, written_text _, written_natural _, written_text _, written_text _,
    written_real finite.1, written_real finite.2, written_text _, List.forall_mem_nil _⟩

theorem StreamRow.written (row : StreamRow) : Written (toJson row) := by
  apply written_object
  simp only [List.forall_mem_cons]
  exact ⟨written_natural _, written_text _, written_natural _, List.forall_mem_nil _⟩

namespace RecordKind

def Row : RecordKind → Type
  | user => UserRow
  | device => DeviceRow
  | stream => StreamRow

instance : (kind : RecordKind) → StoredRow kind.Row
  | user => inferInstanceAs (StoredRow UserRow)
  | device => inferInstanceAs (StoredRow DeviceRow)
  | stream => inferInstanceAs (StoredRow StreamRow)

/-- Every number in the row has a text. -/
def IsFinite : (kind : RecordKind) → kind.Row → Prop
  | user, _ => True
  | device, row => DeviceRow.IsFinite row
  | stream, _ => True

/-- The sealed private key of the row; a stream has none. -/
def sealedKey? : (kind : RecordKind) → kind.Row → Option Bytes
  | user, row => some (UserRow.privateKey row)
  | device, row => some (DeviceRow.privateKey row)
  | stream, _ => none

/-- The tables with these rows of a kind in place of those that they have. -/
def withRows (t : Tables) (rows : Table UInt64 Bytes) : RecordKind → Tables
  | user => { t with users := rows }
  | device => { t with devices := rows }
  | stream => { t with streams := rows }

variable {kind kind' : RecordKind}

theorem rows_withRows (kind : RecordKind) (t : Tables) (rows : Table UInt64 Bytes) :
    kind.rows (kind.withRows t rows) = rows := by
  cases kind <;> rfl

theorem rows_withRows_ne (other : kind' ≠ kind) (t : Tables) (rows : Table UInt64 Bytes) :
    kind'.rows (kind.withRows t rows) = kind'.rows t := by
  cases kind <;> cases kind' <;> first | rfl | exact absurd rfl other

theorem decode_encode {row : kind.Row} (finite : kind.IsFinite row) :
    decode (encode row) = .ok row := by
  cases kind with
  | user => exact UserRow.decode_encode row
  | device => exact DeviceRow.decode_encode finite
  | stream => exact StreamRow.decode_encode row

theorem decode_encode_infinite {row : kind.Row} (infinite : ¬ kind.IsFinite row) :
    ∃ e, (decode (encode row) : Except StoreError kind.Row) = .error e := by
  cases kind with
  | user => exact absurd trivial infinite
  | device => exact DeviceRow.decode_encode_infinite infinite
  | stream => exact absurd trivial infinite

theorem written {row : kind.Row} (finite : kind.IsFinite row) : Written (toJson row) := by
  cases kind with
  | user => exact UserRow.written row
  | device => exact DeviceRow.written finite
  | stream => exact StreamRow.written row

theorem sealed_column {row : kind.Row} {key : Bytes} (has : kind.sealedKey? row = some key) :
    (toJson row).member? "private_key" = some (sealedJson key) := by
  cases kind with
  | user =>
    cases has
    rfl
  | device =>
    cases has
    rfl
  | stream => cases has

end RecordKind

namespace Tables

variable {kind kind' : RecordKind} {id id' : UInt64}

/-- Files a row of a kind under an id, in place of one that is there. -/
def file (t : Tables) (kind : RecordKind) (id : UInt64) (row : kind.Row) : Tables :=
  kind.withRows t (withRow (kind.rows t) id row)

/-- The row of a kind that is filed under an id. -/
def filed? (t : Tables) (kind : RecordKind) (id : UInt64) : Except StoreError (Option kind.Row) :=
  row? (kind.rows t) id

theorem stores_file (t : Tables) (row : kind.Row) :
    Stores (kind.rows (t.file kind id row)) id row := by
  rw [file, RecordKind.rows_withRows]
  exact stores_withRow_self (kind.rows t) row

theorem filed?_file (t : Tables) (row : kind.Row) :
    (t.file kind id row).filed? kind id = (decode (encode row)).map some :=
  row?_of_stores (t.stores_file row)

theorem filed?_file_ne (t : Tables) (row : kind.Row) (elsewhere : kind' ≠ kind ∨ id' ≠ id) :
    (t.file kind id row).filed? kind' id' = t.filed? kind' id' := by
  by_cases same : kind' = kind
  · subst same
    have other : id' ≠ id := elsewhere.resolve_left (not_not_intro rfl)
    rw [filed?, filed?, file, RecordKind.rows_withRows, row?, row?, withRow,
      Table.get?_insert_ne _ _ other]
  · rw [filed?, filed?, file, RecordKind.rows_withRows_ne same]

/-- A row that is filed is read as it is, unless a coordinate of it is not finite, and no other row is
read otherwise than before. What is stored tells the columns of the row and nothing else. The sealed key
stands there in Base64, which tells its bytes. -/
theorem file_exactly (t : Tables) (kind : RecordKind) (id : UInt64) (row : kind.Row) :
    (kind.IsFinite row → (t.file kind id row).filed? kind id = .ok (some row)) ∧
    (¬ kind.IsFinite row → ∃ e, (t.file kind id row).filed? kind id = .error e) ∧
    (∀ kind' id', kind' ≠ kind ∨ id' ≠ id →
      (t.file kind id row).filed? kind' id' = t.filed? kind' id') ∧
    ∃ stored, (kind.rows (t.file kind id row)).get? id = some stored ∧
      (kind.IsFinite row → Carries stored (toJson row)) ∧
      ∀ key, kind.sealedKey? row = some key → ∃ text,
        (toJson row).member? "private_key" = some (.text text) ∧ Base64.Writes text key ∧
        Base64.decode? text = some key := by
  refine ⟨fun finite => ?_, fun infinite => ?_, fun kind' id' => t.filed?_file_ne row,
    encode row, t.stores_file row, fun finite => (RecordKind.written finite).carries,
    fun key has => ?_⟩
  · rw [filed?_file, RecordKind.decode_encode finite]
    rfl
  · obtain ⟨e, unread⟩ := RecordKind.decode_encode_infinite infinite
    exact ⟨e, by rw [filed?_file, unread]; rfl⟩
  · exact ⟨Base64.encode key, RecordKind.sealed_column has, Base64.writes_encode key,
      Base64.decode?_encode key⟩

/-- A device with the largest id and an owner that is no user, whose token needs escapes, and which stands
next to where neither sign nor digit may be lost. Its key leaves one byte over. -/
def unruly : DeviceRow where
  id := 18446744073709551615
  token := "\"\\ é😀\n\x00\x7b"
  userId := 0
  privateKey := [0x00, 0xff, 0x80, 0x01]
  publicKey := ""
  location := ⟨.ofCode true 0, .ofCode false 1⟩
  disposition := .outdoor

/-- It is filed under the id that Alice has among the users, and both are read as they were filed. -/
theorem file_exactly_unruly :
    let t := Transaction.household.file .device 1 unruly
    DeviceRow.IsFinite unruly ∧ t.filed? .device 1 = .ok (some unruly) ∧
      t.filed? .user 1 = .ok (some Transaction.alice) ∧
      (toJson unruly).member? "private_key" = some (.text "AP+AAQ==") ∧
      Base64.decode? "AP+AAQ==" = some unruly.privateKey := by
  intro t
  have finite : DeviceRow.IsFinite unruly := ⟨by decide +kernel, by decide +kernel⟩
  obtain ⟨read, -, apart, stored, -, -, column⟩ :=
    file_exactly Transaction.household .device 1 unruly
  obtain ⟨alice, -⟩ := file_exactly {} .user 1 Transaction.alice
  obtain ⟨text, written, -, decoded⟩ := column unruly.privateKey rfl
  have encoded : text = Base64.encode unruly.privateKey :=
    (Value.text.inj (Option.some.inj written)).symm
  have letters : Base64.encode unruly.privateKey = "AP+AAQ==" := by decide +kernel
  obtain rfl := encoded.trans letters
  exact ⟨finite, read finite, (apart .user 1 (.inl nofun)).trans (alice trivial), written, decoded⟩

end Tables
end DeviceRegistry
