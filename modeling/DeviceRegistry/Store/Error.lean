import DeviceRegistry.Crypto.Column
import DeviceRegistry.Text.Quoted

/-! Why a store refuses an operation. -/
namespace DeviceRegistry

inductive StoreError where
  | io (reason : String)
  /-- The file is not that of a store. -/
  | database (reason : String)
  /-- A row cannot be read. -/
  | unreadable (reason : String)
  | cipher (error : CipherError)
  /-- A second row with that value in a unique column. -/
  | duplicate (column : String)
  /-- The row that a column refers to is missing, or is still referred to. -/
  | reference (column : String)
  | notFound (what : String)
  | wrongPassword
deriving DecidableEq, Inhabited

def StoreError.message : StoreError → String
  | io reason => "I/O error: " ++ reason
  | database reason => "redb database error: " ++ reason
  | unreadable reason => "serialization error: " ++ reason
  | cipher error => "key column error: " ++ error.message
  | duplicate column =>
    "duplicate key value violates unique constraint " ++ Text.quoted column
  | reference column => "foreign key constraint " ++ Text.quoted column ++ " violated"
  | notFound what => what ++ " not found"
  | wrongPassword => "encryption password does not match the one this database was created with"

end DeviceRegistry
