import BucketStore.BucketName
import BucketStore.Volume.Basic

/-!
# Errors of the Store

Every failure of an operation is one of the causes below; `StoreError.message` puts it into words. A
cause belongs to the durable store itself (`StoreError.isStorage`), to the state of a key, or to the
request.
-/

namespace BucketStore

/-- Why a store could not be brought up. -/
inductive InitFault where
  /-- The text is no bucket name. -/
  | badName (text : String) (fault : NameFault)
  /-- The store file cannot be opened. -/
  | unopenable (path : String) (fault : OpenFault)
  /-- The store has no such bucket. -/
  | noBucket (bucket : String) (path : String)
  /-- Any other reason. -/
  | other (reason : String)
  deriving DecidableEq, Repr

/-- The reason in words. -/
def InitFault.message : InitFault → String
  | .badName text fault => s!"bucket {String.ofList (Text.quote text.toList)}: {fault.message}"
  | .unopenable path fault => s!"cannot open store {path}: {fault.message}"
  | .noBucket bucket path => s!"bucket {bucket} not found in {path}"
  | .other reason => reason

/-- Why an operation failed. -/
inductive StoreError where
  /-- The store could not be brought up. -/
  | initialization (fault : InitFault)
  /-- The key is there and should not be. -/
  | keyExists (bucket : String) (key : Key)
  /-- The key is not there and should be. -/
  | keyNotFound (bucket : String) (key : Key)
  /-- The value of the key is no tally. -/
  | notANumber (bucket : String) (key : Key) (value : Value)
  /-- The text is no bucket name. -/
  | invalidBucketName (fault : NameFault)
  /-- The store file cannot be opened. -/
  | database (fault : OpenFault)
  /-- The disk fails while a table is read or written. -/
  | storage (fault : StorageFault)
  /-- A table cannot be opened or dropped. -/
  | table (fault : TableFault)
  /-- A transaction cannot begin. -/
  | transaction (fault : StorageFault)
  /-- A transaction cannot be committed. -/
  | commit (fault : StorageFault)
  /-- The system refuses to touch a path. -/
  | io (fault : SystemFault)
  deriving DecidableEq, Repr

namespace StoreError

/-- A bucket and a key as messages show them. -/
def place (bucket : String) (key : Key) : String :=
  bucket ++ "/" ++ key.display

/-- The error in words. -/
def message : StoreError → String
  | .initialization fault => "initialization failed: " ++ fault.message
  | .keyExists bucket key => "key exists: " ++ place bucket key
  | .keyNotFound bucket key => "key not found: " ++ place bucket key
  | .notANumber bucket key value =>
    "value of " ++ place bucket key ++ " is not a number: " ++ value.quoted
  | .invalidBucketName fault => "invalid bucket name: " ++ fault.message
  | .database fault => "redb error: " ++ fault.message
  | .storage fault => "redb storage error: " ++ fault.reason
  | .table fault => "redb table error: " ++ fault.message
  | .transaction fault => "redb transaction error: " ++ fault.reason
  | .commit fault => "redb commit error: " ++ fault.reason
  | .io fault => "io error: " ++ fault.message

/-- The error that lies behind this one, in words, if there is one. That of a transaction which cannot
begin is put into words by the error itself. -/
def cause? : StoreError → Option String
  | .invalidBucketName fault => some fault.message
  | .database fault => some fault.message
  | .storage fault => some fault.reason
  | .table fault => some fault.message
  | .commit fault => some fault.reason
  | .io fault => some fault.message
  | _ => none

/-- Whether the durable store itself failed, rather than a condition of the operation. -/
def isStorage : StoreError → Bool
  | .database _ | .storage _ | .table _ | .transaction _ | .commit _ | .io _ => true
  | _ => false

/-- Whether the operation failed because the key is not there. -/
def isNotFound : StoreError → Bool
  | .keyNotFound .. => true
  | _ => false

end StoreError

/-! ### Accesses that fail -/

/-- The error of a request whose access failed. -/
def Access.error : Access → StorageFault → StoreError
  | .beginRead, fault => .transaction fault
  | .beginWrite, fault => .transaction fault
  | .commit, fault => .commit fault
  | .viewTable, fault => .table (.storage fault)
  | .openTable, fault => .table (.storage fault)
  | .dropTable, fault => .table (.storage fault)
  | _, fault => .storage fault

namespace Disk

/-- Makes an access. -/
def access (disk : Disk) (a : Access) : Except StoreError Unit :=
  match disk a with
  | none => .ok ()
  | some fault => .error (a.error fault)

/-- Every access succeeds on a disk that works. -/
@[simp] theorem access_working (a : Access) : working.access a = .ok () := rfl

end Disk

end BucketStore
