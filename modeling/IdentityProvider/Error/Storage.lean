import IdentityProvider.Error.Kind

/-!
# Errors of storages

A look-up may fail because there is no such record, or because the storage is
out of order; only the second is an outage.
-/

namespace IdentityProvider

inductive StorageError where
  | notFound (what : String)
  | backend (reason : String)
  deriving Repr, DecidableEq

namespace StorageError

def message : StorageError → String
  | notFound what => "Not found: " ++ what
  | backend reason => "Storage backend error: " ++ reason

def code : StorageError → String
  | notFound _ => "STORAGE_4002"
  | backend _ => "STORAGE_4003"

def source? : StorageError → Option String
  | notFound _ => none
  | backend reason => some reason

end StorageError

instance : Classified StorageError :=
  ⟨fun _ => .storage, StorageError.code, StorageError.message, StorageError.source?⟩

end IdentityProvider
