import IdentityProvider.Storage.Records
import IdentityProvider.Storage.Tokens

/-!
# Storages

The service works with three storages. Each of them may be out of order, and
then answers every request with its error; what it holds stays as it is.
-/

namespace IdentityProvider

structure Storage (σ : Type) where
  content : σ
  outage : Option StorageError := none

namespace Storage

def ask (s : Storage σ) (answer : σ → Except StorageError α) : Except StorageError α :=
  match s.outage with
  | some e => .error e
  | none => answer s.content

def update (s : Storage σ) (change : σ → σ) : Except StorageError Unit × Storage σ :=
  match s.outage with
  | some e => (.error e, s)
  | none => (.ok (), { s with content := change s.content })

end Storage

structure Storages where
  tokens : Storage TokenStore
  apps : Storage (Records App)
  users : Storage (Records User)

namespace Storages

def empty : Storages := ⟨⟨.empty, none⟩, ⟨.empty, none⟩, ⟨.empty, none⟩⟩

def app (s : Storages) (id : String) : Except StorageError App := s.apps.ask (·.app id)

def user (s : Storages) (id : String) : Except StorageError User := s.users.ask (·.user id)

def userNamed (s : Storages) (username : String) : Except StorageError User :=
  s.users.ask (·.userNamed username)

/-- What happens to the storages from outside. -/
inductive Change where
  | insertApp (a : App)
  | insertUser (u : User)
  | tokenOutage (e : Option StorageError)
  | appOutage (e : Option StorageError)
  | userOutage (e : Option StorageError)

def apply (s : Storages) : Change → Storages
  | .insertApp a => { s with apps.content := s.apps.content.insert a }
  | .insertUser u => { s with users.content := s.users.content.insert u }
  | .tokenOutage e => { s with tokens.outage := e }
  | .appOutage e => { s with apps.outage := e }
  | .userOutage e => { s with users.outage := e }

end Storages

end IdentityProvider
