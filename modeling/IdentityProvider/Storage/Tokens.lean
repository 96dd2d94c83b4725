import IdentityProvider.Clock
import IdentityProvider.Token

/-!
# Stored refresh tokens

Refresh tokens are kept by their compact form with the time at which they
expire. Those that have expired are dropped when the next one is saved; one
that cannot be read never expires.
-/

namespace IdentityProvider

structure StoredToken where
  compact : Bytes
  exp : Option Int64
  deriving DecidableEq

structure TokenStore where
  entries : List StoredToken
  deriving DecidableEq

def expiry? (compact : Bytes) : Option Int64 :=
  match Token.parseUnverified compact with
  | .ok t => t.claims.exp
  | .error _ => none

def StoredToken.isExpired (e : StoredToken) (now : Time) : Bool :=
  e.exp.any fun exp => exp.toInt < now.seconds

namespace TokenStore

def empty : TokenStore := ⟨[]⟩

def size (s : TokenStore) : Nat := s.entries.length

def prune (s : TokenStore) (now : Time) : TokenStore :=
  ⟨s.entries.filter fun e => !e.isExpired now⟩

def delete (s : TokenStore) (compact : Bytes) : TokenStore :=
  ⟨s.entries.filter fun e => e.compact ≠ compact⟩

def save (s : TokenStore) (now : Time) (compact : Bytes) : TokenStore :=
  ⟨⟨compact, expiry? compact⟩ :: ((s.prune now).delete compact).entries⟩

def has (s : TokenStore) (compact : Bytes) : Bool := s.entries.any fun e => e.compact = compact

theorem has_delete (s : TokenStore) (compact other : Bytes) :
    (s.delete compact).has other = (s.has other && other ≠ compact) := by
  simp only [has, delete, List.any_filter]
  induction s.entries with
  | nil => rfl
  | cons e rest ih =>
    simp only [List.any_cons, ih]
    by_cases h : e.compact = other <;> by_cases h' : other = compact <;> simp [h, h']

theorem has_save_self (s : TokenStore) (now : Time) (compact : Bytes) :
    (s.save now compact).has compact = true := by
  simp [has, save]

end TokenStore

end IdentityProvider
