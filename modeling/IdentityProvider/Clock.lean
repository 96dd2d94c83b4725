/-!
# Time

Times are whole seconds since 1970, within the years that a calendar date can
have. A time outside them is none; moving a clock out of them fails.
-/

namespace IdentityProvider

def earliest : Int := -8334601228800
def latest : Int := 8210266876799

structure Time where
  seconds : Int
  inRange : earliest ≤ seconds ∧ seconds ≤ latest
  deriving DecidableEq

namespace Time

def epoch : Time := ⟨0, by decide⟩

def ofSeconds? (n : Int) : Option Time :=
  if h : earliest ≤ n ∧ n ≤ latest then some ⟨n, h⟩ else none

theorem ofSeconds?_seconds (t : Time) : ofSeconds? t.seconds = some t := by
  simp [ofSeconds?, t.inRange]

/-- The epoch stands for every time that there is not. -/
def ofSeconds (n : Int) : Time := (ofSeconds? n).getD epoch

def advance? (t : Time) (seconds : Int) : Option Time := ofSeconds? (t.seconds + seconds)

/-- The time as claims state it. -/
def toClaim (t : Time) : Int64 := Int64.ofInt t.seconds

/-- So many seconds later, or the last number that claims can state. -/
def after (t : Time) (seconds : Int64) : Int64 :=
  Int64.ofInt (max (-0x8000000000000000) (min 0x7fffffffffffffff (t.seconds + seconds.toInt)))

end Time

end IdentityProvider
