import IdentityProvider.Algorithm

/-!
# Parameters of password hashes

New hashes are made with Argon2 or with bcrypt, at a cost that is configured.
A stored hash carries its own cost, which must stay below the same bounds as a
configured one.
-/

namespace IdentityProvider.Password

inductive HashType where
  | argon2i
  | bcrypt
  deriving Repr, DecidableEq

def HashType.name : HashType → String
  | .argon2i => "argon2i"
  | .bcrypt => "bcrypt"

def HashType.names : List String := ["argon2i", "bcrypt"]

def HashType.ofName? (s : String) : Option HashType :=
  if lowerCased s = "argon2i".toList ∨ lowerCased s = "argon2".toList then some .argon2i
  else if lowerCased s = "bcrypt".toList then some .bcrypt
  else none

/-- Memory is counted in KiB; the key length is that of the derived key, in bytes. -/
structure Argon2Params where
  memory : UInt32
  iterations : UInt32
  parallelism : UInt32
  keyLength : UInt32
  deriving Repr, DecidableEq

structure BcryptParams where
  cost : UInt32
  deriving Repr, DecidableEq

structure HashParams where
  hashType : HashType
  saltLength : UInt64
  argon : Option Argon2Params
  bcrypt : Option BcryptParams
  deriving Repr, DecidableEq

def minSaltLength : UInt64 := 8

def defaultArgon2 : Argon2Params := ⟨32768, 3, 2, 32⟩
def defaultBcrypt : BcryptParams := ⟨10⟩
def defaultSaltLength : UInt64 := 16

def HashParams.default : HashParams :=
  ⟨.argon2i, defaultSaltLength, some defaultArgon2, some defaultBcrypt⟩

def HashParams.withBcrypt (cost : UInt32) : HashParams :=
  { HashParams.default with hashType := .bcrypt, bcrypt := some ⟨cost⟩ }

-- ----- Bounds

inductive Argon2Cost where
  | memory
  | iterations
  | parallelism
  deriving Repr, DecidableEq

def Argon2Cost.name : Argon2Cost → String
  | .memory => "memory"
  | .iterations => "iterations"
  | .parallelism => "parallelism"

/-- The letter that stands for the cost in a stored hash. -/
def Argon2Cost.letter : Argon2Cost → String
  | .memory => "m"
  | .iterations => "t"
  | .parallelism => "p"

def maxMemory : UInt32 := 4 * defaultArgon2.memory
def maxIterations : UInt32 := 4 * defaultArgon2.iterations
def maxParallelism : UInt32 := 4 * defaultArgon2.parallelism

/-- The first cost above its bound. -/
def Argon2Params.exceeded? (p : Argon2Params) : Option Argon2Cost :=
  if maxMemory < p.memory then some .memory
  else if maxIterations < p.iterations then some .iterations
  else if maxParallelism < p.parallelism then some .parallelism
  else none

/-- What Argon2 itself does not accept. -/
inductive Argon2Fault where
  | memoryTooSmall
  | timeTooSmall
  | tooFewThreads
  | tooManyThreads
  | outputTooShort
  | passwordTooLong
  | saltTooShort
  | saltTooLong
  deriving Repr, DecidableEq

def Argon2Fault.message : Argon2Fault → String
  | .memoryTooSmall => "memory cost is too small"
  | .timeTooSmall => "time cost is too small"
  | .tooFewThreads => "not enough threads"
  | .tooManyThreads => "too many threads"
  | .outputTooShort => "output is too short"
  | .passwordTooLong => "password is too long"
  | .saltTooShort => "salt is too short"
  | .saltTooLong => "salt is too long"

/-- The parameters' own checks, in the order in which they are made. -/
def Argon2Params.fault? (p : Argon2Params) : Option Argon2Fault :=
  if p.memory.toNat < 8 ∨ p.memory.toNat < 8 * p.parallelism.toNat then some .memoryTooSmall
  else if p.iterations.toNat < 1 then some .timeTooSmall
  else if p.parallelism.toNat < 1 then some .tooFewThreads
  else if 0xffffff < p.parallelism.toNat then some .tooManyThreads
  else if p.keyLength.toNat < 4 then some .outputTooShort
  else none

def bcryptCostOk (cost : UInt32) : Bool := 4 ≤ cost && cost ≤ 31

end IdentityProvider.Password
