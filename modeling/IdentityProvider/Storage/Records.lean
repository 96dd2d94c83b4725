import IdentityProvider.Error.Storage
import IdentityProvider.Json.Format

/-!
# Users and apps

The part of a user's and of an app's record that issuing tokens needs. Records
are kept under their ids, in the order in which the ids first came.
-/

namespace IdentityProvider

open Json (Format Members Shape)

structure User where
  id : String
  username : String
  email : Option String
  /-- The stored hash; it is read and never written. -/
  passwordHash : String
  active : Bool
  deriving Repr, DecidableEq

namespace User

def new (id username : String) : User := ⟨id, username, none, "", true⟩

def format : Format User where
  shape := .record "User" (.required "id" .string <| .required "username" .string <|
    .absentable "email" (.optional .string) <| .absentable "password_hash" .string <|
    .required "active" .flag .nil)
  view u := (u.id, u.username, u.email.map some, none, u.active, ())
  build
    | (id, username, email, passwordHash, active, ()) =>
      ⟨id, username, email.join, passwordHash.getD "", active⟩

/-- The password hash is lost on the way. -/
theorem build_view (u : User) : format.build (format.view u) = { u with passwordHash := "" } := by
  obtain ⟨id, username, email, passwordHash, active⟩ := u
  cases email <;> rfl

end User

/-- A lifespan that is not positive leaves the choice to the service. -/
structure App where
  id : String
  active : Bool
  /-- Whether the app may have refresh tokens. -/
  offline : Bool
  tokenLifespan : Int64
  refreshTokenLifespan : Int64
  /-- The user's data that go into access tokens. -/
  tokenPayload : List String
  deriving DecidableEq

namespace App

def new (id : String) : App := ⟨id, true, false, 0, 0, []⟩

def wantsPayload (a : App) (field : String) : Bool := a.tokenPayload.contains field

def format : Format App where
  shape := .record "AppData" (.required "id" .string <| .required "active" .flag <|
    .absentable "offline" .flag <| .absentable "token_lifespan" (.integer .int64) <|
    .absentable "refresh_token_lifespan" (.integer .int64) <|
    .absentable "token_payload" .texts .nil)
  view a := (a.id, a.active, some a.offline, some a.tokenLifespan, some a.refreshTokenLifespan,
    some a.tokenPayload, ())
  build
    | (id, active, offline, tokenLifespan, refreshTokenLifespan, tokenPayload, ()) =>
      ⟨id, active, offline.getD false, tokenLifespan.getD 0, refreshTokenLifespan.getD 0,
        tokenPayload.getD []⟩

theorem build_view (a : App) : format.build (format.view a) = a := rfl

end App

-- ----- Records by id

class Identified (α : Type) where
  id : α → String

instance : Identified User := ⟨User.id⟩
instance : Identified App := ⟨App.id⟩

/-- Records by a key, which is their id. -/
structure Records (α : Type) [Identified α] where
  entries : List (String × α)
  key_eq_id : ∀ e ∈ entries, e.1 = Identified.id e.2

namespace Records

variable {α : Type} [Identified α]

def empty : Records α := ⟨[], by simp⟩

/-- The record takes the place of what is under the key, or comes last. -/
def place (key : String) (a : α) : List (String × α) → List (String × α)
  | [] => [(key, a)]
  | e :: rest => if e.1 = key then (key, a) :: rest else e :: place key a rest

omit [Identified α] in
theorem mem_of_mem_place {key : String} {a : α} {entries : List (String × α)} {e : String × α}
    (h : e ∈ place key a entries) : e = (key, a) ∨ e ∈ entries := by
  induction entries with
  | nil => exact .inl (List.mem_singleton.mp h)
  | cons b rest ih =>
    by_cases hkey : b.1 = key
    · rw [place, if_pos hkey] at h
      exact (List.mem_cons.mp h).imp_right (List.mem_cons_of_mem b)
    · rw [place, if_neg hkey] at h
      rcases List.mem_cons.mp h with rfl | hrest
      · exact .inr List.mem_cons_self
      · exact (ih hrest).imp_right (List.mem_cons_of_mem b)

def insert (r : Records α) (a : α) : Records α where
  entries := place (Identified.id a) a r.entries
  key_eq_id e he := by
    rcases mem_of_mem_place he with rfl | hold
    · rfl
    · exact r.key_eq_id e hold

def find? (r : Records α) (key : String) : Option α :=
  (r.entries.find? fun e => e.1 = key).map (·.2)

def records (r : Records α) : List α := r.entries.map (·.2)

/-- A record is found under its own id. -/
theorem id_of_find? {r : Records α} {key : String} {a : α} (h : r.find? key = some a) :
    Identified.id a = key := by
  obtain ⟨e, he, rfl⟩ := Option.map_eq_some_iff.mp h
  have hkey : e.1 = key := by simpa using List.find?_some he
  rw [← hkey, r.key_eq_id e (List.mem_of_find?_eq_some he)]

theorem find?_insert_self (r : Records α) (a : α) :
    (r.insert a).find? (Identified.id a) = some a := by
  obtain ⟨entries, hkeys⟩ := r
  simp only [find?, insert]
  clear hkeys
  induction entries with
  | nil => simp [place]
  | cons b rest ih =>
    by_cases h : b.1 = Identified.id a
    · simp [place, h]
    · simpa [place, h] using ih

theorem find?_insert_of_ne (r : Records α) {a : α} {key : String} (h : Identified.id a ≠ key) :
    (r.insert a).find? key = r.find? key := by
  obtain ⟨entries, hkeys⟩ := r
  simp only [find?, insert]
  clear hkeys
  induction entries with
  | nil => simp [place, h]
  | cons b rest ih =>
    by_cases hb : b.1 = Identified.id a
    · simp [place, hb, h]
    · simp only [place, hb, if_false, List.find?_cons]
      by_cases hkey : b.1 = key
      · simp [hkey]
      · simpa [hkey] using ih

end Records

-- ----- Look-ups

def found (what : String) : Option α → Except StorageError α
  | some a => .ok a
  | none => .error (.notFound what)

def Records.app (r : Records App) (id : String) : Except StorageError App :=
  found ("app " ++ id) (r.find? id)

def Records.user (r : Records User) (id : String) : Except StorageError User :=
  found ("user " ++ id) (r.find? id)

def Records.userNamed (r : Records User) (username : String) : Except StorageError User :=
  found ("user " ++ username) (r.records.find? fun u => u.username = username)

end IdentityProvider
