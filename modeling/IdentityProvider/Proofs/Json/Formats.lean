import IdentityProvider.Log.Config
import IdentityProvider.Password.Config
import IdentityProvider.Proofs.Json.RoundTrip
import IdentityProvider.Service.Config
import IdentityProvider.Storage.Records

/-!
# What comes back of a written record

`records_reread`: configurations and apps are read from their JSON text as they were
written. A member with its default, one that is null where the default is not, and
one that is left out for want of a value all come back as themselves. Of a user
everything comes back but the password hash, which the text does not depend on.
-/

namespace IdentityProvider

namespace Json

/-- Of a value a format writes no more than it keeps of it, and that is read again. -/
structure Format.Keeps (f : Format α) (kept : α → α) : Prop where
  written (a : α) : f.encode (kept a) = f.encode a
  read (a : α) : f.decode (f.encode a) = .ok (kept a)

variable {f : Format α} {kept : α → α}

theorem Format.keeps_of_regular (hregular : f.shape.Regular)
    (hview : ∀ a, f.view (kept a) = f.view a) (hbuild : ∀ a, f.build (f.view a) = kept a) :
    f.Keeps kept where
  written a := by rw [Format.encode, Format.encode, hview]
  read a := by rw [Format.decode_encode hregular, hbuild]

/-- A format that keeps all of a value. -/
abbrev Format.Lossless (f : Format α) : Prop := f.Keeps fun a => a

theorem Format.lossless_of_regular (hregular : f.shape.Regular)
    (hbuild : ∀ a, f.build (f.view a) = a) : f.Lossless :=
  keeps_of_regular hregular (fun _ => rfl) hbuild

/-- Texts differ where what is kept does, and nowhere else. -/
theorem Format.Keeps.encode_eq_iff (h : f.Keeps kept) {a b : α} :
    f.encode a = f.encode b ↔ kept a = kept b := by
  constructor
  · intro htext
    have hread := h.read a
    rw [htext, h.read b] at hread
    exact (Except.ok.inj hread).symm
  · intro hkept
    rw [← h.written a, hkept, h.written b]

end Json

open Password (HashParams)

-- ----- The records

theorem ServiceConfig.lossless : ServiceConfig.format.Lossless :=
  Json.Format.lossless_of_regular (by decide) ServiceConfig.build_view

theorem Password.HashParams.lossless : HashParams.format.Lossless :=
  Json.Format.lossless_of_regular (by decide) HashParams.build_view

theorem LogConfig.lossless : LogConfig.jsonFormat.Lossless :=
  Json.Format.lossless_of_regular (by decide) LogConfig.build_view

theorem App.lossless : App.format.Lossless :=
  Json.Format.lossless_of_regular (by decide) App.build_view

def User.withoutHash (u : User) : User := { u with passwordHash := "" }

theorem User.keeps_withoutHash : User.format.Keeps User.withoutHash :=
  Json.Format.keeps_of_regular (by decide) (fun _ => rfl) User.build_view

/-- The three configurations and apps come back whole. A user comes back without the
hash, and two users have the same text exactly if they differ in nothing else. -/
theorem records_reread (service : ServiceConfig) (hashing : HashParams) (log : LogConfig)
    (app : App) (user other : User) :
    ServiceConfig.format.decode (ServiceConfig.format.encode service) = .ok service ∧
    HashParams.format.decode (HashParams.format.encode hashing) = .ok hashing ∧
    LogConfig.jsonFormat.decode (LogConfig.jsonFormat.encode log) = .ok log ∧
    App.format.decode (App.format.encode app) = .ok app ∧
    User.format.decode (User.format.encode user) = .ok user.withoutHash ∧
    (User.format.encode user = User.format.encode other ↔
      user.withoutHash = other.withoutHash) :=
  ⟨ServiceConfig.lossless.read service, Password.HashParams.lossless.read hashing,
    LogConfig.lossless.read log, App.lossless.read app, User.keeps_withoutHash.read user,
    User.keeps_withoutHash.encode_eq_iff⟩

end IdentityProvider
