import IdentityProvider.Key.Load
import IdentityProvider.Service

/-!
# A service from its configuration alone

The configuration names the file that holds the signing key.
-/

namespace IdentityProvider.Service

/-- Why there is no key is part of the answer, as is what was logged before. -/
def ofConfig (c : ServiceConfig) (fs : Files) : Attempt (Service PrivateKey PublicKey) :=
  match c.privateKeyPath with
  | none => .fail (.configuration .keyPathRequired)
  | some path =>
    match PrivateKey.loadFile fs path c.algorithm with
    | ⟨.error e, events⟩ => ⟨.error (.crypto e), events⟩
    | ⟨.ok (key, _), events⟩ =>
      let service := Service.new c key
      ⟨service.result, events ++ service.events⟩

end IdentityProvider.Service
