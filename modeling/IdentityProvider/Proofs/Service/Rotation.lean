import IdentityProvider.Proofs.Key.Publishing
import IdentityProvider.Proofs.Service.ActiveKey

/-!
# What rotations do to a service

Nothing of a service changes but its key, which is the one that was put in last
(`run_service`). Only building a service compares the configured algorithm with
the key: `keepsConfigured_iff` says which rotations a service with such an
algorithm bears, and `algorithm_after_rotation` is one that it does not.
-/

namespace IdentityProvider

/-- The key that the operation puts in. -/
def Operation.key? : Operation K → Option K
  | .setKey key => some key
  | _ => none

theorem Operation.key?_eq_some_iff {o : Operation K} : o.key? = some key ↔ o = .setKey key := by
  cases o <;> simp [key?]

/-- The key that was put in last, if only the one at the beginning. -/
def lastKey (key : K) (os : List (Operation K)) : K :=
  (os.filterMap Operation.key?).getLastD key

theorem lastKey_eq_or_mem (key : K) (os : List (Operation K)) :
    lastKey key os = key ∨ .setKey (lastKey key os) ∈ os := by
  have hmem : lastKey key os ∈ key :: os.filterMap Operation.key? := List.getLastD_mem_cons
  rcases List.mem_cons.mp hmem with hfirst | hlater
  · exact .inl hfirst
  · obtain ⟨o, ho, hkey⟩ := List.mem_filterMap.mp hlater
    rw [Operation.key?_eq_some_iff] at hkey
    rw [hkey] at ho
    exact .inr ho

theorem lastKey_append_setKey (key new : K) (os : List (Operation K)) :
    lastKey key (os ++ [.setKey new]) = new := by
  simp [lastKey, Operation.key?]

variable [VerifyingKey P] [SigningKey K P]

-- ----- Runs

namespace Session

theorem step_service_of_key? {s : Session K P} {o : Operation K} (h : o.key? = some key) :
    (s.step o).1.service = { s.service with keys := .ofKey key } := by
  rw [Operation.key?_eq_some_iff] at h
  subst h
  rfl

theorem step_service_of_no_key {s : Session K P} {o : Operation K} (h : o.key? = none) :
    (s.step o).1.service = s.service := by
  rcases s.step_service o with ⟨key, rfl, -⟩ | hservice
  · cases h
  · exact hservice

theorem run_service {s : Session K P} (h : s.service.keys = .ofKey key)
    (os : List (Operation K)) :
    (s.run os).service = { s.service with keys := .ofKey (lastKey key os) } := by
  induction os generalizing s key with
  | nil => rw [run, List.foldl_nil, lastKey, List.filterMap_nil, List.getLastD_nil, ← h]
  | cons o os ih =>
    show ((s.step o).1.run os).service = _
    cases hkey : o.key? with
    | some new =>
      -- For the rest of the run the new key is the one at the beginning.
      have hstep := step_service_of_key? (s := s) hkey
      rw [ih (congrArg Service.keys hstep), hstep, lastKey, lastKey,
        List.filterMap_cons_some hkey, List.getLastD_cons]
    | none =>
      have hstep := step_service_of_no_key (s := s) hkey
      rw [ih ((congrArg Service.keys hstep).trans h), hstep, lastKey, lastKey,
        List.filterMap_cons_none hkey]

end Session

namespace Service

-- ----- Services with a configured algorithm

theorem configFault?_eq_none_iff {c : ServiceConfig} {a : Algorithm} : configFault? c a = none ↔
    c.fault? = none ∧ (c.algorithm = .auto ∨ c.algorithm = .only a) := by
  unfold configFault?
  cases hfault : c.fault? with
  | some f => simp
  | none =>
    cases hchoice : c.algorithm with
    | auto => simp
    | only b => simp

theorem run_service_of_new {c : ServiceConfig} {key : K} {start : Session K P}
    (hnew : (Service.new c key).result = .ok start.service) (os : List (Operation K)) :
    (start.run os).service = ⟨c.issuer, c.lifespans, .ofKey (lastKey key os)⟩ := by
  obtain ⟨-, hstart⟩ := new_eq_ok_iff.mp hnew
  rw [Session.run_service (congrArg Service.keys hstart), hstart]

/-- The algorithm of a service is that of the key that was put in last. So a
service keeps to the algorithm that it was configured with as long as every key
that is put in has it, and no longer. -/
theorem keepsConfigured_iff {c : ServiceConfig} {key : K} {start : Session K P} {a : Algorithm}
    (hnew : (Service.new c key).result = .ok start.service) (hc : c.algorithm = .only a)
    (os : List (Operation K)) :
    (start.run os).service.keys.algorithm = SigningKey.algorithm (lastKey key os) ∧
    ((∀ before, before <+: os → (start.run before).service.keys.algorithm = a) ↔
      ∀ new, .setKey new ∈ os → SigningKey.algorithm new = a) := by
  have hrun before : (start.run before).service.keys.algorithm =
      SigningKey.algorithm (lastKey key before) := by
    rw [run_service_of_new hnew]
    rfl
  have hkey : SigningKey.algorithm key = a := by
    obtain ⟨-, hchoice⟩ := configFault?_eq_none_iff.mp (new_eq_ok_iff.mp hnew).1
    simpa [hc, eq_comm] using hchoice
  refine ⟨hrun os, ?_, ?_⟩
  · intro hkeeps new hnew
    obtain ⟨before, after, rfl⟩ := List.append_of_mem hnew
    have hstarts : before ++ [.setKey new] <+: before ++ .setKey new :: after := by simp
    have halgorithm := hkeeps _ hstarts
    rwa [hrun, lastKey_append_setKey] at halgorithm
  · intro hall before hstarts
    rw [hrun]
    rcases lastKey_eq_or_mem key before with hfirst | hlater
    · rw [hfirst]
      exact hkey
    · exact hall _ (hstarts.subset hlater)

-- ----- A rotation to the other family

open PrivateKey (unitSecret longKey)

def es256Config : ServiceConfig := { algorithm := .only .es256 }

def es256Service : Service PrivateKey PublicKey :=
  ⟨es256Config.issuer, es256Config.lifespans, .ofKey (.es256 unitSecret)⟩

def es256Session : Session PrivateKey PublicKey := ⟨es256Service, .epoch, .epoch, .empty, [], []⟩

theorem new_es256Config :
    (Service.new es256Config (.es256 unitSecret)).result = .ok es256Session.service :=
  new_eq_ok_iff.mpr ⟨by decide, rfl⟩

/-- Configured for the one algorithm, the service takes a key of the other. -/
theorem algorithm_after_rotation :
    (Service.new es256Config (.es256 unitSecret)).result = .ok es256Session.service ∧
      es256Config.algorithm = .only .es256 ∧
      (es256Session.step (.setKey (.rs256 longKey))).2.result = .ok .done ∧
      (es256Session.run [.setKey (.rs256 longKey)]).service.keys.algorithm = .rs256 :=
  ⟨new_es256Config, rfl, rfl, rfl⟩

theorem keepsConfigured_iff_es256 :
    (∀ before, before <+: [.setKey (.es256 unitSecret), .setTime .service 60] →
      (es256Session.run before).service.keys.algorithm = .es256) ∧
    ¬ ∀ before, before <+: [.setKey (.rs256 longKey), .setTime .service 60] →
      (es256Session.run before).service.keys.algorithm = .es256 := by
  obtain ⟨-, hsame⟩ := keepsConfigured_iff new_es256Config rfl
    [.setKey (.es256 unitSecret), .setTime .service 60]
  obtain ⟨-, hother⟩ := keepsConfigured_iff new_es256Config rfl
    [.setKey (.rs256 longKey), .setTime .service 60]
  constructor
  · refine hsame.mpr fun new hnew => ?_
    obtain rfl : new = .es256 unitSecret := by simpa using hnew
    rfl
  · intro hkeeps
    have halgorithm := hother.mp hkeeps (.rs256 longKey) (by simp)
    cases halgorithm

end Service

end IdentityProvider
