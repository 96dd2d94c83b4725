import IdentityProvider.Storage
import Mathlib.Data.List.Induction
import Mathlib.Data.List.Nodup

/-!
# What the storages of apps and users answer

`lookups_run`: after any inserts an app or a user is found by its id as the last record
that came with the id (`LastWith`). By a name a user is found only as such a record, so
what was replaced is never found; the order in which the users are listed has a say in
which of several users with one name is found, and in nothing else.
-/

namespace IdentityProvider

-- ----- Logs

section
variable {α : Type} {p : α → Prop} {log : List α} {a c : α}

/-- The entry is in the log, with none behind it but those that satisfy `p`. -/
def StandsLast (p : α → Prop) (log : List α) (a : α) : Prop :=
  ∃ before after, log = before ++ a :: after ∧ ∀ b ∈ after, p b

theorem not_standsLast_nil : ¬ StandsLast p [] a := by
  rintro ⟨before, after, hnil, -⟩
  simp at hnil

theorem standsLast_append_singleton_iff :
    StandsLast p (log ++ [c]) a ↔ c = a ∨ StandsLast p log a ∧ p c := by
  constructor
  · rintro ⟨before, after, hlog, hafter⟩
    rcases List.eq_nil_or_concat after with rfl | ⟨after, last, rfl⟩
    · obtain ⟨-, hlast⟩ := List.append_inj' hlog rfl
      exact .inl (List.head_eq_of_cons_eq hlast)
    · rw [List.concat_eq_append, ← List.cons_append, ← List.append_assoc] at hlog
      obtain ⟨hbefore, hlast⟩ := List.append_inj' hlog rfl
      obtain rfl := List.head_eq_of_cons_eq hlast
      exact .inr ⟨⟨before, after, hbefore, fun b hb => hafter b (by simp [hb])⟩,
        hafter c (by simp)⟩
  · rintro (rfl | ⟨⟨before, after, rfl, hafter⟩, hc⟩)
    · exact ⟨log, [], rfl, by simp⟩
    · refine ⟨before, after ++ [c], by simp, fun b hb => ?_⟩
      rcases List.mem_append.mp hb with hb | hb
      · exact hafter b hb
      · rwa [List.mem_singleton.mp hb]

end

-- ----- Records by id

namespace Records

variable {α : Type} [Identified α] {r : Records α} {inserts more : List α} {key : String}
  {a c : α}

/-- The last record that came with the id. -/
def LastWith (inserts : List α) (key : String) (a : α) : Prop :=
  Identified.id a = key ∧ StandsLast (Identified.id · ≠ key) inserts a

theorem lastWith_append_singleton_iff : LastWith (inserts ++ [c]) key a ↔
    Identified.id c = key ∧ c = a ∨ Identified.id c ≠ key ∧ LastWith inserts key a := by
  rw [LastWith, standsLast_append_singleton_iff]
  constructor
  · rintro ⟨hkey, rfl | ⟨hlast, hne⟩⟩
    · exact .inl ⟨hkey, rfl⟩
    · exact .inr ⟨hne, hkey, hlast⟩
  · rintro (⟨hkey, rfl⟩ | ⟨hne, hkey, hlast⟩)
    · exact ⟨hkey, .inl rfl⟩
    · exact ⟨hkey, .inr ⟨hlast, hne⟩⟩

def ofInserts (inserts : List α) : Records α := inserts.foldl insert empty

theorem ofInserts_append_singleton (inserts : List α) (a : α) :
    ofInserts (inserts ++ [a]) = (ofInserts inserts).insert a :=
  List.foldl_concat insert empty a inserts

theorem find?_ofInserts_iff : (ofInserts inserts).find? key = some a ↔ LastWith inserts key a := by
  induction inserts using List.reverseRecOn with
  | nil => simp [ofInserts, empty, find?, LastWith, not_standsLast_nil]
  | append_singleton inserts c ih =>
    rw [ofInserts_append_singleton, lastWith_append_singleton_iff]
    by_cases hkey : Identified.id c = key
    · subst hkey
      simp [find?_insert_self]
    · simp [find?_insert_of_ne _ hkey, hkey, ih]

/-- Inserts of other ids make no difference. -/
theorem find?_ofInserts_append (h : ∀ a ∈ more, Identified.id a ≠ key) :
    (ofInserts (inserts ++ more)).find? key = (ofInserts inserts).find? key := by
  induction more using List.reverseRecOn with
  | nil => rw [List.append_nil]
  | append_singleton more c ih =>
    rw [← List.append_assoc, ofInserts_append_singleton, find?_insert_of_ne _ (h c (by simp))]
    exact ih fun a ha => h a (by simp [ha])

theorem find?_ofInserts_eq_none_iff :
    (ofInserts inserts).find? key = none ↔ ∀ a ∈ inserts, Identified.id a ≠ key := by
  induction inserts using List.reverseRecOn with
  | nil => simp [ofInserts, empty, find?]
  | append_singleton inserts c ih =>
    rw [ofInserts_append_singleton]
    by_cases hkey : Identified.id c = key
    · subst hkey
      simp [find?_insert_self]
    · simp [find?_insert_of_ne _ hkey, hkey, ih, or_imp, forall_and]

-- ----- One record for each id

def OnePerId (r : Records α) : Prop := (r.entries.map Prod.fst).Nodup

omit [Identified α] in
/-- A record takes the place of the one under its key, if there is one. -/
theorem map_fst_place (key : String) (a : α) (entries : List (String × α)) :
    (place key a entries).map Prod.fst =
      if key ∈ entries.map Prod.fst then entries.map Prod.fst
      else entries.map Prod.fst ++ [key] := by
  induction entries with
  | nil => rfl
  | cons b rest ih =>
    by_cases hb : b.1 = key
    · simp [place, hb]
    · simp only [place, if_neg hb, List.map_cons, ih, List.mem_cons, Ne.symm hb, false_or]
      split <;> rfl

theorem OnePerId.insert (h : r.OnePerId) (a : α) : (r.insert a).OnePerId := by
  rw [OnePerId, Records.insert, map_fst_place]
  split
  · exact h
  · rename_i hnew
    refine List.nodup_append.mpr ⟨h, List.nodup_singleton _, ?_⟩
    rintro key hkey _ hlast rfl
    rw [List.mem_singleton.mp hlast] at hkey
    exact hnew hkey

theorem onePerId_ofInserts (inserts : List α) : (ofInserts inserts).OnePerId := by
  induction inserts using List.reverseRecOn with
  | nil => exact List.nodup_nil
  | append_singleton inserts a ih =>
    rw [ofInserts_append_singleton]
    exact ih.insert a

theorem mem_records_iff : a ∈ r.records ↔ (Identified.id a, a) ∈ r.entries := by
  rw [records, List.mem_map]
  constructor
  · rintro ⟨e, he, rfl⟩
    rwa [← r.key_eq_id e he]
  · intro he
    exact ⟨_, he, rfl⟩

theorem OnePerId.mem_iff (h : r.OnePerId) :
    a ∈ r.records ↔ r.find? (Identified.id a) = some a := by
  rw [mem_records_iff, find?, Option.map_eq_some_iff]
  constructor
  · intro he
    have hsome : (r.entries.find? fun e => e.1 = Identified.id a).isSome :=
      List.find?_isSome.mpr ⟨_, he, by simp⟩
    obtain ⟨e, hfind⟩ := Option.isSome_iff_exists.mp hsome
    have hkey : e.1 = Identified.id a := by simpa using List.find?_some hfind
    obtain rfl := List.inj_on_of_nodup_map h (List.mem_of_find?_eq_some hfind) he hkey
    exact ⟨_, hfind, rfl⟩
  · rintro ⟨e, hfind, rfl⟩
    have hmem := List.mem_of_find?_eq_some hfind
    rwa [← r.key_eq_id e hmem]

/-- The records that are there are the last ones with their ids. -/
theorem mem_ofInserts_iff :
    a ∈ (ofInserts inserts).records ↔ LastWith inserts (Identified.id a) a := by
  rw [(onePerId_ofInserts inserts).mem_iff, find?_ofInserts_iff]

end Records

-- ----- Answers

theorem found_eq_ok_iff : found what r = .ok a ↔ r = some a := by
  cases r <;> simp [found]

theorem found_eq_error_iff : found what r = .error e ↔ r = none ∧ e = .notFound what := by
  cases r <;> simp [found, eq_comm]

theorem Storage.ask_eq_ok_iff {s : Storage σ} {answer : σ → Except StorageError α} :
    s.ask answer = .ok a ↔ s.outage = none ∧ answer s.content = .ok a := by
  unfold Storage.ask
  cases s.outage <;> simp

theorem Storage.id_of_ask [Identified α] {s : Storage (Records α)}
    (h : s.ask (fun r => found what (r.find? key)) = .ok a) : Identified.id a = key := by
  obtain ⟨-, hfound⟩ := Storage.ask_eq_ok_iff.mp h
  exact Records.id_of_find? (found_eq_ok_iff.mp hfound)

open Records (LastWith)

namespace Storages

theorem id_of_app {st : Storages} (h : st.app key = .ok a) : a.id = key :=
  Storage.id_of_ask h

theorem id_of_user {st : Storages} (h : st.user key = .ok u) : u.id = key :=
  Storage.id_of_ask h

-- ----- Runs

def run (changes : List Change) : Storages := changes.foldl apply .empty

def Change.app? : Change → Option App
  | .insertApp a => some a
  | _ => none

def Change.user? : Change → Option User
  | .insertUser u => some u
  | _ => none

theorem run_append_singleton (changes : List Change) (c : Change) :
    run (changes ++ [c]) = (run changes).apply c :=
  List.foldl_concat apply .empty c changes

/-- A storage that changes by inserts alone holds what was put into it. -/
theorem content_run [Identified α] (content : Storages → Records α)
    (inserted : Change → Option α) (hempty : content .empty = .empty)
    (hstep : ∀ st c, content (st.apply c) = (inserted c).elim (content st) (content st).insert)
    (changes : List Change) :
    content (run changes) = .ofInserts (changes.filterMap inserted) := by
  induction changes using List.reverseRecOn with
  | nil => exact hempty
  | append_singleton changes c ih =>
    rw [run_append_singleton, hstep, ih, List.filterMap_append]
    cases hc : inserted c with
    | none => simp [hc]
    | some a =>
      rw [List.filterMap_cons_some hc, List.filterMap_nil, Records.ofInserts_append_singleton]
      rfl

theorem apps_run (changes : List Change) :
    (run changes).apps.content = .ofInserts (changes.filterMap Change.app?) :=
  content_run (·.apps.content) Change.app? rfl (fun _ c => by cases c <;> rfl) changes

theorem users_run (changes : List Change) :
    (run changes).users.content = .ofInserts (changes.filterMap Change.user?) :=
  content_run (·.users.content) Change.user? rfl (fun _ c => by cases c <;> rfl) changes

/-- A look-up by id gives the last record that came with the id, whatever came with
other ids since, and misses where none came with it. -/
structure AnswersById [Identified α] (inserted : Change → Option α) (what : String)
    (look : List Change → String → Except StorageError α) : Prop where
  found (changes : List Change) (key : String) (a : α) :
    look changes key = .ok a ↔ LastWith (changes.filterMap inserted) key a
  missed (changes : List Change) (key : String) (e : StorageError) :
    look changes key = .error e ↔
      e = .notFound (what ++ key) ∧ ∀ a ∈ changes.filterMap inserted, Identified.id a ≠ key
  unaffected (changes more : List Change) (key : String) :
    (∀ a ∈ more.filterMap inserted, Identified.id a ≠ key) →
      look (changes ++ more) key = look changes key

/-- A look-up by name gives a user that is the last record with its id and has the name,
and misses where there is no such user. -/
structure AnswersByName (inserts : List User) (look : String → Except StorageError User) :
    Prop where
  found (name : String) (u : User) :
    look name = .ok u → LastWith inserts u.id u ∧ u.username = name
  missed (name : String) (e : StorageError) :
    look name = .error e ↔
      e = .notFound ("user " ++ name) ∧ ∀ u, LastWith inserts u.id u → u.username ≠ name

theorem answersById_ofInserts [Identified α] (inserted : Change → Option α) (what : String) :
    AnswersById inserted what fun changes key =>
      IdentityProvider.found (what ++ key)
        ((Records.ofInserts (changes.filterMap inserted)).find? key) where
  found changes key a := by rw [found_eq_ok_iff, Records.find?_ofInserts_iff]
  missed changes key e := by
    rw [found_eq_error_iff, Records.find?_ofInserts_eq_none_iff, and_comm]
  unaffected changes more key h := by
    rw [List.filterMap_append, Records.find?_ofInserts_append h]

theorem answersByName_of_perm {inserts : List User} {listing : Records User}
    (h : listing.records.Perm (Records.ofInserts inserts).records) :
    AnswersByName inserts listing.userNamed where
  found name u hu := by
    have hfind := found_eq_ok_iff.mp hu
    have hmem := h.mem_iff.mp (List.mem_of_find?_eq_some hfind)
    exact ⟨Records.mem_ofInserts_iff.mp hmem, by simpa using List.find?_some hfind⟩
  missed name e := by
    rw [Records.userNamed, found_eq_error_iff, List.find?_eq_none, and_comm]
    refine and_congr_right fun _ => forall_congr' fun u => ?_
    rw [h.mem_iff, Records.mem_ofInserts_iff, decide_eq_true_iff]
    rfl

/-- Apps and users are found by their ids as they were last put in. Whichever way the
users are listed, one that is found by a name is found by its id too. -/
theorem lookups_run :
    AnswersById Change.app? "app " (fun changes => (run changes).apps.content.app) ∧
    AnswersById Change.user? "user " (fun changes => (run changes).users.content.user) ∧
    ∀ (changes : List Change) (listing : Records User),
      listing.records.Perm (run changes).users.content.records →
        AnswersByName (changes.filterMap Change.user?) listing.userNamed := by
  simp only [apps_run, users_run]
  exact ⟨answersById_ofInserts Change.app? "app ", answersById_ofInserts Change.user? "user ",
    fun _ _ h => answersByName_of_perm h⟩

/-- Two users; the first takes on the name of the second. -/
def renamings : List Change :=
  [.insertUser (.new "user-1" "jane"), .insertUser (.new "user-2" "john"),
    .insertUser (.new "user-1" "john")]

def relisted : Records User where
  entries := (run renamings).users.content.entries.reverse
  key_eq_id e he := (run renamings).users.content.key_eq_id e (List.mem_reverse.mp he)

theorem lookups_run_renamings :
    relisted.userNamed "john" = .ok (.new "user-2" "john") ∧
    LastWith (renamings.filterMap Change.user?) "user-2" (.new "user-2" "john") ∧
    relisted.userNamed "jane" = .error (.notFound "user jane") ∧
    (∀ u, LastWith (renamings.filterMap Change.user?) u.id u → u.username ≠ "jane") ∧
    (run (renamings ++ [.insertUser (.new "user-2" "jane")])).users.content.user "user-1" =
      .ok (.new "user-1" "john") := by
  obtain ⟨-, hids, hnames⟩ := lookups_run
  have hanswers := hnames renamings relisted ((List.reverse_perm _).map _)
  have hjohn : relisted.userNamed "john" = .ok (.new "user-2" "john") := rfl
  have hjane : relisted.userNamed "jane" = .error (.notFound "user jane") := rfl
  have hkept := hids.unaffected renamings [.insertUser (.new "user-2" "jane")] "user-1" (by decide)
  exact ⟨hjohn, (hanswers.found _ _ hjohn).1, hjane, ((hanswers.missed _ _).mp hjane).2, hkept⟩

end Storages

end IdentityProvider
