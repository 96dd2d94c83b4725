/-!
# Tables of strings

A table gives each of some names one string. Its entries stand in the order of
the names, which for UTF-8 text is the order of the bytes, so two tables with
the same entries are equal and are written the same way.
-/

namespace IdentityProvider

def InOrder (entries : List (String × String)) : Prop :=
  entries.Pairwise fun a b => a.1 < b.1

structure Table where
  entries : List (String × String)
  inOrder : InOrder entries

namespace Table

def empty : Table := ⟨[], .nil⟩

def isEmpty (t : Table) : Bool := t.entries.isEmpty

theorem eq_empty_of_isEmpty {t : Table} (h : t.isEmpty = true) : t = empty := by
  obtain ⟨entries, inOrder⟩ := t
  cases entries with
  | nil => rfl
  | cons _ _ => contradiction

def find? (t : Table) (name : String) : Option String :=
  (t.entries.find? fun e => e.1 = name).map (·.2)

/-- Puts an entry in its place; an entry with the same name is replaced. -/
def place (name value : String) : List (String × String) → List (String × String)
  | [] => [(name, value)]
  | (n, v) :: rest =>
    if name < n then (name, value) :: (n, v) :: rest
    else if name = n then (name, value) :: rest
    else (n, v) :: place name value rest

theorem mem_place {name value : String} {entries : List (String × String)} {e : String × String}
    (h : e ∈ place name value entries) : e = (name, value) ∨ e ∈ entries := by
  induction entries with
  | nil => simpa [place] using h
  | cons head rest ih =>
    obtain ⟨n, v⟩ := head
    simp only [place] at h
    split at h
    · simpa using h
    · split at h
      · rcases List.mem_cons.mp h with h | h
        · exact .inl h
        · exact .inr (List.mem_cons_of_mem _ h)
      · rcases List.mem_cons.mp h with h | h
        · exact .inr (h ▸ List.mem_cons_self)
        · exact (ih h).imp_right (List.mem_cons_of_mem _)

theorem inOrder_place (name value : String) {entries : List (String × String)}
    (h : InOrder entries) : InOrder (place name value entries) := by
  unfold InOrder at *
  induction entries with
  | nil => simp [place]
  | cons head rest ih =>
    obtain ⟨n, v⟩ := head
    obtain ⟨first, others⟩ := List.pairwise_cons.mp h
    simp only [place]
    split
    · rename_i hlt
      refine List.pairwise_cons.mpr ⟨fun e he => ?_, h⟩
      rcases List.mem_cons.mp he with rfl | he
      · exact hlt
      · exact String.lt_trans hlt (first e he)
    · split
      · rename_i heq
        subst heq
        exact List.pairwise_cons.mpr ⟨first, others⟩
      · rename_i hlt hne
        refine List.pairwise_cons.mpr ⟨fun e he => ?_, ih others⟩
        rcases mem_place he with rfl | he
        · exact String.not_le.mp fun hle =>
            hne (String.le_antisymm hle (String.not_lt.mp hlt))
        · exact first e he

def insert (t : Table) (name value : String) : Table :=
  ⟨place name value t.entries, inOrder_place name value t.inOrder⟩

/-- The later of two entries with one name wins. -/
def ofList (entries : List (String × String)) : Table :=
  entries.foldl (fun t e => t.insert e.1 e.2) empty

end Table

end IdentityProvider
