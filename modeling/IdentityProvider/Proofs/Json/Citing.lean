import IdentityProvider.Json.Read
import IdentityProvider.Proofs.Chain

/-!
# What reading hands on and what its errors cite

`Shape.decode_ends`: every string in a value that is read, and every string that
an error cites, is one of the strings of the text; all else in an error are words
of the shape. Each reader is shown to keep to this (`Reads`), the readers of the
shapes by induction on the shape.
-/

namespace IdentityProvider.Json

-- ----- Ends of a chain

/-- How a chain ends: with a result that satisfies `P`, or with an error that satisfies `E`. -/
def Ends (P : α → Prop) (E : ε → Prop) : Except ε α → Prop
  | .ok a => P a
  | .error e => E e

theorem Ends.bind {x : Except ε α} {next : α → Except ε β} (hx : Ends P E x)
    (hnext : ∀ a, P a → Ends Q E (next a)) : Ends Q E (x >>= next) := by
  cases x with
  | ok a => exact hnext a hx
  | error e => exact hx

-- ----- Words without a dot

def Dotless (s : String) : Prop := '.' ∉ s.toList

instance (s : String) : Decidable (Dotless s) := inferInstanceAs (Decidable ('.' ∉ s.toList))

mutual
/-- No name and no other word of the shape has a dot. -/
def Shape.Dotless : Shape → Prop
  | .text expected => Json.Dotless expected
  | .choice names => ∀ name ∈ names, Json.Dotless name
  | .optional s => s.Dotless
  | .record name ms => Json.Dotless (recordName name) ∧
      Json.Dotless (recordLength name ms.count) ∧ ms.Dotless
  | _ => True
def Members.Dotless : Members → Prop
  | .nil => True
  | .required name s rest => Json.Dotless name ∧ s.Dotless ∧ rest.Dotless
  | .absentable name s rest => Json.Dotless name ∧ s.Dotless ∧ rest.Dotless
end

theorem Word.dotless_name (w : Word) : Dotless w.name := by
  cases w <;> decide

-- ----- Strings of tokens, values and errors

section
variable (p : String → Prop)

/-- The strings among some tokens satisfy `p`. -/
def Strings (ts : List Token) : Prop :=
  ∀ source text, .string source ∈ ts → source.text = .ok text → p text

mutual
/-- The strings in a value satisfy `p`. -/
def Shape.Strings : (s : Shape) → s.Value → Prop
  | .text _, v => p v
  | .flag, _ | .integer _, _ | .choice _, _ | .optional _, none => True
  | .optional s, some v => s.Strings v
  | .texts, v => ∀ t ∈ v, p t
  | .table, v => ∀ e ∈ v.entries, p e.1 ∧ p e.2
  | .record _ ms, v => ms.Strings v
def Members.Strings : (ms : Members) → ms.Value → Prop
  | .nil, _ => True
  | .required _ s rest, (v, vs) => s.Strings v ∧ rest.Strings vs
  | .absentable _ s rest, (v, vs) => (∀ a, v = some a → s.Strings a) ∧ rest.Strings vs
end

/-- The strings read so far satisfy `p`. -/
def Members.SlotStrings : (ms : Members) → ms.Slots → Prop
  | .nil, _ => True
  | .required _ s rest, (v, vs) => (∀ a, v = some a → s.Strings p a) ∧ rest.SlotStrings vs
  | .absentable _ s rest, (v, vs) => (∀ a, v = some a → s.Strings p a) ∧ rest.SlotStrings vs

def Found.Cites : Found → Prop
  | .string s => p s
  | _ => True

/-- The string that an error cites satisfies `p`, and its other words have no dot. -/
def ReadError.Cites : ReadError → Prop
  | .fault _ => True
  | .invalidType found expected | .invalidValue found expected =>
    found.Cites p ∧ Dotless expected
  | .missingField name | .duplicateField name => Dotless name
  | .unknownVariant found names => p found ∧ ∀ name ∈ names, Dotless name
  | .invalidLength _ expected => Dotless expected

/-- What follows a value still has strings that satisfy `p` only. -/
abbrev Goes (P : α → Prop) (result : Except ReadError (α × List Token)) : Prop :=
  Ends (fun r => P r.1 ∧ Strings p r.2) (ReadError.Cites p) result

/-- A reader keeps to the strings of the tokens, and gives what satisfies `P`. -/
def Reads (P : α → Prop) (read : Reader α) : Prop := ∀ ts, Strings p ts → Goes p P (read ts)

end

variable {p : String → Prop}

theorem Strings.of_subset (h : Strings p ts) (hsub : rest ⊆ ts) : Strings p rest :=
  fun source text hmem => h source text (hsub hmem)

theorem Strings.tail (h : Strings p (t :: ts)) : Strings p ts :=
  h.of_subset (List.subset_cons_self t ts)

-- ----- Plain values

theorem cites_wrongType (hts : Strings p ts) (h : Dotless expected) :
    (wrongType expected ts).Cites p := by
  cases ts with
  | nil => trivial
  | cons t ts =>
    cases t with
    | null | bool | leftBracket | leftBrace => exact ⟨trivial, h⟩
    | number n =>
      dsimp only [wrongType]
      split
      · rename_i v _
        cases v <;> exact ⟨trivial, h⟩
      · trivial
    | string source =>
      dsimp only [wrongType]
      split
      · rename_i text htext
        exact ⟨hts _ _ List.mem_cons_self htext, h⟩
      · trivial
    | _ => trivial

theorem reads_text (h : Dotless expected) : Reads p p (readText expected) := by
  intro ts hts
  unfold readText
  split
  · rename_i source rest
    cases htext : source.text with
    | ok text => exact ⟨hts _ _ List.mem_cons_self htext, hts.tail⟩
    | error f => trivial
  · exact cites_wrongType hts h

theorem reads_flag : Reads p (fun _ => True) readFlag := by
  intro ts hts
  unfold readFlag
  split
  · exact ⟨trivial, hts.tail⟩
  · exact cites_wrongType hts (by decide)

theorem ends_liftFault (x : Except Fault α) :
    Ends (fun _ => True) (ReadError.Cites p) (liftFault x) := by
  cases x <;> trivial

theorem reads_integer (w : Word) : Reads p (fun _ => True) (readInteger w) := by
  intro ts hts
  have hname := w.dotless_name
  unfold readInteger
  split
  · refine (ends_liftFault _).bind ?_
    intro v _
    cases v with
    | natural k | negative k =>
      dsimp only
      split
      · exact ⟨trivial, hts.tail⟩
      · exact ⟨trivial, hname⟩
    | float f => exact ⟨trivial, hname⟩
  · exact cites_wrongType hts hname

theorem ends_colon (hts : Strings p ts) :
    Ends (Strings p) (ReadError.Cites p) (readColon ts) := by
  unfold readColon
  split
  · exact hts.tail
  · trivial
  · trivial

theorem reads_name (h : ∀ name ∈ names, Dotless name) :
    Reads p (fun _ => True) (readName names) := by
  intro ts hts
  refine (reads_text (by decide) ts hts).bind ?_
  rintro ⟨name, rest⟩ ⟨hname, hrest⟩
  dsimp only
  split
  · exact ⟨trivial, hrest⟩
  · exact ⟨hname, h⟩

theorem reads_choice (h : ∀ name ∈ names, Dotless name) :
    Reads p (fun _ => True) (readChoice names) := by
  intro ts hts
  unfold readChoice
  split
  · exact reads_name h _ hts
  · refine (reads_name h _ hts.tail).bind ?_
    rintro ⟨i, rest⟩ ⟨-, hrest⟩
    refine (ends_colon hrest).bind ?_
    intro ts hts
    split
    · split
      · exact ⟨trivial, hts.tail.tail⟩
      · trivial
      · trivial
    · exact cites_wrongType hts (by decide)
  · trivial
  · trivial

-- ----- Lists

theorem ends_nextItem (hts : Strings p ts) :
    Ends (fun next => ∀ ts', next = some ts' → Strings p ts') (ReadError.Cites p)
      ( nextEntry? first ts) := by
  unfold nextEntry?
  split
  · trivial
  · rintro _ ⟨⟩
  · split
    · rintro _ ⟨⟩
      exact hts
    · split
      · trivial
      · trivial
      · rintro _ ⟨⟩
        exact hts.tail
  · split
    · rintro _ ⟨⟩
      exact hts
    · trivial

theorem ends_closeList (hts : Strings p ts) :
    Ends (Strings p) (ReadError.Cites p) (closeList ts) := by
  unfold closeList
  split
  · exact hts.tail
  · trivial
  · trivial
  · trivial

theorem reads_entries {entry : Reader α} (hentry : Reads p P entry) (fuel : Nat) (first : Bool) :
    Reads p (∀ a ∈ ·, P a) (readEntries entry fuel first) := by
  induction fuel generalizing first with
  | zero => exact fun _ _ => trivial
  | succ fuel ih =>
    intro ts hts
    refine (ends_nextItem hts).bind ?_
    rintro (_ | ts') hts'
    · exact ⟨by simp, hts⟩
    · refine (hentry ts' (hts' ts' rfl)).bind ?_
      rintro ⟨a, ts⟩ ⟨ha, hts⟩
      refine (ih false ts hts).bind ?_
      rintro ⟨as, ts⟩ ⟨has, hts⟩
      exact ⟨by simpa using ⟨ha, has⟩, hts⟩

theorem reads_texts : Reads p (∀ t ∈ ·, p t) readTexts := by
  intro ts hts
  unfold readTexts
  split
  · refine (reads_entries (reads_text (by decide)) _ true _ hts.tail).bind ?_
    rintro ⟨texts, rest⟩ ⟨htexts, hrest⟩
    refine (ends_closeList hrest).bind ?_
    exact fun rest hrest => ⟨htexts, hrest⟩
  · exact cites_wrongType hts (by decide)

-- ----- Objects

theorem ends_nextMember? (hts : Strings p ts) :
    Ends (fun next => ∀ ts', next = some ts' → Strings p ts') (ReadError.Cites p)
      (nextMember? first ts) := by
  unfold nextMember?
  split
  · trivial
  · rintro _ ⟨⟩
  · split
    · trivial
    · split
      · rintro _ ⟨⟩
        exact hts.tail
      · trivial
      · trivial
      · trivial
  · split
    · rintro _ ⟨⟩
      exact hts
    · trivial
  · split <;> trivial

theorem ends_closeObject (hts : Strings p ts) :
    Ends (Strings p) (ReadError.Cites p) (closeObject ts) := by
  unfold closeObject
  split
  · exact hts.tail
  · trivial
  · trivial
  · trivial

/-- The state keeps what each step keeps. -/
theorem reads_object {member : String → σ → Reader σ}
    (hmember : ∀ name st, p name → P st → Reads p P (member name st)) (fuel : Nat) (first : Bool)
    {st : σ} (hst : P st) : Reads p P (readObject member fuel first st) := by
  induction fuel generalizing first st with
  | zero => exact fun _ _ => trivial
  | succ fuel ih =>
    intro ts hts
    refine (ends_nextMember? hts).bind ?_
    rintro (_ | ts') hts'
    · exact ⟨hst, hts⟩
    · refine (reads_text (by decide) ts' (hts' ts' rfl)).bind ?_
      rintro ⟨name, ts⟩ ⟨hname, hts⟩
      refine (hmember name st hname hst ts hts).bind ?_
      rintro ⟨st, ts⟩ ⟨hst, hts⟩
      exact ih false hst ts hts

theorem reads_tableEntry (hname : p name) {t : Table} (ht : ∀ e ∈ t.entries, p e.1 ∧ p e.2) :
    Reads p (fun t : Table => ∀ e ∈ t.entries, p e.1 ∧ p e.2) (readTableEntry name t) := by
  intro ts hts
  refine (ends_colon hts).bind fun ts hts => ?_
  refine (reads_text (by decide) ts hts).bind ?_
  rintro ⟨value, ts⟩ ⟨hvalue, hts⟩
  refine ⟨fun e he => ?_, hts⟩
  rcases Table.mem_place he with rfl | he
  · exact ⟨hname, hvalue⟩
  · exact ht e he

theorem reads_table : Reads p (Shape.Strings p .table) readTable := by
  intro ts hts
  unfold readTable
  split
  · have hempty : ∀ e ∈ Table.empty.entries, p e.1 ∧ p e.2 := by simp [Table.empty]
    refine (reads_object (fun name t hname ht => reads_tableEntry hname ht) _ true hempty _
      hts.tail).bind ?_
    rintro ⟨t, rest⟩ ⟨ht, hrest⟩
    refine (ends_closeObject hrest).bind ?_
    exact fun rest hrest => ⟨ht, hrest⟩
  · exact cites_wrongType hts (by decide)

theorem Skip.run_subset {s : Skip} (h : s.run ts = .ok rest) : rest ⊆ ts := by
  induction ts generalizing s with
  | nil =>
    unfold Skip.run at h
    split at h
    · cases h
      exact List.Subset.refl _
    · cases h
  | cons t ts ih =>
    unfold Skip.run at h
    split at h
    · cases h
      exact List.Subset.refl _
    · split at h
      · exact List.Subset.trans (ih h) (List.subset_cons_self t ts)
      · cases h

theorem ends_skipMember (hts : Strings p ts) :
    Ends (Strings p) (ReadError.Cites p) (skipMember ts) := by
  refine (ends_colon hts).bind fun ts hts => ?_
  cases hskip : skipValue ts with
  | ok rest => exact hts.of_subset (Skip.run_subset hskip)
  | error f => trivial

-- ----- Records

theorem Members.slotStrings_noSlots (ms : Members) : ms.SlotStrings p ms.noSlots := by
  match ms with
  | .nil => trivial
  | .required _ _ rest => exact ⟨by simp, rest.slotStrings_noSlots⟩
  | .absentable _ _ rest => exact ⟨by simp, rest.slotStrings_noSlots⟩

theorem Members.ends_finish (ms : Members) (h : ms.Dotless) {slots : ms.Slots}
    (hslots : ms.SlotStrings p slots) :
    Ends (ms.Strings p) (ReadError.Cites p) (ms.finish slots) := by
  match ms, slots with
  | .nil, () => trivial
  | .required _ _ rest, (some v, slots) =>
    exact (rest.ends_finish h.2.2 hslots.2).bind fun vs hvs => ⟨hslots.1 v rfl, hvs⟩
  | .required _ _ _, (none, _) => exact h.1
  | .absentable _ _ rest, (v, slots) =>
    exact (rest.ends_finish h.2.2 hslots.2).bind fun vs hvs => ⟨hslots.1, hvs⟩

theorem reads_fill {read : Reader α} (hname : Dotless name) (hread : Reads p P read)
    (slot : Option α) : Reads p (fun v => ∀ a, v = some a → P a) (fill name read slot) := by
  intro ts hts
  cases slot with
  | some a => exact hname
  | none =>
    refine (ends_colon hts).bind fun ts hts => ?_
    refine (hread ts hts).bind ?_
    rintro ⟨a, ts⟩ ⟨ha, hts⟩
    exact ⟨by simpa using ha, hts⟩

mutual
theorem Shape.reads : (s : Shape) → s.Dotless → Reads p (s.Strings p) s.read
  | .text expected, h => reads_text h
  | .flag, _ => reads_flag
  | .integer w, _ => reads_integer w
  | .choice names, h => reads_choice h
  | .optional s, h => fun ts hts => by
    unfold Shape.read
    dsimp only
    split
    · exact ⟨trivial, hts.tail⟩
    · exact (s.reads h ts hts).bind fun r hr => hr
  | .texts, _ => reads_texts
  | .table, _ => reads_table
  | .record name ms, h => fun ts hts => by
    unfold Shape.read
    dsimp only
    split
    · refine (ms.reads_list h.2.2 h.2.1 0 _ hts.tail).bind ?_
      rintro ⟨v, rest⟩ ⟨hv, hrest⟩
      refine (ends_closeList hrest).bind ?_
      exact fun rest hrest => ⟨hv, hrest⟩
    · refine (reads_object (fun key slots _ hslots => ms.reads_member h.2.2 key hslots) _ true
        ms.slotStrings_noSlots _ hts.tail).bind ?_
      rintro ⟨slots, rest⟩ ⟨hslots, hrest⟩
      refine (ms.ends_finish h.2.2 hslots).bind fun v hv => ?_
      refine (ends_closeObject hrest).bind ?_
      exact fun rest hrest => ⟨hv, hrest⟩
    · exact cites_wrongType hts h.1
theorem Members.reads_member : (ms : Members) → ms.Dotless → (key : String) → {slots : ms.Slots} →
    ms.SlotStrings p slots → Reads p (ms.SlotStrings p) (ms.readMember key slots)
  | .nil, _, key, (), _ => fun ts hts => by
    refine (ends_skipMember hts).bind ?_
    exact fun ts hts => ⟨trivial, hts⟩
  | .required name s rest, h, key, (v, vs), hslots => fun ts hts => by
    unfold Members.readMember
    split
    · refine (reads_fill h.1 (s.reads h.2.1) v ts hts).bind ?_
      exact fun r hr => ⟨⟨hr.1, hslots.2⟩, hr.2⟩
    · refine (rest.reads_member h.2.2 key hslots.2 ts hts).bind ?_
      exact fun r hr => ⟨⟨hslots.1, hr.1⟩, hr.2⟩
  | .absentable name s rest, h, key, (v, vs), hslots => fun ts hts => by
    unfold Members.readMember
    split
    · refine (reads_fill h.1 (s.reads h.2.1) v ts hts).bind ?_
      exact fun r hr => ⟨⟨hr.1, hslots.2⟩, hr.2⟩
    · refine (rest.reads_member h.2.2 key hslots.2 ts hts).bind ?_
      exact fun r hr => ⟨⟨hslots.1, hr.1⟩, hr.2⟩
theorem Members.reads_list : (ms : Members) → ms.Dotless → {length : String} →
    Json.Dotless length → (index : Nat) → Reads p (ms.Strings p) (ms.readList length index)
  | .nil, _, _, _, _ => fun _ hts => ⟨trivial, hts⟩
  | .required name s rest, h, length, hlength, index => fun ts hts => by
    unfold Members.readList
    refine (ends_nextItem hts).bind ?_
    rintro (_ | ts') hts'
    · exact hlength
    · refine (s.reads h.2.1 ts' (hts' ts' rfl)).bind fun r hr => ?_
      refine (rest.reads_list h.2.2 hlength (index + 1) r.2 hr.2).bind ?_
      exact fun r' hr' => ⟨⟨hr.1, hr'.1⟩, hr'.2⟩
  | .absentable name s rest, h, length, hlength, index => fun ts hts => by
    unfold Members.readList
    refine (ends_nextItem hts).bind ?_
    rintro (_ | ts') hts'
    · refine (rest.reads_list h.2.2 hlength (index + 1) ts hts).bind ?_
      exact fun r hr => ⟨⟨by simp, hr.1⟩, hr.2⟩
    · refine (s.reads h.2.1 ts' (hts' ts' rfl)).bind fun r hr => ?_
      refine (rest.reads_list h.2.2 hlength (index + 1) r.2 hr.2).bind ?_
      exact fun r' hr' => ⟨⟨by simpa using hr.1, hr'.1⟩, hr'.2⟩
end

/-- Whatever holds of the strings of a text holds of those in the value that it
spells and of the one that its error cites. -/
theorem Shape.decode_ends {s : Shape} (h : s.Dotless) {text : Bytes}
    (htext : Json.Strings p (tokens text)) :
    Ends (s.Strings p) (ReadError.Cites p) (s.decode text) := by
  refine (s.reads h _ htext).bind fun r hr => ?_
  dsimp only
  split
  · exact hr.1
  · trivial

end IdentityProvider.Json
