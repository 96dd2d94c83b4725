import IdentityProvider.Json.Format
import IdentityProvider.Proofs.Json.Lexing
import IdentityProvider.Proofs.Json.Scalars

/-!
# Values of a shape are read as they were written

`decode_encode`: in a `Regular` shape, decoding the text of a value gives the
value. A shape is regular when null stands for one absent value only and the
names in it tell its choices and its members apart; those that records are
written in are.
-/

namespace IdentityProvider.Json

-- ----- Regular shapes

def Shape.isOptional : Shape → Bool
  | .optional _ => true
  | _ => false

def Members.names : Members → List String
  | .nil => []
  | .required name _ rest => name :: rest.names
  | .absentable name _ rest => name :: rest.names

mutual
def Shape.Regular : Shape → Prop
  | .optional s => s.isOptional = false ∧ s.Regular
  | .choice names => names.Nodup
  | .record _ ms => ms.Regular
  | _ => True
def Members.Regular : Members → Prop
  | .nil => True
  | .required name s rest => name ∉ rest.names ∧ s.Regular ∧ rest.Regular
  | .absentable name s rest => name ∉ rest.names ∧ s.Regular ∧ rest.Regular
end

mutual
def Shape.decideRegular : (s : Shape) → Decidable s.Regular
  | .text _ | .flag | .integer _ | .texts | .table => .isTrue trivial
  | .optional s => @instDecidableAnd _ _ _ s.decideRegular
  | .choice names => inferInstanceAs (Decidable names.Nodup)
  | .record _ ms => ms.decideRegular
def Members.decideRegular : (ms : Members) → Decidable ms.Regular
  | .nil => .isTrue trivial
  | .required _ s rest => @instDecidableAnd _ _ _ (@instDecidableAnd _ _ s.decideRegular rest.decideRegular)
  | .absentable _ s rest => @instDecidableAnd _ _ _ (@instDecidableAnd _ _ s.decideRegular rest.decideRegular)
end

instance (s : Shape) : Decidable s.Regular := s.decideRegular

-- ----- Separated entries

/-- Entries that go on after another one. -/
def continued (entries : List (List Token)) : List Token := entries.flatMap (.comma :: ·)

theorem separated_cons (entry : List Token) (entries : List (List Token)) :
    separated (entry :: entries) = entry ++ continued entries := by
  induction entries generalizing entry with
  | nil => simp [separated, continued]
  | cons next entries ih =>
    rw [separated, ih next]
    · simp [continued]
    · simp

theorem length_le_length_separated (entries : List (List Token)) :
    entries.length ≤ (separated entries).length + 1 := by
  cases entries with
  | nil => simp
  | cons entry entries =>
    have hle : entries.length ≤ (continued entries).length := by
      induction entries with
      | nil => simp
      | cons e es ih =>
        simp only [continued, List.flatMap_cons, List.cons_append, List.length_cons,
          List.length_append] at ih ⊢
        omega
    rw [separated_cons, List.length_append, List.length_cons]
    omega

-- ----- Lists

theorem readEntries_end (entry : Reader α) (fuel : Nat) (first : Bool) (rest : List Token) :
    readEntries entry (fuel + 1) first (.rightBracket :: rest) = .ok ([], .rightBracket :: rest) :=
  rfl

theorem readEntries_step {entry : Reader α} (hnext : nextEntry? first ts = .ok (some ts'))
    (hentry : entry ts' = .ok (a, more)) (hrest : readEntries entry fuel false more = .ok (as, rest)) :
    readEntries entry (fuel + 1) first ts = .ok (a :: as, rest) := by
  rw [readEntries, bind_of_ok _ hnext]
  show (entry ts' >>= _) = _
  rw [bind_of_ok _ hentry]
  show (readEntries entry fuel false more >>= _) = _
  rw [bind_of_ok _ hrest]

def textEntries (ss : List String) : List (List Token) := ss.map fun s => [stringToken s]

theorem readEntries_continued (ss : List String) {fuel : Nat} (h : ss.length < fuel)
    (rest : List Token) :
    readEntries (readText Shape.anyText) fuel false
      (continued (textEntries ss) ++ .rightBracket :: rest) = .ok (ss, .rightBracket :: rest) := by
  induction ss generalizing fuel with
  | nil =>
    obtain ⟨fuel, rfl⟩ := Nat.exists_eq_succ_of_ne_zero (Nat.ne_of_gt h)
    rfl
  | cons s ss ih =>
    obtain ⟨fuel, rfl⟩ := Nat.exists_eq_succ_of_ne_zero (Nat.ne_of_gt (Nat.zero_lt_of_lt h))
    have hlt : ss.length < fuel := Nat.lt_of_succ_lt_succ h
    exact readEntries_step rfl (readText_stringToken _ s _) (ih hlt)

theorem readTexts_write (ss : List String) (rest : List Token) :
    readTexts (Shape.texts.write ss ++ rest) = .ok (ss, rest) := by
  have htokens : Shape.texts.write ss ++ rest =
      .leftBracket :: (separated (textEntries ss) ++ .rightBracket :: rest) := by
    simp [Shape.write, textEntries]
  have hlen := length_le_length_separated (textEntries ss)
  have hread : readEntries (readText Shape.anyText)
      ((separated (textEntries ss) ++ .rightBracket :: rest).length + 1) true
      (separated (textEntries ss) ++ .rightBracket :: rest) = .ok (ss, .rightBracket :: rest) := by
    cases ss with
    | nil => exact readEntries_end _ _ _ rest
    | cons s ss =>
      simp only [textEntries, List.length_map, List.length_cons] at hlen
      refine readEntries_step ?_ (readText_stringToken _ s _) (readEntries_continued ss ?_ rest)
      · simp only [textEntries, List.map_cons, separated_cons]
        rfl
      · simp only [textEntries, List.length_append, List.length_cons]
        omega
  rw [htokens, readTexts, bind_of_ok _ hread]
  rfl

-- ----- Objects

/-- Members that a step reads one after the other, from one state to another;
their names satisfy `p`. -/
inductive MemberChain (member : String → σ → Reader σ) (p : String → Prop) :
    σ → List (List Token) → σ → Prop
  | nil : MemberChain member p st [] st
  | cons (hname : p name)
      (hread : ∀ rest, member name st (.colon :: (value ++ rest)) = .ok (st', rest))
      (hrest : MemberChain member p st' entries st'') :
    MemberChain member p st (memberTokens name value :: entries) st''

/-- A chain read by one step is read by another that does the same to a part of its state. -/
theorem MemberChain.lift {member : String → σ → Reader σ} {member' : String → τ → Reader τ}
    (f : σ → τ) (hp : ∀ name, p name → q name)
    (hstep : ∀ name st ts st' rest, p name → member name st ts = .ok (st', rest) →
      member' name (f st) ts = .ok (f st', rest))
    (h : MemberChain member p st entries st') : MemberChain member' q (f st) entries (f st') := by
  induction h with
  | nil => exact .nil
  | cons hname hread _ ih =>
    exact .cons (hp _ hname) (fun rest => hstep _ _ _ _ _ hname (hread rest)) ih

theorem readObject_end (member : String → σ → Reader σ) (fuel : Nat) (first : Bool) (st : σ)
    (rest : List Token) :
    readObject member (fuel + 1) first st (.rightBrace :: rest) = .ok (st, .rightBrace :: rest) :=
  rfl

theorem readObject_step {member : String → σ → Reader σ} {name : String}
    (hnext : nextMember? first ts = .ok (some (stringToken name :: ts')))
    (hmember : member name st ts' = .ok (st', more))
    (hrest : readObject member fuel false st' more = .ok (st'', rest)) :
    readObject member (fuel + 1) first st ts = .ok (st'', rest) := by
  rw [readObject, bind_of_ok _ hnext]
  show (readText Shape.anyText (stringToken name :: ts') >>= _) = _
  rw [bind_of_ok _ (readText_stringToken _ name ts')]
  show (member name st ts' >>= _) = _
  rw [bind_of_ok _ hmember]
  exact hrest

theorem readObject_continued (h : MemberChain member p st entries st') {fuel : Nat}
    (hfuel : entries.length < fuel) (rest : List Token) :
    readObject member fuel false st (continued entries ++ .rightBrace :: rest) =
      .ok (st', .rightBrace :: rest) := by
  induction h generalizing fuel with
  | nil =>
    obtain ⟨fuel, rfl⟩ := Nat.exists_eq_succ_of_ne_zero (Nat.ne_of_gt hfuel)
    rfl
  | @cons name st value st' entries st'' _ hread _ ih =>
    obtain ⟨fuel, rfl⟩ := Nat.exists_eq_succ_of_ne_zero (Nat.ne_of_gt (Nat.zero_lt_of_lt hfuel))
    have htokens : continued (memberTokens name value :: entries) ++ .rightBrace :: rest =
        .comma :: stringToken name :: .colon ::
          (value ++ (continued entries ++ .rightBrace :: rest)) := by
      simp [continued, memberTokens]
    rw [htokens]
    exact readObject_step rfl (hread _) (ih (Nat.lt_of_succ_lt_succ hfuel))

/-- An object's members are read as the chain reads them. -/
theorem readObject_chain (h : MemberChain member p st entries st') (rest : List Token) :
    readObject member ((separated entries ++ .rightBrace :: rest).length + 1) true st
      (separated entries ++ .rightBrace :: rest) = .ok (st', .rightBrace :: rest) := by
  have hlen := length_le_length_separated entries
  cases h with
  | nil => exact readObject_end _ _ _ _ rest
  | @cons name st value st' entries st'' _ hread hchain =>
    have hfuel : entries.length <
        (separated (memberTokens name value :: entries) ++ .rightBrace :: rest).length := by
      simp only [List.length_append, List.length_cons] at hlen ⊢
      omega
    refine readObject_step ?_ (hread _) (readObject_continued hchain hfuel rest)
    rw [separated_cons, List.append_assoc]
    rfl

-- ----- Tables

theorem place_append {entries : List (String × String)} {name : String} (value : String)
    (h : ∀ e ∈ entries, e.1 < name) :
    Table.place name value entries = entries ++ [(name, value)] := by
  induction entries with
  | nil => rfl
  | cons e entries ih =>
    obtain ⟨n, v⟩ := e
    have hlt : n < name := h (n, v) List.mem_cons_self
    have hrest := ih fun e he => h e (List.mem_cons_of_mem _ he)
    simp [Table.place, String.lt_asymm hlt, (String.ne_of_lt hlt).symm, hrest]

def tableEntries (entries : List (String × String)) : List (List Token) :=
  entries.map fun e => memberTokens e.1 [stringToken e.2]

theorem readTableEntry_write (t : Table) (name value : String) (rest : List Token) :
    readTableEntry name t (.colon :: ([stringToken value] ++ rest)) =
      .ok (t.insert name value, rest) := by
  show (readText Shape.anyText (stringToken value :: rest) >>= _) = _
  rw [bind_of_ok _ (readText_stringToken _ value rest)]

/-- Entries in their order are put behind those that were read before. -/
theorem tableChain {entries : List (String × String)} {t t' : Table}
    (h : t'.entries = t.entries ++ entries) :
    MemberChain readTableEntry (fun _ => True) t (tableEntries entries) t' := by
  induction entries generalizing t with
  | nil =>
    have hsame : t = t' := by
      obtain ⟨es, _⟩ := t
      obtain ⟨es', _⟩ := t'
      simpa using h.symm
    rw [hsame]
    exact .nil
  | cons e entries ih =>
    have hlt : ∀ e' ∈ t.entries, e'.1 < e.1 := by
      intro e' he'
      have horder := t'.inOrder
      rw [InOrder, h, List.pairwise_append] at horder
      exact horder.2.2 e' he' e List.mem_cons_self
    have hentries : (t.insert e.1 e.2).entries = t.entries ++ [e] := place_append e.2 hlt
    refine .cons trivial (fun rest => readTableEntry_write t e.1 e.2 rest) (ih ?_)
    rw [h, hentries, List.append_assoc]
    rfl

theorem readTable_write (t : Table) (rest : List Token) :
    readTable (Shape.table.write t ++ rest) = .ok (t, rest) := by
  have htokens : Shape.table.write t ++ rest =
      .leftBrace :: (separated (tableEntries t.entries) ++ .rightBrace :: rest) := by
    simp [Shape.write, tableEntries]
  have hchain : MemberChain readTableEntry (fun _ => True) .empty (tableEntries t.entries) t :=
    tableChain rfl
  rw [htokens, readTable, bind_of_ok _ (readObject_chain hchain rest)]
  rfl

-- ----- Records

/-- The slots of a record that was read whole. -/
def Members.slots : (ms : Members) → ms.Value → ms.Slots
  | .nil, () => ()
  | .required _ _ rest, (v, vs) => (some v, rest.slots vs)
  | .absentable _ _ rest, (v, vs) => (v, rest.slots vs)

theorem Members.finish_slots (ms : Members) (v : ms.Value) : ms.finish (ms.slots v) = .ok v := by
  match ms, v with
  | .nil, () => rfl
  | .required _ _ rest, (v, vs) =>
    rw [Members.slots, Members.finish, bind_of_ok _ (rest.finish_slots vs)]
  | .absentable _ _ rest, (v, vs) =>
    rw [Members.slots, Members.finish, bind_of_ok _ (rest.finish_slots vs)]

theorem fill_none {read : Reader α} (name : String) (h : read ts = .ok (a, rest)) :
    fill name read none (.colon :: ts) = .ok (some a, rest) := by
  show (read ts >>= _) = _
  rw [bind_of_ok _ h]

-- ----- All values

/-- Only an optional shape writes null first. -/
theorem Shape.head_write {s : Shape} (h : s.isOptional = false) (v : s.Value) :
    ∃ t ts, s.write v = t :: ts ∧ t ≠ .null := by
  cases s with
  | integer w =>
    refine ⟨_, [], rfl, ?_⟩
    cases w.toInt v <;> simp [integerToken]
  | optional s => cases h
  | _ => exact ⟨_, _, rfl, by simp [stringToken]⟩

theorem Shape.read_optional {s : Shape} {t : Token} (h : t ≠ .null) (ts : List Token) :
    (Shape.optional s).read (t :: ts) = s.read (t :: ts) >>= fun r => .ok (some r.1, r.2) := by
  cases t with
  | null => exact absurd rfl h
  | _ => rfl

theorem Shape.read_optional_some {s : Shape} (h : s.isOptional = false) {v : s.Value}
    (hread : s.read (s.write v ++ rest) = .ok (v, rest)) :
    (Shape.optional s).read (s.write v ++ rest) = .ok (some v, rest) := by
  obtain ⟨t, ts, hwrite, hnull⟩ := Shape.head_write h v
  rw [hwrite, List.cons_append] at hread ⊢
  rw [Shape.read_optional hnull, bind_of_ok _ hread]

theorem Members.readMember_first {s : Shape} {v : s.Value} {rest : Members} (vs : rest.Slots)
    (h : s.read ts = .ok (v, more)) :
    (Members.required name s rest).readMember name (none, vs) (.colon :: ts) =
      .ok ((some v, vs), more) := by
  show (if name = name then fill name s.read none _ >>= _ else _) = _
  rw [if_pos rfl, bind_of_ok _ (fill_none name h)]

/-- Members that come after another one are read past it. -/
theorem Members.chain_rest {s : Shape} {rest : Members} {vs vs' : rest.Slots}
    (hname : name ∉ rest.names) (v : Option s.Value)
    (h : MemberChain rest.readMember (· ∈ rest.names) vs entries vs') :
    MemberChain (Members.required name s rest).readMember (· ∈ name :: rest.names)
      (v, vs) entries (v, vs') := by
  refine h.lift (fun vs => (v, vs)) (fun _ => List.mem_cons_of_mem _) ?_
  intro key vs ts vs' more hkey hread
  have hne : ¬ key = name := fun heq => hname (heq ▸ hkey)
  rw [Members.readMember, if_neg hne, bind_of_ok _ hread]

mutual
theorem Shape.read_write : (s : Shape) → s.Regular → (v : s.Value) → (rest : List Token) →
    s.read (s.write v ++ rest) = .ok (v, rest)
  | .text expected, _, v, rest => readText_stringToken expected v rest
  | .flag, _, v, rest => rfl
  | .integer w, _, v, rest => readInteger_integerToken w v rest
  | .choice _, h, v, rest => readChoice_stringToken h v rest
  | .optional _, _, none, rest => rfl
  | .optional s, h, some v, rest => Shape.read_optional_some h.1 (s.read_write h.2 v rest)
  | .texts, _, v, rest => readTexts_write v rest
  | .table, _, v, rest => readTable_write v rest
  | .record name ms, h, v, rest => by
    have htokens : (Shape.record name ms).write v ++ rest =
        .leftBrace :: (separated (ms.write v) ++ .rightBrace :: rest) := by
      simp [Shape.write]
    rw [htokens, Shape.read]
    show (readObject ms.readMember _ true ms.noSlots _ >>= _) = _
    rw [bind_of_ok _ (readObject_chain (ms.chain_write h v) rest)]
    show (ms.finish (ms.slots v) >>= _) = _
    rw [bind_of_ok _ (ms.finish_slots v)]
    rfl
theorem Members.chain_write : (ms : Members) → ms.Regular → (v : ms.Value) →
    MemberChain ms.readMember (· ∈ ms.names) ms.noSlots (ms.write v) (ms.slots v)
  | .nil, _, () => .nil
  | .required _ s rest, ⟨hname, hs, hrest⟩, (v, vs) =>
    .cons List.mem_cons_self (fun more => Members.readMember_first _ (s.read_write hs v more))
      (Members.chain_rest hname _ (rest.chain_write hrest vs))
  -- A member that may be absent is read in the same way as one that may not.
  | .absentable _ s rest, ⟨hname, hs, hrest⟩, (some v, vs) =>
    .cons List.mem_cons_self (fun more => Members.readMember_first _ (s.read_write hs v more))
      (Members.chain_rest hname _ (rest.chain_write hrest vs))
  | .absentable _ _ rest, ⟨hname, _, hrest⟩, (none, vs) =>
    Members.chain_rest hname none (rest.chain_write hrest vs)
end

theorem decode_encode {s : Shape} (h : s.Regular) (v : s.Value) : s.decode (s.encode v) = .ok v := by
  have hread := s.read_write h v []
  rw [List.append_nil] at hread
  rw [Shape.decode, tokens_encode, bind_of_ok _ hread]
  rfl

theorem Format.decode_encode {f : Format α} (h : f.shape.Regular) (a : α) :
    f.decode (f.encode a) = .ok (f.build (f.view a)) := by
  rw [Format.decode, Format.encode, Json.decode_encode h]
  rfl

end IdentityProvider.Json
