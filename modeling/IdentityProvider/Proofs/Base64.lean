import IdentityProvider.Base64
import IdentityProvider.Proofs.Chain

/-!
# Base64 has one spelling for each byte string

`decode_eq_ok_iff`: in each alphabet, a text decodes to some bytes exactly when
it is what they encode to. What is encoded consists of symbols, so neither the
dot between the parts of a token nor the dollar sign between the fields of a
stored hash is ever in it.
-/

namespace IdentityProvider.Base64

-- ----- Symbols

theorem value?_symbol (a : Alphabet) {v : Nat} (h : v < 64) : a.value? (a.symbol v) = some v := by
  revert v
  cases a <;> decide +kernel

theorem symbol_ne_pad (a : Alphabet) {v : Nat} (h : v < 64) : a.symbol v ≠ pad := by
  revert v
  cases a <;> decide +kernel

theorem symbol_url_ne_dot {v : Nat} (h : v < 64) : Alphabet.url.symbol v ≠ 46 := by
  revert v
  decide +kernel

theorem read_symbol (a : Alphabet) (offset : Nat) {v : Nat} (h : v < 64) :
    a.read offset (a.symbol v) = .ok v := by
  simp [Alphabet.read, value?_symbol a h]

theorem mem_encode {a : Alphabet} {bs : Bytes} {b : UInt8} (h : b ∈ encode a bs) :
    ∃ v, v < 64 ∧ b = a.symbol v := by
  fun_induction encode a bs with
  | case1 => cases h
  | case2 x =>
    have hx := x.toNat_lt
    rcases List.mem_cons.mp h with rfl | h
    · exact ⟨_, by omega, rfl⟩
    · exact ⟨_, by omega, List.mem_singleton.mp h⟩
  | case3 x y =>
    have hx := x.toNat_lt
    have hy := y.toNat_lt
    simp only [List.mem_cons, List.not_mem_nil, or_false] at h
    rcases h with rfl | rfl | rfl <;> exact ⟨_, by omega, rfl⟩
  | case4 x y z rest ih =>
    have hx := x.toNat_lt
    have hy := y.toNat_lt
    have hz := z.toNat_lt
    simp only [List.mem_cons] at h
    rcases h with rfl | rfl | rfl | rfl | h
    · exact ⟨_, by omega, rfl⟩
    · exact ⟨_, by omega, rfl⟩
    · exact ⟨_, by omega, rfl⟩
    · exact ⟨_, by omega, rfl⟩
    · exact ih h

theorem dot_not_mem_encode (bs : Bytes) : 46 ∉ encode .url bs := by
  intro h
  obtain ⟨v, hv, heq⟩ := mem_encode h
  exact symbol_url_ne_dot hv heq.symm

-- ----- The last chunk

theorem tailRead_symbols (a : Alphabet) (start place : Nat) {vs : List Nat} (h : ∀ v ∈ vs, v < 64) :
    Tail.read a start place none (vs.map a.symbol) = .ok ⟨vs, false⟩ := by
  induction vs generalizing place with
  | nil => rfl
  | cons v vs ih =>
    have hv := h v List.mem_cons_self
    have hrest := ih (place + 1) fun w hw => h w (List.mem_cons_of_mem _ hw)
    rw [List.map_cons, Tail.read, if_neg (symbol_ne_pad a hv)]
    rw [bind_of_ok _ (read_symbol a _ hv), bind_of_ok _ hrest]

/-- A chunk of symbols is decoded as its values say. -/
theorem decodeFrom_chunk (a : Alphabet) (offset : Nat) (vs : List Nat) (h : ∀ v ∈ vs, v < 64)
    (hlen : vs.length ≤ 4) :
    decodeFrom a offset (vs.map a.symbol) =
      Tail.bytes offset (vs.map a.symbol) ⟨vs, false⟩ := by
  rw [decodeFrom]
  · rw [bind_of_ok _ (tailRead_symbols a offset 0 h)]
  · intro w x y z b rest heq
    have := congrArg List.length heq
    simp at this
    omega

theorem ofNat_of_eq {n : Nat} {x : UInt8} (h : n = x.toNat) : UInt8.ofNat n = x := by
  rw [h, UInt8.ofNat_toNat]

theorem bytes_two (offset : Nat) (chunk : Bytes) (p : Nat) {q : Nat} (h : q % 16 = 0) :
    Tail.bytes offset chunk ⟨[p, q], false⟩ = .ok [UInt8.ofNat (p * 4 + q / 16)] := by
  simp [Tail.bytes, h]

theorem bytes_three (offset : Nat) (chunk : Bytes) (p q : Nat) {r : Nat} (h : r % 4 = 0) :
    Tail.bytes offset chunk ⟨[p, q, r], false⟩ =
      .ok [UInt8.ofNat (p * 4 + q / 16), UInt8.ofNat (q % 16 * 16 + r / 4)] := by
  simp [Tail.bytes, h]

theorem bytes_four (offset : Nat) (chunk : Bytes) (p q r s : Nat) :
    Tail.bytes offset chunk ⟨[p, q, r, s], false⟩ =
      .ok [UInt8.ofNat (p * 4 + q / 16), UInt8.ofNat (q % 16 * 16 + r / 4),
        UInt8.ofNat (r % 4 * 64 + s)] := by
  simp [Tail.bytes]

-- ----- Whole texts

theorem encode_eq_nil_iff {a : Alphabet} {bs : Bytes} : encode a bs = [] ↔ bs = [] := by
  fun_cases encode a bs <;> simp

/-- A group of four symbols, with whatever symbols follow it. -/
theorem decodeFrom_group (a : Alphabet) (offset : Nat) {p q r s : Nat} (hp : p < 64) (hq : q < 64)
    (hr : r < 64) (hs : s < 64) {rest out : Bytes} (hrest : decodeFrom a (offset + 4) rest = .ok out)
    (hnil : rest = [] → out = []) :
    decodeFrom a offset (a.symbol p :: a.symbol q :: a.symbol r :: a.symbol s :: rest) =
      .ok (UInt8.ofNat (p * 4 + q / 16) :: UInt8.ofNat (q % 16 * 16 + r / 4) ::
        UInt8.ofNat (r % 4 * 64 + s) :: out) := by
  cases rest with
  | nil =>
    have hchunk := decodeFrom_chunk a offset [p, q, r, s] (by simp [hp, hq, hr, hs]) (by simp)
    rw [bytes_four] at hchunk
    rw [hnil rfl]
    exact hchunk
  | cons b rest =>
    rw [decodeFrom, bind_of_ok _ (read_symbol a _ hp), bind_of_ok _ (read_symbol a _ hq),
      bind_of_ok _ (read_symbol a _ hr), bind_of_ok _ (read_symbol a _ hs), bind_of_ok _ hrest]

theorem decodeFrom_encode (a : Alphabet) (offset : Nat) (bs : Bytes) :
    decodeFrom a offset (encode a bs) = .ok bs := by
  fun_induction encode a bs generalizing offset with
  | case1 => rfl
  | case2 x =>
    have hx := x.toNat_lt
    have hchunk := decodeFrom_chunk a offset [x.toNat / 4, x.toNat % 4 * 16]
      (by simp; omega) (by simp)
    rw [bytes_two _ _ _ (by omega), ofNat_of_eq (x := x) (by omega)] at hchunk
    exact hchunk
  | case3 x y =>
    have hx := x.toNat_lt
    have hy := y.toNat_lt
    have hchunk := decodeFrom_chunk a offset
      [x.toNat / 4, x.toNat % 4 * 16 + y.toNat / 16, y.toNat % 16 * 4]
      (by simp; omega) (by simp)
    rw [bytes_three _ _ _ _ (by omega), ofNat_of_eq (x := x) (by omega),
      ofNat_of_eq (x := y) (by omega)] at hchunk
    exact hchunk
  | case4 x y z rest ih =>
    have hx := x.toNat_lt
    have hy := y.toNat_lt
    have hz := z.toNat_lt
    have hgroup := decodeFrom_group a offset (p := x.toNat / 4)
      (q := x.toNat % 4 * 16 + y.toNat / 16) (r := y.toNat % 16 * 4 + z.toNat / 64)
      (s := z.toNat % 64) (by omega) (by omega) (by omega) (by omega) (ih (offset + 4))
      encode_eq_nil_iff.mp
    rw [ofNat_of_eq (x := x) (by omega), ofNat_of_eq (x := y) (by omega),
      ofNat_of_eq (x := z) (by omega)] at hgroup
    exact hgroup

/-- The last byte of what was encoded is a symbol, so it is no stray. -/
theorem strayLast?_encode (a : Alphabet) (bs : Bytes) : strayLast? a (encode a bs) = none := by
  unfold strayLast?
  split
  · rename_i b hb
    obtain ⟨v, hv, rfl⟩ := mem_encode (List.mem_of_getLast? hb)
    simp [value?_symbol a hv]
  · rfl

theorem decode_encode (a : Alphabet) (bs : Bytes) : decode a (encode a bs) = .ok bs := by
  rw [decode, strayLast?_encode]
  exact decodeFrom_encode a 0 bs

-- ----- Nothing else is decoded

theorem value?_eq_some {a : Alphabet} {b : UInt8} {v : Nat} (h : a.value? b = some v) :
    v < 64 ∧ a.symbol v = b := by
  obtain ⟨hlt, hget, -⟩ := List.idxOf?_eq_some_iff.mp h
  have hlength : a.symbols.length = 64 := by cases a <;> rfl
  refine ⟨by omega, ?_⟩
  rw [Alphabet.symbol, List.getElem?_eq_getElem hlt]
  simpa using hget

theorem read_eq_ok_iff {a : Alphabet} {offset : Nat} {b : UInt8} {v : Nat} :
    a.read offset b = .ok v ↔ v < 64 ∧ b = a.symbol v := by
  constructor
  · intro h
    unfold Alphabet.read at h
    split at h
    · rename_i w hw
      cases h
      obtain ⟨hlt, hb⟩ := value?_eq_some hw
      exact ⟨hlt, hb.symm⟩
    · cases h
  · rintro ⟨hv, rfl⟩
    exact read_symbol a offset hv

/-- Padding that was seen once is not forgotten. -/
theorem padded_of_tailRead {a : Alphabet} {start place first : Nat} {chunk : Bytes} {t : Tail}
    (h : Tail.read a start place (some first) chunk = .ok t) : t.padded = true := by
  induction chunk generalizing place with
  | nil =>
    cases h
    rfl
  | cons b chunk ih =>
    unfold Tail.read at h
    split at h
    · split at h
      · cases h
      · exact ih h
    · cases h

theorem chunk_of_tailRead {a : Alphabet} {start place : Nat} {chunk : Bytes} {t : Tail}
    (h : Tail.read a start place none chunk = .ok t) (hpadded : t.padded = false) :
    chunk = t.values.map a.symbol ∧ ∀ v ∈ t.values, v < 64 := by
  induction chunk generalizing place t with
  | nil =>
    cases h
    simp
  | cons b chunk ih =>
    rw [Tail.read] at h
    split at h
    · split at h
      · cases h
      · rw [Option.none_or] at h
        rw [padded_of_tailRead h] at hpadded
        cases hpadded
    · obtain ⟨v, hv, h⟩ := bind_eq_ok_iff.mp h
      obtain ⟨tail, htail, h⟩ := bind_eq_ok_iff.mp h
      cases h
      obtain ⟨hlt, rfl⟩ := read_eq_ok_iff.mp hv
      obtain ⟨rfl, hvalues⟩ := ih htail hpadded
      exact ⟨rfl, by simpa using ⟨hlt, hvalues⟩⟩

theorem encode_two (a : Alphabet) {p q : Nat} (hp : p < 64) (hq : q < 64) (hspare : q % 16 = 0) :
    encode a [UInt8.ofNat (p * 4 + q / 16)] = [a.symbol p, a.symbol q] := by
  have hx : (UInt8.ofNat (p * 4 + q / 16)).toNat = p * 4 + q / 16 :=
    UInt8.toNat_ofNat_of_lt' (show _ < 256 by omega)
  have hfirst : (p * 4 + q / 16) / 4 = p := by omega
  have hsecond : (p * 4 + q / 16) % 4 * 16 = q := by omega
  rw [encode, hx, hfirst, hsecond]

theorem encode_three (a : Alphabet) {p q r : Nat} (hp : p < 64) (hq : q < 64) (hr : r < 64)
    (hspare : r % 4 = 0) :
    encode a [UInt8.ofNat (p * 4 + q / 16), UInt8.ofNat (q % 16 * 16 + r / 4)] =
      [a.symbol p, a.symbol q, a.symbol r] := by
  have hx : (UInt8.ofNat (p * 4 + q / 16)).toNat = p * 4 + q / 16 :=
    UInt8.toNat_ofNat_of_lt' (show _ < 256 by omega)
  have hy : (UInt8.ofNat (q % 16 * 16 + r / 4)).toNat = q % 16 * 16 + r / 4 :=
    UInt8.toNat_ofNat_of_lt' (show _ < 256 by omega)
  have hfirst : (p * 4 + q / 16) / 4 = p := by omega
  have hsecond : (p * 4 + q / 16) % 4 * 16 + (q % 16 * 16 + r / 4) / 16 = q := by omega
  have hthird : (q % 16 * 16 + r / 4) % 16 * 4 = r := by omega
  rw [encode, hx, hy, hfirst, hsecond, hthird]

theorem encode_group (a : Alphabet) {p q r s : Nat} (hp : p < 64) (hq : q < 64) (hr : r < 64)
    (hs : s < 64) (rest : Bytes) :
    encode a (UInt8.ofNat (p * 4 + q / 16) :: UInt8.ofNat (q % 16 * 16 + r / 4) ::
        UInt8.ofNat (r % 4 * 64 + s) :: rest) =
      a.symbol p :: a.symbol q :: a.symbol r :: a.symbol s :: encode a rest := by
  have hx : (UInt8.ofNat (p * 4 + q / 16)).toNat = p * 4 + q / 16 :=
    UInt8.toNat_ofNat_of_lt' (show _ < 256 by omega)
  have hy : (UInt8.ofNat (q % 16 * 16 + r / 4)).toNat = q % 16 * 16 + r / 4 :=
    UInt8.toNat_ofNat_of_lt' (show _ < 256 by omega)
  have hz : (UInt8.ofNat (r % 4 * 64 + s)).toNat = r % 4 * 64 + s :=
    UInt8.toNat_ofNat_of_lt' (show _ < 256 by omega)
  have hfirst : (p * 4 + q / 16) / 4 = p := by omega
  have hsecond : (p * 4 + q / 16) % 4 * 16 + (q % 16 * 16 + r / 4) / 16 = q := by omega
  have hthird : (q % 16 * 16 + r / 4) % 16 * 4 + (r % 4 * 64 + s) / 64 = r := by omega
  have hfourth : (r % 4 * 64 + s) % 64 = s := by omega
  rw [encode, hx, hy, hz, hfirst, hsecond, hthird, hfourth]

theorem padded_of_bytes {start : Nat} {chunk bs : Bytes} {t : Tail}
    (h : t.bytes start chunk = .ok bs) : t.padded = false := by
  unfold Tail.bytes at h
  split at h
  · cases h
  split at h
  · cases h
  · rename_i hpadded
    simpa using hpadded

theorem encode_of_bytes {a : Alphabet} {offset : Nat} {values : List Nat} {bs : Bytes}
    (hvalues : ∀ v ∈ values, v < 64) (hlength : values.length ≤ 4)
    (h : Tail.bytes offset (values.map a.symbol) ⟨values, false⟩ = .ok bs) :
    values.map a.symbol = encode a bs := by
  unfold Tail.bytes at h
  split at h
  · cases h
  rename_i hshort
  rw [if_neg (by simp)] at h
  match values, hvalues with
  | [], _ =>
    cases h
    rfl
  | [_], _ => simp at hshort
  | [p, q], hvalues =>
    simp only [List.mem_cons, List.not_mem_nil, or_false, forall_eq_or_imp, forall_eq] at hvalues
    obtain ⟨hp, hq⟩ := hvalues
    simp only at h
    split at h
    · rename_i hspare
      cases h
      exact (encode_two a hp hq hspare).symm
    · cases h
  | [p, q, r], hvalues =>
    simp only [List.mem_cons, List.not_mem_nil, or_false, forall_eq_or_imp, forall_eq] at hvalues
    obtain ⟨hp, hq, hr⟩ := hvalues
    simp only at h
    split at h
    · rename_i hspare
      cases h
      exact (encode_three a hp hq hr hspare).symm
    · cases h
  | [p, q, r, s], hvalues =>
    simp only [List.mem_cons, List.not_mem_nil, or_false, forall_eq_or_imp, forall_eq] at hvalues
    obtain ⟨hp, hq, hr, hs⟩ := hvalues
    cases h
    exact (encode_group a hp hq hr hs []).symm
  | _ :: _ :: _ :: _ :: _ :: _, _ =>
    simp only [List.length_cons] at hlength
    omega

theorem encode_of_chunk {a : Alphabet} {offset : Nat} {chunk bs : Bytes} {t : Tail}
    (hlength : chunk.length ≤ 4) (hread : Tail.read a offset 0 none chunk = .ok t)
    (hbytes : t.bytes offset chunk = .ok bs) : chunk = encode a bs := by
  have hpadded := padded_of_bytes hbytes
  obtain ⟨values, padded⟩ := t
  cases hpadded
  obtain ⟨rfl, hvalues⟩ := chunk_of_tailRead hread rfl
  exact encode_of_bytes hvalues (by simpa using hlength) hbytes

theorem encode_of_decodeFrom {a : Alphabet} {offset : Nat} {text bs : Bytes}
    (h : decodeFrom a offset text = .ok bs) : text = encode a bs := by
  induction offset, text using decodeFrom.induct generalizing bs with
  | case1 offset w x y z b rest ih =>
    simp only [decodeFrom, bind_eq_ok_iff, read_eq_ok_iff] at h
    obtain ⟨p, ⟨hp, rfl⟩, q, ⟨hq, rfl⟩, r, ⟨hr, rfl⟩, s, ⟨hs, rfl⟩, tail, htail, hbytes⟩ := h
    cases hbytes
    rw [encode_group a hp hq hr hs, ih htail]
  | case2 offset chunk hshort =>
    have hlength : chunk.length ≤ 4 := by
      match chunk, hshort with
      | [], _ | [_], _ | [_, _], _ | [_, _, _], _ | [_, _, _, _], _ => simp
      | w :: x :: y :: z :: b :: rest, hshort => exact (hshort w x y z b rest rfl).elim
    rw [decodeFrom] at h
    · obtain ⟨t, hread, hbytes⟩ := bind_eq_ok_iff.mp h
      exact encode_of_chunk hlength hread hbytes
    · exact hshort

theorem decode_eq_ok_iff {a : Alphabet} {text bs : Bytes} :
    decode a text = .ok bs ↔ text = encode a bs := by
  constructor
  · intro h
    unfold decode at h
    split at h
    · cases h
    · exact encode_of_decodeFrom h
  · rintro rfl
    exact decode_encode a bs

-- ----- What an encoding looks like

theorem length_encode (a : Alphabet) (bs : Bytes) :
    (encode a bs).length = (4 * bs.length + 2) / 3 := by
  fun_induction encode a bs with
  | case4 x y z rest ih =>
    simp only [List.length_cons, ih]
    omega
  | _ => simp

theorem mem_symbols_of_mem_encode {a : Alphabet} {bs : Bytes} {b : UInt8} (h : b ∈ encode a bs) :
    b ∈ a.symbols := by
  obtain ⟨v, hv, rfl⟩ := mem_encode h
  have hlength : a.symbols.length = 64 := by cases a <;> rfl
  rw [Alphabet.symbol, List.getElem?_eq_getElem (by omega)]
  exact List.getElem_mem _

theorem lt_of_mem_encode {a : Alphabet} {bs : Bytes} {b : UInt8} (h : b ∈ encode a bs) :
    b.toNat < 128 := by
  have hsymbols : ∀ b ∈ a.symbols, b.toNat < 128 := by cases a <;> decide +kernel
  exact hsymbols b (mem_symbols_of_mem_encode h)

/-- A character that no symbol shows is not in the text of an encoding. -/
theorem not_mem_ascii_encode {a : Alphabet} {c : Char}
    (h : ∀ b ∈ a.symbols, Char.ofNat b.toNat ≠ c) (bs : Bytes) :
    c ∉ (Bytes.ascii (encode a bs)).toList := by
  rw [Bytes.ascii, String.toList_ofList, List.mem_map]
  rintro ⟨b, hb, heq⟩
  exact h b (mem_symbols_of_mem_encode hb) heq

theorem dollar_not_mem_encode (a : Alphabet) (bs : Bytes) : 36 ∉ encode a bs := by
  intro h
  have hsymbol := mem_symbols_of_mem_encode h
  revert hsymbol
  cases a <;> decide

end IdentityProvider.Base64
