import IdentityProvider.Key.Der
import IdentityProvider.Proofs.Bytes

/-!
# DER elements, written and read

What is written is read back (`readAll_writeAll`), as long as no content has a length
that reading refuses. What was read is never longer than the bytes it was read from
(`contentLength_of_readAll`), so the members of a document are bounded by the document.
-/

namespace IdentityProvider.Der

variable {bs rest : Bytes} {n : Nat} {e : Element} {es : List Element} {tag : UInt8}

-- ----- Lengths

theorem digitCount_le_four (h : n < maxLength) : Bytes.digitCount n ≤ 4 := by
  apply Bytes.digitCount_le
  unfold maxLength at h
  omega

theorem readLength_writeLength (h : n < maxLength) (rest : Bytes) :
    readLength (writeLength n ++ rest) = some (n, rest) := by
  have hcount := digitCount_le_four h
  unfold writeLength
  split
  · rename_i hsmall
    have hbyte : (UInt8.ofNat n).toNat = n := UInt8.toNat_ofNat_of_lt' (by simp [UInt8.size]; omega)
    have hlt : UInt8.ofNat n < 128 := by
      rw [UInt8.lt_iff_toNat_lt, hbyte]
      exact hsmall
    simp [readLength, hlt, hbyte]
  · rename_i hlarge
    have hbyte : (UInt8.ofNat (128 + Bytes.digitCount n)).toNat = 128 + Bytes.digitCount n :=
      UInt8.toNat_ofNat_of_lt' (by simp [UInt8.size]; omega)
    have hlt : ¬ UInt8.ofNat (128 + Bytes.digitCount n) < 128 := by
      rw [UInt8.lt_iff_toNat_lt, hbyte]
      exact Nat.not_lt.mpr (Nat.le_add_right ..)
    have htake : (Bytes.digits n ++ rest).take (Bytes.digitCount n) = Bytes.digits n :=
      List.take_left' (Bytes.length_digits n)
    have hafter : after? (Bytes.digits n) (Bytes.digits n ++ rest) = some rest :=
      after?_eq_some_iff.mpr rfl
    simp only [List.cons_append, readLength, hlt, hbyte, if_false, Nat.add_sub_cancel_left, htake,
      Bytes.toNat_digits, hafter]
    rw [if_pos ⟨by omega, h, trivial⟩]
    rfl

theorem length_writeLength_le (h : n < maxLength) : (writeLength n).length ≤ 5 := by
  have hcount := digitCount_le_four h
  unfold writeLength
  split
  · simp
  · rw [List.length_cons, Bytes.length_digits]
    omega

-- ----- Elements

/-- Reading accepts the tag and the length of the content. -/
structure Element.Legible (e : Element) : Prop where
  tag : isTag e.tag
  length : e.content.length < maxLength

theorem Element.read_write (h : e.Legible) (rest : Bytes) :
    Element.read (e.write ++ rest) = some (e, rest) := by
  simp only [Element.write, List.cons_append, List.append_assoc, Element.read,
    readLength_writeLength h.length]
  rw [if_pos ⟨h.tag, by simp⟩, List.take_left, List.drop_left]

theorem Element.length_write_le (h : e.content.length < maxLength) :
    e.write.length ≤ e.content.length + 6 := by
  have hlength := length_writeLength_le h
  simp only [Element.write, List.length_cons, List.length_append]
  omega

theorem Element.write_ne_nil (e : Element) : e.write ≠ [] := List.cons_ne_nil _ _

theorem readAll_writeAll (es : List Element) (h : ∀ e ∈ es, e.Legible) :
    readAll (writeAll es) = some es := by
  induction es with
  | nil => simp [writeAll, readAll]
  | cons e es ih =>
    obtain ⟨he, hes⟩ := List.forall_mem_cons.mp h
    have hread : Element.read (writeAll (e :: es)) = some (e, writeAll es) :=
      Element.read_write he _
    rw [readAll, if_neg (by simp [writeAll, Element.write_ne_nil])]
    split
    · rename_i hnone
      rw [hread] at hnone
      cases hnone
    · rename_i e' rest hsome
      rw [hread] at hsome
      cases hsome
      rw [ih hes]
      rfl

theorem inside?_container (h : ∀ e ∈ es, e.Legible) : (container tag es).inside? tag = some es := by
  simp [Element.inside?, container, readAll_writeAll es h]

/-- The lengths of all contents together. -/
def contentLength (es : List Element) : Nat := (es.map fun e => e.content.length).sum

@[simp] theorem contentLength_nil : contentLength [] = 0 := rfl

@[simp] theorem contentLength_cons (e : Element) (es : List Element) :
    contentLength (e :: es) = e.content.length + contentLength es := rfl

theorem length_writeAll_le (es : List Element) (h : contentLength es < maxLength) :
    (writeAll es).length ≤ contentLength es + 6 * es.length := by
  induction es with
  | nil => exact Nat.zero_le _
  | cons e es ih =>
    rw [contentLength_cons] at h
    have he := e.length_write_le (by omega)
    have hes := ih (by omega)
    simp only [writeAll, List.flatMap_cons, List.length_append, contentLength_cons,
      List.length_cons] at hes ⊢
    omega

theorem length_write_sequence_le (es : List Element)
    (h : contentLength es + 6 * es.length < maxLength) :
    (sequence es).write.length ≤ contentLength es + 6 * es.length + 6 := by
  have hes := length_writeAll_le es (by omega)
  have hwhole := (sequence es).length_write_le (hes.trans_lt h)
  exact hwhole.trans (Nat.add_le_add_right hes 6)

theorem length_content_le (h : e ∈ es) : e.content.length ≤ (writeAll es).length := by
  obtain ⟨before, behind, rfl⟩ := List.append_of_mem h
  simp only [writeAll, List.flatMap_append, List.flatMap_cons, Element.write, List.length_append,
    List.length_cons]
  omega

theorem Element.length_content_lt_write (e : Element) : e.content.length < e.write.length := by
  simp only [Element.write, List.length_cons, List.length_append]
  omega

theorem readSequence_write (htags : ∀ e ∈ es, isTag e.tag)
    (hlength : (sequence es).write.length < maxLength) :
    readSequence (sequence es).write = some es := by
  have hcontent : (writeAll es).length < maxLength :=
    (sequence es).length_content_lt_write.trans hlength
  have hlegible : ∀ e ∈ es, e.Legible := fun e he =>
    ⟨htags e he, (length_content_le he).trans_lt hcontent⟩
  have hwhole : readAll (sequence es).write = some [sequence es] := by
    have hself : (sequence es).Legible := ⟨rfl, hcontent⟩
    have hread := readAll_writeAll [sequence es] (by simpa using hself)
    rwa [writeAll, List.flatMap_singleton] at hread
  rw [readSequence, if_pos hlength, hwhole]
  exact inside?_container hlegible

/-- Tags and lengths add six bytes to each content at most. -/
theorem readSequence_write_of_contentLength (htags : ∀ e ∈ es, isTag e.tag)
    (hlength : contentLength es + 6 * es.length + 6 < maxLength) :
    readSequence (sequence es).write = some es :=
  readSequence_write htags ((length_write_sequence_le es (by omega)).trans_lt hlength)

-- ----- Sizes of what was read

theorem Element.length_content_of_read (h : Element.read bs = some (e, rest)) :
    e.content.length + rest.length ≤ bs.length := by
  cases bs with
  | nil => cases h
  | cons tag bs =>
    simp only [Element.read] at h
    split at h
    · cases h
    · rename_i n body hlength
      split at h
      · rename_i hfits
        cases h
        have hbody := length_readLength hlength
        simp only [List.length_take, List.length_drop, List.length_cons]
        omega
      · cases h

theorem contentLength_of_readAll (h : readAll bs = some es) : contentLength es ≤ bs.length := by
  induction es generalizing bs with
  | nil => exact Nat.zero_le _
  | cons e es ih =>
    rw [readAll] at h
    split at h
    · cases h
    · split at h
      · cases h
      · rename_i e' rest hread
        obtain ⟨es', hrest, heq⟩ := Option.map_eq_some_iff.mp h
        cases heq
        have hlengths := Element.length_content_of_read hread
        have hes := ih hrest
        rw [contentLength_cons]
        omega

theorem contentLength_of_readSequence (h : readSequence bs = some es) :
    contentLength es < maxLength := by
  unfold readSequence at h
  split at h
  · rename_i hlength
    split at h
    · rename_i e hwhole
      have he := contentLength_of_readAll hwhole
      rw [contentLength_cons, contentLength_nil] at he
      unfold Element.inside? at h
      split at h
      · have hes := contentLength_of_readAll h
        omega
      · cases h
    · cases h
  · cases h

-- ----- Values

theorem toNat_naturalContent (n : Nat) : Bytes.toNat (naturalContent n) = n := by
  have hdigits := Bytes.toNat_digits n
  unfold naturalContent
  split
  · rename_i hnone
    rw [hnone] at hdigits
    exact hdigits
  · rename_i d ds hsome
    rw [hsome] at hdigits
    split
    · exact hdigits
    · simpa [Bytes.toNat] using hdigits

@[simp] theorem natural?_natural (n : Nat) : (natural n).natural? = some n := by
  simp [Element.natural?, natural, toNat_naturalContent]

theorem natural?_eq_some_iff : e.natural? = some n ↔ e = natural n := by
  constructor
  · intro h
    simp only [Element.natural?] at h
    split at h
    · rename_i heq
      cases h
      exact heq
    · cases h
  · rintro rfl
    exact natural?_natural n

@[simp] theorem octets?_octets (bs : Bytes) : (octets bs).octets? = some bs := rfl

@[simp] theorem bits?_bits (bs : Bytes) : (bits bs).bits? = some bs := rfl

theorem length_naturalContent_le (n : Nat) :
    (naturalContent n).length ≤ Bytes.digitCount n + 1 := by
  have hdigits := Bytes.length_digits n
  unfold naturalContent
  split
  · simp
  · rename_i d ds hsome
    rw [hsome] at hdigits
    split <;> simp_all

theorem digitCount_le_length_natural (n : Nat) :
    Bytes.digitCount n ≤ (natural n).content.length := by
  have hdigits := Bytes.length_digits n
  simp only [natural, naturalContent]
  split
  · rename_i hnone
    simp [← hdigits, hnone]
  · rename_i d ds hsome
    rw [hsome] at hdigits
    split
    · exact hdigits.ge
    · simp_all

end IdentityProvider.Der
