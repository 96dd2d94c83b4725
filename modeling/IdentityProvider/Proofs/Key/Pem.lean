import IdentityProvider.Key.Pem
import IdentityProvider.Proofs.Base64
import IdentityProvider.Proofs.Bytes

/-!
# PEM text, written and read

A document that is written as PEM text is read back from it (`decode_encode`), and
the text is ASCII (`lt_of_mem_encode`).
-/

namespace IdentityProvider.Pem

variable {bs body : Bytes}

-- ----- Line ends

/-- There is no line end within. -/
def Unbroken (bs : Bytes) : Prop := lineFeed ∉ bs ∧ carriageReturn ∉ bs

theorem beforeLineEnd?_append_lineFeed (h : bs.getLast? ≠ some carriageReturn) :
    beforeLineEnd? (bs ++ [lineFeed]) = some bs := by
  rw [← List.head?_reverse] at h
  unfold beforeLineEnd?
  rw [List.reverse_append]
  generalize hr : bs.reverse = rs at h
  have hbs : rs.reverse = bs := by rw [← hr, List.reverse_reverse]
  match rs with
  | [] => simp [lineFeed, ← hbs]
  | r :: rs =>
    have hr : r ≠ 13 := by simpa [carriageReturn] using h
    simp [lineFeed, hr, ← hbs]

theorem beforeLineEnd?_of_unbroken (h : Unbroken bs) : beforeLineEnd? bs = none := by
  obtain ⟨hfeed, hreturn⟩ := h
  rw [← List.mem_reverse] at hfeed hreturn
  unfold beforeLineEnd?
  split <;> simp_all [lineFeed, carriageReturn]

theorem before?_append (body ending : Bytes) : before? ending (body ++ ending) = some body := by
  have hafter : after? ending.reverse (body ++ ending).reverse = some body.reverse :=
    after?_eq_some_iff.mpr (by simp)
  rw [before?, hafter]
  simp

-- ----- Lines

theorem joinLines_of_short (hlength : bs.length ≤ lineLength) (h : Unbroken bs) :
    joinLines bs = some bs := by
  rw [joinLines, if_pos hlength, beforeLineEnd?_of_unbroken h]
  rfl

theorem joinLines_append_lineFeed {line rest : Bytes} (hlength : line.length = lineLength) :
    joinLines (line ++ lineFeed :: rest) = (joinLines rest).map (line ++ ·) := by
  have hrest : afterLineEnd? ((line ++ lineFeed :: rest).drop lineLength) = some rest := by
    rw [List.drop_left' hlength]
    rfl
  rw [joinLines, if_neg (by simp [hlength])]
  split
  · rename_i hnone
    rw [hrest] at hnone
    cases hnone
  · rename_i rest' hsome
    rw [hrest] at hsome
    cases hsome
    rw [List.take_left' hlength]

/-- Lines without their last line end are read back as what they were made of. -/
structure Lines (bs body : Bytes) : Prop where
  spelling : writeLines bs = body ++ [lineFeed]
  joined : joinLines body = some bs
  nonempty : body ≠ []
  closed : body.getLast? ≠ some carriageReturn

theorem lines_of_unbroken (h : Unbroken bs) (hne : bs ≠ []) : ∃ body, Lines bs body := by
  induction bs using writeLines.induct with
  | case1 bs hlength =>
    refine ⟨bs, ?_, joinLines_of_short hlength h, hne, ?_⟩
    · rw [writeLines, if_pos hlength]
    · intro hlast
      exact h.2 (List.mem_of_getLast? hlast)
  | case2 bs hlength ih =>
    have hrest : Unbroken (bs.drop lineLength) :=
      ⟨fun hb => h.1 (List.mem_of_mem_drop hb), fun hb => h.2 (List.mem_of_mem_drop hb)⟩
    have hrestne : bs.drop lineLength ≠ [] := by
      simp only [ne_eq, List.drop_eq_nil_iff]
      exact hlength
    have hline : (bs.take lineLength).length = lineLength := by
      rw [List.length_take]
      omega
    obtain ⟨body, hbody⟩ := ih hrest hrestne
    refine ⟨bs.take lineLength ++ lineFeed :: body, ?_, ?_, by simp, ?_⟩
    · rw [writeLines, if_neg hlength, hbody.spelling]
      simp
    · rw [joinLines_append_lineFeed hline, hbody.joined, Option.map_some, List.take_append_drop]
    · rw [List.getLast?_append, List.getLast?_cons,
        List.getLast?_eq_some_getLast hbody.nonempty]
      have hclosed := hbody.closed
      rw [List.getLast?_eq_some_getLast hbody.nonempty] at hclosed
      simpa using hclosed

-- ----- Padding

theorem unpad?_padded (document : Bytes) :
    unpad? (padded document) = some (Base64.encode .standard document) := by
  have hpad : Base64.pad ∉ Base64.encode .standard document := by
    intro h
    have hsymbol := Base64.mem_symbols_of_mem_encode h
    revert hsymbol
    decide
  have hlength := Base64.length_encode .standard document
  simp only [padded]
  generalize Base64.encode .standard document = symbols at hpad hlength ⊢
  generalize hcount : (4 - symbols.length % 4) % 4 = count
  have hnone : symbols.reverse.takeWhile (· = Base64.pad) = [] := by
    rw [← List.mem_reverse] at hpad
    cases hlast : symbols.reverse with
    | nil => rfl
    | cons b rest =>
      rw [hlast, List.mem_cons, not_or] at hpad
      simp [Ne.symm hpad.1]
  have hrun : ((symbols ++ List.replicate count Base64.pad).reverse.takeWhile
      (· = Base64.pad)).length = count := by
    rw [List.reverse_append, List.reverse_replicate, List.takeWhile_append_of_pos, hnone]
    · simp
    · intro b hb
      simpa using (List.eq_of_mem_replicate hb)
  have hfits : paddingFits symbols.length count := by
    have hcases : symbols.length % 4 = 0 ∨ symbols.length % 4 = 2 ∨ symbols.length % 4 = 3 := by
      omega
    rcases hcases with hmod | hmod | hmod <;> rw [hmod] at hcount <;>
      simp [paddingFits, hmod, ← hcount]
  unfold unpad?
  simp only [hrun, List.length_append, List.length_replicate, Nat.add_sub_cancel, List.take_left,
    hfits, if_true]

theorem mem_padded {document : Bytes} {b : UInt8} (h : b ∈ padded document) :
    b ∈ Base64.Alphabet.standard.symbols ∨ b = Base64.pad := by
  rcases List.mem_append.mp h with h | h
  · exact .inl (Base64.mem_symbols_of_mem_encode h)
  · exact .inr (List.eq_of_mem_replicate h)

theorem unbroken_padded (document : Bytes) : Unbroken (padded document) := by
  constructor <;>
  · intro h
    have hsymbol := mem_padded h
    revert hsymbol
    decide

theorem padded_ne_nil {document : Bytes} (h : document ≠ []) : padded document ≠ [] := by
  have hlength := Base64.length_encode .standard document
  have hpos := List.length_pos_iff.mpr h
  apply List.append_ne_nil_of_left_ne_nil
  apply List.ne_nil_of_length_pos
  omega

-- ----- Whole texts

variable {label document : Bytes}

theorem skipPreamble_opening (rest : Bytes) :
    skipPreamble (opening ++ rest) = some (opening ++ rest) := by
  have hafter : after? opening (opening ++ rest) = some rest := after?_eq_some_iff.mpr rfl
  rw [skipPreamble, hafter]
  rfl

theorem getLast?_append_dashes (bs : Bytes) : (bs ++ dashes).getLast? ≠ some carriageReturn := by
  have hdashes : dashes = Bytes.ofString "----" ++ [45] := by decide
  rw [hdashes, ← List.append_assoc, List.getLast?_concat]
  decide

theorem body?_framed (label : Bytes) (lines : Lines bs body) :
    body? label (opening ++ label ++ dashes ++ [lineFeed] ++ writeLines bs ++
      closing ++ label ++ dashes ++ [lineFeed]) = some body := by
  obtain ⟨hspelling, -, -, hclosed⟩ := lines
  have hopening : after? (opening ++ label ++ dashes) (opening ++ label ++ dashes ++ [lineFeed] ++
      writeLines bs ++ closing ++ label ++ dashes ++ [lineFeed]) =
        some (lineFeed :: (writeLines bs ++ closing ++ label ++ dashes ++ [lineFeed])) :=
    after?_eq_some_iff.mpr (by simp)
  have hend : beforeLineEnd? (writeLines bs ++ closing ++ label ++ dashes ++ [lineFeed]) =
      some (writeLines bs ++ (closing ++ label ++ dashes)) := by
    rw [beforeLineEnd?_append_lineFeed (getLast?_append_dashes _)]
    simp
  have hbody : beforeLineEnd? (writeLines bs) = some body := by
    rw [hspelling, beforeLineEnd?_append_lineFeed hclosed]
  have hpreamble := skipPreamble_opening (label ++ dashes ++ [lineFeed] ++ writeLines bs ++
    closing ++ label ++ dashes ++ [lineFeed])
  simp only [← List.append_assoc] at hpreamble
  unfold body?
  rw [hpreamble]
  simp only [Option.bind_eq_bind, Option.bind_some, hopening]
  change (some (writeLines bs ++ closing ++ label ++ dashes ++ [lineFeed])).bind _ = _
  simp only [Option.bind_some, hend, Option.getD_some, before?_append, hbody]

theorem decode_encode (label : String) (h : document ≠ []) :
    decode label (encode label document) = some document := by
  obtain ⟨body, lines⟩ := lines_of_unbroken (unbroken_padded document) (padded_ne_nil h)
  unfold decode encode
  simp only [body?_framed _ lines, Option.bind_eq_bind, Option.bind_some, lines.nonempty,
    if_false, lines.joined, unpad?_padded, Base64.decode_encode]
  rfl

-- ----- ASCII

theorem eq_or_mem_of_mem_writeLines {b : UInt8} (h : b ∈ writeLines bs) :
    b = lineFeed ∨ b ∈ bs := by
  induction bs using writeLines.induct with
  | case1 bs hlength =>
    rw [writeLines, if_pos hlength, List.mem_append, List.mem_singleton] at h
    exact h.symm
  | case2 bs hlength ih =>
    rw [writeLines, if_neg hlength, List.mem_append, List.mem_cons] at h
    rcases h with h | rfl | h
    · exact .inr (List.mem_of_mem_take h)
    · exact .inl rfl
    · exact (ih h).imp_right List.mem_of_mem_drop

theorem lt_of_mem_encode {label : String} (hlabel : (Bytes.ofString label).all (·.toNat < 128))
    {b : UInt8} (h : b ∈ encode label document) : b.toNat < 128 := by
  have hframe : (opening ++ closing ++ dashes ++ [lineFeed]).all (·.toNat < 128) := by decide
  have hsymbols : (Base64.Alphabet.standard.symbols ++ [Base64.pad]).all (·.toNat < 128) := by
    decide +kernel
  simp only [List.all_append, List.all_eq_true, decide_eq_true_eq, Bool.and_eq_true]
    at hlabel hframe hsymbols
  obtain ⟨⟨⟨hopening, hclosing⟩, hdashes⟩, hfeed⟩ := hframe
  simp only [encode, List.mem_append] at h
  rcases h with (((((((h | h) | h) | h) | h) | h) | h) | h) | h
  · exact hopening b h
  · exact hlabel b h
  · exact hdashes b h
  · exact hfeed b h
  · rcases eq_or_mem_of_mem_writeLines h with rfl | h
    · decide
    · rcases mem_padded h with h | rfl
      · exact hsymbols.1 b h
      · decide
  · exact hclosing b h
  · exact hlabel b h
  · exact hdashes b h
  · exact hfeed b h

end IdentityProvider.Pem
