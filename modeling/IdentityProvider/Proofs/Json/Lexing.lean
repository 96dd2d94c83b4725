import IdentityProvider.Json.Write
import Mathlib.Tactic.IntervalCases

/-!
# Written tokens are cut into the same tokens

`Standing` tokens come back from their text whatever follows it, `Closed` ones
when what follows is a comma, a closing bracket or nothing. Only a number needs
the second: nothing but what follows tells where it ends.
-/

namespace IdentityProvider.Json

open Decimal (digitByte reversedDigits)

-- ----- What may follow

/-- The bytes of a text that cannot go on with a number. -/
inductive Stops : Bytes → Prop
  | nil : Stops []
  | comma : Stops (44 :: rest)
  | rightBracket : Stops (93 :: rest)
  | rightBrace : Stops (125 :: rest)

def Standing (ts : List Token) : Prop :=
  ∀ rest, tokens (ts.flatMap Token.write ++ rest) = ts ++ tokens rest

def Closed (ts : List Token) : Prop :=
  ∀ rest, Stops rest → tokens (ts.flatMap Token.write ++ rest) = ts ++ tokens rest

theorem Standing.closed (h : Standing ts) : Closed ts := fun rest _ => h rest

theorem Standing.append (ha : Standing as) (hb : Standing bs) : Standing (as ++ bs) := by
  intro rest
  rw [List.flatMap_append, List.append_assoc, ha, hb, List.append_assoc]

theorem Standing.append_closed (ha : Standing as) (hb : Closed bs) : Closed (as ++ bs) := by
  intro rest hrest
  rw [List.flatMap_append, List.append_assoc, ha, hb rest hrest, List.append_assoc]

/-- Something closed stands once a token follows that stops it. -/
theorem Closed.append_standing (ha : Closed as) (hb : Standing bs)
    (hstop : ∀ rest, Stops (bs.flatMap Token.write ++ rest)) : Standing (as ++ bs) := by
  intro rest
  rw [List.flatMap_append, List.append_assoc, ha _ (hstop rest), hb, List.append_assoc]

theorem standing_leftBrace : Standing [.leftBrace] := fun _ => rfl
theorem standing_rightBrace : Standing [.rightBrace] := fun _ => rfl
theorem standing_leftBracket : Standing [.leftBracket] := fun _ => rfl
theorem standing_rightBracket : Standing [.rightBracket] := fun _ => rfl
theorem standing_colon : Standing [.colon] := fun _ => rfl
theorem standing_comma : Standing [.comma] := fun _ => rfl
theorem standing_null : Standing [.null] := fun _ => rfl

theorem standing_bool (b : Bool) : Standing [.bool b] := by
  cases b <;> exact fun _ => rfl

-- ----- Strings

theorem hexDigit?_hexByte {n : Nat} (h : n < 16) : hexDigit? (hexByte n) = some n := by
  revert n
  decide +kernel

/-- A four-digit escape is read as its value. -/
theorem tokensFrom_unit (ps : List Piece) {n : Nat} (h : n < 65536) (rest : Bytes) :
    tokensFrom (.text ps) ((Piece.unit n).write ++ rest) =
      tokensFrom (.text (.unit n :: ps)) rest := by
  have h3 := hexDigit?_hexByte (n := n / 4096) (by omega)
  have h2 := hexDigit?_hexByte (n := n / 256 % 16) (by omega)
  have h1 := hexDigit?_hexByte (n := n / 16 % 16) (by omega)
  have h0 := hexDigit?_hexByte (n := n % 16) (by omega)
  have hvalue : (((0 * 16 + n / 4096) * 16 + n / 256 % 16) * 16 + n / 16 % 16) * 16 + n % 16 = n := by
    omega
  simp only [Piece.write, List.cons_append, List.nil_append, tokensFrom, h3, h2, h1, h0]
  simp only [Nat.reduceLeDiff, Nat.reduceSub, if_true, if_false, hvalue]
  rfl

/-- The pieces that a byte may be written as. -/
inductive Spelled (b : UInt8) : Piece → Prop
  | letter (hletter : isEscapeLetter l = true) (hbyte : escapedByte l = b) : Spelled b (.letter l)
  | unit (hlow : b.toNat < 32) : Spelled b (.unit b.toNat)
  | byte (hquote : b ≠ 34) (hbackslash : b ≠ 92) (hlow : ¬ b < 32) : Spelled b (.byte b)

theorem Piece.spelled_ofByte (b : UInt8) : Spelled b (.ofByte b) := by
  unfold Piece.ofByte
  split
  · rename_i h
    rcases h with rfl | rfl
    · exact .letter rfl rfl
    · exact .letter rfl rfl
  split
  · subst b
    exact .letter rfl rfl
  split
  · subst b
    exact .letter rfl rfl
  split
  · subst b
    exact .letter rfl rfl
  split
  · subst b
    exact .letter rfl rfl
  split
  · subst b
    exact .letter rfl rfl
  split
  · rename_i hlow
    exact .unit (UInt8.lt_iff_toNat_lt.mp hlow)
  · rename_i hquote _ _ _ _ _ hlow
    rw [not_or] at hquote
    exact .byte hquote.1 hquote.2 hlow

theorem tokensFrom_spelled (ps : List Piece) {b : UInt8} {piece : Piece} (h : Spelled b piece)
    (rest : Bytes) :
    tokensFrom (.text ps) (piece.write ++ rest) = tokensFrom (.text (piece :: ps)) rest := by
  cases h with
  | @letter l hletter _ =>
    have hl : l ≠ 117 := by
      rintro rfl
      cases hletter
    simp [Piece.write, tokensFrom, hl, hletter]
  | unit hlow => exact tokensFrom_unit ps (by omega) rest
  | byte hquote hbackslash hlow => simp [Piece.write, tokensFrom, hquote, hbackslash, hlow]

/-- A string comes back from its text, whatever bytes it is the source of. -/
theorem standing_string (bs : Bytes) : Standing [.string ⟨bs.map Piece.ofByte, .quote⟩] := by
  have run (ps : List Piece) (rest : Bytes) :
      tokensFrom (.text ps) ((bs.map Piece.ofByte).flatMap Piece.write ++ 34 :: rest) =
        closeString ((bs.map Piece.ofByte).reverse ++ ps) .quote :: tokens rest := by
    induction bs generalizing ps with
    | nil => rfl
    | cons b bs ih =>
      rw [List.map_cons, List.flatMap_cons, List.append_assoc,
        tokensFrom_spelled ps (Piece.spelled_ofByte b), ih]
      simp
  intro rest
  have h := run [] rest
  simpa [tokens, tokensFrom, start, isBlank, Token.write, StringSource.write, closeString] using h

-- ----- Whole numbers

theorem digit?_digitByte {d : Nat} (h : d < 10) : digit? (digitByte d) = some d := by
  revert d
  decide +kernel

theorem start_digitByte {d : Nat} (hpos : 0 < d) (h : d < 10) :
    start (digitByte d) = (none, .number ⟨.whole, ⟨false, [d], [], none⟩⟩) := by
  interval_cases d <;> rfl

/-- A whole number goes on through its digits. -/
theorem tokensFrom_whole (negative : Bool) (read : List Nat) {ds : List Nat} (h : ∀ d ∈ ds, d < 10)
    (rest : Bytes) :
    tokensFrom (.number ⟨.whole, ⟨negative, read, [], none⟩⟩) (digitBytes ds ++ rest) =
      tokensFrom (.number ⟨.whole, ⟨negative, read ++ ds, [], none⟩⟩) rest := by
  induction ds generalizing read with
  | nil => simp [digitBytes]
  | cons d ds ih =>
    have hd := digit?_digitByte (h d List.mem_cons_self)
    have hrest := ih (read ++ [d]) fun e he => h e (List.mem_cons_of_mem _ he)
    simp only [digitBytes, List.map_cons, List.cons_append, tokensFrom, NumberState.step, hd]
    simpa [digitBytes, Numeral.addWhole] using hrest

/-- A whole number ends where something stops it. -/
theorem tokensFrom_number_stops {part : NumberPart} (hpart : part = .zero ∨ part = .whole)
    (n : Numeral) {rest : Bytes} (h : Stops rest) :
    tokensFrom (.number ⟨part, n⟩) rest = .number n :: tokens rest := by
  rcases hpart with rfl | rfl <;> cases h <;> rfl

/-- The digits of a number: a single zero, or digits that begin with another one. -/
theorem reverse_reversedDigits {n : Nat} (hpos : 0 < n) :
    ∃ d ds, (reversedDigits n).reverse = d :: ds ∧ 0 < d ∧ d < 10 ∧ ∀ e ∈ ds, e < 10 := by
  induction n using Nat.strongRecOn with
  | ind n ih =>
    rw [reversedDigits, if_neg (by omega), List.reverse_cons]
    by_cases hsmall : n < 10
    · have hzero : n / 10 = 0 := by omega
      refine ⟨n % 10, [], ?_, by omega, by omega, by simp⟩
      rw [hzero, reversedDigits, if_pos rfl]
      rfl
    · obtain ⟨d, ds, heq, hd, hlt, hds⟩ := ih (n / 10) (by omega) (by omega)
      refine ⟨d, ds ++ [n % 10], by rw [heq]; rfl, hd, hlt, ?_⟩
      intro e he
      rcases List.mem_append.mp he with he | he
      · exact hds e he
      · rw [List.mem_singleton.mp he]
        omega

theorem closed_zero : Closed [.number ⟨false, [0], [], none⟩] := by
  intro rest hrest
  exact tokensFrom_number_stops (.inl rfl) _ hrest

theorem closed_whole (negative : Bool) {d : Nat} {ds : List Nat} (hpos : 0 < d) (h : d < 10)
    (hds : ∀ e ∈ ds, e < 10) : Closed [.number ⟨negative, d :: ds, [], none⟩] := by
  intro rest hrest
  have htail := tokensFrom_whole negative [d] hds rest
  rw [tokensFrom_number_stops (.inr rfl) _ hrest] at htail
  cases negative with
  | false =>
    have hfirst : tokens (digitByte d :: (digitBytes ds ++ rest)) =
        tokensFrom (.number ⟨.whole, ⟨false, [d], [], none⟩⟩) (digitBytes ds ++ rest) := by
      rw [tokens, tokensFrom, start_digitByte hpos h]
    simpa [Token.write, Numeral.write, digitBytes] using hfirst.trans htail
  | true =>
    have hfirst : tokens (45 :: digitByte d :: (digitBytes ds ++ rest)) =
        tokensFrom (.number ⟨.whole, ⟨true, [d], [], none⟩⟩) (digitBytes ds ++ rest) := by
      have hd := digit?_digitByte h
      have hstart : start 45 = (none, .number ⟨.sign, ⟨true, [], [], none⟩⟩) := rfl
      rw [tokens, tokensFrom, hstart]
      obtain ⟨d, rfl⟩ := Nat.exists_eq_succ_of_ne_zero (Nat.ne_of_gt hpos)
      simp only [tokensFrom, NumberState.step, hd]
      rfl
    simpa [Token.write, Numeral.write, digitBytes] using hfirst.trans htail

theorem closed_integer (k : Int) : Closed [integerToken k] := by
  cases k with
  | ofNat n =>
    by_cases hn : n = 0
    · subst hn
      exact closed_zero
    · obtain ⟨d, ds, heq, hpos, hd, hds⟩ := reverse_reversedDigits (Nat.pos_of_ne_zero hn)
      simp only [integerToken, wholeDigits, hn, if_false, heq]
      exact closed_whole false hpos hd hds
  | negSucc n =>
    obtain ⟨d, ds, heq, hpos, hd, hds⟩ := reverse_reversedDigits (Nat.succ_pos n)
    simp only [integerToken, wholeDigits, Nat.succ_ne_zero, if_false, heq]
    exact closed_whole true hpos hd hds

-- ----- Values

theorem standing_stringToken (s : String) : Standing [stringToken s] := standing_string _

theorem closed_memberTokens (name : String) {value : List Token} (h : Closed value) :
    Closed (memberTokens name value) :=
  (standing_stringToken name).append_closed (standing_colon.append_closed h)

/-- Entries between commas stand once the bracket is closed. -/
theorem standing_separated {entries : List (List Token)} (h : ∀ entry ∈ entries, Closed entry)
    {close : Token} (hclose : close = .rightBrace ∨ close = .rightBracket) :
    Standing (separated entries ++ [close]) := by
  have hstand : Standing [close] := by
    rcases hclose with rfl | rfl
    · exact standing_rightBrace
    · exact standing_rightBracket
  have hstop (rest : Bytes) : Stops ([close].flatMap Token.write ++ rest) := by
    rcases hclose with rfl | rfl
    · exact .rightBrace
    · exact .rightBracket
  fun_induction separated entries with
  | case1 => exact hstand
  | case2 entry => exact (h entry (by simp)).append_standing hstand hstop
  | case3 entry rest _ ih =>
    have hrest := ih fun e he => h e (List.mem_cons_of_mem _ he)
    have hcomma := standing_comma.append hrest
    have hall := (h entry List.mem_cons_self).append_standing hcomma fun _ => .comma
    simpa using hall

mutual
theorem Shape.closed_write : (s : Shape) → (v : s.Value) → Closed (s.write v)
  | .text _, v => (standing_stringToken v).closed
  | .flag, v => (standing_bool v).closed
  | .integer w, v => closed_integer (w.toInt v)
  | .choice names, v => (standing_stringToken names[v]).closed
  | .optional _, none => standing_null.closed
  | .optional s, some v => s.closed_write v
  | .texts, v => by
    refine (standing_leftBracket.append (standing_separated ?_ (.inr rfl))).closed
    intro entry hentry
    obtain ⟨t, -, rfl⟩ := List.mem_map.mp hentry
    exact (standing_stringToken t).closed
  | .table, v => by
    refine (standing_leftBrace.append (standing_separated ?_ (.inl rfl))).closed
    intro entry hentry
    obtain ⟨e, -, rfl⟩ := List.mem_map.mp hentry
    exact closed_memberTokens e.1 (standing_stringToken e.2).closed
  | .record _ ms, v =>
    (standing_leftBrace.append (standing_separated (ms.closed_write v) (.inl rfl))).closed
theorem Members.closed_write : (ms : Members) → (v : ms.Value) → ∀ entry ∈ ms.write v, Closed entry
  | .nil, _, _, h => by cases h
  | .required name s rest, (v, vs), entry, h => by
    rcases List.mem_cons.mp h with rfl | h
    · exact closed_memberTokens name (s.closed_write v)
    · exact rest.closed_write vs entry h
  | .absentable name s rest, (some v, vs), entry, h => by
    rcases List.mem_cons.mp h with rfl | h
    · exact closed_memberTokens name (s.closed_write v)
    · exact rest.closed_write vs entry h
  | .absentable _ _ rest, (none, vs), entry, h => rest.closed_write vs entry h
end

/-- The text of a value is cut into the tokens that were written. -/
theorem tokens_encode (s : Shape) (v : s.Value) : tokens (s.encode v) = s.write v := by
  simpa [Shape.encode, tokens, tokensFrom] using s.closed_write v [] .nil

end IdentityProvider.Json
