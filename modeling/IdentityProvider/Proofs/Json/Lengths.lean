import IdentityProvider.Json.Format
import IdentityProvider.Proofs.Bytes
import IdentityProvider.Proofs.Chain
import IdentityProvider.Proofs.Json.Citing

/-!
# No string is longer than its text

`Format.decode_ends`: no string in what is read, and none that an error cites, has
more characters than the text has bytes. An escape of six bytes stands for at most
four, and every other piece of a string for no more than it takes up.
-/

namespace IdentityProvider.Json

-- ----- Pieces

/-- The most bytes that a piece stands for; it takes up no fewer in the text. -/
def Piece.room : Piece → Nat
  | .byte _ | .letter _ => 1
  | .unit _ => 4

def room (ps : List Piece) : Nat := (ps.map Piece.room).sum

@[simp] theorem room_nil : room [] = 0 := rfl

@[simp] theorem room_cons (p : Piece) (ps : List Piece) : room (p :: ps) = p.room + room ps := by
  simp [room]

theorem length_codePointBytes_le (n : Nat) : (codePointBytes n).length ≤ 4 := by
  rw [codePointBytes, String.length_utf8EncodeChar]
  exact Char.utf8Size_le_four _

theorem length_le_of_map {x : Except ε Bytes} (front : Bytes) (h : x.map (front ++ ·) = .ok bs)
    (hx : ∀ rest, x = .ok rest → rest.length ≤ m) : bs.length ≤ front.length + m := by
  cases x with
  | error e => cases h
  | ok rest =>
    cases h
    rw [List.length_append]
    exact Nat.add_le_add_left (hx rest rfl) _

theorem length_le_of_resolve (h : resolve stop ps = .ok bs) : bs.length ≤ room ps := by
  fun_induction resolve stop ps generalizing bs with
  | case2 =>
    cases h
    exact Nat.zero_le _
  | case8 n =>
    cases h
    exact length_codePointBytes_le n
  | case3 b rest ih =>
    rw [room_cons]
    exact length_le_of_map [b] h fun _ => ih
  | case4 b rest ih =>
    rw [room_cons]
    exact length_le_of_map [escapedByte b] h fun _ => ih
  | case10 n rest _ _ m _ ih =>
    have hpair := length_codePointBytes_le (0x10000 + (n - 0xD800) * 0x400 + (m - 0xDC00))
    have hle := length_le_of_map _ h fun _ => ih
    simp only [room_cons, Piece.room]
    omega
  | case13 n next rest _ _ ih =>
    rw [room_cons]
    exact (length_le_of_map _ h fun _ => ih).trans
      (Nat.add_le_add_right (length_codePointBytes_le n) _)
  | _ => cases h

theorem StringSource.length_le_of_text {source : StringSource} {s : String}
    (h : source.text = .ok s) : s.toList.length ≤ room source.pieces := by
  obtain ⟨bs, hbs, h⟩ := bind_eq_ok_iff.mp h
  split at h
  · rename_i htext
    cases h
    have hle := Bytes.length_toList_le s
    rw [Bytes.ofString_of_toString? htext] at hle
    exact hle.trans (length_le_of_resolve hbs)
  · cases h

-- ----- Tokens

def Token.room : Token → Nat
  | .string source => Json.room source.pieces
  | _ => 0

/-- What the part of a token that is already read takes up at least. -/
def State.room : State → Nat
  | .text ps => Json.room ps
  | .escape ps => Json.room ps + 1
  | .digits due _ _ ps => Json.room ps + (6 - due)
  | .word _ _ whole => whole.room
  | .between | .number _ => 0

theorem room_closeString (ps : List Piece) (stop : StringEnd) :
    (closeString ps stop).room = room ps := by
  simp [closeString, Token.room, room]

theorem room_finish (s : NumberState) : s.finish.room = 0 := by
  unfold NumberState.finish
  split <;> rfl

theorem room_start (h : start b = (first, st)) : (∀ t ∈ first, t.room = 0) ∧ st.room = 0 := by
  have hall : (∀ t ∈ (start b).1, t.room = 0) ∧ (start b).2.room = 0 := by
    fun_cases start b <;> simp [Token.room, State.room]
  rwa [h] at hall

/-- None of the tokens takes up more than `n`. -/
def Within (n : Nat) (ts : List Token) : Prop := ∀ t ∈ ts, t.room ≤ n

theorem within_nil : Within n [] := by simp [Within]

theorem within_cons : Within n (t :: ts) ↔ t.room ≤ n ∧ Within n ts := by simp [Within]

theorem within_closeString (h : room ps ≤ n) : Within n [closeString ps stop] := by
  simpa [Within, room_closeString] using h

theorem Within.mono (h : Within m ts) (hle : m ≤ n) : Within n ts :=
  fun t ht => (h t ht).trans hle

/-- A token of one byte takes up nothing, and nor does what begins with it. -/
theorem within_first (h : start b = (some t, st)) (hts : Within (st.room + n) ts) :
    Within (n + 1) (t :: ts) := by
  obtain ⟨htoken, hstate⟩ := room_start h
  rw [hstate, Nat.zero_add] at hts
  exact within_cons.mpr ⟨by simp [htoken t rfl], hts.mono (Nat.le_succ n)⟩

/-- What is taken up grows with every byte that is read, and a piece that the byte
completes is no larger than that. -/
theorem within_tokensFrom (st : State) (bs : Bytes) :
    Within (st.room + bs.length) (tokensFrom st bs) := by
  fun_induction tokensFrom st bs with
  | case1 => exact within_nil
  | case2 | case11 | case13 => exact within_cons.mpr ⟨Nat.zero_le _, within_nil⟩
  | case3 s => exact within_cons.mpr ⟨(room_finish s).le, within_nil⟩
  | case4 | case5 | case6 | case18 | case22 | case24 | case26 =>
    exact within_closeString (by simp only [State.room]; omega)
  | case7 b rest t st hstart ih => exact (within_first hstart ih).mono (Nat.le_add_left _ _)
  | case8 b rest st hstart ih =>
    obtain ⟨-, hstate⟩ := room_start hstart
    exact ih.mono (by simp [hstate]; omega)
  | case14 s b rest _ t st hstart ih =>
    have hfirst := (within_first hstart ih).mono (Nat.le_add_left _ (State.number s).room)
    exact within_cons.mpr ⟨Nat.zero_le _, hfirst⟩
  | case15 s b rest _ st hstart ih =>
    obtain ⟨-, hstate⟩ := room_start hstart
    exact within_cons.mpr ⟨Nat.zero_le _, ih.mono (by simp [hstate]; omega)⟩
  | case9 whole b rest ih =>
    exact within_cons.mpr ⟨Nat.le_add_right _ _, ih.mono (by simp [State.room]; omega)⟩
  | case16 ps rest ih =>
    have hclosed := (room_closeString ps .quote).le.trans (Nat.le_add_right _ (rest.length + 1))
    exact within_cons.mpr ⟨hclosed, ih.mono (by simp [State.room]; omega)⟩
  | case10 | case12 | case17 | case19 | case20 | case21 | case23 | case25 | case27 =>
    rename_i ih
    refine ih.mono ?_
    simp only [State.room, room_cons, Piece.room, List.length_cons]
    omega

/-- A string of at most `n` characters. -/
def Short (n : Nat) (s : String) : Prop := s.toList.length ≤ n

theorem strings_tokens (text : Bytes) : Strings (Short text.length) (tokens text) := by
  intro source s hmem htext
  have hwithin := within_tokensFrom .between text _ hmem
  simp only [Token.room, State.room, Nat.zero_add] at hwithin
  exact (StringSource.length_le_of_text htext).trans hwithin

-- ----- Values

/-- What is read is built of strings no longer than the text, and an error cites
none that is longer. -/
theorem Format.decode_ends {f : Format α} (hf : f.shape.Dotless) (text : Bytes) :
    Ends (fun a => ∃ v, a = f.build v ∧ f.shape.Strings (Short text.length) v)
      (ReadError.Cites (Short text.length)) (f.decode text) := by
  have hends := Shape.decode_ends hf (strings_tokens text)
  unfold Format.decode
  cases hread : f.shape.decode text with
  | ok v =>
    rw [hread] at hends
    exact ⟨v, rfl, hends⟩
  | error e =>
    rw [hread] at hends
    exact hends

end IdentityProvider.Json
