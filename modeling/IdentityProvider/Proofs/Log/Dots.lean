import IdentityProvider.Error.Identity
import IdentityProvider.Log.Fingerprint
import IdentityProvider.Proofs.Base64
import IdentityProvider.Proofs.Decimal
import IdentityProvider.Proofs.Json.Lengths
import IdentityProvider.Proofs.Log.Quoting
import IdentityProvider.Token

/-!
# Dots in messages

The words of the program, its numbers and its fingerprints have no dots, except for
one at the end of a sentence or in a floating-point number. All other dots of a
message are in what it quotes (`Json.ReadError.shows_message`).
-/

namespace IdentityProvider

open Json (Dotless)
open Text (Shows)

-- ----- Texts without a dot

theorem Json.dotless_append : Dotless (a ++ b) ↔ Dotless a ∧ Dotless b := by
  simp [Dotless]

theorem Bytes.dotless_ascii {bs : Bytes} (h : Token.dot ∉ bs) : Dotless (ascii bs) := by
  rw [Dotless, ascii, String.toList_ofList, List.mem_map]
  rintro ⟨b, hb, heq⟩
  have hvalue := Bytes.toNat_val_ofNat b
  rw [heq] at hvalue
  have hdot : b = Token.dot := UInt8.toNat_inj.mp hvalue.symm
  exact h (hdot ▸ hb)

theorem Decimal.dot_not_mem_ofNat (n : Nat) : Token.dot ∉ ofNat n :=
  not_mem_of_unsigned? (unsigned?_ofNat n) (by decide) (by decide)

theorem Json.dotless_natText (n : Nat) : Dotless (natText n) :=
  Bytes.dotless_ascii (Decimal.dot_not_mem_ofNat n)

theorem Json.dotless_intText (k : Int) : Dotless (intText k) := by
  refine Bytes.dotless_ascii ?_
  cases k with
  | ofNat n => exact Decimal.dot_not_mem_ofNat n
  | negSucc n => exact List.not_mem_cons_of_ne_of_not_mem (by decide) (Decimal.dot_not_mem_ofNat _)

theorem dotless_fingerprint (secret : Bytes) : Dotless (fingerprint secret) :=
  Bytes.dotless_ascii (Base64.dot_not_mem_encode _)

theorem ErrorKind.dotless_name (k : ErrorKind) : Dotless k.name := by
  cases k <;> decide

theorem IdentityError.dotless_code (e : IdentityError) : Dotless e.code := by
  cases e with
  | storage e =>
    cases e <;>
    · dsimp only [code, StorageError.code]
      decide
  | crypto e =>
    cases e <;>
    · dsimp only [code, CryptoError.code]
      decide
  | _ =>
    dsimp only [code]
    decide

theorem Json.Fault.dotless_message (f : Json.Fault) : Dotless f.message := by
  cases f <;> decide

theorem Json.dotless_between (h : Dotless s) : Dotless (between s) :=
  dotless_append.mpr ⟨dotless_append.mpr ⟨by decide, h⟩, by decide⟩

theorem Json.dotless_commaSeparated {ss : List String} (h : ∀ s ∈ ss, Dotless s) :
    Dotless (commaSeparated ss) := by
  fun_induction commaSeparated ss with
  | case1 => decide
  | case2 s => exact h s (by simp)
  | case3 s rest _ ih =>
    have hrest := ih fun t ht => h t (List.mem_cons_of_mem _ ht)
    exact dotless_append.mpr ⟨dotless_append.mpr ⟨h s List.mem_cons_self, by decide⟩, hrest⟩

theorem Json.dotless_nameChoice {names : List String} (h : ∀ name ∈ names, Dotless name) :
    Dotless (nameChoice names) := by
  have hbetween : ∀ s ∈ names.map between, Dotless s := by
    simpa using fun name hname => dotless_between (h name hname)
  fun_cases nameChoice names with
  | case1 => decide
  | case2 a => exact dotless_append.mpr ⟨by decide, dotless_between (h a (by simp))⟩
  | case3 a b =>
    have ha := dotless_between (h a (by simp))
    have hb := dotless_between (h b (by simp))
    simp only [dotless_append, ha, hb]
    decide
  | case4 => exact dotless_append.mpr ⟨by decide, dotless_commaSeparated hbetween⟩

-- ----- Texts with one dot at most

theorem Json.count_dot_append (ha : Dotless a) :
    (a ++ b).toList.count '.' = b.toList.count '.' := by
  rw [String.toList_append, List.count_append, List.count_eq_zero.mpr ha, Nat.zero_add]

theorem dotless_toString (n : Nat) : Dotless (toString n) := by
  rw [Dotless, Nat.toString_eq_ofList_toDigits, String.toList_ofList]
  exact Text.dot_not_mem_toDigits (by decide) n

theorem Base64.Error.count_dot_message (e : Base64.Error) : e.message.toList.count '.' ≤ 1 := by
  have hplace (name : String) (hname : Dotless name) (byte : UInt8) (offset : Nat) :
      (name ++ toString byte.toNat ++ ", offset " ++ toString offset ++ ".").toList.count '.'
        ≤ 1 := by
    rw [Json.count_dot_append]
    · decide
    · simp only [Json.dotless_append, hname, dotless_toString]
      decide
  cases e with
  | invalidSymbol offset byte => exact hplace "Invalid symbol " (by decide) byte offset
  | invalidLength length =>
    show ("Invalid input length: " ++ toString length).toList.count '.' ≤ 1
    rw [Json.count_dot_append (by decide), List.count_eq_zero.mpr (dotless_toString length)]
    exact Nat.zero_le 1
  | invalidPadding => decide
  | invalidLastSymbol offset byte => exact hplace "Invalid last symbol " (by decide) byte offset

theorem Json.count_dot_positive (n : Decimal.Scientific) :
    (floatStyle.positive n).toList.count '.' ≤ 1 := by
  have hdigits := List.count_eq_zero.mpr (dotless_natText n.digits)
  have htake (k : Nat) : ((natText n.digits).toList.take k).count '.' = 0 :=
    List.count_eq_zero.mpr fun h => dotless_natText n.digits (List.mem_of_mem_take h)
  have hdrop (k : Nat) : ((natText n.digits).toList.drop k).count '.' = 0 :=
    List.count_eq_zero.mpr fun h => dotless_natText n.digits (List.mem_of_mem_drop h)
  have hzeros (k : Nat) : (zeros k).toList.count '.' = 0 := by simp [zeros, List.count_replicate]
  have hint (k : Int) := List.count_eq_zero.mpr (dotless_intText k)
  unfold FloatStyle.positive
  dsimp only
  repeat' split
  all_goals
    simp only [String.toList_append, String.toList_ofList, List.count_append, hdigits, htake, hdrop,
      hzeros, hint]
    decide

theorem Json.count_dot_write (f : Float) : (floatStyle.write f).toList.count '.' ≤ 1 := by
  have hsign {s : String} (h : s.toList.count '.' ≤ 1) (negative : Prop) [Decidable negative] :
      ((if negative then "-" else "") ++ s).toList.count '.' ≤ 1 := by
    rw [count_dot_append (by split <;> decide)]
    exact h
  unfold FloatStyle.write
  dsimp only
  split
  · exact hsign (count_dot_positive _) _
  · rw [String.append_assoc]
    exact hsign (by decide) _

-- ----- Quotations

theorem Text.shows_of_dotless (h : Dotless s) : Shows n s.toList := .of_dotless h

theorem Text.Shows.behind_text (h : Shows n b.toList) (ha : Dotless a) :
    Shows n (a ++ b).toList := by
  rw [String.toList_append]
  exact h.behind ha

theorem Text.Shows.before_text (h : Shows n a.toList) (hb : Dotless b) :
    Shows n (a ++ b).toList := by
  rw [String.toList_append]
  exact h.before hb

section
variable {s : String} (h : Json.Short n s)
include h

theorem Text.shows_quoted : Shows n (quoted s).toList := by
  rw [quoted, String.toList_ofList]
  exact .quotation (List.not_mem_nil (a := '.')) ⟨by decide, by decide⟩ .escaped h (by decide)

theorem Json.shows_between : Shows n (between s).toList := by
  have hshows : Shows n (['`'] ++ (s.toList.flatMap (fun c => [c]) ++ ['`'])) :=
    .quotation (List.not_mem_nil (a := '.')) ⟨by decide, by decide⟩ .verbatim h (by decide)
  simpa [between, String.toList_append] using hshows

end

theorem Json.Found.shows_message {found : Found} (h : found.Cites (Short n)) :
    Shows n found.message.toList := by
  cases found with
  | null | sequence | map => exact Text.shows_of_dotless (by decide)
  | boolean b => cases b <;> exact Text.shows_of_dotless (by decide)
  | integer k =>
    refine (Text.Shows.behind_text ?_ (by decide)).before_text (by decide)
    exact Text.shows_of_dotless (dotless_intText k)
  | float f =>
    refine (Text.Shows.behind_text ?_ (by decide)).before_text (by decide)
    exact .plain (count_dot_write f)
  | string s => exact (Text.shows_quoted h).behind_text (by decide)

/-- A message of a reader shows no more than what it cites. -/
theorem Json.ReadError.shows_message {e : ReadError}
    (h : e.Cites (Short n)) : Shows n e.message.toList := by
  cases e with
  | fault f => exact Text.shows_of_dotless f.dotless_message
  | invalidType found expected =>
    refine Text.Shows.before_text (Text.Shows.before_text ?_ (by decide)) h.2
    exact (Found.shows_message h.1).behind_text (by decide)
  | invalidValue found expected =>
    refine Text.Shows.before_text (Text.Shows.before_text ?_ (by decide)) h.2
    exact (Found.shows_message h.1).behind_text (by decide)
  | missingField name | duplicateField name =>
    refine Text.shows_of_dotless ?_
    exact dotless_append.mpr ⟨by decide, dotless_between h⟩
  | unknownVariant found names =>
    refine Text.Shows.before_text (Text.Shows.before_text ?_ (by decide)) (dotless_nameChoice h.2)
    exact (shows_between h.1).behind_text (by decide)
  | invalidLength length expected =>
    refine Text.shows_of_dotless ?_
    refine dotless_append.mpr ⟨dotless_append.mpr ⟨?_, by decide⟩, h⟩
    exact dotless_append.mpr ⟨by decide, dotless_natText length⟩

end IdentityProvider
