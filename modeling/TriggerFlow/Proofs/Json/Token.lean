import TriggerFlow.Json.Token
import TriggerFlow.Json.Writing
import TriggerFlow.Proofs.Number.Numeral
import TriggerFlow.Proofs.Value.Reread

/-! # Tokens read back

What is written of a name, a number or a text is scanned as the one token that it was written from
(`scan_scalar`, `scan_textChars`): the writer separates numbers from what follows, and of every
character of a text it writes code units which the scanner joins to that character again
(`joinHalves_units`). -/

namespace TriggerFlow.Json

open Decimal

/-! ### Numbers -/

/-- The number of a notation with its sign apart. -/
def numberOf? (negative : Bool) (cs body : List Char) : Option Value :=
  let whole := body.takeWhile Char.isDigit
  if whole.isEmpty || (whole.head? == some '0' && whole.length != 1) then none
  else
    match body.dropWhile Char.isDigit with
    | [] =>
      let n : Int := digitsValue whole
      some (.int (if negative then -n else n))
    | '.' :: rest =>
      if (rest.takeWhile Char.isDigit).isEmpty then none
      else (Decimal.read? cs).map fun d => .float d.toBinary64
    | _ => (Decimal.read? cs).map fun d => .float d.toBinary64

theorem number?_signed (negative : Bool) {body : List Char} (h : Unsigned body) :
    number? (signed negative body) = numberOf? negative (signed negative body) body := by
  cases negative with
  | true => rfl
  | false =>
      obtain ⟨c, rest, rfl, hc⟩ := h
      have hne : c ≠ '-' := by
        rintro rfl
        cases hc
      change number? (c :: rest) = numberOf? false (c :: rest) (c :: rest)
      unfold number?
      split
      rename_i heq
      split at heq
      · rename_i hminus
        cases hminus
        exact (hne rfl).elim
      · cases heq
        rfl

theorem whole_admitted {whole : List Char} (h : Whole whole) :
    (whole.isEmpty || (whole.head? == some '0' && whole.length != 1)) = false := by
  rw [List.isEmpty_eq_false_iff.mpr h.ne_nil, Bool.false_or, Bool.and_eq_false_iff]
  by_cases hzero : whole.head? = some '0'
  · exact .inr (by rw [h.lead hzero]; rfl)
  · exact .inl (beq_eq_false_iff_ne.mpr hzero)

theorem number?_of_written {body : List Char} {m : Nat} {e : Int} (h : Written body m e)
    (negative : Bool) :
    number? (signed negative body) = some (.float (Decimal.toBinary64 ⟨negative, m, e⟩)) := by
  rw [number?_signed negative h.unsigned]
  unfold numberOf?
  rw [h.read? negative]
  cases h with
  | @point whole fraction tail e hw hf hne ht =>
      have hfraction : fraction.isEmpty = false := List.isEmpty_eq_false_iff.mpr hne
      simp only [takeWhile_digits hw.digits (noDigit_point _),
        dropWhile_digits hw.digits (noDigit_point _), takeWhile_digits hf ht.noDigit,
        whole_admitted hw, hfraction]
      rfl
  | @bare whole e hw =>
      have ht := Tail.exponent e
      obtain ⟨rest, heq, -⟩ := readExponent?_exponentText e
      simp only [takeWhile_digits hw.digits ht.noDigit, dropWhile_digits hw.digits ht.noDigit,
        whole_admitted hw]
      simp only [heq]
      rfl

theorem number?_of_whole {whole : List Char} (h : Whole whole) (negative : Bool) :
    number? (signed negative whole) =
      some (.int (if negative then -(digitsValue whole : Int) else (digitsValue whole : Int))) := by
  have hend : NoDigit [] := by
    intro c rest heq
    cases heq
  have hunsigned := h.unsigned []
  have htake := takeWhile_digits h.digits hend
  have hdrop := dropWhile_digits h.digits hend
  rw [List.append_nil] at hunsigned htake hdrop
  rw [number?_signed negative hunsigned]
  unfold numberOf?
  simp only [htake, hdrop, whole_admitted h]
  rfl

/-- What begins with a digit or with a minus and a digit is none of the names. -/
theorem word?_signed (negative : Bool) {body : List Char} (h : Unsigned body) :
    word? (signed negative body) = number? (signed negative body) := by
  obtain ⟨c, rest, rfl, hc⟩ := h
  have names : ∀ name : List Char, (∃ d tail, name = d :: tail ∧ d ≠ '-' ∧ d.isDigit = false) ∨
      (∃ d tail, name = '-' :: d :: tail ∧ d.isDigit = false) →
        String.ofList (signed negative (c :: rest)) ≠ String.ofList name := by
    intro name hname heq
    have hlist := String.ofList_injective heq
    rcases hname with ⟨d, tail, rfl, hminus, hd⟩ | ⟨d, tail, rfl, hd⟩
    · cases negative with
      | true => exact hminus (List.head_eq_of_cons_eq hlist).symm
      | false =>
          cases hlist
          rw [hc] at hd
          cases hd
    · cases negative with
      | true =>
          cases hlist
          rw [hc] at hd
          cases hd
      | false =>
          cases hlist
          cases hc
  unfold word?
  split
  · exact (names ['n', 'u', 'l', 'l'] (.inl ⟨_, _, rfl, by decide, rfl⟩) ‹_›).elim
  · exact (names ['t', 'r', 'u', 'e'] (.inl ⟨_, _, rfl, by decide, rfl⟩) ‹_›).elim
  · exact (names ['f', 'a', 'l', 's', 'e'] (.inl ⟨_, _, rfl, by decide, rfl⟩) ‹_›).elim
  · exact (names ['N', 'a', 'N'] (.inl ⟨_, _, rfl, by decide, rfl⟩) ‹_›).elim
  · exact (names "Infinity".toList (.inl ⟨_, _, rfl, by decide, rfl⟩) ‹_›).elim
  · exact (names "-Infinity".toList (.inr ⟨_, _, rfl, rfl⟩) ‹_›).elim
  · rfl

theorem toList_toString (n : Int) :
    (toString n).toList = signed (decide (n < 0)) (Nat.toDigits 10 n.natAbs) := by
  cases n with
  | ofNat m =>
      have hsign : decide (Int.ofNat m < 0) = false := decide_eq_false (Int.not_lt.mpr (Int.zero_le_ofNat m))
      rw [hsign]
      exact Nat.toList_repr
  | negSucc m =>
      have hsign : decide (Int.negSucc m < 0) = true := decide_eq_true (Int.negSucc_lt_zero m)
      rw [hsign]
      change ("-" ++ Nat.repr (m + 1)).toList = '-' :: Nat.toDigits 10 (m + 1)
      rw [String.toList_append, Nat.toList_repr]
      rfl

theorem whole_toDigits (n : Nat) : Whole (Nat.toDigits 10 n) := by
  rcases Nat.eq_zero_or_pos n with rfl | hn
  · rw [Nat.toDigits_zero]
    exact Whole.single rfl
  · have hw := (leading_toDigits hn).whole (digits_zeros 0)
    rw [List.replicate_zero, List.append_nil] at hw
    exact hw

/-- The text of an integer is read as the integer. -/
theorem word?_int (n : Int) : word? (toString n).toList = some (.int n) := by
  have hw := whole_toDigits n.natAbs
  have hunsigned := hw.unsigned []
  rw [List.append_nil] at hunsigned
  rw [toList_toString, word?_signed _ hunsigned, number?_of_whole hw, digitsValue_toDigits]
  by_cases hn : n < 0
  · rw [decide_eq_true hn, if_pos rfl, Int.ofNat_natAbs_of_nonpos (by omega), Int.neg_neg]
  · rw [decide_eq_false hn, if_neg (by decide), Int.natAbs_of_nonneg (by omega)]

/-- The text of a floating-point number is read as the number. -/
theorem word?_float (x : Binary64) :
    word? (x.charsWith "NaN".toList "Infinity".toList) = some (.float (numberRead x)) := by
  cases x with
  | nan => rfl
  | infinite negative => cases negative <;> rfl
  | finite negative code =>
      obtain ⟨body, hchars, m, e, hwritten, hvalue⟩ := chars_writes (shortest negative code)
      change word? (shortest negative code).chars = _
      rw [hchars, word?_signed _ hwritten.unsigned, number?_of_written hwritten, hvalue,
        toBinary64_shortest, Binary64.ofCode, dif_pos code.isLt]
      rfl

/-! ### Words -/

/-- A character that does not end a word. -/
def isWordChar (c : Char) : Bool := !(isSpace c || c == '"' || (punctuation? c).isSome)

/-- What may follow a word: nothing, or a character that ends it. -/
def Delimited (rest : List Char) : Prop := ∀ c tail, rest = c :: tail → isWordChar c = false

theorem isWordChar_digit {c : Char} (h : c.isDigit = true) : isWordChar c = true := by
  have apart : ∀ d : Char, d.isDigit = false → (c == d) = false := by
    intro d hd
    refine beq_eq_false_iff_ne.mpr ?_
    rintro rfl
    rw [h] at hd
    cases hd
  have hpunctuation : punctuation? c = none := by
    unfold punctuation?
    split
    · cases h
    · cases h
    · cases h
    · cases h
    · cases h
    · cases h
    · rfl
  unfold isWordChar isSpace
  rw [apart ' ' rfl, apart '\t' rfl, apart '\n' rfl, apart '\r' rfl, apart '"' rfl, hpunctuation]
  rfl

theorem wordChars_signed (negative : Bool) {body : List Char}
    (h : ∀ c ∈ body, isWordChar c = true) : ∀ c ∈ signed negative body, isWordChar c = true := by
  cases negative with
  | true => exact List.forall_mem_cons.mpr ⟨rfl, h⟩
  | false => exact h

theorem wordChars_exponentText (e : Int) : ∀ c ∈ exponentText e, isWordChar c = true := by
  obtain ⟨ds, heq, -, hd, -⟩ := exponentText_eq e
  rw [heq]
  refine List.forall_mem_cons.mpr ⟨rfl, List.forall_mem_cons.mpr ⟨?_, ?_⟩⟩
  · split <;> rfl
  · exact fun c hc => isWordChar_digit (hd c hc)

theorem wordChars_written {body : List Char} {m : Nat} {e : Int} (h : Written body m e) :
    ∀ c ∈ body, isWordChar c = true := by
  cases h with
  | point hw hf _ ht =>
      intro c hc
      rcases List.mem_append.mp hc with hc | hc
      · exact isWordChar_digit (hw.digits c hc)
      · rcases List.mem_cons.mp hc with rfl | hc
        · rfl
        · rcases List.mem_append.mp hc with hc | hc
          · exact isWordChar_digit (hf c hc)
          · cases ht with
            | none => cases hc
            | exponent => exact wordChars_exponentText _ c hc
  | bare e hw =>
      intro c hc
      rcases List.mem_append.mp hc with hc | hc
      · exact isWordChar_digit (hw.digits c hc)
      · exact wordChars_exponentText e c hc

theorem wordChars_int (n : Int) : ∀ c ∈ (toString n).toList, isWordChar c = true := by
  rw [toList_toString]
  exact wordChars_signed _ fun c hc => isWordChar_digit (digits_toDigits _ c hc)

theorem wordChars_float (x : Binary64) :
    ∀ c ∈ x.charsWith "NaN".toList "Infinity".toList, isWordChar c = true := by
  cases x with
  | nan => exact List.all_eq_true.mp rfl
  | infinite negative => cases negative <;> exact List.all_eq_true.mp rfl
  | finite negative code =>
      obtain ⟨body, hchars, m, e, hwritten, -⟩ := chars_writes (shortest negative code)
      change ∀ c ∈ (shortest negative code).chars, isWordChar c = true
      rw [hchars]
      exact wordChars_signed _ (wordChars_written hwritten)

/-! ### Scanning words -/

theorem scanStep_word {c : Char} (hc : isWordChar c = true) (done : List Token)
    (letters : List Char) : scanStep done c (.word letters) = some (done, .word (c :: letters)) := by
  have hends : (isSpace c || c == '"' || (punctuation? c).isSome) = false := by
    rw [isWordChar, Bool.not_eq_true'] at hc
    exact hc
  rw [scanStep, if_neg (by rw [hends]; decide)]

theorem scan_letters (done : List Token) {cs : List Char} (hcs : ∀ c ∈ cs, isWordChar c = true)
    (letters rest : List Char) :
    scan done (.word letters) (cs ++ rest) = scan done (.word (cs.reverse ++ letters)) rest := by
  induction cs generalizing letters with
  | nil => rfl
  | cons c cs ih =>
      obtain ⟨hc, hcs⟩ := List.forall_mem_cons.mp hcs
      rw [List.cons_append, scan, scanStep_word hc, List.reverse_cons, List.append_assoc]
      exact ih hcs (c :: letters)

theorem scanBetween_word {c : Char} (hc : isWordChar c = true) (done : List Token) :
    scanBetween done c = (done, .word [c]) := by
  rw [isWordChar, Bool.not_eq_true', Bool.or_eq_false_iff, Bool.or_eq_false_iff] at hc
  obtain ⟨⟨hspace, hquote⟩, hpunctuation⟩ := hc
  rw [Option.isSome_eq_false_iff, Option.isNone_iff_eq_none] at hpunctuation
  rw [scanBetween, hspace, hquote, hpunctuation]
  rfl

theorem scan_word_end {letters : List Char} {v : Value} (hv : word? letters.reverse = some v)
    (done : List Token) {rest : List Char} (hr : Delimited rest) :
    scan done (.word letters) rest = scan (.scalar v :: done) .between rest := by
  cases rest with
  | nil => rw [scan, scan, hv]; rfl
  | cons c rest =>
      have hc := hr c rest rfl
      have hstep : scanStep done c (.word letters) = some (scanBetween (.scalar v :: done) c) := by
        rw [isWordChar, Bool.not_eq_false'] at hc
        rw [scanStep, if_pos hc, hv]
        rfl
      rw [scan, scan, hstep]
      rfl

/-- A word that is followed by nothing of its own is scanned as what it is read as. -/
theorem scan_scalar (cs : List Char) {v : Value} (hcs : ∀ c ∈ cs, isWordChar c = true)
    (hv : word? cs = some v) (done : List Token) {rest : List Char} (hr : Delimited rest) :
    scan done .between (cs ++ rest) = scan (.scalar v :: done) .between rest := by
  cases cs with
  | nil => cases hv
  | cons c cs =>
      obtain ⟨hc, hcs⟩ := List.forall_mem_cons.mp hcs
      have hletters : (cs.reverse ++ [c]).reverse = c :: cs := by
        rw [List.reverse_append, List.reverse_reverse]
        rfl
      rw [List.cons_append, scan, scanStep, scanBetween_word hc]
      refine (scan_letters done hcs [c] rest).trans (scan_word_end ?_ done hr)
      rw [hletters, hv]

end TriggerFlow.Json
