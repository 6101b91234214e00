import TriggerFlow.Number.Numeral
import TriggerFlow.Proofs.Number.Rounding

/-! # Numerals read back

The text of a decimal is read as a decimal of the same value: `Decimal.chars` may move the point and
strip or append zeros, but none of that changes the number that is read (`chars_writes`,
`Written.read?`).  Together with `Decimal.toBinary64_shortest` this makes the text of a finite number
one of which the number is read back. -/

namespace TriggerFlow

namespace Decimal

/-- Decimal digits only. -/
def Digits (cs : List Char) : Prop := ∀ c ∈ cs, c.isDigit = true

/-- What follows a run of digits. -/
def NoDigit (cs : List Char) : Prop := ∀ c rest, cs = c :: rest → c.isDigit = false

/-- A decimal notation without leading zeros. -/
structure Leading (ds : List Char) : Prop where
  digits : Digits ds
  lead : ∃ first rest, ds = first :: rest ∧ first ≠ '0'

/-! ### The value of digits -/

theorem digitsValue_eq (cs : List Char) : digitsValue cs = Nat.ofDigitChars 10 cs 0 := rfl

theorem digitsValue_append (cs ds : List Char) :
    digitsValue (cs ++ ds) = digitsValue cs * 10 ^ ds.length + digitsValue ds := by
  rw [digitsValue_eq, Nat.ofDigitChars_append, Nat.ofDigitChars_eq_ofDigitChars_zero, Nat.mul_comm]
  rfl

theorem digitsValue_zeros (n : Nat) : digitsValue (List.replicate n '0') = 0 := by
  rw [digitsValue_eq, Nat.ofDigitChars_replicate_zero, Nat.mul_zero]

theorem digitsValue_zeros_append (n : Nat) (ds : List Char) :
    digitsValue (List.replicate n '0' ++ ds) = digitsValue ds := by
  rw [digitsValue_append, digitsValue_zeros, Nat.zero_mul, Nat.zero_add]

theorem digitsValue_append_zeros (ds : List Char) (n : Nat) :
    digitsValue (ds ++ List.replicate n '0') = digitsValue ds * 10 ^ n := by
  rw [digitsValue_append, digitsValue_zeros, List.length_replicate, Nat.add_zero]

theorem digitsValue_toDigits (n : Nat) : digitsValue (Nat.toDigits 10 n) = n :=
  Nat.ofDigitChars_ten_toDigits

theorem digits_toDigits (n : Nat) : Digits (Nat.toDigits 10 n) := fun _ hc =>
  Nat.isDigit_of_mem_toDigits (by decide) (by decide) hc

theorem digits_zeros (n : Nat) : Digits (List.replicate n '0') := by
  intro c hc
  rw [List.eq_of_mem_replicate hc]
  rfl

theorem Digits.append {cs ds : List Char} (hc : Digits cs) (hd : Digits ds) : Digits (cs ++ ds) := by
  intro c h
  rcases List.mem_append.mp h with h | h
  · exact hc c h
  · exact hd c h

/-- Digits end where no digit follows. -/
theorem takeWhile_digits {ds rest : List Char} (hd : Digits ds) (hr : NoDigit rest) :
    (ds ++ rest).takeWhile Char.isDigit = ds := by
  rw [List.takeWhile_append_of_pos hd]
  cases rest with
  | nil => rw [List.takeWhile_nil, List.append_nil]
  | cons c rest =>
      rw [List.takeWhile_cons_of_neg (by rw [hr c rest rfl]; decide), List.append_nil]

theorem dropWhile_digits {ds rest : List Char} (hd : Digits ds) (hr : NoDigit rest) :
    (ds ++ rest).dropWhile Char.isDigit = rest := by
  rw [List.dropWhile_append_of_pos hd]
  cases rest with
  | nil => rfl
  | cons c rest => rw [List.dropWhile_cons_of_neg (by rw [hr c rest rfl]; decide)]

theorem leading_toDigits {n : Nat} (hn : 0 < n) : Leading (Nat.toDigits 10 n) where
  digits := digits_toDigits n
  lead := by
    induction n using Nat.strongRecOn with
    | ind n ih =>
        rcases Nat.lt_or_ge n 10 with hlt | hge
        · rw [Nat.toDigits_of_lt_base hlt]
          refine ⟨_, _, rfl, fun h => ?_⟩
          have := Nat.digitChar_eq_zero.mp h
          omega
        · obtain ⟨first, rest, hdigits, hne⟩ := ih (n / 10) (by omega) (by omega)
          rw [Nat.toDigits_of_base_le (by decide) hge, hdigits]
          exact ⟨first, _, rfl, hne⟩

/-! ### Stripping zeros -/

theorem strip_zeros (ds : List Char) :
    ∃ k, ds = (ds.reverse.dropWhile (· == '0')).reverse ++ List.replicate k '0' := by
  refine ⟨(ds.reverse.takeWhile (· == '0')).length, ?_⟩
  have hzeros : ds.reverse.takeWhile (· == '0') =
      List.replicate (ds.reverse.takeWhile (· == '0')).length '0' := by
    rw [List.eq_replicate_iff]
    refine ⟨rfl, fun c hc => ?_⟩
    exact eq_of_beq (List.all_eq_true.mp List.all_takeWhile c hc)
  have hsplit := congrArg List.reverse
    (@List.takeWhile_append_dropWhile _ (· == '0') ds.reverse)
  rw [List.reverse_append, List.reverse_reverse, hzeros, List.reverse_replicate] at hsplit
  exact hsplit.symm

/-- Trailing zeros go into the exponent. -/
theorem normalize_toDigits {n : Nat} (hn : 0 < n) (e : Int) :
    ∃ ds, ∃ k : Nat, normalize (Nat.toDigits 10 n) e = (ds, e + k) ∧
      Leading ds ∧ n = digitsValue ds * 10 ^ k := by
  obtain ⟨k, hk⟩ := strip_zeros (Nat.toDigits 10 n)
  have hleading := leading_toDigits hn
  have hvalue := digitsValue_toDigits n
  unfold normalize
  generalize ((Nat.toDigits 10 n).reverse.dropWhile (· == '0')).reverse = ds at hk ⊢
  rw [hk] at hleading hvalue ⊢
  rw [digitsValue_append_zeros] at hvalue
  have hne : ds.isEmpty = false := by
    cases ds with
    | nil =>
        rw [show digitsValue [] = 0 from rfl, Nat.zero_mul] at hvalue
        omega
    | cons => rfl
  refine ⟨ds, k, ?_, ⟨fun c hc => hleading.digits c (List.mem_append_left _ hc), ?_⟩, hvalue.symm⟩
  · simp only [hne, Bool.false_eq_true, if_false, List.length_append, List.length_replicate]
    congr 2
    omega
  · obtain ⟨first, rest, heq, hfirst⟩ := hleading.lead
    cases ds with
    | nil => cases hne
    | cons c ds =>
        cases heq
        exact ⟨_, ds, rfl, hfirst⟩

/-! ### Signs and exponents -/

/-- A notation with its sign. -/
def signed (negative : Bool) (body : List Char) : List Char :=
  if negative then '-' :: body else body

/-- A notation that begins with a digit. -/
def Unsigned (body : List Char) : Prop := ∃ c rest, body = c :: rest ∧ c.isDigit = true

theorem splitSign_signed (negative : Bool) {body : List Char} (h : Unsigned body) :
    splitSign (signed negative body) = (negative, body) := by
  cases negative with
  | true => rfl
  | false =>
      obtain ⟨c, rest, rfl, hc⟩ := h
      unfold signed splitSign
      split
      · rename_i heq
        cases heq
        cases hc
      · rename_i heq
        cases heq
        cases hc
      · rfl

theorem Leading.unsigned {ds : List Char} (h : Leading ds) (rest : List Char) :
    Unsigned (ds ++ rest) := by
  obtain ⟨first, tail, rfl, -⟩ := h.lead
  exact ⟨first, tail ++ rest, rfl, h.digits first List.mem_cons_self⟩

theorem readExponent?_of_digits (negative : Bool) {ds : List Char} (hne : ds ≠ [])
    (hd : Digits ds) : readExponent? ((if negative then '-' else '+') :: ds) =
      some (if negative then -(digitsValue ds : Int) else (digitsValue ds : Int)) := by
  have hsplit : splitSign ((if negative then '-' else '+') :: ds) = (negative, ds) := by
    cases negative <;> rfl
  have hempty : ds.isEmpty = false := List.isEmpty_eq_false_iff.mpr hne
  have hall : ds.all Char.isDigit = true := List.all_eq_true.mpr hd
  unfold readExponent?
  simp only [hsplit, hempty, hall]
  rfl

/-- An exponent as it is written. -/
theorem exponentText_eq (e : Int) :
    ∃ ds, exponentText e = 'e' :: (if e < 0 then '-' else '+') :: ds ∧ ds ≠ [] ∧ Digits ds ∧
      digitsValue ds = e.natAbs := by
  have hdigits := digits_toDigits e.natAbs
  have hvalue := digitsValue_toDigits e.natAbs
  have hne : Nat.toDigits 10 e.natAbs ≠ [] := Nat.toDigits_ne_nil
  by_cases hshort : (Nat.toDigits 10 e.natAbs).length < 2
  · refine ⟨'0' :: Nat.toDigits 10 e.natAbs, ?_, List.cons_ne_nil _ _,
      List.forall_mem_cons.mpr ⟨rfl, hdigits⟩, ?_⟩
    · simp only [exponentText, if_pos hshort]
    · exact (digitsValue_zeros_append 1 _).trans hvalue
  · refine ⟨Nat.toDigits 10 e.natAbs, ?_, hne, hdigits, hvalue⟩
    simp only [exponentText, if_neg hshort]

theorem readExponent?_exponentText (e : Int) :
    ∃ rest, exponentText e = 'e' :: rest ∧ readExponent? rest = some e := by
  obtain ⟨ds, heq, hne, hd, hvalue⟩ := exponentText_eq e
  refine ⟨_, heq, ?_⟩
  have hread := readExponent?_of_digits (decide (e < 0)) hne hd
  simp only [decide_eq_true_eq] at hread
  rw [hread, hvalue]
  split
  · rw [Int.ofNat_natAbs_of_nonpos (by omega), Int.neg_neg]
  · rw [Int.natAbs_of_nonneg (by omega)]

/-! ### Notations -/

/-- An exponent part, or none. -/
inductive Tail : List Char → Int → Prop
  | none : Tail [] 0
  | exponent (e : Int) : Tail (exponentText e) e

theorem Tail.noDigit {tail : List Char} {e : Int} (h : Tail tail e) : NoDigit tail := by
  intro c rest heq
  cases h with
  | none => cases heq
  | exponent =>
      cases heq
      rfl

/-- The digits before a point: no zero leads any other digit. -/
structure Whole (ds : List Char) : Prop where
  digits : Digits ds
  unsigned : ∀ rest, Unsigned (ds ++ rest)
  lead : ds.head? = some '0' → ds.length = 1

theorem Whole.ne_nil {ds : List Char} (h : Whole ds) : ds ≠ [] := by
  rintro rfl
  obtain ⟨c, rest, heq, -⟩ := h.unsigned []
  cases heq

theorem Whole.single {c : Char} (h : c.isDigit = true) : Whole [c] where
  digits := List.forall_mem_singleton.mpr h
  unsigned rest := ⟨c, rest, rfl, h⟩
  lead _ := rfl

theorem Leading.whole {ds rest : List Char} (h : Leading ds) (hr : Digits rest) :
    Whole (ds ++ rest) where
  digits := h.digits.append hr
  unsigned tail := by
    rw [List.append_assoc]
    exact h.unsigned _
  lead hzero := by
    obtain ⟨first, tail, rfl, hne⟩ := h.lead
    exact (hne (Option.some.inj hzero)).elim

/-- A text without its sign, with the digits and the exponent of the number that it writes: either a
point stands after the whole part, or an exponent does. -/
inductive Written : List Char → Nat → Int → Prop
  | point {whole fraction tail : List Char} {e : Int} : Whole whole → Digits fraction →
      fraction ≠ [] → Tail tail e →
        Written (whole ++ '.' :: (fraction ++ tail)) (digitsValue (whole ++ fraction))
          (e - fraction.length)
  | bare {whole : List Char} (e : Int) : Whole whole →
      Written (whole ++ exponentText e) (digitsValue whole) e

theorem Written.unsigned {body : List Char} {m : Nat} {e : Int} (h : Written body m e) :
    Unsigned body := by
  cases h with
  | point hw => exact hw.unsigned _
  | bare e hw => exact hw.unsigned _

theorem noDigit_point (rest : List Char) : NoDigit ('.' :: rest) := by
  intro c tail h
  cases h
  rfl

/-- A decimal is read in each of its notations. -/
theorem Written.read? {body : List Char} {m : Nat} {e : Int} (h : Written body m e)
    (negative : Bool) : Decimal.read? (signed negative body) = some ⟨negative, m, e⟩ := by
  have hunsigned := h.unsigned
  cases h with
  | @point whole fraction tail e hw hf _ ht =>
      have hempty : whole.isEmpty = false := List.isEmpty_eq_false_iff.mpr hw.ne_nil
      unfold Decimal.read?
      simp only [splitSign_signed negative hunsigned, takeWhile_digits hw.digits (noDigit_point _),
        dropWhile_digits hw.digits (noDigit_point _), takeWhile_digits hf ht.noDigit,
        dropWhile_digits hf ht.noDigit, hempty]
      cases ht with
      | none => rfl
      | exponent e =>
          obtain ⟨rest, heq, hread⟩ := readExponent?_exponentText e
          simp only [heq, hread]
          rfl
  | @bare whole e hw =>
      have hempty : whole.isEmpty = false := List.isEmpty_eq_false_iff.mpr hw.ne_nil
      have ht := Tail.exponent e
      obtain ⟨rest, heq, hread⟩ := readExponent?_exponentText e
      unfold Decimal.read?
      simp only [splitSign_signed negative hunsigned, takeWhile_digits hw.digits ht.noDigit,
        dropWhile_digits hw.digits ht.noDigit, hempty]
      simp only [heq]
      change ((readExponent? rest).bind fun e =>
        some (Decimal.mk negative (digitsValue (whole ++ [])) (e - ((0 : Nat) : Int)))) = _
      rw [hread, List.append_nil, Int.natCast_zero]
      exact congrArg (fun e => some (Decimal.mk negative (digitsValue whole) e)) (Int.sub_zero e)

/-! ### The text of a decimal -/

/-- A text, without its sign, in which the number of a decimal is written, whatever its digits and
its exponent. -/
def Writes (d : Decimal) (body : List Char) : Prop :=
  ∃ m e, Written body m e ∧ toBinary64 ⟨d.negative, m, e⟩ = d.toBinary64

/-- Digits with an exponent, and with a point after the first if there are more. -/
def scientific (ds : List Char) (lead : Int) : List Char :=
  match ds with
  | first :: second :: rest => first :: '.' :: second :: (rest ++ exponentText lead)
  | _ => ds ++ exponentText lead

section

variable {d : Decimal} {ds : List Char} {e : Int} (hd : Leading ds)
  (hvalue : toBinary64 ⟨d.negative, digitsValue ds, e⟩ = d.toBinary64)

include hd hvalue

theorem writes_below_one (h : e + ds.length ≤ 0) :
    Writes d ('0' :: '.' :: (List.replicate (e + ds.length).natAbs '0' ++ ds)) := by
  obtain ⟨first, rest, hds, -⟩ := hd.lead
  have hne : List.replicate (e + ds.length).natAbs '0' ++ ds ≠ [] := by
    rw [hds]
    exact List.append_ne_nil_of_right_ne_nil _ (List.cons_ne_nil _ _)
  have written := Written.point (Whole.single (c := '0') rfl)
    ((digits_zeros (e + ds.length).natAbs).append hd.digits) hne .none
  rw [List.append_nil] at written
  refine ⟨_, _, written, ?_⟩
  have hm : digitsValue (['0'] ++ (List.replicate (e + ds.length).natAbs '0' ++ ds)) =
      digitsValue ds := by
    rw [← List.append_assoc]
    exact digitsValue_zeros_append ((e + ds.length).natAbs + 1) ds
  have he : 0 - ((List.replicate (e + ds.length).natAbs '0' ++ ds).length : Int) = e := by
    rw [List.length_append, List.length_replicate]
    omega
  rw [hm, he, hvalue]

theorem writes_within {n : Nat} (hn : (n : Int) = e + ds.length) (hpos : 0 < n)
    (hlt : n < ds.length) : Writes d (ds.take n ++ '.' :: ds.drop n) := by
  obtain ⟨first, rest, hds, hne⟩ := hd.lead
  have htake : Leading (ds.take n) := by
    refine ⟨fun c hc => hd.digits c (List.mem_of_mem_take hc), first, rest.take (n - 1), ?_, hne⟩
    obtain ⟨k, rfl⟩ := Nat.exists_eq_succ_of_ne_zero (by omega : n ≠ 0)
    rw [hds]
    rfl
  have hdrop : ds.drop n ≠ [] := by
    rw [Ne, List.drop_eq_nil_iff]
    omega
  have written := Written.point (@Leading.whole _ [] htake fun c hc => (List.not_mem_nil hc).elim)
    (fun c hc => hd.digits c (List.mem_of_mem_drop hc)) hdrop .none
  rw [List.append_nil, List.append_nil, List.take_append_drop] at written
  refine ⟨_, _, written, ?_⟩
  have he : 0 - ((ds.drop n).length : Int) = e := by
    rw [List.length_drop]
    omega
  rw [he, hvalue]

theorem writes_beyond {n : Nat} (hn : (n : Int) = e + ds.length) (hle : ds.length ≤ n) :
    Writes d (ds ++ List.replicate (n - ds.length) '0' ++ ['.', '0']) := by
  have written := Written.point (hd.whole (digits_zeros (n - ds.length)))
    (digits_zeros 1) (List.cons_ne_nil _ _) .none
  refine ⟨_, _, written, ?_⟩
  have hm : digitsValue (ds ++ List.replicate (n - ds.length) '0' ++ List.replicate 1 '0') =
      digitsValue ds * 10 ^ (n - ds.length + 1) := by
    rw [List.append_assoc, List.replicate_append_replicate, digitsValue_append_zeros]
  have he : 0 - ((List.replicate 1 '0').length : Int) + (n - ds.length + 1 : Nat) = e := by
    rw [List.length_replicate]
    omega
  rw [hm, toBinary64_shift, he, hvalue]

theorem writes_positional : Writes d (positional ds (e + ds.length)) := by
  unfold positional
  split
  · exact writes_below_one hd hvalue ‹_›
  · have hn : ((e + ds.length).toNat : Int) = e + ds.length := Int.toNat_of_nonneg (by omega)
    simp only
    split
    · exact writes_within hd hvalue hn (by omega) ‹_›
    · exact writes_beyond hd hvalue hn (by omega)

theorem writes_scientific : Writes d (scientific ds (e + ds.length - 1)) := by
  obtain ⟨first, rest, rfl, -⟩ := hd.lead
  have hfirst := hd.digits first List.mem_cons_self
  cases rest with
  | nil =>
      have written := Written.bare (e + ([first] : List Char).length - 1) (Whole.single hfirst)
      refine ⟨_, _, written, ?_⟩
      rw [List.length_singleton, Int.natCast_one, Int.add_sub_cancel, hvalue]
  | cons second rest =>
      have written := Written.point (Whole.single hfirst)
        (fun c hc => hd.digits c (List.mem_cons_of_mem _ hc)) (List.cons_ne_nil second rest)
        (.exponent (e + (first :: second :: rest).length - 1))
      refine ⟨_, _, written, ?_⟩
      have he : e + ((first :: second :: rest).length : Int) - 1 -
          ((second :: rest).length : Int) = e := by
        rw [@List.length_cons _ first]
        omega
      rw [he]
      exact hvalue

end

/-- The text of a decimal writes its number. -/
theorem chars_writes (d : Decimal) : ∃ body, d.chars = signed d.negative body ∧ Writes d body := by
  obtain ⟨negative, m, e⟩ := d
  by_cases hm : m = 0
  · subst hm
    have hnormal : normalize (Nat.toDigits 10 0) e = (['0'], 0) := by
      rw [Nat.toDigits_zero]
      rfl
    have written := Written.point (Whole.single (c := '0') rfl) (digits_zeros 1)
      (List.cons_ne_nil _ _) .none
    rw [chars, hnormal]
    exact ⟨_, rfl, _, _, written, rfl⟩
  · obtain ⟨ds, k, hnormal, hd, hvalue⟩ := normalize_toDigits (Nat.pos_of_ne_zero hm) e
    have hsame : toBinary64 ⟨negative, digitsValue ds, e + k⟩ = toBinary64 ⟨negative, m, e⟩ := by
      rw [hvalue, toBinary64_shift]
    have hlead : e + k + ds.length - 1 + 1 = e + k + ds.length := by omega
    rw [chars, hnormal]
    refine ⟨_, rfl, ?_⟩
    split
    · rw [hlead]
      exact @writes_positional ⟨negative, m, e⟩ ds (e + k) hd hsame
    · exact @writes_scientific ⟨negative, m, e⟩ ds (e + k) hd hsame

end Decimal

end TriggerFlow
