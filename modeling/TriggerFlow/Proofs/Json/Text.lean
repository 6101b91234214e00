import TriggerFlow.Json.Token
import TriggerFlow.Json.Writing

/-! # Texts read back

A text is written character by character and scanned code unit by code unit.  Every character is
written so that the scanner collects its code units (`scan_textChar`), one or two of them, and joining
the code units of a text gives its characters (`joinHalves_units`).  So a text that is written is
scanned as the text (`scan_textChars`). -/

namespace TriggerFlow.Json

/-- The code units of a character: two halves beyond the first 65536. -/
def units (c : Char) : List Nat :=
  if c.toNat < 0x10000 then [c.toNat]
  else [0xd800 + (c.toNat - 0x10000) / 0x400, 0xdc00 + c.toNat % 0x400]

/-! ### Joining halves -/

theorem toNat_lt (c : Char) : c.toNat < 0x110000 := by
  rcases c.valid with h | ⟨-, h⟩
  · exact Nat.lt_trans h (by decide)
  · exact h

/-- No character is a half. -/
theorem not_half (c : Char) : isHighHalf c.toNat = false ∧ isLowHalf c.toNat = false := by
  unfold isHighHalf isLowHalf
  have hvalid : c.toNat < 0xd800 ∨ 0xdfff < c.toNat := by
    rcases c.valid with h | ⟨h, -⟩
    · exact .inl h
    · exact .inr h
  constructor
  · simp
    omega
  · simp
    omega

theorem loneUnit_toNat (c : Char) : loneUnit c.toNat = c := by
  obtain ⟨hhigh, hlow⟩ := not_half c
  rw [loneUnit, hhigh, hlow]
  exact Char.ofNat_toNat c

theorem joinHalves_lone (c : Char) (rest : List Nat) :
    joinHalves (c.toNat :: rest) = c :: joinHalves rest := by
  cases rest with
  | nil => rw [joinHalves, loneUnit_toNat, joinHalves]
  | cons n rest =>
      rw [joinHalves, (not_half c).1, loneUnit_toNat]
      rfl

theorem joinHalves_pair {c : Char} (h : 0x10000 ≤ c.toNat) (rest : List Nat) :
    joinHalves ((0xd800 + (c.toNat - 0x10000) / 0x400) :: (0xdc00 + c.toNat % 0x400) :: rest) =
      c :: joinHalves rest := by
  have hlt := toNat_lt c
  have hhigh : isHighHalf (0xd800 + (c.toNat - 0x10000) / 0x400) = true := by
    simp [isHighHalf]
    omega
  have hlow : isLowHalf (0xdc00 + c.toNat % 0x400) = true := by
    simp [isLowHalf]
    omega
  have hjoin : 0x10000 + (0xd800 + (c.toNat - 0x10000) / 0x400 - 0xd800) * 0x400 +
      (0xdc00 + c.toNat % 0x400 - 0xdc00) = c.toNat := by omega
  rw [joinHalves, hhigh, hlow, hjoin, Char.ofNat_toNat]
  rfl

/-- The code units of characters are joined to the characters. -/
theorem joinHalves_units (cs : List Char) : joinHalves (cs.flatMap units) = cs := by
  induction cs with
  | nil => rfl
  | cons c cs ih =>
      rw [List.flatMap_cons, units]
      split
      · rw [List.singleton_append, joinHalves_lone, ih]
      · rw [List.cons_append, List.singleton_append, joinHalves_pair (by omega), ih]

/-! ### Escaped code units -/

theorem hexValue?_digitChar : ∀ d < 16, hexValue? d.digitChar = some d := by decide

/-- A code unit has four hexadecimal digits. -/
theorem hex_four {n : Nat} (h : n < 0x10000) :
    Text.hex 4 n = [(n / 4096).digitChar, (n / 256 % 16).digitChar, (n / 16 % 16).digitChar,
      (n % 16).digitChar] := by
  unfold Text.hex
  rcases Nat.lt_or_ge n 16 with h1 | h1
  · rw [Nat.toDigits_of_lt_base h1, show n / 4096 = 0 by omega, show n / 256 % 16 = 0 by omega,
      show n / 16 % 16 = 0 by omega, show n % 16 = n by omega]
    rfl
  rw [Nat.toDigits_of_base_le (by decide) h1]
  rcases Nat.lt_or_ge (n / 16) 16 with h2 | h2
  · rw [Nat.toDigits_of_lt_base h2, show n / 4096 = 0 by omega, show n / 256 % 16 = 0 by omega,
      show n / 16 % 16 = n / 16 by omega]
    rfl
  rw [Nat.toDigits_of_base_le (by decide) h2]
  rcases Nat.lt_or_ge (n / 16 / 16) 16 with h3 | h3
  · rw [Nat.toDigits_of_lt_base h3, show n / 4096 = 0 by omega,
      show n / 256 % 16 = n / 16 / 16 by omega]
    rfl
  rw [Nat.toDigits_of_base_le (by decide) h3, Nat.toDigits_of_lt_base (by omega),
    show n / 16 / 16 / 16 = n / 4096 by omega, show n / 16 / 16 % 16 = n / 256 % 16 by omega]
  rfl

theorem scan_hexDigit {d : Nat} (hd : d < 16) (done : List Token) (collected : List Nat)
    (value count : Nat) (rest : List Char) :
    scan done (.code collected value count) (d.digitChar :: rest) =
      if count == 3 then scan done (.text ((16 * value + d) :: collected)) rest
      else scan done (.code collected (16 * value + d) (count + 1)) rest := by
  rw [scan, scanStep, hexValue?_digitChar d hd]
  cases count == 3 <;> rfl

theorem scan_escapedUnit {n : Nat} (h : n < 0x10000) (done : List Token) (collected : List Nat)
    (rest : List Char) : scan done (.text collected) (escapedUnit n ++ rest) =
      scan done (.text (n :: collected)) rest := by
  have hvalue : 16 * (16 * (16 * (16 * 0 + n / 4096) + n / 256 % 16) + n / 16 % 16) + n % 16 = n := by
    omega
  rw [escapedUnit, hex_four h]
  change scan done (.code collected 0 0) ((n / 4096).digitChar :: (n / 256 % 16).digitChar ::
    (n / 16 % 16).digitChar :: (n % 16).digitChar :: rest) = _
  rw [scan_hexDigit (by omega), if_neg (by decide), scan_hexDigit (by omega), if_neg (by decide),
    scan_hexDigit (by omega), if_neg (by decide), scan_hexDigit (by omega), if_pos (by decide),
    hvalue]

/-! ### Texts -/

theorem scanStep_plain {c : Char} (hquote : c ≠ '"') (hslash : c ≠ '\\') (hc : 0x20 ≤ c.toNat)
    (done : List Token) (collected : List Nat) :
    scanStep done c (.text collected) = some (done, .text (c.toNat :: collected)) := by
  rw [scanStep, if_neg (by rw [beq_iff_eq]; exact hquote), if_neg (by rw [beq_iff_eq]; exact hslash),
    if_neg (by omega)]

/-- From what is written of a character its code units are collected. -/
theorem scan_textChar (c : Char) (done : List Token) (collected : List Nat) (rest : List Char) :
    scan done (.text collected) (textChar c ++ rest) =
      scan done (.text ((units c).reverse ++ collected)) rest := by
  have hlt := toNat_lt c
  unfold textChar
  split
  iterate 7 rfl
  · rename_i hquote hslash _ _ _ _ _
    unfold units
    simp only
    split
    · rename_i hplain
      rw [if_pos (by simp at hplain; omega), List.singleton_append, scan,
        scanStep_plain hquote hslash (by simp at hplain; omega)]
      rfl
    · split
      · rename_i hunit
        rw [scan_escapedUnit hunit]
        rfl
      · rw [List.append_assoc, scan_escapedUnit (by omega), scan_escapedUnit (by omega)]
        rfl

theorem scan_chars_text (cs : List Char) (done : List Token) (collected : List Nat)
    (rest : List Char) :
    scan done (.text collected) (cs.foldr (fun c done => textChar c ++ done) ('"' :: rest)) =
      scan (.text (String.ofList (joinHalves (collected.reverse ++ cs.flatMap units))) :: done)
        .between rest := by
  induction cs generalizing collected with
  | nil =>
      rw [List.foldr_nil, List.flatMap_nil, List.append_nil]
      rfl
  | cons c cs ih =>
      rw [List.foldr_cons, scan_textChar, ih, List.reverse_append, List.reverse_reverse,
        List.flatMap_cons, List.append_assoc]

/-- **A text that is written is scanned as the text.** -/
theorem scan_textChars (s : String) (done : List Token) (rest : List Char) :
    scan done .between (textChars s rest) = scan (.text s :: done) .between rest := by
  rw [textChars, scan]
  refine (scan_chars_text s.toList done [] rest).trans ?_
  rw [List.reverse_nil, List.nil_append, joinHalves_units, String.ofList_toList]

end TriggerFlow.Json
