import ClassDiagram.Proofs.Text.Split
import ClassDiagram.Text.Numeral

/-!
# Reading back a numeral

The decimal digits of a number are read as that number (`digits?_toString`).  They are
the only characters of its numeral, so the numeral is solid and can stand next to any
mark.  With a sign before them they are a number with a sign (`int64?_toString`).
-/

namespace ClassDiagram.Text

variable {cs : List Char} {c : Char}

theorem isBlank_of_isDigit (h : c.isDigit = true) : isBlank c = false := by
  have hdigit : 48 ≤ c.toNat ∧ c.toNat ≤ 57 := Char.isDigit_iff_toNat.1 h
  simp [isBlank, inRanges, blankRanges]
  omega

/-- Reading digits is reading a number in base ten. -/
theorem digitsFrom?_eq_ofDigitChars (h : ∀ c ∈ cs, c.isDigit = true) (value : Nat) :
    digitsFrom? value cs = some (Nat.ofDigitChars 10 cs value) := by
  induction cs generalizing value with
  | nil => rfl
  | cons c cs ih =>
    obtain ⟨hc, hcs⟩ := List.forall_mem_cons.1 h
    rw [digitsFrom?, digit?, if_pos hc, Option.bind_some, ih hcs, Nat.ofDigitChars_cons]

theorem toList_toString (n : Nat) : (toString n).toList = Nat.toDigits 10 n := by
  rw [Nat.toString_eq_ofList_toDigits, String.toList_ofList]

theorem isDigit_of_mem_toString {n : Nat} (h : c ∈ (toString n).toList) : c.isDigit = true := by
  rw [toList_toString] at h
  exact Nat.isDigit_of_mem_toDigits (by decide) (by decide) h

theorem solid_toString (n : Nat) : Solid (toString n).toList := by
  refine solid_of_forall ?_ fun c hc => isBlank_of_isDigit (isDigit_of_mem_toString hc)
  rw [toList_toString]
  exact Nat.toDigits_ne_nil

theorem notMem_toString (n : Nat) (h : c.isDigit = false) : c ∉ (toString n).toList := by
  intro hc
  rw [isDigit_of_mem_toString hc] at h
  cases h

/-- A numeral is an item where no digit is forbidden. -/
theorem isItem_toString {forbidden : List Char} (h : forbidden.all (!·.isDigit) = true) (n : Nat) :
    IsItem forbidden (toString n).toList := by
  refine ⟨solid_toString n, fun c hc hmark => ?_⟩
  exact notMem_toString n (by simpa using List.all_eq_true.1 h c hmark) hc

/-- A numeral without a sign starts with a digit. -/
theorem exists_digit_toString (n : Nat) :
    ∃ c rest, (toString n).toList = c :: rest ∧ c.isDigit = true := by
  obtain ⟨c, rest, hcs, -⟩ := (solid_toString n).starts
  exact ⟨c, rest, hcs, isDigit_of_mem_toString (hcs ▸ List.mem_cons_self)⟩

/-- A numeral is read again as its number. -/
theorem digits?_toString (n : Nat) : digits? (toString n).toList = some n := by
  have hdigits : ∀ c ∈ (toString n).toList, c.isDigit = true := fun c hc =>
    isDigit_of_mem_toString hc
  obtain ⟨c, rest, hcs, -⟩ := exists_digit_toString n
  have hread := digitsFrom?_eq_ofDigitChars hdigits 0
  rw [toList_toString, Nat.ofDigitChars_ten_toDigits, ← toList_toString, hcs] at hread
  rw [hcs, digits?, hread]
  exact List.cons_ne_nil c rest

/-- A word is read back from its numeral. -/
theorem word32?_toString (n : UInt32) : word32? (toString n.toNat).toList = some n := by
  obtain ⟨c, rest, hcs, hc⟩ := exists_digit_toString n.toNat
  have hdigits := digits?_toString n.toNat
  have hlimit : n.toNat < word32Limit := n.toNat_lt
  rw [hcs] at hdigits ⊢
  rw [word32?, hdigits, Option.bind_some, if_pos hlimit, UInt32.ofNat_toNat]
  rintro r heq
  cases heq
  cases hc

/-! ## Signed numbers -/

/-- A number that fits a word of 64 bits with a sign. -/
def FitsInt64 (n : Int) : Prop := -int64Limit ≤ n ∧ n < int64Limit

instance (n : Int) : Decidable (FitsInt64 n) := inferInstanceAs (Decidable (_ ∧ _))

/-- What a word stands for fits a word. -/
theorem fitsInt64_toInt (n : Int64) : FitsInt64 n.toInt := ⟨n.le_toInt, n.toInt_lt⟩

/-- A number that fits is what its word stands for. -/
theorem toInt_ofInt_of_fits {n : Int} (h : FitsInt64 n) : (Int64.ofInt n).toInt = n :=
  Int64.toInt_ofInt_of_le h.1 h.2

/-- A text that starts with a digit has no sign. -/
theorem int64?_of_isDigit (hc : c.isDigit = true) (cs : List Char) : int64? (c :: cs)
    = (digits? (c :: cs)).bind fun n => if n < int64Limit then some (.ofNat n) else none := by
  have hsign : ∀ sign r, sign.isDigit = false → c :: cs ≠ sign :: r := by
    rintro sign r hsign heq
    rw [(List.cons.inj heq).1, hsign] at hc
    cases hc
  rw [int64?]
  · simp only [Bool.false_eq_true, if_false]
  · exact fun r => hsign '+' r rfl
  · exact fun r => hsign '-' r rfl

theorem toList_toString_negSucc (n : Nat) :
    (toString (Int.negSucc n)).toList = '-' :: (toString (n + 1)).toList := by
  show ("-" ++ toString (n + 1)).toList = _
  rw [String.toList_append]
  rfl

/-- A numeral with a sign is solid, too. -/
theorem solid_toString_int (n : Int) : Solid (toString n).toList := by
  cases n with
  | ofNat n => exact solid_toString n
  | negSucc n =>
    rw [toList_toString_negSucc]
    exact ⟨⟨'-', _, rfl, rfl⟩, (solid_toString (n + 1)).ends.append ['-']⟩

/-- A word with a sign is read back from its numeral. -/
theorem int64?_toString (n : Int64) : int64? (toString n).toList = some n := by
  obtain ⟨hleast, hlimit⟩ := fitsInt64_toInt n
  have hn : Int64.ofInt n.toInt = n := n.ofInt_toInt
  show int64? (toString n.toInt).toList = some n
  cases hvalue : n.toInt with
  | ofNat k =>
    rw [hvalue] at hlimit hn
    have hdigits := digits?_toString k
    obtain ⟨c, rest, hcs, hc⟩ := exists_digit_toString k
    show int64? (toString k).toList = some n
    rw [hcs] at hdigits ⊢
    rw [int64?_of_isDigit hc, hdigits, Option.bind_some, if_pos (Int.ofNat_lt.1 hlimit)]
    exact congrArg some hn
  | negSucc k =>
    rw [hvalue] at hleast hn
    have hk : k + 1 ≤ int64Limit := by omega
    rw [toList_toString_negSucc, int64?, digits?_toString, Option.bind_some, if_pos rfl, if_pos hk]
    exact congrArg some hn

end ClassDiagram.Text
