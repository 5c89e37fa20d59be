import Polyglot.Json.Display
import Polyglot.Json.Encode
import Polyglot.Proofs.Decode
import Polyglot.Proofs.Numeral
import Polyglot.Proofs.Shortest

/-! # Written numbers and words are read back

A number is taken from the front of a text as it is written there, with all its digits, and has the
value that was written: the text of a double spells its shortest decimal, and an integer that is not
too long has few enough digits.
-/

namespace Polyglot.Json

open Binary64

/-- Holds of a text that no number goes on with. -/
def EndsNumber (rest : Text) : Prop :=
  ∀ c ∈ rest.head?, CodePoint.isAsciiDigit c = false ∧ c ≠ '.' ∧ c ≠ 'e' ∧ c ≠ 'E'

theorem span_digits {digits rest : Text} (hdigits : ∀ c ∈ digits, CodePoint.isAsciiDigit c)
    (hrest : ∀ c ∈ rest.head?, CodePoint.isAsciiDigit c = false) :
    (digits ++ rest).span CodePoint.isAsciiDigit = (digits, rest) := by
  have hstop : rest.takeWhile CodePoint.isAsciiDigit = [] ∧
      rest.dropWhile CodePoint.isAsciiDigit = rest := by
    cases rest with
    | nil => exact ⟨rfl, rfl⟩
    | cons c rest => simp [hrest c rfl]
  rw [List.span_eq_takeWhile_dropWhile, List.takeWhile_append_of_pos hdigits,
    List.dropWhile_append_of_pos hdigits, hstop.1, hstop.2, List.append_nil]

theorem takeWhole_zero (rest : Text) :
    takeWhole (CodePoint.ofChar '0' :: rest) = some ([CodePoint.ofChar '0'], rest) := by
  rw [takeWhole, if_pos rfl]

theorem takeWhole_digits {c : CodePoint} {digits rest : Text} (hzero : c ≠ '0')
    (hdigits : ∀ d ∈ c :: digits, CodePoint.isAsciiDigit d)
    (hrest : ∀ d ∈ rest.head?, CodePoint.isAsciiDigit d = false) :
    takeWhole (c :: digits ++ rest) = some (c :: digits, rest) := by
  rw [List.cons_append, takeWhole, if_neg hzero, if_pos (hdigits c List.mem_cons_self),
    ← List.cons_append, span_digits hdigits hrest]

theorem takeFraction_digits {digits rest : Text} (hne : digits ≠ [])
    (hdigits : ∀ c ∈ digits, CodePoint.isAsciiDigit c)
    (hrest : ∀ c ∈ rest.head?, CodePoint.isAsciiDigit c = false) :
    takeFraction (CodePoint.ofChar '.' :: digits ++ rest) = (some digits, rest) := by
  rw [List.cons_append, takeFraction, if_pos rfl, span_digits hdigits hrest]
  cases digits with
  | nil => exact absurd rfl hne
  | cons c digits => rfl

theorem takeFraction_none {rest : Text} (hrest : ∀ c ∈ rest.head?, c ≠ '.') :
    takeFraction rest = (none, rest) := by
  cases rest with
  | nil => rfl
  | cons c rest => exact if_neg (hrest c rfl)

theorem takeExponent_none {rest : Text} (hrest : ∀ c ∈ rest.head?, c ≠ 'e' ∧ c ≠ 'E') :
    takeExponent rest = (none, rest) := by
  cases rest with
  | nil => rfl
  | cons c rest => exact if_neg (not_or.mpr (hrest c rfl))

theorem takeExponent_digits (negative : Bool) {s digits rest : Text}
    (hsign : takeSign s = (negative, digits ++ rest)) (hne : digits ≠ [])
    (hdigits : ∀ c ∈ digits, CodePoint.isAsciiDigit c)
    (hrest : ∀ c ∈ rest.head?, CodePoint.isAsciiDigit c = false) :
    takeExponent (CodePoint.ofChar 'e' :: s) =
      (some (if negative then -(Text.digitsValue digits : ℤ) else Text.digitsValue digits),
        rest) := by
  rw [takeExponent, if_pos (.inl rfl), hsign]
  dsimp only
  rw [span_digits hdigits hrest]
  cases digits with
  | nil => exact absurd rfl hne
  | cons c digits => rfl

theorem takeExponent_written {e : ℤ} {rest : Text}
    (hrest : ∀ c ∈ rest.head?, CodePoint.isAsciiDigit c = false) :
    takeExponent (Shortest.exponentPart e ++ rest) = (some e, rest) := by
  have hdigits : ∀ c ∈ Text.padded 2 e.natAbs, CodePoint.isAsciiDigit c :=
    fun c hc => Text.isAsciiDigit_of_mem_padded hc
  have hvalue := Text.digitsValue_padded 2 e.natAbs
  have hne : Text.padded 2 e.natAbs ≠ [] := by
    intro h
    exact Text.ofNat_ne_nil _ (List.append_eq_nil_iff.mp h).2
  unfold Shortest.exponentPart
  by_cases he : e < 0
  · rw [if_pos he]
    refine (takeExponent_digits true rfl hne hdigits hrest).trans ?_
    rw [if_pos rfl, hvalue, show -(e.natAbs : ℤ) = e by omega]
  · rw [if_neg he]
    refine (takeExponent_digits false rfl hne hdigits hrest).trans ?_
    rw [if_neg Bool.false_ne_true, hvalue, show (e.natAbs : ℤ) = e by omega]

namespace Numeral

/-- The text of what follows the integer part: a point and digits. -/
def fractionPart (n : Numeral) : Text :=
  n.fraction.elim [] fun digits => CodePoint.ofChar '.' :: digits

/-- The text of the exponent. -/
def exponentPart (n : Numeral) : Text := n.exponent.elim [] Shortest.exponentPart

/-- The text of a number without its sign. -/
def unsigned (n : Numeral) : Text := n.whole ++ (n.fractionPart ++ n.exponentPart)

/-- The text of a number. -/
def text (n : Numeral) : Text :=
  (if n.negative then [CodePoint.ofChar '-'] else []) ++ n.unsigned

/-- Holds of a number whose text is in the grammar. -/
structure IsProper (n : Numeral) : Prop where
  whole : n.whole = [CodePoint.ofChar '0'] ∨
    ∃ c rest, n.whole = c :: rest ∧ c ≠ '0' ∧ ∀ d ∈ n.whole, CodePoint.isAsciiDigit d
  fraction : ∀ digits ∈ n.fraction, digits ≠ [] ∧ ∀ d ∈ digits, CodePoint.isAsciiDigit d

section Taking

variable {n : Numeral} {rest : Text}

theorem IsProper.exists_unsigned (hn : n.IsProper) :
    ∃ c t, n.unsigned = c :: t ∧ CodePoint.isAsciiDigit c := by
  unfold unsigned
  rcases hn.whole with hzero | ⟨c, t, hwhole, -, hdigits⟩
  · rw [hzero]
    exact ⟨_, _, rfl, by decide⟩
  · rw [hwhole] at hdigits ⊢
    exact ⟨_, _, rfl, hdigits c List.mem_cons_self⟩

theorem head?_exponentPart (hrest : EndsNumber rest) :
    ∀ c ∈ (n.exponentPart ++ rest).head?, CodePoint.isAsciiDigit c = false ∧ c ≠ '.' := by
  unfold exponentPart
  cases n.exponent with
  | none => exact fun c hc => ⟨(hrest c hc).1, (hrest c hc).2.1⟩
  | some e =>
      have hhead : ∃ t, Shortest.exponentPart e = CodePoint.ofChar 'e' :: t := by
        unfold Shortest.exponentPart
        split
        next => exact ⟨_, rfl⟩
        next => exact ⟨_, rfl⟩
      obtain ⟨t, ht⟩ := hhead
      rw [Option.elim_some, ht]
      rintro c ⟨⟩
      decide

theorem head?_fractionPart (hrest : EndsNumber rest) :
    ∀ c ∈ (n.fractionPart ++ (n.exponentPart ++ rest)).head?, CodePoint.isAsciiDigit c = false := by
  unfold fractionPart
  cases n.fraction with
  | none => exact fun c hc => (head?_exponentPart hrest c hc).1
  | some digits =>
      rintro c ⟨⟩
      decide

theorem takeWhole_unsigned (hn : n.IsProper) (hrest : EndsNumber rest) :
    takeWhole (n.unsigned ++ rest) =
      some (n.whole, n.fractionPart ++ (n.exponentPart ++ rest)) := by
  unfold unsigned
  rw [List.append_assoc, List.append_assoc]
  rcases hn.whole with hzero | ⟨c, digits, hdigits, hne, hall⟩
  · rw [hzero]
    exact takeWhole_zero _
  · rw [hdigits] at hall ⊢
    exact takeWhole_digits hne hall (head?_fractionPart hrest)

theorem takeFraction_fractionPart (hn : n.IsProper) (hrest : EndsNumber rest) :
    takeFraction (n.fractionPart ++ (n.exponentPart ++ rest)) =
      (n.fraction, n.exponentPart ++ rest) := by
  have hproper := hn.fraction
  unfold fractionPart
  cases hfraction : n.fraction with
  | none => exact takeFraction_none fun c hc => (head?_exponentPart hrest c hc).2
  | some digits =>
      obtain ⟨hne, hdigits⟩ := hproper digits hfraction
      exact takeFraction_digits hne hdigits fun c hc => (head?_exponentPart hrest c hc).1

theorem takeExponent_exponentPart (hrest : EndsNumber rest) :
    takeExponent (n.exponentPart ++ rest) = (n.exponent, rest) := by
  unfold exponentPart
  cases n.exponent with
  | none => exact takeExponent_none fun c hc => (hrest c hc).2.2
  | some e => exact takeExponent_written fun c hc => (hrest c hc).1

/-- A number is taken as it is written. -/
theorem takeNumeral_text (hn : n.IsProper) (hrest : EndsNumber rest) :
    takeNumeral (n.text ++ rest) = some (n, rest) := by
  obtain ⟨c, t, hunsigned, hdigit⟩ := hn.exists_unsigned
  have hsigned : takeNumeral (n.text ++ rest) =
      (takeWhole (n.unsigned ++ rest)).bind fun p =>
        some (⟨n.negative, p.1, (takeFraction p.2).1,
          (takeExponent (takeFraction p.2).2).1⟩, (takeExponent (takeFraction p.2).2).2) := by
    unfold text
    cases n.negative with
    | true => rfl
    | false =>
        have hne : c ≠ '-' := by
          rintro rfl
          exact absurd hdigit (by decide)
        rw [hunsigned, if_neg (by decide)]
        simp only [takeNumeral, List.nil_append, List.cons_append, if_neg hne]
        rfl
  rw [hsigned, takeWhole_unsigned hn hrest, Option.bind_some]
  dsimp only
  rw [takeFraction_fractionPart hn hrest]
  dsimp only
  rw [takeExponent_exponentPart hrest]

/-- No word begins with a digit, or has one behind its first sign. -/
theorem takeWord_eq_none {s : Text} {c : CodePoint} (hdigit : CodePoint.isAsciiDigit c) :
    takeWord (c :: s) = none ∧ takeWord (CodePoint.ofChar '-' :: c :: s) = none := by
  have hwords : ∀ entry ∈ words, entry.1 ≠ [] ∧ entry.1.tail ≠ [] ∧
      (entry.1.take 2).all fun d => !CodePoint.isAsciiDigit d := by decide
  have hnone {t : Text} (h : ∀ entry ∈ words, ¬entry.1 <+: t) : takeWord t = none := by
    refine List.findSome?_eq_none_iff.mpr fun entry hentry => if_neg ?_
    rw [List.isPrefixOf_iff_prefix]
    exact h entry hentry
  constructor
  · refine hnone fun entry hentry hprefix => ?_
    obtain ⟨hne, -, hletters⟩ := hwords entry hentry
    obtain ⟨a, t, ht⟩ := List.exists_cons_of_ne_nil hne
    rw [ht] at hprefix hletters
    obtain ⟨rfl, -⟩ := List.cons_prefix_cons.mp hprefix
    simp [hdigit] at hletters
  · refine hnone fun entry hentry hprefix => ?_
    obtain ⟨hne, htail, hletters⟩ := hwords entry hentry
    obtain ⟨a, t, ht⟩ := List.exists_cons_of_ne_nil hne
    rw [ht, List.tail_cons] at htail
    obtain ⟨b, u, rfl⟩ := List.exists_cons_of_ne_nil htail
    rw [ht] at hprefix hletters
    obtain ⟨-, hprefix⟩ := List.cons_prefix_cons.mp hprefix
    obtain ⟨rfl, -⟩ := List.cons_prefix_cons.mp hprefix
    simp [hdigit] at hletters

/-- A number is read as its value. -/
theorem readAtom_text (hn : n.IsProper) (hrest : EndsNumber rest) :
    readAtom (n.text ++ rest) = n.value.map fun v => (v, rest) := by
  obtain ⟨c, t, hunsigned, hdigit⟩ := hn.exists_unsigned
  have hword : takeWord (n.text ++ rest) = none := by
    unfold text
    rw [hunsigned]
    cases n.negative with
    | true => exact (takeWord_eq_none hdigit).2
    | false => exact (takeWord_eq_none hdigit).1
  rw [readAtom, hword]
  dsimp only
  rw [takeNumeral_text hn hrest]

end Taking

/-- The digits of a number without the point, as an integer. -/
def coefficient (n : Numeral) : ℕ := Text.digitsValue (n.whole ++ n.fraction.getD [])

/-- The power of ten that the last digit of a number counts. -/
def power (n : Numeral) : ℤ := n.exponent.getD 0 - (n.fraction.getD []).length

theorem value_of_fraction {n : Numeral} (h : n.fraction ≠ none ∨ n.exponent ≠ none) :
    n.value = .ok (.double (ofDecimal n.negative n.coefficient n.power)) := by
  unfold value
  split
  next hfraction hexponent => exact absurd hexponent (h.resolve_left fun hne => hne hfraction)
  next => rfl

/-- Holds of a number that is written as a double and is the number that a decimal names. -/
structure Spells (n : Numeral) (c : ℕ) (e : ℤ) : Prop where
  proper : n.IsProper
  double : n.fraction ≠ none ∨ n.exponent ≠ none
  pos : 0 < n.coefficient
  value : decimal n.coefficient n.power = decimal c e

section Layout

variable {c : ℕ} {e : ℤ} {negative : Bool}

theorem ofNat_digits (n : ℕ) : ∀ d ∈ Text.ofNat n, CodePoint.isAsciiDigit d :=
  fun _ hd => Text.isAsciiDigit_of_mem_ofNat hd

theorem zeros_digits (k : ℕ) : ∀ d ∈ Shortest.zeros k, CodePoint.isAsciiDigit d := by
  intro d hd
  rw [List.eq_of_mem_replicate hd]
  decide

theorem zero_digits : [CodePoint.ofChar '0'] ≠ [] ∧
    ∀ d ∈ [CodePoint.ofChar '0'], CodePoint.isAsciiDigit d :=
  ⟨List.cons_ne_nil _ _, List.forall_mem_singleton.mpr (by decide)⟩

/-- A number below one: zeros stand between the point and the first digit. -/
theorem spells_below (hc : 0 < c) (k : ℕ) (he : e = -(k + (Text.ofNat c).length)) :
    Spells ⟨negative, [CodePoint.ofChar '0'], some (Shortest.zeros k ++ Text.ofNat c), none⟩
      c e := by
  have hcoefficient : Text.digitsValue
      ([CodePoint.ofChar '0'] ++ (Shortest.zeros k ++ Text.ofNat c)) = c := by
    rw [← List.append_assoc, Text.digitsValue_append, Text.digitsValue_ofNat]
    have hzeros := Text.digitsValue_zeros (k + 1)
    rw [List.replicate_succ] at hzeros
    change
      Text.digitsValue (CodePoint.ofChar '0' :: List.replicate k (CodePoint.ofChar '0')) * _ + c = c
    rw [hzeros, zero_mul, zero_add]
  refine ⟨⟨.inl rfl, ?_⟩, .inl (by simp), hc.trans_eq hcoefficient.symm, ?_⟩
  · rintro digits ⟨⟩
    refine ⟨?_, ?_⟩
    · simp [Text.ofNat_ne_nil]
    · intro d hd
      rcases List.mem_append.mp hd with hd | hd
      · exact zeros_digits k d hd
      · exact ofNat_digits c d hd
  · have hpower : power ⟨negative, [CodePoint.ofChar '0'],
        some (Shortest.zeros k ++ Text.ofNat c), none⟩ = e := by
      rw [he, power]
      simp [Shortest.zeros]
    exact congrArg₂ decimal hcoefficient hpower

/-- An integer: zeros stand between the last digit and the point. -/
theorem spells_integer (hc : 0 < c) (k : ℕ) (he : e = k) :
    Spells ⟨negative, Text.ofNat c ++ Shortest.zeros k, some [CodePoint.ofChar '0'], none⟩ c e := by
  obtain ⟨d, rest, hdigits, -, hne⟩ := Text.exists_ofNat_of_pos hc
  have hcoefficient : Text.digitsValue
      (Text.ofNat c ++ Shortest.zeros k ++ [CodePoint.ofChar '0']) = c * 10 ^ (k + 1) := by
    have hzeros : Shortest.zeros k ++ [CodePoint.ofChar '0'] =
        List.replicate (k + 1) (CodePoint.ofChar '0') := List.replicate_succ'.symm
    rw [List.append_assoc, hzeros, Text.digitsValue_append, Text.digitsValue_ofNat,
      Text.digitsValue_zeros, List.length_replicate, add_zero]
  have hpos : 0 < c * 10 ^ (k + 1) := by positivity
  refine ⟨⟨.inr ⟨d, rest ++ Shortest.zeros k, ?_, hne, ?_⟩, ?_⟩, .inl (by simp),
    hpos.trans_eq hcoefficient.symm, ?_⟩
  · rw [hdigits]
    rfl
  · intro d hd
    rcases List.mem_append.mp hd with hd | hd
    · exact ofNat_digits c d hd
    · exact zeros_digits k d hd
  · rintro digits ⟨⟩
    exact zero_digits
  · refine (congrArg (decimal · (-1)) hcoefficient).trans ?_
    rw [he, decimal, decimal, zpow_neg_one, zpow_natCast]
    push_cast
    rw [pow_succ]
    field_simp

/-- A point stands between two digits. -/
theorem spells_inside (hc : 0 < c) {k : ℕ} (hk : 0 < k) (hlength : k < (Text.ofNat c).length)
    (exponent : Option ℤ) (he : e = exponent.getD 0 - ((Text.ofNat c).length - k : ℕ)) :
    Spells ⟨negative, (Text.ofNat c).take k, some ((Text.ofNat c).drop k), exponent⟩ c e := by
  obtain ⟨d, rest, hdigits, -, hne⟩ := Text.exists_ofNat_of_pos hc
  have hcoefficient : Text.digitsValue
      ((Text.ofNat c).take k ++ (Text.ofNat c).drop k) = c := by
    rw [List.take_append_drop, Text.digitsValue_ofNat]
  refine ⟨⟨.inr ⟨d, rest.take (k - 1), ?_, hne, ?_⟩, ?_⟩, .inl (by simp),
    hc.trans_eq hcoefficient.symm, ?_⟩
  · obtain ⟨j, rfl⟩ := Nat.exists_eq_succ_of_ne_zero hk.ne'
    rw [hdigits]
    rfl
  · exact fun d hd => ofNat_digits c d (List.mem_of_mem_take hd)
  · rintro digits ⟨⟩
    refine ⟨?_, fun d hd => ofNat_digits c d (List.mem_of_mem_drop hd)⟩
    rw [ne_eq, List.drop_eq_nil_iff]
    omega
  · refine congrArg₂ decimal hcoefficient ?_
    rw [he, power, Option.getD_some, List.length_drop]

/-- One digit before an exponent, without a point. -/
theorem spells_digit (hc : 0 < c) :
    Spells ⟨negative, Text.ofNat c, none, some e⟩ c e := by
  obtain ⟨d, rest, hdigits, -, hne⟩ := Text.exists_ofNat_of_pos hc
  have hcoefficient : Text.digitsValue (Text.ofNat c ++ []) = c := by
    rw [List.append_nil, Text.digitsValue_ofNat]
  refine ⟨⟨.inr ⟨d, rest, hdigits, hne, ofNat_digits c⟩, by simp⟩, .inr (by simp),
    hc.trans_eq hcoefficient.symm, ?_⟩
  exact congrArg₂ decimal hcoefficient (by simp [power])

theorem unsigned_point (negative : Bool) (whole digits : Text) :
    unsigned ⟨negative, whole, some digits, none⟩ =
      whole ++ CodePoint.ofChar '.' :: digits := by
  simp only [unsigned, fractionPart, exponentPart, Option.elim_some, Option.elim_none,
    List.append_nil]

/-- The positional text of a decimal spells it. -/
theorem exists_spells_positional (hc : 0 < c) (e : ℤ) (negative : Bool) :
    ∃ n, Spells n c e ∧ n.negative = negative ∧
      n.unsigned = Shortest.positional (Text.ofNat c) ((Text.ofNat c).length + e) := by
  set before : ℤ := (Text.ofNat c).length + e with hbefore
  have hpos : 0 < (Text.ofNat c).length := List.length_pos_iff.mpr (Text.ofNat_ne_nil c)
  unfold Shortest.positional
  split
  next hsmall =>
    refine ⟨_, spells_below hc (-before).toNat (by omega), rfl, ?_⟩
    rw [unsigned_point]
    rfl
  next =>
    split
    next hlarge =>
      refine ⟨_, spells_integer hc (before.toNat - (Text.ofNat c).length) (by omega), rfl, ?_⟩
      rw [unsigned_point]
      rfl
    next =>
      have hexp : e = -((Text.ofNat c).length - before.toNat : ℕ) := by omega
      refine ⟨_, spells_inside hc (k := before.toNat) (by omega) (by omega) none ?_, rfl, ?_⟩
      · rw [Option.getD_none, zero_sub, hexp]
      · rw [unsigned_point, List.append_assoc]
        rfl

/-- The text of a decimal with an exponent spells it. -/
theorem exists_spells_exponential (hc : 0 < c) (e : ℤ) (negative : Bool) :
    ∃ n, Spells n c e ∧ n.negative = negative ∧
      n.unsigned = Shortest.exponential (Text.ofNat c) ((Text.ofNat c).length + e) := by
  set before : ℤ := (Text.ofNat c).length + e with hbefore
  have hpos : 0 < (Text.ofNat c).length := List.length_pos_iff.mpr (Text.ofNat_ne_nil c)
  unfold Shortest.exponential
  dsimp only
  split
  next hone =>
    refine ⟨_, spells_digit hc, rfl, ?_⟩
    have hlast : before - 1 = e := by omega
    rw [List.take_of_length_le hone, hlast]
    simp only [unsigned, fractionPart, exponentPart, Option.elim_some, Option.elim_none,
      List.append_nil, List.nil_append]
  next hmore =>
    have hexp : e = before - 1 - ((Text.ofNat c).length - 1 : ℕ) := by omega
    refine ⟨_, spells_inside hc Nat.one_pos (by omega) (some (before - 1)) hexp, rfl, ?_⟩
    simp only [unsigned, fractionPart, exponentPart, Option.elim_some, List.drop_one,
      List.append_assoc]
    rfl

end Layout

theorem exists_text_finite {x : Float} (hx : x.isFinite) :
    ∃ n : Numeral, n.IsProper ∧ n.text = Shortest.finiteText x ∧ n.value = .ok (.double x) := by
  have hsign : (if isNegative x then ("-" : Text) else "") =
      if isNegative x then [CodePoint.ofChar '-'] else [] := by
    split <;> rfl
  unfold Shortest.finiteText
  dsimp only
  rw [hsign]
  split
  next hzero =>
    refine ⟨⟨isNegative x, [CodePoint.ofChar '0'], some [CodePoint.ofChar '0'], none⟩,
      ⟨.inl rfl, ?_⟩, rfl, ?_⟩
    · rintro digits ⟨⟩
      exact zero_digits
    · rw [value_of_fraction (.inl (by simp))]
      exact congrArg (fun x => Except.ok (Json.double x)) (Shortest.eq_ofDecimal_zero hx hzero)
  next hm =>
    obtain ⟨hfinite, hne, hpositive⟩ := abs_positive hx hm
    obtain ⟨hc, -⟩ := Shortest.read_ofFloat hfinite hne hpositive
    have hread {n : Numeral} (hn : n.Spells (Shortest.ofFloat x.abs).coefficient
        (Shortest.ofFloat x.abs).exponent) (hnegative : n.negative = isNegative x) :
        n.value = .ok (.double x) := by
      rw [value_of_fraction hn.double, hnegative]
      exact congrArg (fun x => Except.ok (Json.double x))
        (Shortest.ofDecimal_of_value hx hm hn.pos hn.value)
    set before : ℤ := (Text.ofNat (Shortest.ofFloat x.abs).coefficient).length +
      (Shortest.ofFloat x.abs).exponent
    by_cases hplace : -4 < before ∧ before ≤ 16
    · obtain ⟨n, hn, hnegative, htext⟩ := exists_spells_positional hc
        (Shortest.ofFloat x.abs).exponent (isNegative x)
      refine ⟨n, hn.proper, ?_, hread hn hnegative⟩
      rw [text, hnegative, htext, if_pos hplace]
    · obtain ⟨n, hn, hnegative, htext⟩ := exists_spells_exponential hc
        (Shortest.ofFloat x.abs).exponent (isNegative x)
      refine ⟨n, hn.proper, ?_, hread hn hnegative⟩
      rw [text, hnegative, htext, if_neg hplace]

/-- An integer that a message can show has no more digits than the reader takes. -/
theorem isLong_eq_false_iff {i : ℤ} :
    isLong i = false ↔ (Text.ofNat i.natAbs).length ≤ digitLimit := by
  have hgeneral (n : ℕ) {k : ℕ} (hk : 0 < k) :
      decide (Nat.pow 10 k ≤ n) = false ↔ (Text.ofNat n).length ≤ k := by
    rw [Text.length_ofNat_le_iff hk, decide_eq_false_iff_not, not_le, Nat.pow_eq]
  exact hgeneral i.natAbs (by decide)

theorem exists_text_int {i : ℤ} (hi : isLong i = false) :
    ∃ n : Numeral, n.IsProper ∧ n.text = Text.ofInt i ∧ n.value = .ok (.int i) := by
  have hlimit := isLong_eq_false_iff.mp hi
  have hproper (k : ℕ) (negative : Bool) :
      IsProper ⟨negative, Text.ofNat k, none, none⟩ := by
    refine ⟨?_, by simp⟩
    rcases Nat.eq_zero_or_pos k with rfl | hk
    · exact .inl Text.ofNat_zero
    · obtain ⟨c, rest, hdigits, -, hne⟩ := Text.exists_ofNat_of_pos hk
      exact .inr ⟨c, rest, hdigits, hne, ofNat_digits k⟩
  have hvalue {k : ℕ} (hk : (Text.ofNat k).length ≤ digitLimit) (negative : Bool) :
      value ⟨negative, Text.ofNat k, none, none⟩ = .ok (.int (if negative then -k else k)) := by
    rw [value]
    dsimp only
    rw [if_neg (not_lt.mpr hk), Text.digitsValue_ofNat]
  cases i with
  | ofNat k =>
      refine ⟨_, hproper k false, ?_, hvalue hlimit false⟩
      simp only [text, unsigned, fractionPart, exponentPart, Text.ofInt, Option.elim_none,
        List.append_nil]
      rfl
  | negSucc k =>
      refine ⟨_, hproper (k + 1) true, ?_, hvalue hlimit true⟩
      simp only [text, unsigned, fractionPart, exponentPart, Text.ofInt, Option.elim_none,
        List.append_nil]
      rfl

end Numeral

section Special

variable {x : Float}

theorem eq_nan (hx : x.isNaN) : x = nan := by
  have hparts : parts x = .notANumber := by
    change (parts x).isNaN = true at hx
    cases h : parts x with
    | notANumber => rfl
    | _ => rw [h] at hx; cases hx
  rw [← ofParts_parts x, hparts]
  rfl

theorem eq_infinity (hx : x.isInf) : x = if isNegative x then -infinity else infinity := by
  have hparts : parts x = .infinity (signOf x) := by
    change (parts x).isInf = true at hx
    rw [signOf_eq]
    change (Float.Model.UnpackedFloat.unpack _ (bits x)).isInf = true at hx
    change Float.Model.UnpackedFloat.unpack _ (bits x) = _
    dsimp only [Float.Model.UnpackedFloat.unpack] at hx ⊢
    split_ifs at hx ⊢ <;> first | rfl | cases hx
  rw [signOf] at hparts
  refine (ofParts_parts x).symm.trans ?_
  rw [hparts]
  by_cases hsign : isNegative x
  · rw [if_pos hsign, if_pos hsign]
    rfl
  · rw [if_neg hsign, if_neg hsign]
    rfl

theorem isFinite_of_not (hnan : ¬x.isNaN) (hinf : ¬x.isInf) : x.isFinite := by
  change ¬(parts x).isNaN = true at hnan
  change ¬(parts x).isInf = true at hinf
  change (parts x).isFinite = true
  cases h : parts x with
  | notANumber => exact absurd (h ▸ rfl) hnan
  | infinity s => exact absurd (h ▸ rfl) hinf
  | zero s => rfl
  | finite s m e hm => rfl

end Special

/-- Holds of a sign that a value may begin with: it is no blank and no mark, and closes nothing. -/
def opensValue (c : CodePoint) : Bool :=
  !isBlank c && c != CodePoint.closeBrace && c != CodePoint.closeBracket &&
    c != CodePoint.byteOrderMark

/-- Holds of a sign that begins neither a text, a list nor an object. -/
def opensAtom (c : CodePoint) : Bool :=
  opensValue c && c != CodePoint.quotationMark && c != CodePoint.openBrace &&
    c != CodePoint.openBracket

theorem opensAtom_of_isAsciiDigit {c : CodePoint} (hdigit : CodePoint.isAsciiDigit c) :
    opensAtom c := by
  have hne {d : CodePoint} (hd : CodePoint.isAsciiDigit d = false) : c ≠ d := by
    rintro rfl
    exact absurd hdigit (by simp [hd])
  simp only [opensAtom, opensValue, isBlank, Bool.and_eq_true, bne_iff_ne, Bool.not_eq_true',
    Bool.or_eq_false_iff,
    beq_eq_false_iff_ne]
  refine ⟨⟨⟨⟨⟨⟨⟨⟨⟨?_, ?_⟩, ?_⟩, ?_⟩, ?_⟩, ?_⟩, ?_⟩, ?_⟩, ?_⟩, ?_⟩ <;> exact hne (by decide)

/-- Holds of a value that stands for itself: no text, list or object, and no long integer. -/
inductive IsAtom : Json → Prop where
  | null : IsAtom .null
  | bool (b : Bool) : IsAtom (.bool b)
  | int {i : ℤ} (hi : isLong i = false) : IsAtom (.int i)
  | double (x : Float) : IsAtom (.double x)

section Atoms

variable {rest : Text} (hrest : EndsNumber rest)

include hrest

/-- The text of a number is read as its value. -/
theorem readAtom_numeral {n : Numeral} {t : Text} {v : Json} (hn : n.IsProper) (ht : n.text = t)
    (hvalue : n.value = .ok v) :
    readAtom (t ++ rest) = .ok (v, rest) ∧ ∃ c u, t = c :: u ∧ opensAtom c := by
  subst ht
  constructor
  · rw [Numeral.readAtom_text hn hrest, hvalue]
    rfl
  · obtain ⟨c, u, hunsigned, hdigit⟩ := hn.exists_unsigned
    unfold Numeral.text
    rw [hunsigned]
    cases n.negative with
    | true => exact ⟨_, _, rfl, by decide⟩
    | false => exact ⟨_, _, rfl, opensAtom_of_isAsciiDigit hdigit⟩

/-- The text of a double is read as this double, infinity and the one that is no number too. -/
theorem readAtom_double (x : Float) :
    readAtom (Shortest.text spelling x ++ rest) = .ok (.double x, rest) ∧
      ∃ c t, Shortest.text spelling x = c :: t ∧ opensAtom c := by
  rw [Shortest.text]
  split
  next hnan =>
    rw [eq_nan hnan]
    exact ⟨rfl, _, _, rfl, by decide⟩
  next hnan =>
    split
    next hinf =>
      have hx := eq_infinity hinf
      split
      next hsign =>
        rw [if_pos hsign] at hx
        rw [hx]
        exact ⟨rfl, _, _, rfl, by decide⟩
      next hsign =>
        rw [if_neg hsign] at hx
        rw [hx]
        exact ⟨rfl, _, _, rfl, by decide⟩
    next hinf =>
      obtain ⟨n, hn, htext, hvalue⟩ := Numeral.exists_text_finite (isFinite_of_not hnan hinf)
      exact readAtom_numeral hrest hn htext hvalue

/-- An atom is read as it is written. -/
theorem readAtom_writeAtom (style : Style) {v : Json} (hv : IsAtom v) :
    readAtom (writeAtom style v ++ rest) = .ok (v, rest) ∧
      ∃ c t, writeAtom style v = c :: t ∧ opensAtom c := by
  cases hv with
  | null => exact ⟨rfl, _, _, rfl, by decide⟩
  | bool b => cases b <;> exact ⟨rfl, _, _, rfl, by decide⟩
  | int hi =>
      obtain ⟨n, hn, htext, hvalue⟩ := Numeral.exists_text_int hi
      exact readAtom_numeral hrest hn htext hvalue
  | double x => exact readAtom_double hrest x

end Atoms

end Polyglot.Json
