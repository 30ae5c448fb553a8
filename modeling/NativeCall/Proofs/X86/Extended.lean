import Mathlib.Data.BitVec
import Mathlib.Algebra.Order.Ring.Nat

/-!
# Extended precision

The floating-point stack holds values of extended precision: a sign, an exponent of fifteen
bits and a significand of 64 bits whose first bit is explicit. Values of single and double
precision are widened on the way in and rounded on the way out. A finite value is counted
in units of the smallest positive one.
-/

namespace NativeCall
namespace X86

structure Extended where
  sign : Bool
  exponent : BitVec 15
  significand : BitVec 64
  deriving DecidableEq, Repr

/-- How a value between two neighbours is rounded; the nearer one is the even one if
neither is nearer. -/
inductive Rounding where
  | nearest
  | down
  | up
  | zero
  deriving DecidableEq, Repr

/-- The sign of a number in a format, and its other bits as a number. -/
structure Pattern where
  sign : Bool
  magnitude : Nat
  deriving DecidableEq, Repr

structure FloatFormat where
  exponent : Nat
  fraction : Nat
  exponent_pos : 0 < exponent
  exponent_lt : exponent < 15
  fraction_pos : 0 < fraction
  fraction_lt : fraction < 63

/-- The greatest exponent of an extended value, which infinities and NaNs have. -/
def Extended.maxExponent : Nat := 0x7FFF

def Extended.leadingBit : Nat := 0x8000_0000_0000_0000

/-- The magnitude of a finite value in units of the smallest positive one. -/
def Extended.units (v : Extended) : Nat :=
  v.significand.toNat * 2 ^ (v.exponent.toNat - 1)

namespace FloatFormat

/-!
# Formats
-/

def single : FloatFormat where
  exponent := 8
  fraction := 23
  exponent_pos := by decide
  exponent_lt := by decide
  fraction_pos := by decide
  fraction_lt := by decide

def double : FloatFormat where
  exponent := 11
  fraction := 52
  exponent_pos := by decide
  exponent_lt := by decide
  fraction_pos := by decide
  fraction_lt := by decide

variable (f : FloatFormat)

/-- The magnitude of infinity; those above are NaNs. -/
def infinity : Nat :=
  (2 ^ f.exponent - 1) * 2 ^ f.fraction

def quietBit : Nat :=
  2 ^ (f.fraction - 1)

def quieten (fraction : Nat) : Nat :=
  f.quietBit + fraction % f.quietBit

def indefinite : Pattern :=
  { sign := true, magnitude := f.infinity + f.quietBit }

/-- The power of two, in units, that the last bit of the smallest numbers stands for. -/
def lastPlace : Nat :=
  16447 - 2 ^ (f.exponent - 1) - f.fraction

/-!
# Widening
-/

/-- The fraction of a finite magnitude with its hidden bit. -/
def mantissa (magnitude : Nat) : Nat :=
  if magnitude / 2 ^ f.fraction = 0 then magnitude
  else 2 ^ f.fraction + magnitude % 2 ^ f.fraction

/-- The power of two, in units, of the last bit of a finite magnitude. -/
def place (magnitude : Nat) : Nat :=
  f.lastPlace + (magnitude / 2 ^ f.fraction - 1)

def widenFinite (sign : Bool) (mantissa place : Nat) : Extended :=
  if mantissa = 0 then
    { sign, exponent := 0, significand := 0 }
  else
    { sign
      exponent := BitVec.ofNat 15 (place + mantissa.log2 - 62)
      significand := BitVec.ofNat 64 (mantissa * 2 ^ (63 - mantissa.log2)) }

/-- The extended value of a number; a NaN becomes a quiet one. -/
def widen (p : Pattern) : Extended :=
  if p.magnitude < f.infinity then
    widenFinite p.sign (f.mantissa p.magnitude) (f.place p.magnitude)
  else
    let fraction := p.magnitude - f.infinity
    let payload := if fraction = 0 then 0 else f.quieten fraction
    { sign := p.sign
      exponent := BitVec.ofNat 15 Extended.maxExponent
      significand := BitVec.ofNat 64 (Extended.leadingBit + payload * 2 ^ (63 - f.fraction)) }

/-!
# Rounding
-/

def roundsUp (mode : Rounding) (sign : Bool) (quotient remainder divisor : Nat) : Bool :=
  match mode with
  | .nearest =>
      divisor < 2 * remainder || (divisor == 2 * remainder && quotient % 2 == 1)
  | .down => sign && remainder != 0
  | .up => !sign && remainder != 0
  | .zero => false

def overflow (mode : Rounding) (sign : Bool) : Nat :=
  match mode, sign with
  | .nearest, _ | .down, true | .up, false => f.infinity
  | _, _ => f.infinity - 1

/-- The magnitude of a finite value. The last place is that of the leading bit less the
length of the fraction, or that of the smallest numbers. -/
def round (mode : Rounding) (sign : Bool) (units : Nat) : Nat :=
  let place := max f.lastPlace (units.log2 - f.fraction)
  let quotient := units / 2 ^ place
  let carry := if roundsUp mode sign quotient (units % 2 ^ place) (2 ^ place) then 1 else 0
  let magnitude := (place - f.lastPlace) * 2 ^ f.fraction + (quotient + carry)
  if magnitude < f.infinity then magnitude else f.overflow mode sign

/-- The number of the format that an extended value is stored as. Values whose leading bit
is missing have no meaning. -/
def narrow (mode : Rounding) (v : Extended) : Pattern :=
  if v.exponent.toNat = Extended.maxExponent then
    if v.significand.toNat < Extended.leadingBit then
      f.indefinite
    else
      let fraction := v.significand.toNat - Extended.leadingBit
      { sign := v.sign
        magnitude := f.infinity +
          (if fraction = 0 then 0 else f.quieten (fraction / 2 ^ (63 - f.fraction))) }
  else if v.exponent.toNat ≠ 0 ∧ v.significand.toNat < Extended.leadingBit then
    f.indefinite
  else
    { sign := v.sign, magnitude := f.round mode v.sign v.units }

/-!
# Finite numbers

A finite number of the format is its mantissa times the power of two of its last place, and
its magnitude is found from the two.
-/

theorem two_pow_exponent : 2 ^ f.exponent = 2 * 2 ^ (f.exponent - 1) := by
  have hpos := f.exponent_pos
  rw [← Nat.pow_succ']
  congr 1
  omega

theorem two_pow_exponent_le : 2 ^ (f.exponent - 1) ≤ 8192 := by
  have hlt := f.exponent_lt
  calc 2 ^ (f.exponent - 1) ≤ 2 ^ 13 := Nat.pow_le_pow_right (by decide) (by omega)
    _ = 8192 := by decide

theorem two_pow_fraction_pos : 0 < 2 ^ f.fraction :=
  Nat.two_pow_pos f.fraction

theorem mantissa_lt (magnitude : Nat) : f.mantissa magnitude < 2 ^ (f.fraction + 1) := by
  have hmod := Nat.mod_lt magnitude f.two_pow_fraction_pos
  rw [Nat.pow_succ, mantissa]
  split
  next hzero =>
    rcases Nat.div_eq_zero_iff.mp hzero with hnone | hsmall
    · exact absurd hnone (Nat.ne_of_gt f.two_pow_fraction_pos)
    · omega
  next => omega

theorem place_eq_or_le_mantissa (magnitude : Nat) :
    f.place magnitude = f.lastPlace ∨ 2 ^ f.fraction ≤ f.mantissa magnitude := by
  by_cases hzero : magnitude / 2 ^ f.fraction = 0
  · left
    rw [place, hzero]
    omega
  · right
    rw [mantissa, if_neg hzero]
    omega

theorem magnitude_of_mantissa_place (magnitude : Nat) :
    (f.place magnitude - f.lastPlace) * 2 ^ f.fraction + f.mantissa magnitude = magnitude := by
  have hdiv := Nat.div_add_mod magnitude (2 ^ f.fraction)
  have hplace : f.place magnitude - f.lastPlace = magnitude / 2 ^ f.fraction - 1 := by
    rw [place]
    omega
  rw [hplace, mantissa]
  split
  next hzero => simp [hzero]
  next hne =>
    have hpos := Nat.succ_pred_eq_of_ne_zero hne
    have hone : 2 ^ f.fraction * (magnitude / 2 ^ f.fraction) =
        (magnitude / 2 ^ f.fraction - 1) * 2 ^ f.fraction + 2 ^ f.fraction := by
      rw [Nat.mul_comm, ← Nat.succ_mul]
      exact congrArg (· * 2 ^ f.fraction) hpos.symm
    omega

theorem place_lt {magnitude : Nat} (h : magnitude < f.infinity) :
    f.place magnitude < f.lastPlace + 2 ^ f.exponent := by
  have hdiv : magnitude / 2 ^ f.fraction < 2 ^ f.exponent - 1 := by
    rw [Nat.div_lt_iff_lt_mul f.two_pow_fraction_pos]
    exact h
  rw [place]
  generalize magnitude / 2 ^ f.fraction = exponent at hdiv
  omega

/-!
# Widening and rounding
-/

theorem roundsUp_zero (mode : Rounding) (sign : Bool) (quotient place : Nat) :
    roundsUp mode sign quotient 0 (2 ^ place) = false := by
  have hpos := Nat.two_pow_pos place
  cases mode <;> simp [roundsUp]

theorem log2_mul_two_pow {m : Nat} (place : Nat) (h : m ≠ 0) :
    (m * 2 ^ place).log2 = m.log2 + place := by
  rcases (Nat.log2_eq_iff h).mp rfl with ⟨hlow, hhigh⟩
  have hpos := Nat.two_pow_pos place
  rw [Nat.log2_eq_iff (Nat.mul_ne_zero h (Nat.ne_of_gt hpos))]
  constructor
  · rw [Nat.pow_add]
    exact Nat.mul_le_mul_right _ hlow
  · rw [Nat.add_right_comm, Nat.pow_add]
    exact Nat.mul_lt_mul_of_pos_right hhigh hpos

/-- A number of the format is rounded to itself. -/
theorem round_exact {m place : Nat} (mode : Rounding) (sign : Bool)
    (hm : m < 2 ^ (f.fraction + 1)) (hplace : f.lastPlace ≤ place)
    (hleading : place = f.lastPlace ∨ 2 ^ f.fraction ≤ m)
    (hfinite : (place - f.lastPlace) * 2 ^ f.fraction + m < f.infinity) :
    f.round mode sign (m * 2 ^ place) = (place - f.lastPlace) * 2 ^ f.fraction + m := by
  have hround : max f.lastPlace ((m * 2 ^ place).log2 - f.fraction) = place := by
    by_cases hzero : m = 0
    · have hpos := f.two_pow_fraction_pos
      rw [hzero, Nat.zero_mul, Nat.log2_zero]
      omega
    · rw [log2_mul_two_pow place hzero]
      have hhigh : m.log2 < f.fraction + 1 := (Nat.log2_lt hzero).mpr hm
      rcases hleading with heq | hlow
      · omega
      · have hlog : f.fraction ≤ m.log2 := (Nat.le_log2 hzero).mpr hlow
        omega
  have hpos := Nat.two_pow_pos place
  unfold round
  simp only [hround, Nat.mul_div_cancel m hpos, Nat.mul_mod_left, roundsUp_zero]
  exact if_pos hfinite

structure IsFinite (v : Extended) : Prop where
  exponent_ne : v.exponent.toNat ≠ Extended.maxExponent
  leading : v.exponent.toNat ≠ 0 -> Extended.leadingBit ≤ v.significand.toNat

theorem narrow_of_isFinite {v : Extended} (mode : Rounding) (h : IsFinite v) :
    f.narrow mode v = { sign := v.sign, magnitude := f.round mode v.sign v.units } := by
  have hmeaning : ¬(v.exponent.toNat ≠ 0 ∧ v.significand.toNat < Extended.leadingBit) := by
    intro hmissing
    have hleading := h.leading hmissing.left
    omega
  rw [narrow, if_neg h.exponent_ne, if_neg hmeaning]

theorem widenFinite_zero (sign : Bool) (place : Nat) :
    IsFinite (widenFinite sign 0 place) ∧ (widenFinite sign 0 place).units = 0 := by
  refine ⟨⟨?_, ?_⟩, ?_⟩
  · show (0#15).toNat ≠ Extended.maxExponent
    decide
  · intro h
    exact absurd rfl h
  · simp [widenFinite, Extended.units]

/-- The significand of a number is its mantissa, moved up until its first bit leads. -/
theorem leading_mantissa {m : Nat} (hzero : m ≠ 0) (hm : m < 2 ^ 63) :
    Extended.leadingBit ≤ m * 2 ^ (63 - m.log2) ∧ m * 2 ^ (63 - m.log2) < 2 ^ 64 := by
  rcases (Nat.log2_eq_iff hzero).mp rfl with ⟨hlow, hhigh⟩
  have hlog : m.log2 < 63 := (Nat.log2_lt hzero).mpr hm
  constructor
  · calc Extended.leadingBit = 2 ^ m.log2 * 2 ^ (63 - m.log2) := by
          rw [← Nat.pow_add, Nat.add_sub_cancel' (by omega)]
          rfl
      _ ≤ m * 2 ^ (63 - m.log2) := Nat.mul_le_mul_right _ hlow
  · calc m * 2 ^ (63 - m.log2) < 2 ^ (m.log2 + 1) * 2 ^ (63 - m.log2) :=
          Nat.mul_lt_mul_of_pos_right hhigh (Nat.two_pow_pos _)
      _ = 2 ^ 64 := by
          rw [← Nat.pow_add]
          congr 1
          omega

theorem widenFinite_exact {m place : Nat} (sign : Bool) (hm : m < 2 ^ (f.fraction + 1))
    (hplace : 62 < place) (htop : place + f.fraction < 32000) :
    IsFinite (widenFinite sign m place) ∧
      (widenFinite sign m place).units = m * 2 ^ place := by
  by_cases hzero : m = 0
  · rw [hzero, Nat.zero_mul]
    exact widenFinite_zero sign place
  · have hfraction := f.fraction_lt
    have hsmall : m < 2 ^ 63 :=
      Nat.lt_of_lt_of_le hm (Nat.pow_le_pow_right (by decide) (by omega))
    have hlog : m.log2 < f.fraction + 1 := (Nat.log2_lt hzero).mpr hm
    rcases leading_mantissa hzero hsmall with ⟨hleading, hfits⟩
    have hexponent : (BitVec.ofNat 15 (place + m.log2 - 62)).toNat = place + m.log2 - 62 := by
      rw [BitVec.toNat_ofNat]
      exact Nat.mod_eq_of_lt (by omega)
    have hsignificand : (BitVec.ofNat 64 (m * 2 ^ (63 - m.log2))).toNat =
        m * 2 ^ (63 - m.log2) := by
      rw [BitVec.toNat_ofNat]
      exact Nat.mod_eq_of_lt hfits
    rw [widenFinite, if_neg hzero]
    refine ⟨⟨?_, ?_⟩, ?_⟩
    · rw [hexponent, Extended.maxExponent]
      omega
    · intro _
      rw [hsignificand]
      exact hleading
    · rw [Extended.units, hexponent, hsignificand, Nat.mul_assoc, ← Nat.pow_add]
      congr 2
      omega

/-!
# Widening and rounding back
-/

theorem lastPlace_bounds : 62 < f.lastPlace ∧ f.lastPlace + 2 ^ f.exponent + f.fraction < 32000 := by
  have hbias := f.two_pow_exponent_le
  have hdouble := f.two_pow_exponent
  have hfraction := f.fraction_lt
  rw [lastPlace, hdouble]
  omega

theorem quietBit_pos : 0 < f.quietBit :=
  Nat.two_pow_pos _

theorem two_mul_quietBit : 2 ^ f.fraction = 2 * f.quietBit := by
  have hpos := f.fraction_pos
  rw [quietBit, ← Nat.pow_succ']
  congr 1
  omega

theorem quieten_lt (fraction : Nat) : f.quieten fraction < 2 ^ f.fraction := by
  have hmod := Nat.mod_lt fraction f.quietBit_pos
  rw [f.two_mul_quietBit, quieten]
  omega

theorem quieten_quieten (fraction : Nat) : f.quieten (f.quieten fraction) = f.quieten fraction := by
  simp [quieten]

theorem quieten_pos (fraction : Nat) : 0 < f.quieten fraction := by
  have hpos := f.quietBit_pos
  rw [quieten]
  omega

def quiet (p : Pattern) : Pattern :=
  if p.magnitude ≤ f.infinity then p
  else { p with magnitude := f.infinity + f.quieten (p.magnitude - f.infinity) }

theorem narrow_widen_of_lt {p : Pattern} (mode : Rounding) (h : p.magnitude < f.infinity) :
    f.narrow mode (f.widen p) = p := by
  rcases f.lastPlace_bounds with ⟨hlow, hhigh⟩
  have hplace := f.place_lt h
  have hplaceLow : f.lastPlace ≤ f.place p.magnitude := Nat.le_add_right _ _
  have hmagnitude := f.magnitude_of_mantissa_place p.magnitude
  have hexact : IsFinite (widenFinite p.sign (f.mantissa p.magnitude) (f.place p.magnitude)) ∧
      (widenFinite p.sign (f.mantissa p.magnitude) (f.place p.magnitude)).units =
        f.mantissa p.magnitude * 2 ^ f.place p.magnitude :=
    f.widenFinite_exact p.sign (f.mantissa_lt p.magnitude) (by omega) (by omega)
  rcases hexact with ⟨hfinite, hunits⟩
  have hsign : (widenFinite p.sign (f.mantissa p.magnitude) (f.place p.magnitude)).sign =
      p.sign := by
    unfold widenFinite
    split <;> rfl
  rw [widen, if_pos h, f.narrow_of_isFinite mode hfinite, hunits, hsign,
    f.round_exact mode p.sign (f.mantissa_lt _) hplaceLow (f.place_eq_or_le_mantissa _)
      (by rw [hmagnitude]; exact h), hmagnitude]

theorem infinity_add_fraction : f.infinity + 2 ^ f.fraction = 2 ^ (f.exponent + f.fraction) := by
  have hpos : 0 < 2 ^ f.exponent := Nat.two_pow_pos f.exponent
  rw [infinity, Nat.pow_add, ← Nat.succ_mul]
  congr 1
  omega

theorem payload_fits {payload : Nat} (h : payload < 2 ^ f.fraction) :
    Extended.leadingBit + payload * 2 ^ (63 - f.fraction) < 2 ^ 64 := by
  have hfraction := f.fraction_lt
  have hpayload : payload * 2 ^ (63 - f.fraction) < 2 ^ 63 := by
    calc payload * 2 ^ (63 - f.fraction) < 2 ^ f.fraction * 2 ^ (63 - f.fraction) :=
          Nat.mul_lt_mul_of_pos_right h (Nat.two_pow_pos _)
      _ = 2 ^ 63 := by
          rw [← Nat.pow_add, Nat.add_sub_cancel' (by omega)]
  rw [Extended.leadingBit]
  omega

theorem narrow_payload {payload : Nat} (mode : Rounding) (sign : Bool)
    (h : payload < 2 ^ f.fraction) :
    f.narrow mode
        { sign
          exponent := BitVec.ofNat 15 Extended.maxExponent
          significand :=
            BitVec.ofNat 64 (Extended.leadingBit + payload * 2 ^ (63 - f.fraction)) } =
      { sign, magnitude := f.infinity + (if payload = 0 then 0 else f.quieten payload) } := by
  have hsignificand : (BitVec.ofNat 64
      (Extended.leadingBit + payload * 2 ^ (63 - f.fraction))).toNat =
        Extended.leadingBit + payload * 2 ^ (63 - f.fraction) := by
    rw [BitVec.toNat_ofNat]
    exact Nat.mod_eq_of_lt (f.payload_fits h)
  have hpos : 0 < 2 ^ (63 - f.fraction) := Nat.two_pow_pos _
  have hzero : payload * 2 ^ (63 - f.fraction) = 0 <-> payload = 0 := by
    rw [Nat.mul_eq_zero]
    omega
  have hexponent : (BitVec.ofNat 15 Extended.maxExponent).toNat = Extended.maxExponent := by
    decide
  unfold narrow
  rw [if_pos hexponent]
  dsimp only
  rw [hsignificand, if_neg (by omega)]
  simp only [Nat.add_sub_cancel_left, Nat.mul_div_cancel payload hpos, hzero]

/-- A number is stored as it was loaded, a NaN as a quiet one. -/
theorem narrow_widen (p : Pattern) (mode : Rounding) :
    f.narrow mode (f.widen p) = f.quiet p := by
  rcases Nat.lt_or_ge p.magnitude f.infinity with hlt | hge
  · rw [f.narrow_widen_of_lt mode hlt, quiet, if_pos (Nat.le_of_lt hlt)]
  · rw [widen, if_neg (by omega)]
    by_cases hzero : p.magnitude - f.infinity = 0
    · have hinfinity : p.magnitude = f.infinity := by omega
      simp only [hzero, if_true]
      rw [f.narrow_payload mode p.sign f.two_pow_fraction_pos, if_pos rfl, quiet,
        if_pos (by omega), Nat.add_zero, ← hinfinity]
    · have hpos := f.quieten_pos (p.magnitude - f.infinity)
      simp only [hzero, if_false]
      rw [f.narrow_payload mode p.sign (f.quieten_lt _), if_neg (by omega), f.quieten_quieten,
        quiet, if_neg (by omega)]

/-- A number is loaded again as it was loaded before it was stored. -/
theorem widen_quiet (p : Pattern) : f.widen (f.quiet p) = f.widen p := by
  unfold quiet
  split
  next => rfl
  next hnan =>
    have hpos := f.quieten_pos (p.magnitude - f.infinity)
    unfold widen
    simp only [Nat.add_sub_cancel_left, f.quieten_quieten]
    rw [if_neg (by omega), if_neg (by omega), if_neg (by omega), if_neg (by omega)]

/-!
# Stored numbers

What is stored is a number or a quiet NaN of the format, so that a value which was stored
and loaded again is stored the same way whatever the rounding.
-/

theorem round_le_infinity (mode : Rounding) (sign : Bool) (units : Nat) :
    f.round mode sign units ≤ f.infinity := by
  have hoverflow : f.overflow mode sign ≤ f.infinity := by
    unfold overflow
    split <;> omega
  have hchoice : forall magnitude,
      (if magnitude < f.infinity then magnitude else f.overflow mode sign) ≤ f.infinity := by
    intro magnitude
    split
    next hlt => exact Nat.le_of_lt hlt
    next => exact hoverflow
  exact hchoice _

/-- A magnitude up to infinity, or that of a quiet NaN. -/
def IsStored (magnitude : Nat) : Prop :=
  magnitude ≤ f.infinity ∨ exists fraction, magnitude = f.infinity + f.quieten fraction

theorem isStored_narrow (mode : Rounding) (v : Extended) :
    f.IsStored (f.narrow mode v).magnitude := by
  have hindefinite : f.IsStored f.indefinite.magnitude := by
    right
    exists 0
  unfold narrow
  split
  next =>
    split
    next => exact hindefinite
    next =>
      dsimp only
      split
      next => exact Or.inl (Nat.le_refl _)
      next => exact Or.inr ⟨_, rfl⟩
  next =>
    split
    next => exact hindefinite
    next => exact Or.inl (f.round_le_infinity mode v.sign v.units)

theorem quiet_of_isStored {p : Pattern} (h : f.IsStored p.magnitude) : f.quiet p = p := by
  rcases h with hle | ⟨fraction, hnan⟩
  · rw [quiet, if_pos hle]
  · have hpos := f.quieten_pos fraction
    rw [quiet, if_neg (by omega), hnan, Nat.add_sub_cancel_left, f.quieten_quieten, ← hnan]

theorem lt_of_isStored {magnitude : Nat} (h : f.IsStored magnitude) :
    magnitude < 2 ^ (f.exponent + f.fraction) := by
  have htop := f.infinity_add_fraction
  have hpos := f.two_pow_fraction_pos
  rcases h with hle | ⟨fraction, hnan⟩
  · omega
  · have hlt := f.quieten_lt fraction
    omega

/-- A stored value is stored the same way again. -/
theorem narrow_widen_narrow (mode other : Rounding) (v : Extended) :
    f.narrow other (f.widen (f.narrow mode v)) = f.narrow mode v := by
  rw [f.narrow_widen, f.quiet_of_isStored (f.isStored_narrow mode v)]

/-- A value of the format survives being stored and loaded. -/
theorem widen_narrow_widen (mode : Rounding) (p : Pattern) :
    f.widen (f.narrow mode (f.widen p)) = f.widen p := by
  rw [f.narrow_widen, f.widen_quiet]

end FloatFormat

/-!
# Bits
-/

namespace Pattern

def pack (w : Nat) (p : Pattern) : BitVec w :=
  BitVec.ofNat w (p.sign.toNat * 2 ^ (w - 1) + p.magnitude)

def unpack {w : Nat} (bits : BitVec w) : Pattern :=
  { sign := bits.msb, magnitude := bits.toNat % 2 ^ (w - 1) }

theorem unpack_pack {w : Nat} {p : Pattern} (hw : 0 < w) (h : p.magnitude < 2 ^ (w - 1)) :
    unpack (p.pack w) = p := by
  have hhalf : 2 ^ w = 2 * 2 ^ (w - 1) := by
    rw [← Nat.pow_succ']
    congr 1
    omega
  have hsign : p.sign.toNat ≤ 1 := Bool.toNat_le p.sign
  have hlt : p.sign.toNat * 2 ^ (w - 1) + p.magnitude < 2 ^ w := by
    have hmul := Nat.mul_le_mul_right (2 ^ (w - 1)) hsign
    omega
  have hbits : (p.pack w).toNat = p.sign.toNat * 2 ^ (w - 1) + p.magnitude := by
    rw [pack, BitVec.toNat_ofNat, Nat.mod_eq_of_lt hlt]
  have hmagnitude : (p.sign.toNat * 2 ^ (w - 1) + p.magnitude) % 2 ^ (w - 1) = p.magnitude := by
    rw [Nat.mul_comm, Nat.mul_add_mod, Nat.mod_eq_of_lt h]
  have hmsb : (p.pack w).msb = p.sign := by
    rw [BitVec.msb_eq_decide, hbits]
    cases p.sign with
    | false =>
        simp
        omega
    | true => simp
  rw [unpack, hbits, hmagnitude, hmsb]

end Pattern
end X86
end NativeCall
