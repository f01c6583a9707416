import ApiAtlas.Proofs.Preservation
import Mathlib.Data.List.Forall2

/-!
# Bounds on lengths

On strings and arrays the tokens that compare bound a length. A schema has one inclusive limit on
each side, so a strict comparison moves its number by one, and of several tokens for a side the last
one counts; `len` counts on both sides. The lengths that are left are those that the last comparison
of each side admits, with one exception: no length is below zero, but `lt=0` leaves the length zero,
because a schema has no upper limit below that.
-/

namespace ApiAtlas

/-! ## Numerals -/

namespace Decimal

/-- A text is a numeral of a number: its decimal digits, possibly after zeros and a plus sign. -/
def IsNumeral (text : List Char) (n : Nat) : Prop :=
  ∃ sign zeros, (sign = [] ∨ sign = ['+']) ∧
    text = sign ++ (List.replicate zeros '0' ++ Nat.toDigits 10 n)

theorem isDigit_of_mem {zeros n : Nat} {c : Char}
    (h : c ∈ List.replicate zeros '0' ++ Nat.toDigits 10 n) : c.isDigit = true := by
  rcases List.mem_append.1 h with hzero | hdigit
  · rw [List.eq_of_mem_replicate hzero]
    rfl
  · exact Nat.isDigit_of_mem_toDigits (by decide) (by decide) hdigit

theorem natural?_digits (zeros n : Nat) :
    natural? (List.replicate zeros '0' ++ Nat.toDigits 10 n) = some n := by
  have hvalue : digitsValue (List.replicate zeros '0' ++ Nat.toDigits 10 n) = n := by
    calc
      _ = Nat.ofDigitChars 10 (Nat.toDigits 10 n)
          (Nat.ofDigitChars 10 (List.replicate zeros '0') 0) := Nat.ofDigitChars_append 0
      _ = Nat.ofDigitChars 10 (Nat.toDigits 10 n) 0 := by
        rw [Nat.ofDigitChars_replicate_zero, Nat.mul_zero]
      _ = n := Nat.ofDigitChars_ten_toDigits
  have hdigits : (List.replicate zeros '0' ++ Nat.toDigits 10 n).all Char.isDigit = true :=
    List.all_eq_true.2 fun c hc ↦ isDigit_of_mem hc
  simp only [natural?, hdigits, hvalue]
  simp [Nat.toDigits_ne_nil]

namespace IsNumeral

variable {text : List Char} {n : Nat}

theorem ne_nil (h : IsNumeral text n) : text ≠ [] := by
  obtain ⟨sign, zeros, -, rfl⟩ := h
  simp [Nat.toDigits_ne_nil]

theorem isDigit_or (h : IsNumeral text n) {c : Char} (hc : c ∈ text) :
    c.isDigit = true ∨ c = '+' := by
  obtain ⟨sign, zeros, hsign, rfl⟩ := h
  rcases List.mem_append.1 hc with hmem | hmem
  · rcases hsign with rfl | rfl
    · exact absurd hmem List.not_mem_nil
    · exact .inr (List.mem_singleton.1 hmem)
  · exact .inl (isDigit_of_mem hmem)

/-- A numeral is read as its number. -/
theorem unsigned?_eq (h : IsNumeral text n) : unsigned? text = some n := by
  obtain ⟨sign, zeros, rfl | rfl, rfl⟩ := h
  · rw [List.nil_append]
    unfold unsigned?
    split
    · next rest heq =>
      have hplus : '+' ∈ List.replicate zeros '0' ++ Nat.toDigits 10 n := by simp [heq]
      exact absurd (isDigit_of_mem hplus) (by decide)
    · exact natural?_digits zeros n
  · exact natural?_digits zeros n

end IsNumeral

end Decimal

namespace Directive

/-! ## Comparisons -/

/-- The tokens that compare. -/
inductive Comparison
  | min
  | gte
  | gt
  | max
  | lte
  | lt
  | len
  deriving DecidableEq, Repr

/-- The two sides on which lengths are bounded. -/
inductive Side
  | lower
  | upper
  deriving DecidableEq, Repr

namespace Comparison

/-- The name of a token that compares. -/
def name : Comparison → String
  | .min => "min"
  | .gte => "gte"
  | .gt => "gt"
  | .max => "max"
  | .lte => "lte"
  | .lt => "lt"
  | .len => "len"

/-- Whether a comparison bounds lengths on a side. -/
def isOn : Side → Comparison → Bool
  | .lower, .min | .lower, .gte | .lower, .gt | .lower, .len => true
  | .upper, .max | .upper, .lte | .upper, .lt | .upper, .len => true
  | _, _ => false

end Comparison

/-- A comparison with a number. -/
structure Bound where
  comparison : Comparison
  value : Nat
  deriving DecidableEq, Repr

namespace Bound

/-- What a comparison says about a length on one side; only `gt` and `lt` are strict. -/
def Holds (b : Bound) (n : Nat) : Side → Prop
  | .lower => if b.comparison = .gt then b.value < n else b.value ≤ n
  | .upper => if b.comparison = .lt then n < b.value else n ≤ b.value

/-- The last comparison for a side. -/
def last? (side : Side) (bounds : List Bound) : Option Bound :=
  (bounds.filter fun b ↦ b.comparison.isOn side).getLast?

/-- The inclusive limit that a comparison sets on a side. -/
def limit (b : Bound) : Side → Nat
  | .lower => if b.comparison = .gt then b.value + 1 else b.value
  | .upper => if b.comparison = .lt then b.value - 1 else b.value

/-- The edit that a comparison of lengths stands for. -/
def edit (wire : WireType) (b : Bound) : Edit :=
  let low := if wire = .array then Edit.minItems (b.limit .lower) else .minLength (b.limit .lower)
  let high := if wire = .array then Edit.maxItems (b.limit .upper) else .maxLength (b.limit .upper)
  match b.comparison with
  | .min | .gte | .gt => low
  | .max | .lte | .lt => high
  | .len => .both low high

end Bound

/-- A length keeps to an inclusive limit. -/
def Side.Within : Side → Nat → Nat → Prop
  | .lower, limit, n => limit ≤ n
  | .upper, limit, n => n ≤ limit

/-- The limit of a schema on the lengths of strings or arrays. -/
def lengthLimit? (wire : WireType) (s : Schema) : Side → Option Nat
  | .lower => if wire = .array then s.minItems else s.minLength
  | .upper => if wire = .array then s.maxItems else s.maxLength

/-- A schema admits a length of strings or arrays. -/
def AdmitsLength (wire : WireType) (s : Schema) (n : Nat) : Prop :=
  ∀ side, ∀ limit ∈ lengthLimit? wire s side, side.Within limit n

/-- A token writes a comparison with a number below the largest one of 64 bits. -/
structure Token.Writes (t : Token) (b : Bound) : Prop where
  name : t.name = b.comparison.name
  value : ∃ text, t.value = some text ∧ Decimal.IsNumeral text.toList b.value
  fits : b.value < 18446744073709551615

/-! ## Tokens -/

variable {custom : List (String × String)} {wire : WireType}

theorem readLength_of_isNumeral {text : String} {n : Nat} (h : Decimal.IsNumeral text.toList n)
    (hfits : n < 18446744073709551615) : readLength text = .ok n := by
  have h64 : Decimal.isUnsigned64 n = true := by
    simp only [Decimal.isUnsigned64, Bool.and_eq_true, decide_eq_true_eq]
    omega
  rw [readLength, h.unsigned?_eq]
  simp [h64]

/-- A token of the vocabulary that needs a value means what its name does with the value. -/
theorem meaning_of_valueToken {t : Token} {text : String} (hname : t.name ∈ valueTokens)
    (hvalue : t.value = some text) (hne : text.isEmpty = false) :
    meaning custom wire t = (valued wire t.name text).getD (.ok .nothing) := by
  have hother : ∀ name ∈ valueTokens,
      (name.isEmpty || presenceTokens.contains name) = false ∧ (name == "datetime") = false := by
    decide
  obtain ⟨hpresence, hdatetime⟩ := hother t.name hname
  have hneed : t.needValue = .ok text := by simp [Token.needValue, hvalue, hne]
  have hcontains : valueTokens.contains t.name = true := List.contains_iff_mem.2 hname
  simp only [meaning, hpresence, hdatetime, hcontains, hneed, if_true, Bool.false_eq_true, if_false]

theorem lowerBound_of_readLength (hwire : wire = .string ∨ wire = .array) {text : String} {n : Nat}
    (hread : readLength text = .ok n) (exclusive : Bool) :
    lowerBound wire text exclusive =
      let limit := if exclusive then n + 1 else n
      .ok (if wire = .array then .minItems limit else .minLength limit) := by
  rcases hwire with rfl | rfl <;> simp [lowerBound, hread, Except.map]

theorem upperBound_of_readLength (hwire : wire = .string ∨ wire = .array) {text : String} {n : Nat}
    (hread : readLength text = .ok n) (exclusive : Bool) :
    upperBound wire text exclusive =
      let limit := if exclusive then n - 1 else n
      .ok (if wire = .array then .maxItems limit else .maxLength limit) := by
  rcases hwire with rfl | rfl <;> simp [upperBound, hread, Except.map]

theorem valued_of_readLength (hwire : wire = .string ∨ wire = .array) {text : String} {b : Bound}
    (hread : readLength text = .ok b.value) :
    valued wire b.comparison.name text = some (.ok (b.edit wire)) := by
  have hlower := lowerBound_of_readLength hwire hread
  have hupper := upperBound_of_readLength hwire hread
  obtain ⟨comparison, value⟩ := b
  cases comparison with
  | min | gte => exact congrArg some (hlower false)
  | gt => exact congrArg some (hlower true)
  | max | lte => exact congrArg some (hupper false)
  | lt => exact congrArg some (hupper true)
  | len =>
    have hexact : valued wire "len" text = some (exactBound wire text) := rfl
    rw [Comparison.name, hexact, exactBound, hlower, hupper]
    rfl

theorem meaning_of_writes (hwire : wire = .string ∨ wire = .array) {t : Token} {b : Bound}
    (h : t.Writes b) : meaning custom wire t = .ok (b.edit wire) := by
  obtain ⟨text, hvalue, hnumeral⟩ := h.value
  have hname : t.name ∈ valueTokens := by
    rw [h.name]
    cases b.comparison <;> decide
  have hne : text.isEmpty = false := by simpa using hnumeral.ne_nil
  have hread := readLength_of_isNumeral hnumeral h.fits
  rw [meaning_of_valueToken hname hvalue hne, h.name, valued_of_readLength hwire hread]
  rfl

/-- A comparison sets the limits of its own sides. -/
theorem lengthLimit?_edit (hwire : wire = .string ∨ wire = .array) (b : Bound) (s : Schema)
    (side : Side) :
    lengthLimit? wire ((b.edit wire).apply s) side =
      if b.comparison.isOn side then some (b.limit side) else lengthLimit? wire s side := by
  obtain ⟨comparison, value⟩ := b
  cases comparison <;> cases side <;> rcases hwire with rfl | rfl <;> rfl

/-- The last comparison for a side sets its limit. -/
theorem applyTokens_of_writes (custom : List (String × String))
    (hwire : wire = .string ∨ wire = .array) {group : List Token} {bounds : List Bound}
    (h : List.Forall₂ Token.Writes group bounds) (s : Schema) :
    (applyTokens custom group wire s).2 = [] ∧ ∀ side,
      lengthLimit? wire (applyTokens custom group wire s).1 side =
        ((Bound.last? side bounds).map fun b ↦ b.limit side).or (lengthLimit? wire s side) := by
  induction h generalizing s with
  | nil => exact ⟨rfl, fun side ↦ rfl⟩
  | @cons t b group bounds hwrites _ ih =>
    have hdive : t.name ≠ "dive" := by
      rw [hwrites.name]
      cases b.comparison <;> decide
    rw [applyTokens_of_ok hdive (meaning_of_writes hwire hwrites)]
    obtain ⟨hissues, hlimits⟩ := ih ((b.edit wire).apply s)
    refine ⟨hissues, fun side ↦ ?_⟩
    rw [hlimits side, lengthLimit?_edit hwire, Bound.last?, Bound.last?, List.filter_cons]
    split
    · -- The limit of this token stands unless a later token is for the same side.
      rw [List.getLast?_cons]
      cases (bounds.filter fun b ↦ b.comparison.isOn side).getLast? <;> rfl
    · rfl

/-! ## Limits and comparisons -/

theorem within_lower_limit_iff (b : Bound) (n : Nat) :
    Side.lower.Within (b.limit .lower) n ↔ b.Holds n .lower := by
  simp only [Side.Within, Bound.limit, Bound.Holds]
  split
  · exact Nat.succ_le_iff
  · exact Iff.rfl

/-- The upper limit says what the comparison says, except that it cannot fall below zero. -/
theorem within_upper_limit_iff (b : Bound) (n : Nat) :
    Side.upper.Within (b.limit .upper) n ↔ b.Holds n .upper ∨ (b = ⟨.lt, 0⟩ ∧ n = 0) := by
  obtain ⟨comparison, value⟩ := b
  simp only [Side.Within, Bound.limit, Bound.Holds, Bound.mk.injEq]
  by_cases hlt : comparison = .lt
  · simp only [hlt, if_true, true_and]
    omega
  · simp [hlt]

theorem bar_notMem_text {t : Token} {b : Bound} (h : t.Writes b) : '|' ∉ t.text := by
  obtain ⟨text, hvalue, hnumeral⟩ := h.value
  simp only [Token.text, hvalue, h.name, List.mem_append, List.mem_cons, not_or]
  refine ⟨?_, by decide, fun hbar ↦ ?_⟩
  · cases b.comparison <;> decide
  · exact absurd (hnumeral.isDigit_or hbar) (by decide)

/-- Comparisons alone make up a single group. -/
theorem groups_of_writes {directive : List Char} {bounds : List Bound}
    (h : List.Forall₂ Token.Writes (tokens directive) bounds) :
    ¬ 2 ≤ (groups directive).length := by
  have hplain : ∀ t ∈ tokens directive, '|' ∉ t.text :=
    ((List.forall₂_and_left _ _).1
      (h.imp fun t b hwrites ↦ ⟨bar_notMem_text hwrites, hwrites⟩)).1
  simp [groups_of_tokens hplain]

/-- A directive whose tokens are all comparisons, on strings or arrays. It has no issues, and what
it leaves of the lengths are those that keep to the last comparison of each side, where `lt=0`
leaves the length zero. On a side that no token bounds the schema keeps its own limit. -/
theorem admitted_lengths_iff (custom : List (String × String)) {wire : WireType}
    (hwire : wire = .string ∨ wire = .array) {directive : String} {bounds : List Bound}
    (hbounds : List.Forall₂ Token.Writes (tokens directive.toList) bounds) (s : Schema) :
    (apply custom directive wire s).2 = [] ∧
      ∀ n, AdmitsLength wire (apply custom directive wire s).1 n ↔
        (∀ b ∈ Bound.last? .lower bounds, b.Holds n .lower) ∧
        (∀ b ∈ Bound.last? .upper bounds, b.Holds n .upper ∨ (b = ⟨.lt, 0⟩ ∧ n = 0)) ∧
        ∀ side, Bound.last? side bounds = none →
          ∀ limit ∈ lengthLimit? wire s side, side.Within limit n := by
  rw [apply_of_group custom (groups_of_writes hbounds)]
  obtain ⟨hissues, hlimits⟩ := applyTokens_of_writes custom hwire hbounds s
  refine ⟨hissues, fun n ↦ ?_⟩
  unfold AdmitsLength
  simp only [hlimits]
  constructor
  · intro h
    refine ⟨fun b hb ↦ ?_, fun b hb ↦ ?_, fun side hnone ↦ ?_⟩
    · exact (within_lower_limit_iff b n).1 (h .lower _ (by simp [Option.mem_def.1 hb]))
    · exact (within_upper_limit_iff b n).1 (h .upper _ (by simp [Option.mem_def.1 hb]))
    · simpa [hnone] using h side
  · intro ⟨hlower, hupper, hown⟩ side
    cases hlast : Bound.last? side bounds with
    | none => simpa using hown side hlast
    | some b =>
      intro limit hlimit
      obtain rfl : b.limit side = limit := by simpa using hlimit
      cases side with
      | lower => exact (within_lower_limit_iff b n).2 (hlower b hlast)
      | upper => exact (within_upper_limit_iff b n).2 (hupper b hlast)

/-- Three comparisons; the last two of them count. -/
def sizeDirective : String :=
  "gt=4, len=006 ,lte=+8"

/-- The comparisons of that directive. -/
def sizeBounds : List Bound :=
  [⟨.gt, 4⟩, ⟨.len, 6⟩, ⟨.lte, 8⟩]

theorem writes_sizeBounds :
    List.Forall₂ Token.Writes (tokens sizeDirective.toList) sizeBounds := by
  have htokens : tokens sizeDirective.toList =
      [⟨"gt", some "4"⟩, ⟨"len", some "006"⟩, ⟨"lte", some "+8"⟩] := by decide
  rw [htokens]
  refine .cons ⟨rfl, ⟨"4", rfl, [], 0, .inl rfl, by decide⟩, by decide⟩ (.cons ?_ (.cons ?_ .nil))
  · exact ⟨rfl, ⟨"006", rfl, [], 2, .inl rfl, by decide⟩, by decide⟩
  · exact ⟨rfl, ⟨"+8", rfl, ['+'], 0, .inr rfl, by decide⟩, by decide⟩

theorem admitted_lengths_of_sizes :
    List.Forall₂ Token.Writes (tokens sizeDirective.toList) sizeBounds ∧
      ∀ n, AdmitsLength .array (apply [] sizeDirective .array .empty).1 n ↔ 6 ≤ n ∧ n ≤ 8 := by
  refine ⟨writes_sizeBounds, fun n ↦ ?_⟩
  rw [(admitted_lengths_iff [] (.inr rfl) writes_sizeBounds .empty).2 n]
  have hlower : Bound.last? .lower sizeBounds = some ⟨.len, 6⟩ := by decide
  have hupper : Bound.last? .upper sizeBounds = some ⟨.lte, 8⟩ := by decide
  have hown : ∀ side, Bound.last? side sizeBounds ≠ none := by
    intro side
    cases side <;> simp [hlower, hupper]
  simp [hlower, hupper, hown, Bound.Holds]

/-- The comparison with zero does not hold of the length zero, which is left nevertheless. -/
theorem length_zero_left_below_zero :
    List.Forall₂ Token.Writes (tokens "lt=0".toList) [⟨.lt, 0⟩] ∧
      ¬ (AdmitsLength .string (apply [] "lt=0" .string .empty).1 0 ↔
        (∀ b ∈ Bound.last? .lower [⟨.lt, 0⟩], b.Holds 0 .lower) ∧
        (∀ b ∈ Bound.last? .upper [⟨.lt, 0⟩], b.Holds 0 .upper)) := by
  have htokens : tokens "lt=0".toList = [⟨"lt", some "0"⟩] := by decide
  constructor
  · rw [htokens]
    exact .cons ⟨rfl, ⟨"0", rfl, [], 0, .inl rfl, by decide⟩, by decide⟩ .nil
  · have hlower : lengthLimit? .string (apply [] "lt=0" .string .empty).1 .lower = none := by decide
    have hupper : lengthLimit? .string (apply [] "lt=0" .string .empty).1 .upper = some 0 := by
      decide
    have hleft : AdmitsLength .string (apply [] "lt=0" .string .empty).1 0 := by
      intro side
      cases side <;> simp [hlower, hupper, Side.Within]
    intro hiff
    have hbelow := (hiff.1 hleft).2 ⟨.lt, 0⟩ rfl
    exact absurd hbelow (Nat.lt_irrefl 0)

end Directive

end ApiAtlas
