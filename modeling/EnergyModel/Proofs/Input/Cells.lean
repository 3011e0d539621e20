import Mathlib
import EnergyModel.Decimal.Format
import EnergyModel.Input.Cell

/-!
# Numbers written to cells

The text of a double that is not NaN, in any of the layouts of `FloatStyle`, is made of digits,
a minus sign, a point, an exponent mark and the letters of `inf` only (`IsNumeral`). Such a text
has no white space at either end, has no upper-case letter, and is none of the markers of a
missing value. So when the text reads back as the double, a numeric cell holding it has that
value (`parseValue_compactText`, `parseValue_plainText`).
-/

namespace EnergyModel

namespace Decimal

/-- The characters of the text of a double that is not NaN. -/
def isNumeralChar (c : Char) : Bool :=
  c.isDigit || c == '-' || c == '.' || c == 'e' || c == 'i' || c == 'n' || c == 'f'

/-- A text made of the characters of the text of a double. -/
def IsNumeral (s : String) : Prop := ∀ c ∈ s.toList, isNumeralChar c = true

instance (s : String) : Decidable (IsNumeral s) :=
  decidable_of_iff (s.toList.all isNumeralChar = true) (by simp [IsNumeral])

section Numeral

variable {s t : String}

theorem isNumeralChar_of_isDigit {c : Char} (h : c.isDigit = true) : isNumeralChar c = true := by
  simp [isNumeralChar, h]

@[simp] theorem isNumeral_append : IsNumeral (s ++ t) ↔ IsNumeral s ∧ IsNumeral t := by
  simp [IsNumeral, String.toList_append, or_imp, forall_and]

theorem isNumeral_ite {c : Prop} [Decidable c] :
    IsNumeral (if c then s else t) ↔ (c → IsNumeral s) ∧ (¬c → IsNumeral t) := by
  by_cases h : c <;> simp [h]

theorem isNumeral_ofList {cs : List Char} (h : ∀ c ∈ cs, isNumeralChar c = true) :
    IsNumeral (String.ofList cs) := by
  simpa [IsNumeral] using h

theorem isNumeral_toString_nat (n : Nat) : IsNumeral (toString n) := by
  intro c hc
  rw [Nat.toString_eq_repr, Nat.toList_repr] at hc
  exact isNumeralChar_of_isDigit (Nat.isDigit_of_mem_toDigits (by decide) (by decide) hc)

theorem isNumeral_toString_int (i : Int) : IsNumeral (toString i) := by
  rw [Int.toString_eq_repr, Int.repr_eq_if]
  split
  · exact isNumeral_toString_nat _
  · exact isNumeral_append.mpr ⟨by decide, isNumeral_toString_nat _⟩

theorem isNumeral_zeros (n : Nat) : IsNumeral (zeros n) := by
  apply isNumeral_ofList
  intro c hc
  rw [List.eq_of_mem_replicate hc]
  rfl

/-- The digits of a decimal, laid out with a point or an exponent, keep to numeral characters
when the style's suffix for whole numbers does. -/
theorem isNumeral_layout (style : FloatStyle) (hsuffix : IsNumeral style.wholeSuffix)
    (d : Scientific) : IsNumeral (d.layout style) := by
  have hdigits : IsNumeral (toString d.digits) := isNumeral_toString_nat d.digits
  have htake (k : Nat) : IsNumeral (String.ofList ((toString d.digits).toList.take k)) :=
    isNumeral_ofList fun c hc => hdigits c (List.mem_of_mem_take hc)
  have hdrop (k : Nat) : IsNumeral (String.ofList ((toString d.digits).toList.drop k)) :=
    isNumeral_ofList fun c hc => hdigits c (List.mem_of_mem_drop hc)
  have hpoint : IsNumeral "." := by decide
  have hzero : IsNumeral "0." := by decide
  have hmark : IsNumeral "e" := by decide
  unfold Scientific.layout
  -- every branch joins digits, zeros, the suffix, a point, an exponent mark and an exponent
  simp only [isNumeral_ite, isNumeral_append, hdigits, htake, hdrop, isNumeral_zeros,
    isNumeral_toString_int, hsuffix, hpoint, hzero, hmark, and_self, implies_true]

/-- The text of a double that is not NaN keeps to numeral characters, in a style whose texts
of whole numbers and of infinity do. -/
theorem isNumeral_render (style : FloatStyle) (hsuffix : IsNumeral style.wholeSuffix)
    (hinfinity : IsNumeral style.infinityText) {x : Float} (hx : FloatKind.ofFloat x ≠ .nan) :
    IsNumeral (style.render x) := by
  have hsign (negative : Bool) : IsNumeral (if negative then "-" else "") := by
    cases negative <;> decide
  unfold FloatStyle.render
  split
  · contradiction
  · exact isNumeral_append.mpr ⟨hsign _, hinfinity⟩
  · exact isNumeral_append.mpr ⟨hsign _, isNumeral_layout style hsuffix _⟩

theorem toLower_ofList (l : List Char) :
    (String.ofList l).toLower = String.ofList (l.map Char.toLower) := by
  rw [← String.toList_inj, String.toLower, String.toList_map, String.toList_ofList,
    String.toList_ofList]

theorem readFloat_nanText : readFloat "NaN" = .ok (floatOfParts false 2047 (Nat.pow 2 51)) := by
  have hchars : "NaN".toList = ['N', 'a', 'N'] := by decide
  unfold readFloat
  simp only [hchars, toLower_ofList]
  rfl

/-- A double whose text, in a style that writes NaN as `NaN`, reads back as the double is not
NaN when the double is not. -/
theorem ofFloat_ne_nan (style : FloatStyle) (hnan : style.nanText = "NaN") {x : Float}
    (h : readFloat (style.render x) = .ok x) (hx : x.isNaN = false) :
    FloatKind.ofFloat x ≠ .nan := by
  intro hkind
  have htext : style.render x = "NaN" := by
    unfold FloatStyle.render
    rw [hkind]
    exact hnan
  rw [htext, readFloat_nanText] at h
  injection h with h
  rw [← h] at hx
  exact absurd hx (by decide)

theorem isNumeral_compactText {x : Float} (h : readFloat (compactText x) = .ok x)
    (hx : x.isNaN = false) : IsNumeral (compactText x) :=
  isNumeral_render .compact (by decide) (by decide) (ofFloat_ne_nan .compact rfl h hx)

theorem isNumeral_plainText {x : Float} (h : readFloat (plainText x) = .ok x)
    (hx : x.isNaN = false) : IsNumeral (plainText x) :=
  isNumeral_render .plain (by decide) (by decide) (ofFloat_ne_nan .plain rfl h hx)

end Numeral

end Decimal

namespace Input

open Decimal

section Cells

variable {s : String}

theorem digit_bounds {c : Char} (h : c.isDigit = true) : 48 ≤ c.toNat ∧ c.toNat ≤ 57 := by
  simp only [Char.isDigit, Bool.and_eq_true, decide_eq_true_eq] at h
  obtain ⟨hlow, hhigh⟩ := h
  simp only [ge_iff_le, UInt32.le_iff_toNat_le] at hlow hhigh
  exact ⟨hlow, hhigh⟩

theorem isBlank_eq_false {c : Char} (h : isNumeralChar c = true) : Csv.isBlank c = false := by
  simp only [isNumeralChar, Bool.or_eq_true, beq_iff_eq] at h
  rcases h with (((((hdigit | rfl) | rfl) | rfl) | rfl) | rfl) | rfl
  · -- a digit lies between the blanks of ASCII and those beyond it
    obtain ⟨hlow, hhigh⟩ := digit_bounds hdigit
    simp only [Csv.isBlank, Bool.or_eq_false_iff, Bool.and_eq_false_iff, decide_eq_false_iff_not,
      beq_eq_false_iff_ne]
    omega
  all_goals decide

theorem toLower_eq_self {c : Char} (h : isNumeralChar c = true) : c.toLower = c := by
  simp only [isNumeralChar, Bool.or_eq_true, beq_iff_eq] at h
  rcases h with (((((hdigit | rfl) | rfl) | rfl) | rfl) | rfl) | rfl
  · -- a digit is no upper-case letter
    obtain ⟨-, hhigh⟩ := digit_bounds hdigit
    unfold Char.toLower
    rw [dif_neg]
    intro hupper
    have hA : 65 ≤ c.toNat := by
      have := hupper.1
      simp only [ge_iff_le, UInt32.le_iff_toNat_le] at this
      exact this
    omega
  all_goals decide

theorem dropWhile_eq_self {l : List Char} {p : Char → Bool} (h : ∀ c ∈ l, p c = false) :
    l.dropWhile p = l := by
  cases l with
  | nil => rfl
  | cons c l => simp [h c List.mem_cons_self]

/-- A numeral has no white space at either end. -/
theorem trimBlank_eq_self (h : IsNumeral s) : Csv.trimBlank s = s := by
  have hnot : ∀ c ∈ s.toList, Csv.isBlank c = false := fun c hc => isBlank_eq_false (h c hc)
  unfold Csv.trimBlank
  rw [dropWhile_eq_self hnot, dropWhile_eq_self (fun c hc => hnot c (List.mem_reverse.mp hc)),
    List.reverse_reverse, String.ofList_toList]

theorem toLower_eq_self_of_isNumeral (h : IsNumeral s) : s.toLower = s := by
  rw [← String.toList_inj, String.toLower, String.toList_map]
  conv => rhs; rw [← List.map_id s.toList]
  exact List.map_congr_left fun c hc => toLower_eq_self (h c hc)

/-- A numeral that is not empty marks no missing value. -/
theorem isMissingMarker_eq_false (hne : s ≠ "") (h : IsNumeral s) : isMissingMarker s = false := by
  have hmarkers : ∀ m ∈ missingMarkers, ¬ IsNumeral m := by
    intro m hm
    simp only [missingMarkers, List.mem_cons, List.not_mem_nil, or_false] at hm
    rcases hm with rfl | rfl | rfl | rfl | rfl <;> decide
  unfold isMissingMarker
  rw [toLower_eq_self_of_isNumeral h, String.isEmpty_eq_false_iff.mpr hne, Bool.false_or,
    List.any_eq_false]
  intro m hm heq
  rw [beq_iff_eq] at heq
  exact hmarkers m hm (heq ▸ h)

/-- A numeric cell holding the text of a double, in a style whose texts keep to numeral
characters, has the double as its value when the text reads back as it. -/
theorem parseValue_render (style : FloatStyle) (hsuffix : IsNumeral style.wholeSuffix)
    (hinfinity : IsNumeral style.infinityText) (hnan : style.nanText = "NaN") {x : Float}
    (h : readFloat (style.render x) = .ok x) (hx : x.isNaN = false) :
    parseValue (style.render x) = .ok (some x) := by
  have hnumeral := isNumeral_render style hsuffix hinfinity (ofFloat_ne_nan style hnan h hx)
  have hne : style.render x ≠ "" := by
    intro hempty
    rw [hempty] at h
    cases h
  unfold parseValue
  dsimp only
  rw [trimBlank_eq_self hnumeral, isMissingMarker_eq_false hne hnumeral, h]
  simp only [hx, Bool.false_eq_true, if_false]

theorem parseValue_compactText {x : Float} (h : readFloat (compactText x) = .ok x)
    (hx : x.isNaN = false) : parseValue (compactText x) = .ok (some x) :=
  parseValue_render .compact (by decide) (by decide) rfl h hx

theorem parseValue_plainText {x : Float} (h : readFloat (plainText x) = .ok x)
    (hx : x.isNaN = false) : parseValue (plainText x) = .ok (some x) :=
  parseValue_render .plain (by decide) (by decide) rfl h hx

end Cells

end Input

end EnergyModel
