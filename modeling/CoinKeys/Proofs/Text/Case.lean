import CoinKeys.Text.Offset
import Mathlib

/-!
# Laws of letter case

Only ASCII letters have a case. A text without upper-case letters is its own lower-case form, one
without lower-case letters is its own upper-case form, and every other character stays what it is.
-/

namespace CoinKeys.Text

theorem isUpper_eq_false_of_isAlpha {c : Char} (h : c.isAlpha = false) : c.isUpper = false := by
  simp only [Char.isAlpha, Bool.or_eq_false_iff] at h
  exact h.1

theorem toLower_eq_iff {c d : Char} (h : d.isAlpha = false) : c.toLower = d ↔ c = d := by
  have hself : ∀ e : Char, e.isAlpha = false → e.toLower = e := fun e he =>
    Char.toLower_eq_of_not_isUpper (by simp [isUpper_eq_false_of_isAlpha he])
  refine ⟨fun heq => ?_, fun heq => ?_⟩
  · have halpha : c.isAlpha = false := by rw [← Char.isAlpha_toLower_eq_isAlpha, heq, h]
    rwa [hself c halpha] at heq
  · rw [heq, hself d h]

theorem map_toLower_eq_self {chars : List Char} (h : ∀ c ∈ chars, c.isUpper = false) :
    chars.map Char.toLower = chars := by
  refine (List.map_congr_left fun c hc => ?_).trans (List.map_id chars)
  exact Char.toLower_eq_of_not_isUpper (by simp [h c hc])

theorem map_toUpper_eq_self {chars : List Char} (h : ∀ c ∈ chars, c.isLower = false) :
    chars.map Char.toUpper = chars := by
  refine (List.map_congr_left fun c hc => ?_).trans (List.map_id chars)
  exact Char.toUpper_eq_of_not_isLower (by simp [h c hc])

@[simp] theorem toList_toLower (text : String) :
    text.toLower.toList = text.toList.map Char.toLower := String.toList_map

@[simp] theorem toList_toUpper (text : String) :
    text.toUpper.toList = text.toList.map Char.toUpper := String.toList_map

theorem toLower_eq_self {text : String} (h : ∀ c ∈ text.toList, c.isUpper = false) :
    text.toLower = text :=
  String.toList_inj.mp (by rw [toList_toLower, map_toLower_eq_self h])

theorem isUpper_of_mem_toLower (text : String) :
    ∀ c ∈ text.toLower.toList, c.isUpper = false := by
  simp

@[simp] theorem toLower_toLower (text : String) : text.toLower.toLower = text.toLower :=
  toLower_eq_self (isUpper_of_mem_toLower text)

@[simp] theorem toLower_toUpper (text : String) : text.toUpper.toLower = text.toLower :=
  String.toList_inj.mp (by simp)

theorem eq_toLower_or_eq_toUpper {text : String}
    (h : (∀ c ∈ text.toList, c.isUpper = false) ∨ ∀ c ∈ text.toList, c.isLower = false) :
    text = text.toLower ∨ text = text.toLower.toUpper := by
  rcases h with hupper | hlower
  · exact .inl (toLower_eq_self hupper).symm
  · right
    apply String.toList_inj.mp
    have hself := map_toUpper_eq_self hlower
    simpa [Function.comp_def] using hself.symm

end CoinKeys.Text
