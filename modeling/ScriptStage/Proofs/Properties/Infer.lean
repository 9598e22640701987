import Mathlib.Tactic.Common
import ScriptStage.Properties.Infer

/-!
# Values taken as strings

## Main results

* `ScriptStage.Properties.eq_of_infer_eq_str` — a text taken as a string is that string.
* `ScriptStage.Properties.infer_of_mem` — a text with a character that is in no number and no
  boolean is taken as a string.
-/

set_option autoImplicit false

namespace ScriptStage.Properties

open Text

/-- An integer is no string. -/
lemma ofInt_ne_str (n : Int) (s : String) : Json.ofInt n ≠ .str s := by
  unfold Json.ofInt Json.ofFloat
  split
  · exact fun h => nomatch h
  · split <;> exact fun h => nomatch h

/-- A double is no string. -/
lemma ofFloat_ne_str (x : Float) (s : String) : Json.ofFloat x ≠ .str s := by
  unfold Json.ofFloat
  split <;> exact fun h => nomatch h

/-- **A text taken as a string is that string.** -/
theorem eq_of_infer_eq_str {t u : List Char} (h : infer t = .str (String.ofList u)) : t = u := by
  unfold infer at h
  split at h
  · exact nomatch h
  split at h
  · exact nomatch h
  split at h
  · exact absurd h (ofInt_ne_str _ _)
  split at h
  · exact absurd h (ofFloat_ne_str _ _)
  · injection h with h
    exact String.ofList_injective h

variable {c : Char} {t : List Char}

/-- Behind the sign a character that is no sign is still there. -/
lemma mem_splitSign (hc : c ≠ '-') (h : c ∈ t) : c ∈ (splitSign t).2 := by
  cases t with
  | nil => exact nomatch h
  | cons d t =>
    unfold splitSign
    dsimp only
    split
    · next hd => exact (List.mem_cons.1 h).resolve_left fun he => hc (he.trans hd)
    · exact h

/-- **A text with a character that is in no number and no boolean is a string.** -/
theorem infer_of_mem (hs : c ≠ '-') (hp : c ≠ '.') (hd : isDigit c = false)
    (hb : c ∉ Json.writeBool true ∧ c ∉ Json.writeBool false) (h : c ∈ t) :
    infer t = .str (String.ofList t) := by
  have hmem : c ∈ (splitSign t).2 := mem_splitSign hs h
  have hint : integer? t = none := by
    unfold integer?
    have hall : (splitSign t).2.all isDigit = false :=
      List.all_eq_false.2 ⟨c, hmem, by simp [hd]⟩
    simp [hall]
  have hdec : decimal? t = none := by
    have hdrop : c ∈ (splitSign t).2.dropWhile isDigit := by
      rw [← List.takeWhile_append_dropWhile (p := isDigit) (l := (splitSign t).2)] at hmem
      refine (List.mem_append.1 hmem).resolve_left fun htake => ?_
      rw [List.all_eq_true.1 List.all_takeWhile c htake] at hd
      exact nomatch hd
    unfold decimal?
    split
    · rfl
    dsimp only
    split
    · rfl
    next point places hcut =>
    rw [hcut] at hdrop
    refine if_neg fun hdecimal => ?_
    obtain ⟨hpoint, hplaces⟩ := Bool.and_eq_true_iff.1 hdecimal
    rcases List.mem_cons.1 hdrop with rfl | hmem
    · exact hp (by simpa using hpoint)
    · rw [List.all_eq_true.1 hplaces c hmem] at hd
      exact nomatch hd
  have htrue : t ≠ Json.writeBool true := fun he => hb.1 (he ▸ h)
  have hfalse : t ≠ Json.writeBool false := fun he => hb.2 (he ▸ h)
  rw [infer, if_neg htrue, if_neg hfalse, hint, hdec]

/-- A text with a backslash is a string. -/
lemma infer_of_backslash (h : '\\' ∈ t) : infer t = .str (String.ofList t) :=
  infer_of_mem (by decide) (by decide) (by decide) (by decide) h

end ScriptStage.Properties
