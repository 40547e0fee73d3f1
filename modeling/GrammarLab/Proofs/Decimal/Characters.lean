/-
The characters of written numbers.

Main statement:
- `numeric_general`: whatever the double, it is written with digits, a point, signs and the letters of `e`, `inf` and `nan`.
-/
import GrammarLab.Decimal.Notation

namespace GrammarLab.Decimal

/-- the characters that numbers are written with -/
def numeric (c : Char) : Bool := c.isDigit || ['.', '-', '+', 'e', 'i', 'n', 'f', 'a'].contains c

/-- a text of such characters -/
def Numeric (cs : List Char) : Prop := ∀ c ∈ cs, numeric c = true

variable {cs ds : List Char}

theorem Numeric.append (hc : Numeric cs) (hd : Numeric ds) : Numeric (cs ++ ds) := by
  intro c h
  rcases List.mem_append.1 h with h | h
  · exact hc c h
  · exact hd c h

theorem Numeric.mono (hc : Numeric cs) (h : ∀ c ∈ ds, c ∈ cs) : Numeric ds := fun c hd => hc c (h c hd)

theorem Numeric.toList_append {s t : String} (hs : Numeric s.toList) (ht : Numeric t.toList) : Numeric (s ++ t).toList := by
  rw [String.toList_append]
  exact hs.append ht

theorem numeric_ofList (h : Numeric cs) : Numeric (String.ofList cs).toList := by rwa [String.toList_ofList]

theorem numeric_digits (n : Nat) : Numeric (digits n) := by
  intro c h
  have hdigit : c.isDigit = true := Nat.isDigit_of_mem_toDigits (by decide) (by decide) h
  simp [numeric, hdigit]

theorem numeric_zeros (n : Nat) : Numeric (List.replicate n '0') := by
  intro c h
  rw [List.eq_of_mem_replicate h]
  decide

theorem numeric_signText (negative : Bool) : Numeric (signText negative).toList := by
  cases negative with
  | false => intro c h; cases h
  | true => simp [Numeric, signText, numeric]

theorem mem_of_mem_stripZeros {c : Char} (h : c ∈ stripZeros ds) : c ∈ ds := by
  rw [stripZeros, List.mem_reverse] at h
  exact List.mem_reverse.1 ((List.dropWhile_sublist _).mem h)

theorem numeric_pointAfter (n : Nat) (h : Numeric ds) : Numeric (pointAfter n ds).toList := by
  have hwhole : Numeric (String.ofList (ds.take n)).toList := numeric_ofList (h.mono fun c => List.mem_of_mem_take)
  have hfraction : Numeric (stripZeros (ds.drop n)) := h.mono fun c hc => List.mem_of_mem_drop (mem_of_mem_stripZeros hc)
  unfold pointAfter
  split
  · exact hwhole
  · refine (hwhole.toList_append ?_).toList_append (numeric_ofList hfraction)
    simp [Numeric, numeric]

theorem numeric_exponentText (k : Int) : Numeric (exponentText k).toList := by
  unfold exponentText
  refine Numeric.toList_append ?_ (numeric_ofList ((numeric_zeros _).append (numeric_digits _)))
  split
  · simp [Numeric, numeric]
  · simp [Numeric, numeric]

theorem numeric_generalQuotient (precision num den : Nat) : Numeric (generalQuotient precision num den).toList := by
  unfold generalQuotient
  extract_lets order rounded order' ds
  have hds : Numeric ds := (numeric_digits rounded).mono fun c => List.mem_of_mem_take
  split
  · exact (numeric_pointAfter 1 hds).toList_append (numeric_exponentText order')
  · split
    · exact numeric_pointAfter 1 ((numeric_zeros _).append hds)
    · exact numeric_pointAfter _ hds

/-- **Numbers are written with few characters.** -/
theorem numeric_general (precision : Nat) (x : Float) : Numeric (general precision x).toList := by
  unfold general
  split
  · simp [Numeric, numeric]
  · exact (numeric_signText _).toList_append (by simp [Numeric, numeric])
  · refine (numeric_signText _).toList_append ?_
    split
    · simp [Numeric, numeric]
    · exact numeric_generalQuotient _ _ _

end GrammarLab.Decimal
