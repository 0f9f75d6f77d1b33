import TronGateway.Text.Uppercase
import TronGateway.Proofs.Text.Hex
import Mathlib.Data.List.Basic
set_option autoImplicit false

/-!
# Capitals stay

Every character has a capital form, each character of which is its own capital form. So a text in
capital letters is not changed by writing it in capital letters again. The point is the capital form
of itself and in no other one, and the case of an ASCII letter does not show in the capital form.
-/

namespace TronGateway.Text

theorem upperChar_of_ascii {c : Char} (ascii : c.toNat < 0x80) : upperChar c = [c.toUpper] := by
  unfold upperChar
  exact if_pos ascii

theorem flatMap_upperChar {chars : List Char} (ascii : ∀ c ∈ chars, c.toNat < 0x80) :
    chars.flatMap upperChar = chars.map Char.toUpper := by
  induction chars with
  | nil => rfl
  | cons c rest ih =>
      rw [List.flatMap_cons, upperChar_of_ascii (ascii c List.mem_cons_self),
        ih fun other member => ascii other (List.mem_cons_of_mem _ member)]
      rfl

theorem toLower_toUpper_ascii : ∀ code < 0x80,
    (Char.ofNat code).toUpper.toLower = (Char.ofNat code).toLower := by
  decide

theorem toLower_toUpper {c : Char} (ascii : c.toNat < 0x80) : c.toUpper.toLower = c.toLower := by
  have same := toLower_toUpper_ascii c.toNat ascii
  rwa [Char.ofNat_toNat] at same

theorem map_toLower_toUpper {chars : List Char} (ascii : ∀ c ∈ chars, c.toNat < 0x80) :
    (chars.map Char.toUpper).map Char.toLower = chars.map Char.toLower := by
  rw [List.map_map]
  exact List.map_congr_left fun c member => toLower_toUpper (ascii c member)

theorem upperChar_toLower_ascii : ∀ code < 0x80,
    upperChar (Char.ofNat code).toLower = upperChar (Char.ofNat code) := by
  decide +kernel

theorem upperChar_toLower (c : Char) : upperChar c.toLower = upperChar c := by
  by_cases ascii : c.toNat < 0x80
  · have same := upperChar_toLower_ascii c.toNat ascii
    rwa [Char.ofNat_toNat] at same
  · rw [Hex.toLower_of_high (Nat.le_of_not_lt ascii)]

def letterRuns : List CaseRun :=
  ⟨97, 122, 1, 65⟩ :: (caseExpansions.map fun entry => ⟨entry.1, entry.1, 1, 0⟩) ++ caseRuns

/-- No capital of the run is a letter of the other one: they are apart, or the letters are every
second code and the capitals lie between them. -/
def CaseRun.isClear (run other : CaseRun) : Bool :=
  Nat.blt (Nat.add run.capital (Nat.sub run.last run.first)) other.first ||
    Nat.blt other.last run.capital ||
    (Nat.beq other.step 2 && (Nat.beq run.step 2 || Nat.beq run.first run.last) &&
      Nat.beq (Nat.mod (Nat.add run.capital other.first) 2) 1)

/-- The capitals of the run are characters behind the point. -/
def CaseRun.isProper (run : CaseRun) : Prop :=
  46 < run.capital ∧ (run.capital + (run.last - run.first) < 0xD800 ∨
    0xDFFF < run.capital ∧ run.capital + (run.last - run.first) < 0x110000)

theorem caseRuns_isClear :
    (caseRuns.all fun run => letterRuns.all run.isClear) = true := by
  decide +kernel

theorem caseRuns_isProper : ∀ run ∈ caseRuns, run.isProper := by
  unfold CaseRun.isProper
  decide +kernel

theorem caseExpansions_stay : ∀ entry ∈ caseExpansions, entry.2 ≠ [] ∧
    ∀ code ∈ entry.2, upperChar (Char.ofNat code) = [Char.ofNat code] ∧
      Char.ofNat code ≠ '.' := by
  decide +kernel

theorem CaseRun.holds_iff {run : CaseRun} {code : Nat} :
    run.holds code = true ↔
      run.first ≤ code ∧ code ≤ run.last ∧ (code - run.first) % run.step = 0 := by
  unfold CaseRun.holds
  rw [Bool.and_eq_true, Bool.and_eq_true, decide_eq_true_eq, decide_eq_true_eq,
    decide_eq_true_eq, and_assoc]

theorem CaseRun.not_holds_of_isClear {run other : CaseRun} {code : Nat}
    (clear : run.isClear other = true) (inside : run.holds code = true) :
    ¬ other.holds (run.capital + (code - run.first)) = true := by
  obtain ⟨above, below, step⟩ := CaseRun.holds_iff.mp inside
  rw [CaseRun.holds_iff]
  rintro ⟨low, high, otherStep⟩
  unfold CaseRun.isClear at clear
  rw [Bool.or_eq_true, Bool.or_eq_true, Bool.and_eq_true, Bool.and_eq_true, Bool.or_eq_true,
    Nat.blt_eq, Nat.blt_eq, Nat.beq_eq, Nat.beq_eq, Nat.beq_eq, Nat.beq_eq] at clear
  change (run.capital + (run.last - run.first) < other.first ∨ other.last < run.capital) ∨
    (other.step = 2 ∧ (run.step = 2 ∨ run.first = run.last)) ∧
      (run.capital + other.first) % 2 = 1 at clear
  rcases clear with (before | behind) | ⟨⟨second, narrow⟩, odd⟩
  · omega
  · omega
  · rw [second] at otherStep
    rcases narrow with two | single
    · rw [two] at step
      omega
    · omega

/-! ### Characters -/

theorem mem_of_lookup {code : Nat} {codes : List Nat}
    (found : caseExpansions.lookup code = some codes) : (code, codes) ∈ caseExpansions := by
  obtain ⟨before, behind, split, -⟩ := List.lookup_eq_some_iff.mp found
  rw [split]
  exact List.mem_append_right _ List.mem_cons_self

theorem toUpper_ascii : ∀ code < 0x80,
    (¬ (⟨97, 122, 1, 65⟩ : CaseRun).holds code = true →
      (Char.ofNat code).toUpper = Char.ofNat code) ∧
    upperChar (Char.ofNat code).toUpper = [(Char.ofNat code).toUpper] ∧
    ((Char.ofNat code).toUpper = '.' → Char.ofNat code = '.') := by
  decide +kernel

theorem upperChar_of_noLetter {c : Char}
    (noLetter : ∀ run ∈ letterRuns, ¬ run.holds c.toNat = true) : upperChar c = [c] := by
  by_cases ascii : c.toNat < 0x80
  · obtain ⟨stays, -⟩ := toUpper_ascii c.toNat ascii
    have same := stays (noLetter _ (List.mem_append_left _ List.mem_cons_self))
    rw [Char.ofNat_toNat] at same
    rw [upperChar_of_ascii ascii, same]
  · have noExpansion : caseExpansions.lookup c.toNat = none := by
      rw [List.lookup_eq_none_iff]
      intro entry member
      rw [bne_iff_ne]
      intro same
      refine noLetter ⟨entry.1, entry.1, 1, 0⟩
        (List.mem_append_left _ (List.mem_cons_of_mem _ (List.mem_map_of_mem member))) ?_
      exact CaseRun.holds_iff.mpr ⟨Nat.le_of_eq same.symm, Nat.le_of_eq same, Nat.mod_one _⟩
    have noRun : caseRuns.find? (·.holds c.toNat) = none :=
      List.find?_eq_none.mpr fun run member => noLetter run (List.mem_append_right _ member)
    unfold upperChar
    simp only [if_neg ascii, noExpansion, noRun]

theorem CaseRun.capital_of_holds {run : CaseRun} {code : Nat} (member : run ∈ caseRuns)
    (inside : run.holds code = true) :
    let capital := Char.ofNat (run.capital + (code - run.first))
    upperChar capital = [capital] ∧ capital ≠ '.' := by
  obtain ⟨above, below, -⟩ := CaseRun.holds_iff.mp inside
  obtain ⟨behind, valid⟩ := caseRuns_isProper run member
  have value : (Char.ofNat (run.capital + (code - run.first))).toNat =
      run.capital + (code - run.first) :=
    Utf8.toNat_ofNat_scalar (by omega)
  constructor
  · apply upperChar_of_noLetter
    intro other letters
    have clear := List.all_eq_true.mp (List.all_eq_true.mp caseRuns_isClear run member) other
      letters
    rw [value]
    exact CaseRun.not_holds_of_isClear clear inside
  · intro point
    rw [point] at value
    change 46 = _ at value
    omega

/-- The characters of a capital form are their own capital forms, and none of them is a point but
that of the point. -/
theorem upperChar_of_mem {c capital : Char} (member : capital ∈ upperChar c) :
    upperChar capital = [capital] ∧ (capital = '.' → c = '.') := by
  by_cases ascii : c.toNat < 0x80
  · obtain ⟨-, stays, point⟩ := toUpper_ascii c.toNat ascii
    rw [Char.ofNat_toNat] at stays point
    rw [upperChar_of_ascii ascii, List.mem_singleton] at member
    rw [member]
    exact ⟨stays, point⟩
  · have form := member
    unfold upperChar at form
    simp only [if_neg ascii] at form
    split at form
    · next codes found =>
        obtain ⟨code, inside, rfl⟩ := List.mem_map.mp form
        obtain ⟨-, stay⟩ := caseExpansions_stay _ (mem_of_lookup found)
        obtain ⟨stays, noPoint⟩ := stay code inside
        exact ⟨stays, fun point => absurd point noPoint⟩
    · next noExpansion =>
        split at form
        · next run found =>
            have inside := List.find?_some found
            obtain ⟨stays, noPoint⟩ :=
              CaseRun.capital_of_holds (List.mem_of_find?_eq_some found) inside
            rw [List.mem_singleton.mp form]
            exact ⟨stays, fun point => absurd point noPoint⟩
        · next noRun =>
            have itself : upperChar c = [c] := by
              unfold upperChar
              simp only [if_neg ascii, noExpansion, noRun]
            rw [List.mem_singleton.mp form]
            exact ⟨itself, fun point => point⟩

theorem upperChar_ne_nil (c : Char) : upperChar c ≠ [] := by
  unfold upperChar
  dsimp only
  split
  · exact List.cons_ne_nil _ _
  · split
    · next codes found =>
        exact mt List.map_eq_nil_iff.mp (caseExpansions_stay _ (mem_of_lookup found)).1
    · split
      · exact List.cons_ne_nil _ _
      · exact List.cons_ne_nil _ _

theorem flatMap_upperChar_eq_nil_iff {chars : List Char} :
    chars.flatMap upperChar = [] ↔ chars = [] := by
  rw [List.flatMap_eq_nil_iff]
  constructor
  · intro none
    exact List.eq_nil_iff_forall_not_mem.mpr fun c member => upperChar_ne_nil c (none c member)
  · rintro rfl c member
    exact absurd member List.not_mem_nil

theorem point_mem_flatMap_upperChar_iff {chars : List Char} :
    '.' ∈ chars.flatMap upperChar ↔ '.' ∈ chars := by
  rw [List.mem_flatMap]
  constructor
  · rintro ⟨c, member, point⟩
    rwa [(upperChar_of_mem point).2 rfl] at member
  · intro member
    exact ⟨'.', member, by decide⟩

theorem flatMap_upperChar_flatMap_upperChar (chars : List Char) :
    (chars.flatMap upperChar).flatMap upperChar = chars.flatMap upperChar := by
  have stays (capitals : List Char)
      (known : ∀ capital ∈ capitals, upperChar capital = [capital]) :
      capitals.flatMap upperChar = capitals := by
    rw [List.flatMap_congr known]
    exact List.flatMap_singleton' capitals
  apply stays
  intro capital member
  obtain ⟨c, -, form⟩ := List.mem_flatMap.mp member
  exact (upperChar_of_mem form).1

theorem uppercase_uppercase (text : String) : uppercase (uppercase text) = uppercase text := by
  unfold uppercase
  rw [String.toList_ofList, flatMap_upperChar_flatMap_upperChar]

theorem flatMap_upperChar_of_lower {left right : List Char}
    (same : left.map Char.toLower = right.map Char.toLower) :
    left.flatMap upperChar = right.flatMap upperChar := by
  have lower (chars : List Char) :
      (chars.map Char.toLower).flatMap upperChar = chars.flatMap upperChar := by
    rw [List.flatMap_map]
    exact List.flatMap_congr fun c _ => upperChar_toLower c
  rw [← lower left, same, lower right]

end TronGateway.Text
