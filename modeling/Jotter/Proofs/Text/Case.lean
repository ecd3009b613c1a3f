import Mathlib.Data.List.Chain
import Mathlib.Data.List.TakeWhile
import Jotter.Text.Case

/-! Lower case of lower case. The runs of the table stand in order, and what they lead to is in none of
them. So each character that lower case writes is one that it leaves as it is. -/

namespace Jotter.Text

/-! ### Runs -/

/-- A run of code points with every how many of them it maps, and what it maps the first one to. -/
abbrev CaseRun := Nat × Nat × Nat × Nat

namespace CaseRun

def first (run : CaseRun) : Nat := run.1

def last (run : CaseRun) : Nat := run.2.1

def step (run : CaseRun) : Nat := run.2.2.1

def image (run : CaseRun) : Nat := run.2.2.2

/-- The image of the last code point, or one behind it. -/
def lastImage (run : CaseRun) : Nat := run.image + (run.last - run.first)

/-- Whether a run maps a code point. -/
def Holds (run : CaseRun) (n : Nat) : Prop :=
  run.first ≤ n ∧ n ≤ run.last ∧ (n - run.first) % run.step = 0

/-- Whether a run ends before another one begins. -/
def Before (run other : CaseRun) : Prop :=
  run.first ≤ run.last ∧ run.last < other.first ∧ other.first ≤ other.last

instance (run other : CaseRun) : Decidable (run.Before other) :=
  inferInstanceAs (Decidable (_ ∧ _))

instance : Trans Before Before Before :=
  ⟨fun hfirst hsecond => ⟨hfirst.1, by have := hfirst.2; have := hsecond.2; omega, hsecond.2.2⟩⟩

end CaseRun

/-- A code point is in no run and stays, or it is in a run and becomes its image there. -/
theorem imageIn_cases (runs : List CaseRun) (n : Nat) :
    ((∀ run ∈ runs, ¬ run.Holds n) ∧ imageIn runs n = n) ∨
      ∃ run ∈ runs, run.Holds n ∧ imageIn runs n = run.image + (n - run.first) := by
  rw [imageIn]
  split
  · rename_i first last step image hfound
    have hholds := List.find?_some hfound
    simp only [Bool.and_eq_true, decide_eq_true_eq, beq_iff_eq] at hholds
    exact .inr ⟨_, List.mem_of_find?_eq_some hfound, ⟨hholds.1.1, hholds.1.2, hholds.2⟩, rfl⟩
  · rename_i hnone
    refine .inl ⟨fun run hrun ⟨hfirst, hlast, hstep⟩ => ?_, rfl⟩
    have hmiss := List.find?_eq_none.1 hnone run hrun
    simp only [Bool.and_eq_true, decide_eq_true_eq, beq_iff_eq] at hmiss
    exact hmiss ⟨⟨hfirst, hlast⟩, hstep⟩

theorem imageIn_of_not_holds {runs : List CaseRun} {n : Nat} (hn : ∀ run ∈ runs, ¬ run.Holds n) :
    imageIn runs n = n := by
  rcases imageIn_cases runs n with ⟨-, himage⟩ | ⟨run, hrun, hholds, -⟩
  · exact himage
  · exact absurd hholds (hn run hrun)

/-- The runs of lower case, that of the ASCII capitals first. -/
def caseRuns : List CaseRun :=
  (65, 90, 1, 97) :: lowerRuns

theorem toNat_toLower (c : Char) : c.toLower.toNat =
    if 65 ≤ c.toNat ∧ c.toNat ≤ 90 then c.toNat + 32 else c.toNat := by
  have hcapital : (c.val ≥ 'A'.val ∧ c.val ≤ 'Z'.val) ↔ 65 ≤ c.toNat ∧ c.toNat ≤ 90 := Iff.rfl
  delta Char.toLower
  by_cases hc : 65 ≤ c.toNat ∧ c.toNat ≤ 90
  · rw [dif_pos (hcapital.2 hc), if_pos hc, Char.toNat_mk, UInt32.toNat_add]
    change (c.toNat + 32) % 2 ^ 32 = _
    omega
  · rw [dif_neg (mt hcapital.1 hc), if_neg hc]

/-- The runs behind the first one begin behind the ASCII characters. -/
theorem first_lowerRuns : ∀ run ∈ lowerRuns, 128 ≤ CaseRun.first run := by
  decide +kernel

theorem imageIn_cons_of_not_holds {run : CaseRun} {n : Nat} (hn : ¬ run.Holds n)
    (runs : List CaseRun) : imageIn (run :: runs) n = imageIn runs n := by
  have hmiss : (run.1 ≤ n && n ≤ run.2.1 && (n - run.1) % run.2.2.1 == 0) = false := by
    rw [Bool.eq_false_iff]
    intro hholds
    simp only [Bool.and_eq_true, decide_eq_true_eq, beq_iff_eq] at hholds
    exact hn ⟨hholds.1.1, hholds.1.2, hholds.2⟩
  rw [imageIn, List.find?_cons_of_neg (by simpa using hmiss), imageIn]

/-- But for a capital I with a dot, a character becomes one character, by the runs. -/
theorem lowerForm_eq {c : Char} (hc : c.toNat ≠ 0x130) :
    lowerForm c = [Char.ofNat (imageIn caseRuns c.toNat)] := by
  rw [lowerForm, if_neg hc]
  by_cases hascii : c.toNat < 128
  · rw [if_pos hascii, ← Char.ofNat_toNat c.toLower, toNat_toLower]
    by_cases hcapital : 65 ≤ c.toNat ∧ c.toNat ≤ 90
    · rcases imageIn_cases caseRuns c.toNat with ⟨hnone, -⟩ | ⟨run, hrun, hholds, himage⟩
      · exact absurd ⟨hcapital.1, hcapital.2, Nat.mod_one _⟩ (hnone (65, 90, 1, 97) List.mem_cons_self)
      · rcases List.mem_cons.1 hrun with rfl | hlower
        · have hshift : 97 + (c.toNat - 65) = c.toNat + 32 := by omega
          rw [if_pos hcapital, himage, ← hshift]
          rfl
        · have hfirst := first_lowerRuns run hlower
          have hle := hholds.1
          omega
    · have hnone : ∀ run ∈ caseRuns, ¬ run.Holds c.toNat := by
        intro run hrun hholds
        rcases List.mem_cons.1 hrun with rfl | hlower
        · exact hcapital ⟨hholds.1, hholds.2.1⟩
        · have hfirst := first_lowerRuns run hlower
          have hle := hholds.1
          omega
      rw [if_neg hcapital, imageIn_of_not_holds hnone]
  · have hcapital : ¬ CaseRun.Holds (65, 90, 1, 97) c.toNat := by
      intro hholds
      have hle : c.toNat ≤ 90 := hholds.2.1
      omega
    rw [if_neg hascii, caseRuns, imageIn_cons_of_not_holds hcapital]

/-! ### The table -/

/-- The runs stand in order and apart. -/
theorem isChain_caseRuns : caseRuns.IsChain CaseRun.Before := by
  decide +kernel

/-- A run is clear of a row of runs if its images end before the row begins, or lie between the code
points of the first run of the row and before the second one. -/
def CaseRun.isClearOf (run : CaseRun) : List CaseRun → Bool
  | [] => true
  | next :: rest =>
    run.lastImage < next.first ||
      ((run.step % next.step = 0 || run.first = run.last) &&
        run.image % next.step ≠ next.first % next.step &&
          match rest with
          | [] => true
          | third :: _ => run.lastImage < third.first)

/-- Each run is clear of the runs that do not end before its images begin. -/
theorem isClearOf_caseRuns : ∀ run ∈ caseRuns,
    run.isClearOf (caseRuns.dropWhile fun other => other.last < run.image) = true := by
  decide +kernel

/-- What a run leads to is a character, and not a capital I with a dot. -/
theorem images_caseRuns : ∀ run ∈ caseRuns,
    (run.lastImage < 0x130 ∨ 0x130 < run.image) ∧
      (run.lastImage < 0xD800 ∨ 0xDFFF < run.image ∧ run.lastImage < 0x110000) := by
  decide +kernel

theorem CaseRun.image_le_lastImage {run : CaseRun} {n : Nat} (hn : run.Holds n) :
    run.image ≤ run.image + (n - run.first) ∧ run.image + (n - run.first) ≤ run.lastImage := by
  have hlast := hn.2.1
  rw [CaseRun.lastImage]
  omega

/-- A run does not hold a number that is apart from its first one by another remainder. -/
theorem CaseRun.not_holds_of_mod_ne {run : CaseRun} {n : Nat} (hmod : n % run.step ≠ run.first % run.step) :
    ¬ run.Holds n := by
  rintro ⟨hfirst, -, hstep⟩
  apply hmod
  rw [← Nat.sub_add_cancel hfirst, Nat.add_mod, hstep, Nat.zero_add, Nat.mod_mod]

/-- A run that is clear of an ordered row leads to nothing in the row. -/
theorem not_holds_of_isClearOf {run : CaseRun} {row : List CaseRun}
    (hrow : row.Pairwise CaseRun.Before) (hclear : run.isClearOf row = true) {n : Nat}
    (hn : run.Holds n) :
    ∀ other ∈ row, ¬ other.Holds (run.image + (n - run.first)) := by
  obtain ⟨-, hle⟩ := CaseRun.image_le_lastImage hn
  intro other hother hholds
  have hbegins := hholds.1
  cases row with
  | nil => cases hother
  | cons next rest =>
      obtain ⟨hnext, hrest⟩ := List.pairwise_cons.1 hrow
      rw [CaseRun.isClearOf.eq_def] at hclear
      simp only [Bool.or_eq_true, decide_eq_true_eq] at hclear
      rcases hclear with hbefore | hbetween
      · rcases List.mem_cons.1 hother with rfl | hbehind
        · omega
        · obtain ⟨hends, hapart, -⟩ := hnext other hbehind
          omega
      · simp only [Bool.and_eq_true, Bool.or_eq_true, decide_eq_true_eq] at hbetween
        obtain ⟨⟨hstep, hmod⟩, hthird⟩ := hbetween
        rcases List.mem_cons.1 hother with rfl | hbehind
        · -- the images are as far from one another as the code points of the run
          refine CaseRun.not_holds_of_mod_ne ?_ hholds
          have hdistance : (n - run.first) % other.step = 0 := by
            rcases hstep with hdivides | hsingle
            · exact Nat.mod_eq_zero_of_dvd
                (Nat.dvd_trans (Nat.dvd_of_mod_eq_zero hdivides) (Nat.dvd_of_mod_eq_zero hn.2.2))
            · have hfirst := hn.1
              have hlast := hn.2.1
              rw [show n - run.first = 0 by omega, Nat.zero_mod]
          rwa [Nat.add_mod, hdistance, Nat.add_zero, Nat.mod_mod]
        · cases rest with
          | nil => cases hbehind
          | cons third others =>
              rw [decide_eq_true_eq] at hthird
              rcases List.mem_cons.1 hbehind with rfl | hlater
              · omega
              · obtain ⟨hends, hapart, -⟩ := (List.pairwise_cons.1 hrest).1 other hlater
                omega

/-- What a run leads to is in no run. -/
theorem not_holds_image {run other : CaseRun} (hrun : run ∈ caseRuns) {n : Nat} (hn : run.Holds n)
    (hother : other ∈ caseRuns) : ¬ other.Holds (run.image + (n - run.first)) := by
  have hpairwise : caseRuns.Pairwise CaseRun.Before := List.isChain_iff_pairwise.1 isChain_caseRuns
  intro hholds
  obtain ⟨hle, -⟩ := CaseRun.image_le_lastImage hn
  rw [← List.takeWhile_append_dropWhile (p := fun other : CaseRun => other.last < run.image)
    (l := caseRuns), List.mem_append] at hother
  rcases hother with hbefore | hbehind
  · have hends := List.mem_takeWhile_imp hbefore
    have hlast := hholds.2.1
    rw [decide_eq_true_eq] at hends
    omega
  · exact not_holds_of_isClearOf (hpairwise.sublist (List.dropWhile_sublist _))
      (isClearOf_caseRuns run hrun) hn other hbehind hholds

theorem imageIn_imageIn (n : Nat) : imageIn caseRuns (imageIn caseRuns n) = imageIn caseRuns n := by
  rcases imageIn_cases caseRuns n with ⟨-, himage⟩ | ⟨run, hrun, hholds, himage⟩
  · rw [himage, himage]
  · rw [himage]
    exact imageIn_of_not_holds fun other hother => not_holds_image hrun hholds hother

/-- What a character other than a capital I with a dot becomes is a character. -/
theorem isValidChar_imageIn (c : Char) : (imageIn caseRuns c.toNat).isValidChar := by
  rcases imageIn_cases caseRuns c.toNat with ⟨-, himage⟩ | ⟨run, hrun, hholds, himage⟩
  · rw [himage]
    exact c.valid
  · obtain ⟨hfirst, hlast⟩ := CaseRun.image_le_lastImage hholds
    obtain ⟨-, hvalid⟩ := images_caseRuns run hrun
    rw [himage, Nat.isValidChar]
    omega

theorem toNat_ofNat {n : Nat} (hn : n.isValidChar) : (Char.ofNat n).toNat = n := by
  rw [Char.ofNat, dif_pos hn]
  rfl

theorem imageIn_ne_dotted {n : Nat} (hn : n ≠ 0x130) : imageIn caseRuns n ≠ 0x130 := by
  rcases imageIn_cases caseRuns n with ⟨-, himage⟩ | ⟨run, hrun, hholds, himage⟩
  · rwa [himage]
  · obtain ⟨hfirst, hlast⟩ := CaseRun.image_le_lastImage hholds
    obtain ⟨hdotted, -⟩ := images_caseRuns run hrun
    rw [himage]
    omega

/-! ### Lower case of lower case -/

/-- Whether a character stays as it is wherever it stands in a text. -/
def IsLowered (c : Char) : Prop :=
  c ≠ 'Σ' ∧ lowerForm c = [c]

theorem IsLowered.lowerAt_eq {c : Char} (hc : IsLowered c) (before after : List Char) :
    lowerAt before c after = [c] := by
  rw [lowerAt, if_neg hc.1, hc.2]

theorem isLowered_of_mem_lowerForm {c d : Char} (hd : d ∈ lowerForm c) : IsLowered d := by
  by_cases hdotted : c.toNat = 0x130
  · rw [lowerForm, if_neg (by omega), if_pos hdotted, List.mem_cons, List.mem_singleton] at hd
    rcases hd with rfl | rfl <;> exact ⟨by decide, by decide +kernel⟩
  · rw [lowerForm_eq hdotted, List.mem_singleton] at hd
    have hcode : d.toNat = imageIn caseRuns c.toNat := by
      rw [hd, toNat_ofNat (isValidChar_imageIn c)]
    constructor
    · -- a capital sigma has an image of its own
      rintro rfl
      have hsigma := imageIn_imageIn c.toNat
      rw [← hcode] at hsigma
      exact absurd hsigma (by decide +kernel)
    · rw [lowerForm_eq (by rw [hcode]; exact imageIn_ne_dotted hdotted), hcode, imageIn_imageIn, ← hd]

theorem isLowered_of_mem_lowerAt {before after : List Char} {c d : Char}
    (hd : d ∈ lowerAt before c after) : IsLowered d := by
  rw [lowerAt] at hd
  split at hd
  · split at hd
    · obtain rfl := List.mem_singleton.1 hd
      exact ⟨by decide, by decide +kernel⟩
    · obtain rfl := List.mem_singleton.1 hd
      exact ⟨by decide, by decide +kernel⟩
  · exact isLowered_of_mem_lowerForm hd

theorem isLowered_of_mem_lowerFrom {before cs : List Char} {d : Char}
    (hd : d ∈ lowerFrom before cs) : IsLowered d := by
  induction cs generalizing before with
  | nil => cases hd
  | cons c cs ih =>
      rw [lowerFrom, List.mem_append] at hd
      exact hd.elim isLowered_of_mem_lowerAt ih

theorem lowerFrom_eq_self {cs : List Char} (hcs : ∀ c ∈ cs, IsLowered c) (before : List Char) :
    lowerFrom before cs = cs := by
  induction cs generalizing before with
  | nil => rfl
  | cons c cs ih =>
      rw [lowerFrom, (hcs c List.mem_cons_self).lowerAt_eq,
        ih fun d hd => hcs d (List.mem_cons_of_mem _ hd), List.singleton_append]

/-- In ASCII every character has its lower case for itself. -/
theorem lowerFrom_of_ascii {cs : List Char} (hcs : ∀ c ∈ cs, c.toNat < 128) (before : List Char) :
    lowerFrom before cs = cs.map Char.toLower := by
  induction cs generalizing before with
  | nil => rfl
  | cons c cs ih =>
      rw [List.forall_mem_cons] at hcs
      have hsigma : c ≠ 'Σ' := by
        rintro rfl
        exact absurd hcs.1 (by decide)
      rw [lowerFrom, lowerAt, if_neg hsigma, lowerForm, if_pos hcs.1, ih hcs.2, List.singleton_append,
        List.map_cons]

/-- A text in lower case is its own lower case. -/
theorem lower_lower (s : String) : lower (lower s) = lower s := by
  apply String.toList_injective
  rw [toList_lower, toList_lower, lowerChars]
  exact lowerFrom_eq_self (fun _ => isLowered_of_mem_lowerFrom) []

end Jotter.Text
