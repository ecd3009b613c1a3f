import Jotter.Proofs.Text.Separator
import Jotter.Proofs.Vault.Growth

/-! The index of tags. A tag of a text is in lower case and holds no separator, so that it is looked up
under itself: with its number sign or without, and in any case. The index lists the tags of all notes, each
once and in order, whatever calls have changed the vault. -/

namespace Jotter

open Text

namespace Hashtag

/-! ### Characters of tags -/

/-- The code points of the characters of tags. -/
def tagRanges : List (Nat × Nat) :=
  [(45, 45), (48, 57), (65, 90), (95, 95), (97, 122)] ++ alphanumericRanges

theorem tagRanges_apart : ∀ range ∈ tagRanges, ∀ separator ∈ separatorRanges,
    range.2 < separator.1 ∨ separator.2 < range.1 := by
  decide +kernel

theorem isAlphanum_iff {c : Char} : c.isAlphanum = true ↔
    ((65 ≤ c.toNat ∧ c.toNat ≤ 90) ∨ 97 ≤ c.toNat ∧ c.toNat ≤ 122) ∨ 48 ≤ c.toNat ∧ c.toNat ≤ 57 := by
  delta Char.isAlphanum Char.isAlpha Char.isUpper Char.isLower Char.isDigit
  simp only [Bool.or_eq_true, Bool.and_eq_true, decide_eq_true_eq]
  exact Iff.rfl

theorem inRanges_of_isTagChar {c : Char} (hc : isTagChar c = true) : inRanges tagRanges c = true := by
  have hcode : ∀ d : Char, c = d ↔ c.toNat = d.toNat := fun d => Char.toNat_inj.symm
  rw [isTagChar, isWordChar, isAlphanumeric, Bool.or_eq_true, Bool.or_eq_true, beq_iff_eq, beq_iff_eq,
    hcode, hcode, show '-'.toNat = 45 from rfl, show '_'.toNat = 95 from rfl] at hc
  rw [inRanges, tagRanges, List.any_append, Bool.or_eq_true, ← inRanges, ← inRanges]
  split at hc
  · rw [isAlphanum_iff] at hc
    left
    simp only [inRanges, List.any_cons, List.any_nil, Bool.or_eq_true, Bool.and_eq_true,
      decide_eq_true_eq]
    omega
  · rcases hc with (hletter | hcode) | hcode
    · exact .inr hletter
    · omega
    · omega

/-- No character of a tag is a separator. -/
theorem not_isSeparator_of_isTagChar {c : Char} (hc : isTagChar c = true) : isSeparator c = false := by
  rw [← Bool.not_eq_true]
  intro hseparator
  obtain ⟨range, hrange, hfirst, hlast⟩ := inRanges_eq_true_iff.1 (inRanges_of_isTagChar hc)
  obtain ⟨separator, hmem, hbegins, hends⟩ := inRanges_eq_true_iff.1 hseparator
  have hapart := tagRanges_apart range hrange separator hmem
  omega

/-! ### Tags of a text -/

theorem isTagChar_of_mem_opened {previous : Option Char} {c d : Char} {after : List Char}
    (hd : d ∈ opened previous c after) : isTagChar d = true := by
  rw [opened] at hd
  split at hd
  · exact List.mem_takeWhile_imp hd
  · cases hd

theorem isTagChar_of_mem_writtenFrom {previous : Option Char} {taken : Nat} {cs run : List Char}
    (hrun : run ∈ writtenFrom previous taken cs) : run ≠ [] ∧ ∀ c ∈ run, isTagChar c = true := by
  induction cs generalizing previous taken with
  | nil => cases hrun
  | cons c cs ih =>
      cases taken with
      | succ taken => exact ih hrun
      | zero =>
          rw [writtenFrom] at hrun
          split at hrun
          · exact ih hrun
          · rename_i d others hopened
            rcases List.mem_cons.1 hrun with rfl | hother
            · exact ⟨List.cons_ne_nil _ _, fun e he => isTagChar_of_mem_opened (hopened ▸ he)⟩
            · exact ih hother

/-- A tag of a text is in lower case, is not empty and holds no separator. -/
structure IsTag (tag : String) : Prop where
  lower_eq : lower tag = tag
  ne_empty : tag ≠ ""
  unseparated : ∀ c ∈ tag.toList, isSeparator c = false

theorem isTag_of_mem_extract {content tag : String} (htag : tag ∈ extract content) : IsTag tag := by
  rw [extract, List.mem_eraseDups, List.mem_map] at htag
  obtain ⟨run, hrun, rfl⟩ := htag
  obtain ⟨hne, hchars⟩ := isTagChar_of_mem_writtenFrom hrun
  refine ⟨lower_lower _, ?_, fun c hc => ?_⟩
  · rw [Ne, lower_eq_empty, ← String.toList_eq_nil_iff, String.toList_ofList]
    exact hne
  · rw [toList_lower, String.toList_ofList] at hc
    exact not_isSeparator_of_mem_lowerFrom (fun d hd => not_isSeparator_of_isTagChar (hchars d hd)) c hc

/-! ### Looking a tag up -/

/-- A number sign at the beginning has no part in the case of the characters behind it. -/
theorem lowerFrom_append_sign (before cs : List Char) :
    lowerFrom (before ++ ['#']) cs = lowerFrom before cs := by
  have hcased : ∀ before : List Char, meetsCased (before ++ ['#']) = meetsCased before := by
    intro before
    rw [meetsCased, meetsCased, List.dropWhile_append]
    cases before.dropWhile isCaseIgnorable with
    | nil =>
        have hstays : isCaseIgnorable '#' = false := by decide +kernel
        rw [List.isEmpty_nil, if_pos rfl, List.dropWhile_cons_of_neg (by rw [hstays]; exact nofun)]
        rfl
    | cons c skipped => rfl
  induction cs generalizing before with
  | nil => rfl
  | cons c cs ih =>
      have hrest := ih (c :: before)
      rw [List.cons_append] at hrest
      rw [lowerFrom, lowerFrom, hrest, lowerAt, lowerAt, hcased]

/-- The lower case of a text begins with a number sign iff the text does, and behind the sign it is the
lower case of the rest. -/
theorem exists_of_lower_eq_sign {s tag : String} (hs : lower s = "#" ++ tag) :
    ∃ rest, s = "#" ++ rest ∧ lower rest = tag := by
  have hchars := congrArg String.toList hs
  rw [toList_lower, String.toList_append, lowerChars, show "#".toList = ['#'] from rfl,
    List.singleton_append] at hchars
  cases hlist : s.toList with
  | nil =>
      rw [hlist] at hchars
      cases hchars
  | cons c cs =>
      rw [hlist, lowerFrom] at hchars
      obtain ⟨d, form, hform⟩ := List.exists_cons_of_ne_nil (lowerAt_ne_nil [] c cs)
      have hsign : (c == '#') = true := by
        have hd : d = '#' := by
          rw [hform, List.cons_append] at hchars
          exact (List.cons.inj hchars).1
        have hmem : d ∈ lowerAt [] c cs := by
          rw [hform]
          exact List.mem_cons_self
        rw [← eq_of_mem_lowerAt isSeparator_of_isSign hmem, hd]
        rfl
      rw [lowerAt_of_isSeparator (isSeparator_of_isSign c hsign)] at hchars
      obtain rfl := beq_iff_eq.1 hsign
      have hrest : lowerFrom [] cs = tag.toList :=
        (lowerFrom_append_sign [] cs).symm.trans (List.cons.inj hchars).2
      refine ⟨.ofList cs, String.toList_injective ?_, String.toList_injective ?_⟩
      · rw [hlist, String.toList_append, show "#".toList = ['#'] from rfl, List.singleton_append,
          String.toList_ofList]
      · rw [toList_lower, String.toList_ofList, lowerChars, hrest]

theorem dropWhile_sign {cs : List Char} (hcs : ∀ c ∈ cs, isSeparator c = false) :
    cs.dropWhile (· == '#') = cs := by
  cases cs with
  | nil => rfl
  | cons c cs =>
      have hc := eq_false_of_not_isSeparator isSeparator_of_isSign (hcs c List.mem_cons_self)
      exact List.dropWhile_cons_of_neg (by rw [hc]; exact Bool.false_ne_true)

/-- What is a tag in lower case holds no separator either. -/
theorem IsTag.unseparated_of_lower {tag s : String} (htag : IsTag tag) (hs : lower s = tag) :
    ∀ c ∈ s.toList, isSeparator c = false := by
  have hnone : (lowerFrom [] s.toList).filter isSeparator = [] := by
    rw [← lowerChars, ← toList_lower, hs, List.filter_eq_nil_iff]
    simpa using htag.unseparated
  rw [filter_lowerFrom fun _ => id, List.filter_eq_nil_iff] at hnone
  simpa using hnone

/-- A tag is looked up under itself, with its number sign or without, and in any case. -/
theorem IsTag.tagKey_eq {tag s : String} (htag : IsTag tag)
    (hs : lower s = tag ∨ lower s = "#" ++ tag) : Vault.tagKey s = tag := by
  rcases hs with hs | hs
  · rw [Vault.tagKey, dropWhile_sign (htag.unseparated_of_lower hs), String.ofList_toList, hs]
  · obtain ⟨rest, rfl, hrest⟩ := exists_of_lower_eq_sign hs
    rw [Vault.tagKey, String.toList_append, show "#".toList = ['#'] from rfl, List.singleton_append,
      List.dropWhile_cons_of_pos rfl, dropWhile_sign (htag.unseparated_of_lower hrest),
      String.ofList_toList, hrest]

theorem lower_sign (tag : String) : lower ("#" ++ tag) = "#" ++ lower tag := by
  apply String.toList_injective
  rw [toList_lower, String.toList_append, String.toList_append, toList_lower, lowerChars, lowerChars,
    show "#".toList = ['#'] from rfl, List.singleton_append, lowerFrom,
    lowerAt_of_isSeparator (by decide), show ['#'] = [] ++ ['#'] from rfl, lowerFrom_append_sign]

end Hashtag

namespace Vault

/-! ### The index -/

/-- The notes of a vault carry the tags of their texts. -/
def Tagged (vault : Vault) : Prop :=
  ∀ note ∈ vault.notes, note.tags = Hashtag.extract note.content

theorem Tagged.change {vault : Vault} (hvault : vault.Tagged) (change : Change) :
    (vault.change change).Tagged := by
  cases change with
  | notebook label => exact hvault
  | activate id =>
      rw [Vault.change]
      cases hactive : vault.setActive id with
      | error failure => exact hvault
      | ok changed =>
          obtain ⟨-, rfl⟩ := setActive_eq_ok.1 hactive
          exact hvault
  | note now notebook content =>
      intro note hnote
      rcases List.mem_append.1 hnote with hold | hnew
      · exact hvault note hold
      · rw [List.mem_singleton.1 hnew]
  | reminder message dueAt notebook => exact hvault

theorem Tagged.run {vault : Vault} (hvault : vault.Tagged) (changes : List Change) :
    (vault.run changes).Tagged := by
  induction changes generalizing vault with
  | nil => exact hvault
  | cons change changes ih => exact ih (hvault.change change)

theorem nodup_eraseDups {α : Type} [BEq α] [LawfulBEq α] (items : List α) : items.eraseDups.Nodup := by
  induction hlength : items.length using Nat.strong_induction_on generalizing items with
  | _ n ih =>
      cases items with
      | nil => exact List.nodup_nil
      | cons a rest =>
          have hshorter : (rest.filter fun b => !b == a).length < n := by
            rw [← hlength]
            exact Nat.lt_succ_of_le (List.length_filter_le _ _)
          rw [List.eraseDups_cons, List.nodup_cons]
          refine ⟨fun hmem => ?_, ih _ hshorter _ rfl⟩
          rw [List.mem_eraseDups, List.mem_filter] at hmem
          simp at hmem

/-- The tags of a vault stand in strictly increasing order. -/
theorem pairwise_tags (vault : Vault) : vault.tags.Pairwise (· < ·) := by
  have hle : ∀ a b : String, (!decide (b < a)) = true ↔ a ≤ b := fun a b => by
    rw [Bool.not_eq_true', decide_eq_false_iff_not, String.not_lt]
  have hsorted : vault.tags.Pairwise fun a b => (!decide (b < a)) = true :=
    List.pairwise_mergeSort
      (fun a b c hab hbc => (hle a c).2 (String.le_trans ((hle a b).1 hab) ((hle b c).1 hbc)))
      (fun a b => by
        rw [Bool.or_eq_true, hle, hle]
        exact String.le_total a b) _
  have hnodup : vault.tags.Nodup := (List.mergeSort_perm _ _).nodup_iff.2 (nodup_eraseDups _)
  refine (hsorted.and hnodup).imp fun {a b} hab => ?_
  rw [← Decidable.not_not (p := a < b), String.not_lt]
  exact fun hba => hab.2 (String.le_antisymm ((hle a b).1 hab.1) hba)

theorem mem_tags {vault : Vault} (hvault : vault.Tagged) {tag : String} :
    tag ∈ vault.tags ↔ ∃ note ∈ vault.notes, ∃ t ∈ Hashtag.extract note.content, tag = "#" ++ t := by
  rw [tags, List.mem_mergeSort, List.mem_eraseDups, List.mem_map]
  constructor
  · rintro ⟨t, ht, rfl⟩
    obtain ⟨note, hnote, hmem⟩ := List.mem_flatMap.1 ht
    exact ⟨note, hnote, t, hvault note hnote ▸ hmem, rfl⟩
  · rintro ⟨note, hnote, t, ht, rfl⟩
    exact ⟨t, List.mem_flatMap.2 ⟨note, hnote, hvault note hnote ▸ ht⟩, rfl⟩

/-- The notes in whose text a tag stands. -/
def holding (vault : Vault) (tag : String) : List Note :=
  vault.notes.filter fun note => (Hashtag.extract note.content).contains tag

theorem notesWithTag_eq {vault : Vault} (hvault : vault.Tagged) {tag wanted : String}
    (htag : Hashtag.IsTag tag) (hwanted : Text.lower wanted = tag ∨ Text.lower wanted = "#" ++ tag) :
    vault.notesWithTag wanted = vault.holding tag := by
  rw [notesWithTag, htag.tagKey_eq hwanted, holding]
  exact List.filter_congr fun note hnote => by rw [hvault note hnote]

end Vault

end Jotter
