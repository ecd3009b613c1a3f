import Mathlib.Data.List.TakeWhile
import Jotter.Text.Case
import Jotter.Text.Search

/-! Lower case of a part and of the whole. A character has one lower case wherever it stands, except for the
capital sigma, which has another one where it ends a word. So the lower case of a part stands at its place
in the lower case of the whole iff each capital sigma of the part ends a word in both or in neither. -/

namespace Jotter.Text

/-! ### Parts -/

/-- The lower case of characters that stand after `before` (read backwards) and before `after`. -/
def lowerWithin (before : List Char) : List Char → (after : List Char) → List Char
  | [], _ => []
  | c :: cs, after => lowerAt before c (cs ++ after) ++ lowerWithin (c :: before) cs after

theorem lowerWithin_nil (before cs : List Char) : lowerWithin before cs [] = lowerFrom before cs := by
  induction cs generalizing before with
  | nil => rfl
  | cons c cs ih => rw [lowerWithin, List.append_nil, ih, lowerFrom]

theorem lowerWithin_append (before cs rest after : List Char) :
    lowerWithin before (cs ++ rest) after =
      lowerWithin before cs (rest ++ after) ++ lowerWithin (cs.reverse ++ before) rest after := by
  induction cs generalizing before with
  | nil => rfl
  | cons c cs ih =>
      rw [List.cons_append, lowerWithin, ih, lowerWithin, List.reverse_cons, List.append_assoc,
        List.append_assoc, List.append_assoc, List.singleton_append]

theorem lowerFrom_append (before cs after : List Char) :
    lowerFrom before (cs ++ after) =
      lowerWithin before cs after ++ lowerFrom (cs.reverse ++ before) after := by
  rw [← lowerWithin_nil, lowerWithin_append, List.append_nil, lowerWithin_nil]

theorem lowerAt_sigma (before after : List Char) :
    lowerAt before 'Σ' after = if meetsCased before && !meetsCased after then ['ς'] else ['σ'] :=
  if_pos rfl

theorem exists_lowerAt_sigma (before after : List Char) : ∃ form, lowerAt before 'Σ' after = [form] := by
  rw [lowerAt_sigma]
  split
  · exact ⟨_, rfl⟩
  · exact ⟨_, rfl⟩

theorem length_lowerAt (before after other behind : List Char) (c : Char) :
    (lowerAt before c after).length = (lowerAt other c behind).length := by
  by_cases hsigma : c = 'Σ'
  · subst hsigma
    obtain ⟨form, hform⟩ := exists_lowerAt_sigma before after
    obtain ⟨another, hanother⟩ := exists_lowerAt_sigma other behind
    rw [hform, hanother]
    rfl
  · rw [lowerAt, if_neg hsigma, lowerAt, if_neg hsigma]

/-- What is around a part has nothing to do with how long its lower case is. -/
theorem length_lowerWithin (before other cs after behind : List Char) :
    (lowerWithin before cs after).length = (lowerWithin other cs behind).length := by
  induction cs generalizing before other with
  | nil => rfl
  | cons c cs ih =>
      rw [lowerWithin, lowerWithin, List.length_append, List.length_append,
        ih (c :: before) (c :: other), length_lowerAt before (cs ++ after) other (cs ++ behind)]

/-! ### Capital sigmas -/

/-- Whether a capital sigma between these characters ends a word. -/
def EndsWord (before after : List Char) : Prop :=
  meetsCased before.reverse = true ∧ meetsCased after = false

theorem lowerAt_eq_final {before after : List Char} :
    lowerAt before 'Σ' after = ['ς'] ↔ meetsCased before = true ∧ meetsCased after = false := by
  rw [lowerAt_sigma]
  cases meetsCased before <;> cases meetsCased after <;> simp

theorem lowerAt_eq_medial {before after : List Char} :
    lowerAt before 'Σ' after = ['σ'] ↔ (meetsCased before = true → meetsCased after = true) := by
  rw [lowerAt_sigma]
  cases meetsCased before <;> cases meetsCased after <;> simp

theorem lowerAt_eq_iff {before after other behind : List Char} {c : Char} :
    lowerAt before.reverse c after = lowerAt other.reverse c behind ↔
      (c = 'Σ' → (EndsWord before after ↔ EndsWord other behind)) := by
  by_cases hsigma : c = 'Σ'
  · subst hsigma
    rw [lowerAt_sigma, lowerAt_sigma, EndsWord, EndsWord]
    cases meetsCased before.reverse <;> cases meetsCased after <;> cases meetsCased other.reverse <;>
      cases meetsCased behind <;> simp
  · rw [lowerAt, if_neg hsigma, lowerAt, if_neg hsigma]
    simp [hsigma]

theorem lowerWithin_eq_iff {before other cs after behind : List Char} :
    lowerWithin before.reverse cs after = lowerWithin other.reverse cs behind ↔
      ∀ first last, cs = first ++ 'Σ' :: last →
        (EndsWord (before ++ first) (last ++ after) ↔ EndsWord (other ++ first) (last ++ behind)) := by
  induction cs generalizing before other with
  | nil => simp [lowerWithin]
  | cons c cs ih =>
      have hrest := @ih (before ++ [c]) (other ++ [c])
      rw [List.reverse_concat, List.reverse_concat] at hrest
      have hsplit : lowerWithin before.reverse (c :: cs) after = lowerWithin other.reverse (c :: cs) behind ↔
          lowerAt before.reverse c (cs ++ after) = lowerAt other.reverse c (cs ++ behind) ∧
            lowerWithin (c :: before.reverse) cs after = lowerWithin (c :: other.reverse) cs behind := by
        rw [lowerWithin, lowerWithin]
        exact ⟨fun h => List.append_inj h (length_lowerAt _ _ _ _ _), fun h => by rw [h.1, h.2]⟩
      rw [hsplit, hrest, lowerAt_eq_iff]
      constructor
      · rintro ⟨hhere, hlater⟩ first last hcs
        cases first with
        | nil =>
            obtain ⟨rfl, rfl⟩ := List.cons.inj hcs
            simpa using hhere rfl
        | cons d first =>
            obtain ⟨rfl, rfl⟩ := List.cons.inj hcs
            simpa using hlater first last rfl
      · intro hall
        refine ⟨?_, fun first last hcs => ?_⟩
        · rintro rfl
          simpa using hall [] cs rfl
        · simpa using hall (c :: first) last (by rw [hcs, List.cons_append])

/-- Whether each capital sigma of a part ends a word in the part iff it does in the whole. -/
def KeepsSigmas (before part after : String) : Prop :=
  ∀ first last, part.toList = first ++ 'Σ' :: last →
    (EndsWord first last ↔ EndsWord (before.toList ++ first) (last ++ after.toList))

theorem keepsSigmas_iff {before part after : String} :
    KeepsSigmas before part after ↔
      lowerWithin before.toList.reverse part.toList after.toList = lowerChars part.toList := by
  have hiff := @lowerWithin_eq_iff [] before.toList part.toList [] after.toList
  rw [List.reverse_nil, lowerWithin_nil] at hiff
  simp only [List.nil_append, List.append_nil] at hiff
  rw [lowerChars, eq_comm, hiff, KeepsSigmas]

/-- The lower case of a part stands at its place in the lower case of the whole iff the part keeps its
sigmas. -/
theorem keepsSigmas_iff_lower {before part after : String} :
    KeepsSigmas before part after ↔
      ∃ rest, (lower (before ++ part ++ after)).toList.drop (lower before).toList.length =
        (lower part).toList ++ rest := by
  have hwhole : (lower (before ++ part ++ after)).toList =
      lowerWithin [] before.toList (part.toList ++ after.toList) ++
        (lowerWithin before.toList.reverse part.toList after.toList ++
          lowerFrom (part.toList.reverse ++ before.toList.reverse) after.toList) := by
    rw [toList_lower, String.toList_append, String.toList_append, lowerChars, List.append_assoc,
      lowerFrom_append, lowerFrom_append, List.append_nil]
  have hlead : (lower before).toList.length =
      (lowerWithin [] before.toList (part.toList ++ after.toList)).length := by
    rw [toList_lower, lowerChars, ← lowerWithin_nil]
    exact length_lowerWithin _ _ _ _ _
  have hpart : (lowerWithin before.toList.reverse part.toList after.toList).length =
      (lowerChars part.toList).length := by
    rw [lowerChars, ← lowerWithin_nil]
    exact length_lowerWithin _ _ _ _ _
  rw [keepsSigmas_iff, hwhole, hlead, List.drop_left, toList_lower]
  constructor
  · intro hsame
    exact ⟨_, by rw [hsame]⟩
  · rintro ⟨rest, hrest⟩
    exact (List.append_inj hrest hpart).1

/-! ### Neighbours -/

theorem meetsCased_append (cs rest : List Char) :
    meetsCased (cs ++ rest) = if cs.all isCaseIgnorable then meetsCased rest else meetsCased cs := by
  have hskipped : (cs.dropWhile isCaseIgnorable).isEmpty = cs.all isCaseIgnorable := by
    rw [Bool.eq_iff_iff, List.isEmpty_iff, List.dropWhile_eq_nil_iff, List.all_eq_true]
  rw [meetsCased, List.dropWhile_append, hskipped]
  cases hall : cs.all isCaseIgnorable with
  | true => rfl
  | false =>
      rw [if_neg Bool.false_ne_true, if_neg Bool.false_ne_true, meetsCased]
      cases hrest : cs.dropWhile isCaseIgnorable with
      | nil =>
          rw [hrest, hall] at hskipped
          cases hskipped
      | cons c others => rfl

theorem meetsCased_of_all {cs : List Char} (hcs : cs.all isCaseIgnorable = true) : meetsCased cs = false := by
  have hempty := meetsCased_append cs []
  rwa [List.append_nil, if_pos hcs] at hempty

theorem meetsCased_append_of_meetsCased {cs : List Char} (hcs : meetsCased cs = true) (rest : List Char) :
    meetsCased (cs ++ rest) = true := by
  rw [meetsCased_append, if_neg, hcs]
  intro hall
  rw [meetsCased_of_all hall] at hcs
  cases hcs

/-! ### Beginnings -/

/-- Whether a text ends with a capital sigma at the end of a word. Characters that are skipped when the
neighbours of a sigma are looked up may stand behind it. -/
def EndsInSigma (s : String) : Prop :=
  ∃ first last, s.toList = first ++ 'Σ' :: last ∧ last.all isCaseIgnorable = true ∧
    meetsCased first.reverse = true

/-- Whether more text joins the word that a text ends in, where that word ends in a capital sigma so far. -/
def JoinsSigma (s more : String) : Prop :=
  EndsInSigma s ∧ meetsCased more.toList = true

/-- The beginning of a text keeps its sigmas, unless it ends in one and the text goes on with a cased
character. -/
theorem keepsSigmas_empty_iff {lead more : String} :
    KeepsSigmas "" lead more ↔ ¬ JoinsSigma lead more := by
  constructor
  · rintro hkeeps ⟨⟨first, last, hsplit, hlast, hfirst⟩, hmore⟩
    have hends := (hkeeps first last hsplit).1 ⟨hfirst, meetsCased_of_all hlast⟩
    rw [EndsWord, meetsCased_append, if_pos hlast, hmore] at hends
    cases hends.2
  · intro hapart first last hsplit
    rw [EndsWord, EndsWord, String.toList_empty, List.nil_append, meetsCased_append]
    refine and_congr_right fun hfirst => ?_
    by_cases hlast : last.all isCaseIgnorable = true
    · have hmore : meetsCased more.toList = false := by
        rw [← Bool.not_eq_true]
        exact fun hmore => hapart ⟨⟨first, last, hsplit, hlast, hfirst⟩, hmore⟩
      rw [if_pos hlast, hmore, meetsCased_of_all hlast]
    · rw [if_neg hlast]

/-- The lower case of a text begins with that of its beginning iff the beginning keeps its sigmas. -/
theorem startsWith_lower_append {lead more : String} :
    startsWith (lower (lead ++ more)) (lower lead) = true ↔ ¬ JoinsSigma lead more := by
  have hplace := @keepsSigmas_iff_lower "" lead more
  have hnothing : (lower "").toList.length = 0 := rfl
  rw [String.empty_append, hnothing, List.drop_zero, keepsSigmas_empty_iff] at hplace
  rw [startsWith_iff, hplace]
  exact exists_congr fun rest => eq_comm

/-! ### Occurrences -/

theorem occursIn_iff_append {part whole : String} :
    occursIn part whole = true ↔ ∃ before after, whole = before ++ part ++ after := by
  rw [occursIn_iff]
  constructor
  · rintro ⟨before, after, hwhole⟩
    refine ⟨.ofList before, .ofList after, ?_⟩
    apply String.toList_injective
    simp [← hwhole]
  · rintro ⟨before, after, rfl⟩
    exact ⟨before.toList, after.toList, by simp⟩

/-- Whether a text holds a part at some place where the part keeps its sigmas. -/
def OccursKept (part whole : String) : Prop :=
  ∃ before after, whole = before ++ part ++ after ∧ KeepsSigmas before part after

theorem OccursKept.occursIn_lower {part whole : String} (hkept : OccursKept part whole) :
    occursIn (lower part) (lower whole) = true := by
  obtain ⟨before, after, rfl, hkeeps⟩ := hkept
  obtain ⟨rest, hrest⟩ := keepsSigmas_iff_lower.1 hkeeps
  have hhere : (lower part).toList <:+: (lower part).toList ++ rest := (List.prefix_append _ _).isInfix
  rw [← hrest] at hhere
  exact occursIn_iff.2 (hhere.trans (List.drop_suffix _ _).isInfix)

/-- Whether nothing that stands around a text changes the form of one of its capital sigmas: a sigma with
only skipped characters before it has a cased one behind it, and one with only skipped characters behind
it has no cased one before it. -/
def SettlesSigmas (part : String) : Prop :=
  ∀ first last, part.toList = first ++ 'Σ' :: last →
    (first.all isCaseIgnorable = true → meetsCased last = true) ∧
      (last.all isCaseIgnorable = true → meetsCased first.reverse = false)

theorem settlesSigmas_of_not_mem {part : String} (hpart : 'Σ' ∉ part.toList) : SettlesSigmas part := by
  intro first last hsplit
  rw [hsplit] at hpart
  exact absurd (by simp) hpart

theorem SettlesSigmas.keepsSigmas {part : String} (hpart : SettlesSigmas part) (before after : String) :
    KeepsSigmas before part after := by
  intro first last hsplit
  obtain ⟨hfirst, hlast⟩ := hpart first last hsplit
  rw [EndsWord, EndsWord, List.reverse_append, meetsCased_append, meetsCased_append, List.all_reverse]
  by_cases hlead : first.all isCaseIgnorable = true
  · have hcased := hfirst hlead
    have hstops : ¬ last.all isCaseIgnorable = true := by
      intro hall
      rw [meetsCased_of_all hall] at hcased
      cases hcased
    rw [if_neg hstops, hcased]
    simp
  · rw [if_neg hlead]
    by_cases hend : last.all isCaseIgnorable = true
    · rw [hlast hend]
      simp
    · rw [if_neg hend]

theorem SettlesSigmas.occursKept {part whole : String} (hpart : SettlesSigmas part)
    (hoccurs : occursIn part whole = true) : OccursKept part whole := by
  obtain ⟨before, after, hwhole⟩ := occursIn_iff_append.1 hoccurs
  exact ⟨before, after, hwhole, hpart.keepsSigmas before after⟩

/-! ### Counting forms -/

section Counting

variable {form : Char} {lead trail : List Char}
  (hform : ∀ before after, lowerAt (before ++ lead) 'Σ' (after ++ trail) = [form] →
    lowerAt before 'Σ' after = [form])

include hform

/-- A form of the sigma that more characters around a part do not bring about does not come more often
with them. -/
theorem count_lowerWithin_le (before cs after : List Char) :
    (lowerWithin (before ++ lead) cs (after ++ trail)).count form ≤
      (lowerWithin before cs after).count form := by
  induction cs generalizing before with
  | nil => rfl
  | cons c cs ih =>
      have hhere : (lowerAt (before ++ lead) c (cs ++ (after ++ trail))).count form ≤
          (lowerAt before c (cs ++ after)).count form := by
        by_cases hsigma : c = 'Σ'
        · subst hsigma
          rw [← List.append_assoc]
          obtain ⟨other, hother⟩ := exists_lowerAt_sigma (before ++ lead) (cs ++ after ++ trail)
          by_cases hsame : other = form
          · subst hsame
            rw [hother, hform _ _ hother]
          · rw [hother, List.count_singleton, if_neg (by simpa using hsame)]
            exact Nat.zero_le _
        · rw [lowerAt, if_neg hsigma, lowerAt, if_neg hsigma]
      have hrest := ih (c :: before)
      rw [List.cons_append] at hrest
      rw [lowerWithin, lowerWithin, List.count_append, List.count_append]
      exact Nat.add_le_add hhere hrest

/-- It comes less often if one sigma loses it. -/
theorem count_lowerWithin_lt {first last : List Char} (hbare : lowerAt first.reverse 'Σ' last = [form])
    (hlost : lowerAt (first.reverse ++ lead) 'Σ' (last ++ trail) ≠ [form]) :
    (lowerWithin lead (first ++ 'Σ' :: last) trail).count form <
      (lowerChars (first ++ 'Σ' :: last)).count form := by
  have hfirst := count_lowerWithin_le hform [] first ('Σ' :: last)
  have hlast := count_lowerWithin_le hform ('Σ' :: first.reverse) last []
  obtain ⟨other, hother⟩ := exists_lowerAt_sigma (first.reverse ++ lead) (last ++ trail)
  have hnone : [other].count form = 0 := by
    rw [List.count_singleton, if_neg]
    intro hsame
    rw [hother, beq_iff_eq.1 hsame] at hlost
    exact hlost rfl
  rw [List.nil_append, List.cons_append] at hfirst
  rw [List.cons_append, List.nil_append] at hlast
  rw [lowerChars, ← lowerWithin_nil, lowerWithin_append, lowerWithin_append, lowerWithin, lowerWithin,
    List.append_nil, List.append_nil, List.append_nil, hother, hbare]
  simp only [List.count_append, hnone, List.count_singleton_self]
  rw [List.cons_append]
  omega

end Counting

theorem count_le_of_occursIn {needle text : String} (hoccurs : occursIn needle text = true) (form : Char) :
    needle.toList.count form ≤ text.toList.count form :=
  (occursIn_iff.1 hoccurs).sublist.count_le form

theorem meetsCased_append_letter {cs : List Char} (hcs : cs.all isCaseIgnorable = true) :
    meetsCased (cs ++ ['A']) = true := by
  rw [meetsCased_append, if_pos hcs]
  decide +kernel

/-- A text settles its sigmas iff its lower case occurs in that of each text in which it occurs. -/
theorem settlesSigmas_iff {part : String} :
    SettlesSigmas part ↔
      ∀ whole, occursIn part whole = true → occursIn (lower part) (lower whole) = true := by
  constructor
  · exact fun hpart whole hwhole => (hpart.occursKept hwhole).occursIn_lower
  · intro hoccurs first last hsplit
    have hwithin (before after : String) :
        occursIn (lower part) (lower (before ++ part ++ after)) = true :=
      hoccurs _ (occursIn_iff_append.2 ⟨before, after, rfl⟩)
    -- with a letter on one side one sigma changes its form, and the old form comes less often
    constructor
    · intro hfirst
      by_contra hlast
      have hless : (lowerWithin ['A'] part.toList []).count 'σ' < (lowerChars part.toList).count 'σ' := by
        rw [hsplit]
        refine count_lowerWithin_lt (fun before after hsigma => ?_) ?_ ?_
        · rw [lowerAt_eq_medial, List.append_nil] at hsigma
          exact lowerAt_eq_medial.2 fun hcased => hsigma (meetsCased_append_of_meetsCased hcased _)
        · rw [lowerAt_eq_medial, meetsCased_of_all (by rwa [List.all_reverse])]
          exact nofun
        · rw [Ne, lowerAt_eq_medial, meetsCased_append_letter (by rwa [List.all_reverse]), List.append_nil]
          exact fun hcased => hlast (hcased rfl)
      have hwhole : lowerChars ("A" ++ part ++ "").toList = 'a' :: lowerWithin ['A'] part.toList [] := by
        rw [lowerWithin_nil, String.append_empty, String.toList_append]
        rfl
      have hcount := count_le_of_occursIn (hwithin "A" "") 'σ'
      rw [toList_lower, toList_lower, hwhole, List.count_cons_of_ne (by decide)] at hcount
      omega
    · intro hlast
      rw [← Bool.not_eq_true]
      intro hfirst
      have hless : (lowerWithin [] part.toList ['A']).count 'ς' < (lowerChars part.toList).count 'ς' := by
        rw [hsplit]
        refine count_lowerWithin_lt (fun before after hsigma => ?_) ?_ ?_
        · rw [lowerAt_eq_final, List.append_nil] at hsigma
          refine lowerAt_eq_final.2 ⟨hsigma.1, ?_⟩
          rw [← Bool.not_eq_true]
          intro hcased
          rw [meetsCased_append_of_meetsCased hcased] at hsigma
          cases hsigma.2
        · exact lowerAt_eq_final.2 ⟨hfirst, meetsCased_of_all hlast⟩
        · rw [Ne, lowerAt_eq_final, meetsCased_append_letter hlast]
          exact fun hsigma => nomatch hsigma.2
      have hwhole : lowerChars ("" ++ part ++ "A").toList = lowerWithin [] part.toList ['A'] ++ ['a'] := by
        rw [String.empty_append, String.toList_append, lowerChars]
        exact lowerFrom_append [] part.toList ['A']
      have hnone : ['a'].count 'ς' = 0 := by decide
      have hcount := count_le_of_occursIn (hwithin "" "A") 'ς'
      rw [toList_lower, toList_lower, hwhole, List.count_append] at hcount
      omega

end Jotter.Text
