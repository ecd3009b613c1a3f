import Mathlib.Data.List.DropRight
import Mathlib.Data.List.TakeWhile
import Jotter.Text.Blank
import Jotter.Text.Search

/-! White space at the ends of a text and one lead at its beginning. A text is its core between two
margins; what trims it gives the core back, provided that the core itself neither begins nor ends with
white space. -/

namespace Jotter.Text

/-! ### Margins -/

theorem trimLeftChars_append {lead : List Char} (hlead : ∀ c ∈ lead, isBlank c = true)
    (cs : List Char) : trimLeftChars (lead ++ cs) = trimLeftChars cs :=
  List.dropWhile_append_of_pos hlead

theorem trimLeftChars_eq_self {cs : List Char} (hhead : ∀ c ∈ cs.head?, isBlank c = false) :
    trimLeftChars cs = cs := by
  cases cs with
  | nil => rfl
  | cons c cs => exact List.dropWhile_cons_of_neg (by simp [hhead c rfl])

theorem trimRightChars_append {trail : List Char} (htrail : ∀ c ∈ trail, isBlank c = true)
    (cs : List Char) : trimRightChars (cs ++ trail) = trimRightChars cs := by
  have hreversed : ∀ c ∈ trail.reverse, isBlank c = true := by simpa using htrail
  rw [trimRightChars, trimRightChars, List.reverse_append, List.dropWhile_append_of_pos hreversed]

theorem trimRightChars_eq_self {cs : List Char} (hlast : ∀ c ∈ cs.getLast?, isBlank c = false) :
    trimRightChars cs = cs := by
  have hhead : ∀ c ∈ cs.reverse.head?, isBlank c = false := by rwa [List.head?_reverse]
  have hreversed : cs.reverse.dropWhile isBlank = cs.reverse := trimLeftChars_eq_self hhead
  rw [trimRightChars, hreversed, List.reverse_reverse]

/-- What stands before the right margin is kept. -/
theorem trimRightChars_cons {c : Char} (hc : isBlank c = false) (cs : List Char) :
    trimRightChars (c :: cs) = c :: trimRightChars cs := by
  have hlast : [c].dropWhile isBlank = [c] := List.dropWhile_cons_of_neg (by simp [hc])
  rw [trimRightChars, trimRightChars, List.reverse_cons, List.dropWhile_append, hlast]
  split
  · rename_i hempty
    rw [List.isEmpty_iff.1 hempty]
    rfl
  · rw [List.reverse_append]
    rfl

theorem trimRightChars_append_left {cs : List Char} (hcs : ∀ c ∈ cs, isBlank c = false)
    (rest : List Char) : trimRightChars (cs ++ rest) = cs ++ trimRightChars rest := by
  induction cs with
  | nil => rfl
  | cons c cs ih =>
      rw [List.cons_append, trimRightChars_cons (hcs c List.mem_cons_self),
        ih fun d hd => hcs d (List.mem_cons_of_mem _ hd), List.cons_append]

/-- Trimming stops at a character that is not blank. -/
theorem trimRightChars_append_right {rest : List Char} (hrest : ∃ c ∈ rest, isBlank c = false)
    (cs : List Char) : trimRightChars (cs ++ rest) = cs ++ trimRightChars rest := by
  have hne : ¬ (rest.reverse.dropWhile isBlank).isEmpty = true := by
    rw [List.isEmpty_iff, List.dropWhile_eq_nil_iff]
    obtain ⟨c, hc, hblank⟩ := hrest
    exact fun hall => Bool.false_ne_true (hblank.symm.trans (hall c (List.mem_reverse.2 hc)))
  rw [trimRightChars, trimRightChars, List.reverse_append, List.dropWhile_append, if_neg hne,
    List.reverse_append, List.reverse_reverse]

/-- Trimming gives back what stands between the margins. -/
theorem trimChars_margins {lead core trail : List Char} (hlead : ∀ c ∈ lead, isBlank c = true)
    (htrail : ∀ c ∈ trail, isBlank c = true) (hhead : ∀ c ∈ core.head?, isBlank c = false)
    (hlast : ∀ c ∈ core.getLast?, isBlank c = false) :
    trimChars (lead ++ core ++ trail) = core := by
  cases core with
  | nil =>
      have hblank : ∀ c ∈ lead ++ trail, isBlank c = true := by
        intro c hc
        exact (List.mem_append.1 hc).elim (hlead c) (htrail c)
      rw [List.append_nil, trimChars, trimLeftChars, List.dropWhile_eq_nil_iff.2 hblank]
      rfl
  | cons c core =>
      have hstart : ∀ d ∈ (c :: core ++ trail).head?, isBlank d = false := hhead
      rw [List.append_assoc, trimChars, trimLeftChars_append hlead, trimLeftChars_eq_self hstart,
        trimRightChars_append htrail, trimRightChars_eq_self hlast]

/-- What is left of a text without its margins neither begins nor ends with white space. -/
theorem ends_trimChars (cs : List Char) :
    (∀ c ∈ (trimChars cs).head?, isBlank c = false) ∧
      ∀ c ∈ (trimChars cs).getLast?, isBlank c = false := by
  constructor
  · intro c hc
    obtain ⟨rest, hrest⟩ : trimChars cs <+: trimLeftChars cs := List.rdropWhile_prefix isBlank _
    have hhead := List.head?_dropWhile_not isBlank cs
    rw [show cs.dropWhile isBlank = trimLeftChars cs from rfl, ← hrest, List.head?_append, hc] at hhead
    simpa using hhead
  · intro c hc
    have hne : trimChars cs ≠ [] := List.ne_nil_of_mem (List.mem_of_getLast? hc)
    have hlast : ¬ isBlank ((trimChars cs).getLast hne) = true :=
      List.rdropWhile_last_not isBlank (trimLeftChars cs) hne
    rw [Option.mem_def, List.getLast?_eq_some_getLast hne] at hc
    rwa [← Option.some.inj hc, ← Bool.not_eq_true]

/-- A text without white space at its ends has no margins. -/
theorem trimChars_eq_self {cs : List Char} (hhead : ∀ c ∈ cs.head?, isBlank c = false)
    (hlast : ∀ c ∈ cs.getLast?, isBlank c = false) : trimChars cs = cs := by
  rw [trimChars, trimLeftChars_eq_self hhead, trimRightChars_eq_self hlast]

theorem trim_eq_self {s : String} (hs : ∀ c ∈ s.toList, isBlank c = false) : trim s = s := by
  rw [trim, trimChars_eq_self (fun c hc => hs c (List.mem_of_mem_head? hc))
    (fun c hc => hs c (List.mem_of_getLast? hc)), String.ofList_toList]

/-- A text begins with a margin, and what is left of it begins with no white space. -/
theorem exists_margin (s : String) :
    ∃ lead : List Char, (∀ c ∈ lead, isBlank c = true) ∧ s.toList = lead ++ (trimLeft s).toList := by
  refine ⟨s.toList.takeWhile isBlank, fun c hc => List.mem_takeWhile_imp hc, ?_⟩
  rw [toList_trimLeft]
  exact List.takeWhile_append_dropWhile.symm

/-- A text with anything but white space in it is not all margin. -/
theorem trim_ne_empty {s : String} {c : Char} (hc : c ∈ s.toList) (hblank : isBlank c = false) :
    trim s ≠ "" := by
  obtain ⟨margin, hmargin, hs⟩ := exists_margin s
  have hleft : c ∈ trimLeftChars s.toList := by
    rw [hs, List.mem_append] at hc
    rw [← toList_trimLeft]
    refine hc.resolve_left fun hin => ?_
    rw [hmargin c hin] at hblank
    cases hblank
  rw [Ne, ← String.toList_eq_nil_iff, toList_trim, trimChars, trimRightChars, List.reverse_eq_nil_iff,
    List.dropWhile_eq_nil_iff]
  intro hall
  rw [hall c (List.mem_reverse.2 hleft)] at hblank
  cases hblank

/-! ### Leads -/

theorem startsWith_append (lead s : String) : startsWith (lead ++ s) lead = true := by
  rw [startsWith_iff, String.toList_append]
  exact List.prefix_append _ _

theorem dropLead_append (lead s : String) : dropLead (lead ++ s) lead = s := by
  rw [dropLead, if_pos (startsWith_append lead s), String.toList_append, ← String.length_toList,
    List.drop_left, String.ofList_toList]

theorem dropLead_of_not_startsWith {s lead : String} (hs : startsWith s lead = false) :
    dropLead s lead = s := by
  rw [dropLead, if_neg (by simp [hs])]

/-- A text that begins with a lead is the lead and what is left. -/
theorem append_dropLead {s lead : String} (hs : startsWith s lead = true) :
    lead ++ dropLead s lead = s := by
  obtain ⟨rest, hrest⟩ := startsWith_iff.1 hs
  have hsplit : s = lead ++ String.ofList rest := by
    apply String.toList_injective
    rw [String.toList_append, String.toList_ofList, hrest]
  rw [hsplit, dropLead_append]

end Jotter.Text
