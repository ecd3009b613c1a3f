import Mathlib.Data.List.DropRight
import Jotter.Proofs.Text.Margins

/-! The entries of a text. A text is either one entry without white space, or an entry, a gap and the
rest behind the gap, which begins with no white space; all that is said of entries and words follows
this cut, by induction on the rest. -/

namespace Jotter.Text

theorem isBlank_space : ∀ c ∈ [' '], isBlank c = true := by
  simp [isBlank]

/-- A character that is not white space joins the first entry. -/
theorem fieldsChars_cons {c : Char} (hc : isBlank c = false) (cs : List Char) :
    fieldsChars (c :: cs) = (c :: (fieldsChars cs).headD []) :: (fieldsChars cs).tail := by
  rw [fieldsChars.eq_def]
  simp only [hc, Bool.false_eq_true, if_false]
  cases fieldsChars cs <;> rfl

theorem fieldsChars_blank {c : Char} (hc : isBlank c = true) {cs : List Char}
    (hcs : ∀ d ∈ cs.head?, isBlank d = false) : fieldsChars (c :: cs) = [] :: fieldsChars cs := by
  rw [fieldsChars.eq_def]
  cases cs with
  | nil =>
      have hnil : fieldsChars [] = [[]] := rfl
      simp [hc, hnil]
  | cons d cs => simp [hc, hcs d rfl]

theorem fieldsChars_blank_blank {c d : Char} (hc : isBlank c = true) (hd : isBlank d = true)
    (cs : List Char) : fieldsChars (c :: d :: cs) = fieldsChars (d :: cs) := by
  rw [fieldsChars.eq_def]
  simp [hc, hd]

/-- A text without white space is its own only entry. -/
theorem fieldsChars_eq_singleton {cs : List Char} (hcs : ∀ c ∈ cs, isBlank c = false) :
    fieldsChars cs = [cs] := by
  induction cs with
  | nil => rfl
  | cons c cs ih =>
      rw [fieldsChars_cons (hcs c List.mem_cons_self),
        ih fun d hd => hcs d (List.mem_cons_of_mem _ hd)]
      rfl

theorem fieldsChars_gap {gap rest : List Char} (hne : gap ≠ []) (hgap : ∀ c ∈ gap, isBlank c = true)
    (hrest : ∀ c ∈ rest.head?, isBlank c = false) :
    fieldsChars (gap ++ rest) = [] :: fieldsChars rest := by
  induction gap with
  | nil => exact absurd rfl hne
  | cons c gap ih =>
      have hc := hgap c List.mem_cons_self
      have hblank : ∀ d ∈ gap, isBlank d = true := fun d hd => hgap d (List.mem_cons_of_mem _ hd)
      cases gap with
      | nil => exact fieldsChars_blank hc hrest
      | cons d gap =>
          rw [List.cons_append, List.cons_append, fieldsChars_blank_blank hc (hblank d (by simp))]
          exact ih (by simp) hblank

/-- An entry, a gap and the rest. -/
theorem fieldsChars_append {field gap rest : List Char} (hfield : ∀ c ∈ field, isBlank c = false)
    (hne : gap ≠ []) (hgap : ∀ c ∈ gap, isBlank c = true)
    (hrest : ∀ c ∈ rest.head?, isBlank c = false) :
    fieldsChars (field ++ (gap ++ rest)) = field :: fieldsChars rest := by
  induction field with
  | nil => exact fieldsChars_gap hne hgap hrest
  | cons c field ih =>
      rw [List.cons_append, fieldsChars_cons (hfield c List.mem_cons_self),
        ih fun d hd => hfield d (List.mem_cons_of_mem _ hd)]
      rfl

/-- What holds of a text without white space, and of an entry and a gap before any text of which it
holds, holds of every text. -/
@[elab_as_elim]
theorem cutInduction {motive : List Char → Prop}
    (field : ∀ cs, (∀ c ∈ cs, isBlank c = false) → motive cs)
    (gap : ∀ field gap rest : List Char, (∀ c ∈ field, isBlank c = false) → gap ≠ [] →
      (∀ c ∈ gap, isBlank c = true) → (∀ c ∈ rest.head?, isBlank c = false) → motive rest →
        motive (field ++ (gap ++ rest)))
    (cs : List Char) : motive cs := by
  induction hlength : cs.length using Nat.strong_induction_on generalizing cs with
  | _ n ih =>
      have hcut : cs.takeWhile (!isBlank ·) ++ cs.dropWhile (!isBlank ·) = cs :=
        List.takeWhile_append_dropWhile
      have hrest : (cs.dropWhile (!isBlank ·)).takeWhile isBlank ++
          trimLeftChars (cs.dropWhile (!isBlank ·)) = cs.dropWhile (!isBlank ·) :=
        List.takeWhile_append_dropWhile
      have hfield : ∀ c ∈ cs.takeWhile (!isBlank ·), isBlank c = false := by
        intro c hc
        simpa using List.mem_takeWhile_imp hc
      cases hbehind : cs.dropWhile (!isBlank ·) with
      | nil =>
          rw [hbehind, List.append_nil] at hcut
          exact field cs (hcut ▸ hfield)
      | cons c behind =>
          have hblank : isBlank c = true := by
            have hhead := List.head?_dropWhile_not (!isBlank ·) cs
            rw [hbehind] at hhead
            simpa using hhead
          have hne : (cs.dropWhile (!isBlank ·)).takeWhile isBlank ≠ [] := by
            rw [hbehind, List.takeWhile_cons_of_pos hblank]
            exact List.cons_ne_nil _ _
          have hstart : ∀ d ∈ (trimLeftChars (cs.dropWhile (!isBlank ·))).head?,
              isBlank d = false := by
            intro d hd
            have hhead := List.head?_dropWhile_not isBlank (cs.dropWhile (!isBlank ·))
            rw [trimLeftChars, Option.mem_def] at hd
            rwa [hd] at hhead
          have hshorter : (trimLeftChars (cs.dropWhile (!isBlank ·))).length < n := by
            have hpositive := List.length_pos_of_ne_nil hne
            have hbody := congrArg List.length hcut
            have hgap := congrArg List.length hrest
            rw [List.length_append] at hbody hgap
            omega
          rw [← hcut, ← hrest]
          exact gap _ _ _ hfield hne (fun d hd => List.mem_takeWhile_imp hd) hstart
            (ih _ hshorter _ rfl)

/-! ### Words -/

theorem wordsChars_eq_singleton {field : List Char} (hfield : ∀ c ∈ field, isBlank c = false)
    (hne : field ≠ []) : wordsChars field = [field] := by
  rw [wordsChars, fieldsChars_eq_singleton hfield, List.filter_cons_of_pos (by simpa using hne)]
  rfl

/-- White space before a text is no word. -/
theorem wordsChars_gap {gap : List Char} (hgap : ∀ c ∈ gap, isBlank c = true) (cs : List Char) :
    wordsChars (gap ++ cs) = wordsChars cs := by
  induction gap with
  | nil => rfl
  | cons c gap ih =>
      rw [List.forall_mem_cons] at hgap
      rw [← ih hgap.2, List.cons_append, wordsChars, fieldsChars.eq_def]
      cases gap ++ cs with
      | nil =>
          simp only [hgap.1, if_true]
          rfl
      | cons d rest =>
          simp only [hgap.1, if_true]
          split <;> rfl

theorem wordsChars_append {field gap : List Char} (hfield : ∀ c ∈ field, isBlank c = false)
    (hne : gap ≠ []) (hgap : ∀ c ∈ gap, isBlank c = true) (rest : List Char) :
    wordsChars (field ++ (gap ++ rest)) = wordsChars field ++ wordsChars rest := by
  have hlead : ∀ c ∈ rest.takeWhile isBlank, isBlank c = true := fun c hc => List.mem_takeWhile_imp hc
  have hrest : rest.takeWhile isBlank ++ rest.dropWhile isBlank = rest :=
    List.takeWhile_append_dropWhile
  have hstart : ∀ c ∈ (rest.dropWhile isBlank).head?, isBlank c = false := by
    intro c hc
    have hhead := List.head?_dropWhile_not isBlank rest
    rwa [Option.mem_def.1 hc] at hhead
  have hlonger : ∀ c ∈ gap ++ rest.takeWhile isBlank, isBlank c = true :=
    List.forall_mem_append.2 ⟨hgap, hlead⟩
  -- the gap goes on in the white space behind it
  rw [← hrest, ← List.append_assoc gap, wordsChars_gap hlead, wordsChars,
    fieldsChars_append hfield (List.append_ne_nil_of_left_ne_nil hne _) hlonger hstart, wordsChars,
    fieldsChars_eq_singleton hfield, wordsChars, ← List.filter_append]
  rfl

/-- White space between two texts parts their words. -/
theorem wordsChars_append_cons {c : Char} (hc : isBlank c = true) (cs rest : List Char) :
    wordsChars (cs ++ c :: rest) = wordsChars cs ++ wordsChars rest := by
  have hgap : ∀ d ∈ [c], isBlank d = true := by simpa using hc
  induction cs using cutInduction with
  | field cs hcs => exact wordsChars_append hcs (List.cons_ne_nil _ _) hgap rest
  | gap field gap others hfield hne hblank hothers ih =>
      rw [List.append_assoc, List.append_assoc, wordsChars_append hfield hne hblank, ih,
        wordsChars_append hfield hne hblank, List.append_assoc]

/-- White space behind a text is no word. -/
theorem wordsChars_append_blank {trail : List Char} (htrail : ∀ c ∈ trail, isBlank c = true)
    (cs : List Char) : wordsChars (cs ++ trail) = wordsChars cs := by
  cases trail with
  | nil => rw [List.append_nil]
  | cons c trail =>
      rw [List.forall_mem_cons] at htrail
      have hnothing : wordsChars (trail ++ []) = [] := wordsChars_gap htrail.2 []
      rw [List.append_nil] at hnothing
      rw [wordsChars_append_cons htrail.1, hnothing, List.append_nil]

theorem wordsChars_trimRightChars (cs : List Char) :
    wordsChars (trimRightChars cs) = wordsChars cs := by
  have htrail : ∀ c ∈ cs.rtakeWhile isBlank, isBlank c = true :=
    fun c hc => List.mem_rtakeWhile_imp hc
  have hsplit : trimRightChars cs ++ cs.rtakeWhile isBlank = cs := List.rdropWhile_append_rtakeWhile
  rw [← wordsChars_append_blank htrail, hsplit]

/-! ### The first and the last entry -/

theorem head?_fieldsChars (cs : List Char) :
    (fieldsChars cs).head? = some (cs.takeWhile (!isBlank ·)) := by
  induction cs using cutInduction with
  | field cs hcs =>
      have hall : cs.takeWhile (!isBlank ·) = cs :=
        List.takeWhile_eq_self_iff.2 fun c hc => by simp [hcs c hc]
      rw [fieldsChars_eq_singleton hcs, hall]
      rfl
  | gap field gap rest hfield hne hgap hrest ih =>
      obtain ⟨c, gap, rfl⟩ := List.exists_cons_of_ne_nil hne
      have hall : ∀ d ∈ field, (!isBlank d) = true := fun d hd => by simp [hfield d hd]
      rw [fieldsChars_append hfield hne hgap hrest, List.takeWhile_append_of_pos hall,
        List.cons_append, List.takeWhile_cons_of_neg (by simp [hgap c List.mem_cons_self]),
        List.append_nil]
      rfl

/-- The characters at the end that are not white space stay the same behind any white space. -/
theorem rtakeWhile_append_gap {gap : List Char} (hne : gap ≠ [])
    (hgap : ∀ c ∈ gap, isBlank c = true) (before rest : List Char) :
    (before ++ (gap ++ rest)).rtakeWhile (!isBlank ·) = rest.rtakeWhile (!isBlank ·) := by
  obtain ⟨gap, c, rfl⟩ := List.eq_nil_or_concat' gap |>.resolve_left hne
  have hc : (!isBlank c) = false := by simp [hgap c (by simp)]
  induction rest using List.reverseRecOn with
  | nil =>
      rw [List.append_nil, ← List.append_assoc, List.rtakeWhile_concat_neg _ _ _ (by simp [hc])]
      rfl
  | append_singleton rest d ih =>
      simp only [← List.append_assoc] at ih ⊢
      by_cases hd : isBlank d = true
      · rw [List.rtakeWhile_concat_neg _ _ _ (by simp [hd]),
          List.rtakeWhile_concat_neg _ _ _ (by simp [hd])]
      · rw [List.rtakeWhile_concat_pos _ _ _ (by simpa using hd),
          List.rtakeWhile_concat_pos _ _ _ (by simpa using hd), ih]

theorem getLast?_fieldsChars (cs : List Char) :
    (fieldsChars cs).getLast? = some (cs.rtakeWhile (!isBlank ·)) := by
  induction cs using cutInduction with
  | field cs hcs =>
      have hall : cs.rtakeWhile (!isBlank ·) = cs :=
        List.rtakeWhile_eq_self_iff.2 fun c hc => by simp [hcs c hc]
      rw [fieldsChars_eq_singleton hcs, hall]
      rfl
  | gap field gap rest hfield hne hgap hrest ih =>
      rw [fieldsChars_append hfield hne hgap hrest, rtakeWhile_append_gap hne hgap, List.getLast?_cons,
        ih]
      rfl

/-- The first entry is empty iff nothing or white space stands at the beginning. -/
theorem head?_fieldsChars_eq_nil (cs : List Char) :
    (fieldsChars cs).head? = some [] ↔ cs = [] ∨ ∃ c ∈ cs.head?, isBlank c = true := by
  rw [head?_fieldsChars, Option.some.injEq]
  cases cs with
  | nil => simp
  | cons c cs => cases hc : isBlank c <;> simp [hc]

/-- The last entry is empty iff nothing or white space stands at the end. -/
theorem getLast?_fieldsChars_eq_nil (cs : List Char) :
    (fieldsChars cs).getLast? = some [] ↔ cs = [] ∨ ∃ c ∈ cs.getLast?, isBlank c = true := by
  rw [getLast?_fieldsChars, Option.some.injEq]
  induction cs using List.reverseRecOn with
  | nil => simp
  | append_singleton cs c ih => cases hc : isBlank c <;> simp [hc]

/-- A text that ends with white space, and does not begin with it, has its words for entries and an empty
one behind them. -/
theorem fieldsChars_eq_concat {cs : List Char} (hne : cs ≠ [])
    (hhead : ∀ c ∈ cs.head?, isBlank c = false) (hlast : ∀ c ∈ cs.getLast?, isBlank c = true) :
    fieldsChars cs = wordsChars cs ++ [[]] := by
  induction cs using cutInduction with
  | field cs hcs =>
      have hblank := hlast _ (List.getLast?_eq_some_getLast hne)
      rw [hcs _ (List.getLast_mem hne)] at hblank
      cases hblank
  | gap field gap rest hfield hgapne hgap hrest ih =>
      have hfirst : field ≠ [] := by
        rintro rfl
        obtain ⟨c, gap, rfl⟩ := List.exists_cons_of_ne_nil hgapne
        have hblank := hgap c List.mem_cons_self
        rw [hhead c rfl] at hblank
        cases hblank
      rw [fieldsChars_append hfield hgapne hgap hrest, wordsChars_append hfield hgapne hgap,
        wordsChars_eq_singleton hfield hfirst, List.singleton_append, List.cons_append]
      by_cases hend : rest = []
      · rw [hend]
        rfl
      · rw [ih hend hrest fun c hc => hlast c ?_]
        rw [List.getLast?_append, List.getLast?_append, Option.mem_def.1 hc]
        rfl

/-- A text that is its own only entry. -/
theorem eq_of_fieldsChars_eq_singleton {cs field : List Char} (hfields : fieldsChars cs = [field]) :
    cs = field := by
  induction cs using cutInduction with
  | field cs hcs =>
      rw [fieldsChars_eq_singleton hcs] at hfields
      exact (List.cons.inj hfields).1
  | gap first gap rest hfirst hne hgap hrest ih =>
      rw [fieldsChars_append hfirst hne hgap hrest] at hfields
      exact absurd (List.cons.inj hfields).2 (fieldsChars_ne_nil rest)

/-- The last of several entries is what stands behind the last white space, whatever is before. -/
theorem rtakeWhile_append_of_fieldsChars {cs first : List Char} {others : List (List Char)}
    (hfields : fieldsChars cs = first :: others) (hothers : others ≠ []) (before : List Char) :
    (before ++ cs).rtakeWhile (!isBlank ·) = cs.rtakeWhile (!isBlank ·) := by
  induction cs using cutInduction with
  | field cs hcs =>
      rw [fieldsChars_eq_singleton hcs] at hfields
      exact absurd (List.cons.inj hfields).2.symm hothers
  | gap first gap rest hfirst hne hgap hrest ih =>
      rw [← List.append_assoc, rtakeWhile_append_gap hne hgap, rtakeWhile_append_gap hne hgap]

/-! ### All entries -/

theorem isBlank_of_mem_fieldsChars {cs field : List Char} (hfield : field ∈ fieldsChars cs) {c : Char}
    (hc : c ∈ field) : isBlank c = false := by
  induction cs using cutInduction with
  | field cs hcs =>
      rw [fieldsChars_eq_singleton hcs, List.mem_singleton] at hfield
      exact hcs c (hfield ▸ hc)
  | gap first gap rest hfirst hne hgap hrest ih =>
      rw [fieldsChars_append hfirst hne hgap hrest, List.mem_cons] at hfield
      rcases hfield with rfl | hfield
      · exact hfirst c hc
      · exact ih hfield

theorem mem_of_mem_fieldsChars {cs field : List Char} (hfield : field ∈ fieldsChars cs) {c : Char}
    (hc : c ∈ field) : c ∈ cs := by
  induction cs using cutInduction with
  | field cs hcs =>
      rw [fieldsChars_eq_singleton hcs, List.mem_singleton] at hfield
      exact hfield ▸ hc
  | gap first gap rest hfirst hne hgap hrest ih =>
      rw [fieldsChars_append hfirst hne hgap hrest, List.mem_cons] at hfield
      rw [List.mem_append, List.mem_append]
      rcases hfield with rfl | hfield
      · exact .inl hc
      · exact .inr (.inr (ih hfield))

/-- Between the first and the last entry no entry is empty. -/
theorem ne_nil_of_mem_inner_fieldsChars {cs field : List Char}
    (hfield : field ∈ (fieldsChars cs).tail.dropLast) : field ≠ [] := by
  induction cs using cutInduction with
  | field cs hcs =>
      rw [fieldsChars_eq_singleton hcs] at hfield
      cases hfield
  | gap first gap rest hfirst hne hgap hrest ih =>
      rw [fieldsChars_append hfirst hne hgap hrest, List.tail_cons] at hfield
      -- the first entry of the rest is not empty, since the rest begins with no white space
      have hhead := head?_fieldsChars_eq_nil rest
      obtain ⟨second, others, hfields⟩ := List.exists_cons_of_ne_nil (fieldsChars_ne_nil rest)
      rw [hfields] at hfield ih hhead
      have hothers : others ≠ [] := by
        rintro rfl
        cases hfield
      rw [List.dropLast_cons_of_ne_nil hothers, List.mem_cons] at hfield
      rcases hfield with rfl | hfield
      · rintro rfl
        rcases hhead.1 rfl with rfl | ⟨c, hc, hblank⟩
        · exact hothers (List.cons.inj hfields).2.symm
        · rw [hrest c hc] at hblank
          cases hblank
      · exact ih hfield

/-- A text that can be one word among others. -/
def IsWord (cs : List Char) : Prop :=
  cs ≠ [] ∧ ∀ c ∈ cs, isBlank c = false

theorem isWord_of_mem_wordsChars {cs piece : List Char} (hpiece : piece ∈ wordsChars cs) :
    IsWord piece := by
  obtain ⟨hfield, hne⟩ := List.mem_filter.1 hpiece
  exact ⟨by simpa using hne, fun _ => isBlank_of_mem_fieldsChars hfield⟩

theorem isWord_of_mem_words {s word : String} (hword : word ∈ words s) : IsWord word.toList := by
  obtain ⟨piece, hpiece, rfl⟩ := List.mem_map.1 hword
  rw [String.toList_ofList]
  exact isWord_of_mem_wordsChars hpiece

theorem map_toList_fields (s : String) : (fields s).map String.toList = fieldsChars s.toList := by
  simp [fields, Function.comp_def]

theorem map_toList_words (s : String) : (words s).map String.toList = wordsChars s.toList := by
  simp [words, Function.comp_def]

/-- The words of a text are its entries, but for the empty ones. -/
theorem words_eq_filter_fields (s : String) : words s = (fields s).filter (· ≠ "") := by
  rw [words, wordsChars, fields, List.filter_map]
  congr 2
  funext field
  rw [Function.comp, Bool.eq_iff_iff, Bool.not_eq_true', Bool.eq_false_iff, ne_eq, List.isEmpty_iff,
    decide_eq_true_iff, ne_eq, String.ofList_eq_empty_iff]

end Jotter.Text
