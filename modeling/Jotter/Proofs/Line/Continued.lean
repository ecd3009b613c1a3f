import Jotter.Proofs.Line.Draft

/-! One more character on a line that is being typed. Run with it, the line has at most as many tokens as it
has entries: the entries that white space parts can be put together in a quotation, or be nothing but
quotation marks. It has as many iff every entry but the last is a token of its own. -/

namespace Jotter.Line

open Text

/-! ### Whole entries -/

/-- Whether an entry is a token of its own: white space behind it makes what follows another one. -/
def IsWhole (entry : List Char) : Prop :=
  (scanTokens none [] (entry ++ ([' '] ++ ['x']))).length = 2

instance : DecidablePred IsWhole :=
  fun _ => inferInstanceAs (Decidable (_ = _))

theorem isQuote_of_mem_none : ∀ mark ∈ (none : Option Char), isQuote mark = true :=
  nofun

section Scan

variable {quote : Option Char} (hquote : ∀ mark ∈ quote, isQuote mark = true)

include hquote

/-- Outside quotations or within one, a letter at the end is in one token. -/
theorem length_scanTokens_letter (held : List Char) : (scanTokens quote held ['x']).length = 1 := by
  cases quote with
  | none => simp [scanTokens, isQuote, isBlank]
  | some mark =>
      have hmark : ¬ 'x' = mark := by
        rintro rfl
        exact absurd (hquote _ rfl) (by decide)
      simp [scanTokens, hmark]

/-- A character that ends no token leaves the scan in another quotation or with another token begun. -/
theorem exists_scanTokens_cons {c : Char} (hc : isBlank c = false) (held : List Char) :
    ∃ next begun, (∀ mark ∈ next, isQuote mark = true) ∧
      ∀ rest, scanTokens quote held (c :: rest) = scanTokens next begun rest := by
  cases quote with
  | none =>
      by_cases hmark : isQuote c = true
      · refine ⟨some c, held, ?_, fun rest => by rw [scanTokens, if_pos hmark]⟩
        rintro mark ⟨⟩
        exact hmark
      · exact ⟨none, c :: held, isQuote_of_mem_none, fun rest => by
          rw [scanTokens, if_neg hmark, if_neg (by simp [hc])]⟩
  | some mark =>
      by_cases hmark : c = mark
      · exact ⟨none, held, isQuote_of_mem_none, fun rest => by rw [scanTokens, if_pos hmark]⟩
      · exact ⟨some mark, c :: held, hquote, fun rest => by rw [scanTokens, if_neg hmark]⟩

theorem exists_scanTokens_field {field : List Char} (hfield : ∀ c ∈ field, isBlank c = false)
    (held : List Char) :
    ∃ next begun, (∀ mark ∈ next, isQuote mark = true) ∧
      ∀ rest, scanTokens quote held (field ++ rest) = scanTokens next begun rest := by
  induction field generalizing quote held with
  | nil => exact ⟨quote, held, hquote, fun rest => rfl⟩
  | cons c field ih =>
      rw [List.forall_mem_cons] at hfield
      obtain ⟨within, grown, hwithin, hcons⟩ := exists_scanTokens_cons hquote hfield.1 held
      obtain ⟨next, begun, hnext, hscan⟩ := ih hwithin hfield.2 grown
      exact ⟨next, begun, hnext, fun rest => by rw [List.cons_append, hcons, hscan]⟩

/-- White space ends the token that is begun outside quotations, if there is one; else it ends none. -/
theorem scanTokens_gap_cases (held : List Char) :
    (∀ gap rest : List Char, gap ≠ [] → (∀ c ∈ gap, isBlank c = true) →
      scanTokens quote held (gap ++ rest) = held.reverse :: scanTokens none [] rest) ∨
    ∀ gap rest : List Char, (∀ c ∈ gap, isBlank c = true) →
      ∃ begun, scanTokens quote held (gap ++ rest) = scanTokens quote begun rest := by
  cases quote with
  | none =>
      by_cases hheld : held = []
      · subst hheld
        exact .inr fun gap rest hgap => ⟨[], scanTokens_blank hgap rest⟩
      · exact .inl fun gap rest hne hgap => scanTokens_gap hheld hne hgap rest
  | some mark =>
      refine .inr fun gap rest hgap => ?_
      induction gap generalizing held with
      | nil => exact ⟨held, rfl⟩
      | cons c gap ih =>
          rw [List.forall_mem_cons] at hgap
          have hmark : ¬ c = mark := by
            rintro rfl
            have hblank := not_isQuote_of_isBlank hgap.1
            rw [hquote c rfl] at hblank
            cases hblank
          obtain ⟨begun, hbegun⟩ := ih (c :: held) hgap.2
          exact ⟨begun, by rw [List.cons_append, scanTokens, if_neg hmark, hbegun]⟩

/-- However the scan begins, there is a token, and there are no more tokens than entries. -/
theorem length_scanTokens_le (held cs : List Char) :
    0 < (scanTokens quote held (cs ++ ['x'])).length ∧
      (scanTokens quote held (cs ++ ['x'])).length ≤ (fieldsChars cs).length := by
  induction cs using cutInduction generalizing quote held with
  | field cs hcs =>
      obtain ⟨next, begun, hnext, hscan⟩ := exists_scanTokens_field hquote hcs held
      rw [hscan, length_scanTokens_letter hnext, fieldsChars_eq_singleton hcs, List.length_singleton]
      exact ⟨Nat.one_pos, le_rfl⟩
  | gap field gap rest hfield hne hgap hrest ih =>
      obtain ⟨next, begun, hnext, hscan⟩ := exists_scanTokens_field hquote hfield held
      rw [List.append_assoc, List.append_assoc, hscan, fieldsChars_append hfield hne hgap hrest,
        List.length_cons]
      rcases scanTokens_gap_cases hnext begun with hends | hgoes
      · have hafter := ih isQuote_of_mem_none []
        rw [hends gap _ hne hgap, List.length_cons]
        omega
      · obtain ⟨grown, hgrown⟩ := hgoes gap (rest ++ ['x']) hgap
        have hafter := ih hnext grown
        rw [hgrown]
        omega

end Scan

/-- A whole entry is one token, and behind the gap the scan begins anew; another entry ends no token. -/
theorem isWhole_cases {field : List Char} (hfield : ∀ c ∈ field, isBlank c = false) :
    IsWhole field ∧ (∀ gap rest : List Char, gap ≠ [] → (∀ c ∈ gap, isBlank c = true) →
      ∃ token, scanTokens none [] (field ++ (gap ++ rest)) = token :: scanTokens none [] rest) ∨
    ¬ IsWhole field ∧ ∀ gap rest : List Char, (∀ c ∈ gap, isBlank c = true) →
      ∃ next begun, (∀ mark ∈ next, isQuote mark = true) ∧
        scanTokens none [] (field ++ (gap ++ rest)) = scanTokens next begun rest := by
  obtain ⟨next, begun, hnext, hscan⟩ := exists_scanTokens_field isQuote_of_mem_none hfield []
  rcases scanTokens_gap_cases hnext begun with hends | hgoes
  · refine .inl ⟨?_, fun gap rest hne hgap => ⟨begun.reverse, by rw [hscan, hends gap rest hne hgap]⟩⟩
    rw [IsWhole, hscan, hends [' '] ['x'] (List.cons_ne_nil _ _) isBlank_space, List.length_cons,
      length_scanTokens_letter isQuote_of_mem_none]
  · refine .inr ⟨?_, fun gap rest hgap => ?_⟩
    · obtain ⟨grown, hgrown⟩ := hgoes [' '] ['x'] isBlank_space
      rw [IsWhole, hscan, hgrown, length_scanTokens_letter hnext]
      decide
    · obtain ⟨grown, hgrown⟩ := hgoes gap rest hgap
      exact ⟨next, grown, hnext, by rw [hscan, hgrown]⟩

/-- There are as many tokens as entries iff each entry but the last is whole. -/
theorem length_scanTokens_eq_iff (cs : List Char) :
    (scanTokens none [] (cs ++ ['x'])).length = (fieldsChars cs).length ↔
      ∀ entry ∈ (fieldsChars cs).dropLast, IsWhole entry := by
  induction cs using cutInduction with
  | field cs hcs =>
      obtain ⟨next, begun, hnext, hscan⟩ := exists_scanTokens_field isQuote_of_mem_none hcs []
      rw [hscan, length_scanTokens_letter hnext, fieldsChars_eq_singleton hcs]
      simp
  | gap field gap rest hfield hne hgap hrest ih =>
      rw [List.append_assoc, List.append_assoc, fieldsChars_append hfield hne hgap hrest,
        List.dropLast_cons_of_ne_nil (fieldsChars_ne_nil rest), List.forall_mem_cons, List.length_cons]
      rcases isWhole_cases hfield with ⟨hwhole, hends⟩ | ⟨hpart, hgoes⟩
      · obtain ⟨token, htoken⟩ := hends gap (rest ++ ['x']) hne hgap
        rw [htoken, List.length_cons, Nat.add_right_cancel_iff, ih]
        exact (and_iff_right hwhole).symm
      · obtain ⟨next, begun, hnext, hscan⟩ := hgoes gap (rest ++ ['x']) hgap
        obtain ⟨-, hfewer⟩ := length_scanTokens_le hnext begun rest
        rw [hscan]
        refine iff_of_false ?_ fun hall => hpart hall.1
        omega

/-- Without quotation marks an entry is whole if it is not empty. -/
theorem isWhole_of_plain {entry : List Char} (hne : entry ≠ []) (hblank : ∀ c ∈ entry, isBlank c = false)
    (hquote : ∀ c ∈ entry, isQuote c = false) : IsWhole entry := by
  rw [IsWhole, scanTokens_field hquote hblank (List.cons_ne_nil _ _) isBlank_space,
    wordsChars_eq_singleton hblank hne, List.length_append, length_scanTokens_letter isQuote_of_mem_none]
  rfl

/-! ### The line with one more character -/

theorem parse_letter {text marker rest : String} {lead : List Char}
    (hmarker : Configuration.isMarker marker = true) (hcut : Cut text marker lead rest) (hrest : rest ≠ "") :
    parse (text ++ "x") marker =
      .ofTokens ((scanTokens none [] (rest.toList ++ ['x'])).map String.ofList) := by
  have hlonger : Cut (text ++ "x") marker lead (rest ++ "x") := by
    refine cut_of_toList hmarker hcut.blank ?_ ?_
    · rw [String.toList_append, hcut.toList_eq]
      simp
    · rw [startsWith_append_right hmarker hrest]
      exact hcut.unmarked
  have hbody : (body (text ++ "x") marker).toList = rest.toList ++ ['x'] := by
    rw [hlonger.toList_body (Configuration.not_isBlank_of_isMarker hmarker), String.toList_append]
    refine trimRightChars_eq_self fun c hc => ?_
    rw [show "x".toList = ['x'] from rfl, List.getLast?_concat] at hc
    obtain rfl := Option.some.inj hc
    decide
  rw [parse, hbody]

/-- While an argument is being typed, a line that goes on with a letter has no more arguments than entries
behind the name, and as many iff the name and all entries but the last are whole. -/
theorem length_args_letter {text marker name : String} {args : List String}
    (hmarker : Configuration.isMarker marker = true)
    (hdraft : Draft.read text marker = .arguments name args) (hname : name ≠ "") :
    (parse (text ++ "x") marker).args.length ≤ args.length ∧
      ((parse (text ++ "x") marker).args.length = args.length ↔
        ∀ entry ∈ name :: args.dropLast, IsWhole entry.toList) := by
  obtain ⟨hfields, hargs⟩ := draftFields?_of_arguments hdraft
  obtain ⟨lead, rest, hcut, hentries⟩ := draftFields?_eq_some.1 hfields
  have hchars : fieldsChars rest.toList = (name :: args).map String.toList := by
    rw [← map_toList_fields, ← hentries]
  have hrest : rest ≠ "" := by
    rintro rfl
    rw [show fieldsChars "".toList = [[]] from rfl, List.map_cons, List.cons.injEq] at hchars
    exact hname (String.toList_eq_nil_iff.1 hchars.1.symm)
  obtain ⟨hpositive, hle⟩ := length_scanTokens_le isQuote_of_mem_none [] rest.toList
  have hiff := length_scanTokens_eq_iff rest.toList
  obtain ⟨token, tokens, htokens⟩ := List.exists_cons_of_length_pos hpositive
  rw [hchars, ← List.map_dropLast, List.dropLast_cons_of_ne_nil hargs, List.forall_mem_map, htokens] at hiff
  rw [hchars, htokens] at hle
  rw [parse_letter hmarker hcut hrest, htokens, ← hiff]
  simp only [List.map_cons, List.length_cons, List.length_map, Invocation.ofTokens] at hle ⊢
  omega

/-- In a text without quotation marks all entries but the last are whole. -/
theorem isWhole_of_arguments {text marker name : String} {args : List String}
    (hdraft : Draft.read text marker = .arguments name args) (hname : name ≠ "")
    (hquote : ∀ c ∈ text.toList, isQuote c = false) :
    ∀ entry ∈ name :: args.dropLast, IsWhole entry.toList := by
  obtain ⟨hfields, hargs⟩ := draftFields?_of_arguments hdraft
  intro entry hentry
  have hmem : entry ∈ name :: args := by
    rw [← List.dropLast_cons_of_ne_nil hargs] at hentry
    exact (List.dropLast_sublist _).subset hentry
  have hne := ne_empty_of_arguments hdraft hname entry hentry
  exact isWhole_of_plain (mt String.toList_eq_nil_iff.1 hne) (not_isBlank_of_mem_draftFields? hfields hmem)
    fun c hc => hquote c (mem_of_mem_draftFields? hfields hmem hc)

end Jotter.Line
