import Jotter.Proofs.Line.Quoting
import Jotter.Proofs.Text.Fields

/-! The two readings of a command line. A line that is a command is a margin, the marker and the rest.
While it is typed its entries are those of the rest; when it is run its tokens are the words of the rest,
as long as there is no quotation mark in it. So both readings agree on the name, and the tokens are the
entries that are not empty. -/

namespace Jotter

open Text

namespace Line

/-! ### The rest behind the marker -/

/-- A command line cut at its marker, which does not stand there twice. -/
structure Cut (text marker : String) (lead : List Char) (rest : String) : Prop where
  blank : ∀ c ∈ lead, isBlank c = true
  toList_eq : text.toList = lead ++ (marker.toList ++ rest.toList)
  trimLeft_eq : trimLeft text = marker ++ rest
  unmarked : startsWith rest marker = false

theorem startsWith_append_append (lead s other : String) :
    startsWith (lead ++ s) (lead ++ other) = startsWith s other := by
  rw [Bool.eq_iff_iff, startsWith_iff, startsWith_iff, String.toList_append, String.toList_append]
  exact List.prefix_append_right_inj _

/-- The first character decides whether a text begins with the marker. -/
theorem startsWith_append_right {text marker : String} (hmarker : Configuration.isMarker marker = true)
    (htext : text ≠ "") (rest : String) : startsWith (text ++ rest) marker = startsWith text marker := by
  obtain ⟨c, hc, -⟩ := Configuration.exists_of_isMarker hmarker
  obtain ⟨d, ds, hd⟩ := List.exists_cons_of_ne_nil (mt String.toList_eq_nil_iff.1 htext)
  rw [startsWith, startsWith, String.toList_append, hc, hd]
  simp [List.isPrefixOf]

/-- A margin, the marker and a rest that does not begin with it. -/
theorem cut_of_toList {text marker rest : String} {lead : List Char}
    (hmarker : Configuration.isMarker marker = true) (hlead : ∀ c ∈ lead, isBlank c = true)
    (htext : text.toList = lead ++ (marker.toList ++ rest.toList))
    (hrest : startsWith rest marker = false) : Cut text marker lead rest := by
  refine ⟨hlead, htext, String.toList_injective ?_, hrest⟩
  obtain ⟨d, hd, hblank⟩ := Configuration.exists_of_isMarker hmarker
  rw [toList_trimLeft, htext, trimLeftChars_append hlead, trimLeftChars_eq_self, String.toList_append]
  rw [hd]
  rintro e ⟨⟩
  exact hblank

theorem isCommand_iff {text marker : String} :
    isCommand text marker = true ↔ ∃ lead rest, Cut text marker lead rest := by
  simp only [isCommand, Bool.and_eq_true, Bool.not_eq_true']
  constructor
  · rintro ⟨hmarked, hescaped⟩
    obtain ⟨lead, hlead, htext⟩ := exists_margin text
    have hsplit := append_dropLead hmarked
    rw [← hsplit, startsWith_append_append] at hescaped
    rw [← hsplit, String.toList_append] at htext
    exact ⟨lead, _, hlead, htext, hsplit.symm, hescaped⟩
  · rintro ⟨lead, rest, hcut⟩
    rw [hcut.trimLeft_eq, startsWith_append_append]
    exact ⟨startsWith_append marker rest, hcut.unmarked⟩

theorem draftFields?_eq_some {text marker : String} {entries : List String} :
    draftFields? text marker = some entries ↔
      ∃ lead rest, Cut text marker lead rest ∧ entries = fields rest := by
  rw [draftFields?]
  constructor
  · intro hentries
    split at hentries
    · rename_i hcommand
      obtain ⟨lead, rest, hcut⟩ := isCommand_iff.1 hcommand
      rw [hcut.trimLeft_eq, dropLead_append] at hentries
      exact ⟨lead, rest, hcut, (Option.some.inj hentries).symm⟩
    · cases hentries
  · rintro ⟨lead, rest, hcut, rfl⟩
    rw [if_pos (isCommand_iff.2 ⟨lead, rest, hcut⟩), hcut.trimLeft_eq, dropLead_append]

namespace Cut

variable {text marker rest : String} {lead : List Char}

/-- A line that is run is cut at the same place; only its other margin is gone. -/
theorem toList_body (hcut : Cut text marker lead rest)
    (hmarker : ∀ c ∈ marker.toList, isBlank c = false) :
    (body text marker).toList = trimRightChars rest.toList := by
  have htrim : trim text = marker ++ trimRight rest := by
    apply String.toList_injective
    rw [toList_trim, trimChars, ← toList_trimLeft, hcut.trimLeft_eq, String.toList_append,
      trimRightChars_append_left hmarker, String.toList_append, toList_trimRight]
  rw [body, htrim, dropLead_append, toList_trimRight]

end Cut

/-! ### Tokens without quotation marks -/

theorem scanTokens_token {token : List Char} (hquote : ∀ c ∈ token, isQuote c = false)
    (hblank : ∀ c ∈ token, isBlank c = false) (held rest : List Char) :
    scanTokens none held (token ++ rest) = scanTokens none (token.reverse ++ held) rest := by
  induction token generalizing held with
  | nil => rfl
  | cons c token ih =>
      rw [List.cons_append, scanTokens, if_neg (by simp [hquote c List.mem_cons_self]),
        if_neg (by simp [hblank c List.mem_cons_self]), List.reverse_cons, List.append_assoc]
      exact ih (fun d hd => hquote d (List.mem_cons_of_mem _ hd))
        (fun d hd => hblank d (List.mem_cons_of_mem _ hd)) (c :: held)

/-- White space ends the token before it, if there is one. -/
theorem scanTokens_field {field gap : List Char} (hquote : ∀ c ∈ field, isQuote c = false)
    (hfield : ∀ c ∈ field, isBlank c = false) (hne : gap ≠ []) (hgap : ∀ c ∈ gap, isBlank c = true)
    (rest : List Char) :
    scanTokens none [] (field ++ (gap ++ rest)) = wordsChars field ++ scanTokens none [] rest := by
  rw [scanTokens_token hquote hfield, List.append_nil]
  cases field with
  | nil => exact scanTokens_blank hgap rest
  | cons c field =>
      rw [scanTokens_gap (by simp) hne hgap, List.reverse_reverse,
        wordsChars_eq_singleton hfield (List.cons_ne_nil _ _)]
      rfl

/-- Without quotation marks the tokens are the words. -/
theorem scanTokens_eq_words {cs : List Char} (hquote : ∀ c ∈ cs, isQuote c = false) :
    scanTokens none [] cs = wordsChars cs := by
  induction cs using cutInduction with
  | field cs hcs =>
      have htoken := scanTokens_token hquote hcs [] []
      rw [List.append_nil, List.append_nil] at htoken
      rw [htoken, wordsChars, fieldsChars_eq_singleton hcs]
      cases cs <;> simp [scanTokens]
  | gap field gap rest hfield hne hgap hrest ih =>
      rw [List.forall_mem_append, List.forall_mem_append] at hquote
      rw [scanTokens_field hquote.1 hfield hne hgap, wordsChars_append hfield hne hgap, ih hquote.2.2]

/-- A text without quotation marks that ends with white space leaves no token open. -/
theorem scanTokens_append {cs : List Char} (hquote : ∀ c ∈ cs, isQuote c = false)
    (hend : ∀ c ∈ cs.getLast?, isBlank c = true) (rest : List Char) :
    scanTokens none [] (cs ++ rest) = wordsChars cs ++ scanTokens none [] rest := by
  induction cs using cutInduction with
  | field cs hcs =>
      cases hlast : cs.getLast? with
      | none =>
          rw [List.getLast?_eq_none_iff.1 hlast]
          rfl
      | some c => exact absurd (hend c hlast) (by simp [hcs c (List.mem_of_getLast? hlast)])
  | gap field gap others hfield hne hgap hothers ih =>
      rw [List.forall_mem_append, List.forall_mem_append] at hquote
      have hlast : ∀ c ∈ others.getLast?, isBlank c = true := by
        intro c hc
        apply hend c
        rw [List.getLast?_append, List.getLast?_append, Option.mem_def.1 hc]
        rfl
      rw [List.append_assoc, List.append_assoc, scanTokens_field hquote.1 hfield hne hgap,
        ih hquote.2.2 hlast, wordsChars_append hfield hne hgap, List.append_assoc]

/-- A line without quotation marks behind its marker has the words of the rest for its tokens. -/
theorem Cut.parse_eq {text marker rest : String} {lead : List Char} (hcut : Cut text marker lead rest)
    (hmarker : ∀ c ∈ marker.toList, isBlank c = false)
    (hquote : ∀ c ∈ rest.toList, isQuote c = false) :
    parse text marker = .ofTokens (words rest) := by
  have htrimmed : ∀ c ∈ trimRightChars rest.toList, isQuote c = false :=
    fun c hc => hquote c ((List.rdropWhile_prefix isBlank _).subset hc)
  rw [parse, hcut.toList_body hmarker, scanTokens_eq_words htrimmed, wordsChars_trimRightChars, words]

/-! ### The entries -/

theorem tokens_ofTokens {tokens : List String} (htokens : ∀ token ∈ tokens, token ≠ "") :
    (Invocation.ofTokens tokens).tokens = tokens := by
  cases tokens with
  | nil => rfl
  | cons name args =>
      have hname : name.isEmpty = false := by simpa using htokens name List.mem_cons_self
      rw [Invocation.ofTokens, Invocation.tokens, Invocation.isEmpty, hname,
        if_neg Bool.false_ne_true]

/-- While a command line is typed, its entries are what stands between white space behind the marker:
no entry holds white space, and only the first and the last can be empty, which each of them is iff that
edge of the rest is blank. Without quotation marks in the rest, the tokens of the line when it is run are
its entries, but for the empty ones. -/
theorem tokens_eq_entries {text marker : String} (hmarker : ∀ c ∈ marker.toList, isBlank c = false)
    (hcommand : isCommand text marker = true) :
    let rest := dropLead (trimLeft text) marker
    ∃ entries, draftFields? text marker = some entries ∧
      ((∀ c ∈ rest.toList, isQuote c = false) →
        (parse text marker).tokens = entries.filter (· ≠ "")) ∧
      (∀ entry ∈ entries, ∀ c ∈ entry.toList, isBlank c = false) ∧
      (∀ entry ∈ entries.tail.dropLast, entry ≠ "") ∧
      (entries.getLast? = some "" ↔ rest = "" ∨ ∃ c ∈ rest.toList.getLast?, isBlank c = true) ∧
      (entries.head? = some "" ↔ rest = "" ∨ ∃ c ∈ rest.toList.head?, isBlank c = true) := by
  intro rest
  obtain ⟨lead, behind, hcut⟩ := isCommand_iff.1 hcommand
  have hrest : rest = behind := by
    change dropLead (trimLeft text) marker = behind
    rw [hcut.trimLeft_eq, dropLead_append]
  have hempty : rest = "" ↔ rest.toList = [] := String.toList_eq_nil_iff.symm
  refine ⟨fields rest, draftFields?_eq_some.2 ⟨lead, behind, hcut, by rw [hrest]⟩, ?_, ?_, ?_, ?_, ?_⟩
  · intro hquote
    rw [hcut.parse_eq hmarker (hrest ▸ hquote), ← hrest, words_eq_filter_fields]
    exact tokens_ofTokens fun token htoken => by simpa using (List.mem_filter.1 htoken).2
  · intro entry hentry c hc
    obtain ⟨field, hfield, rfl⟩ := List.mem_map.1 hentry
    exact isBlank_of_mem_fieldsChars hfield (by simpa using hc)
  · intro entry hentry
    rw [fields, ← List.map_tail, ← List.map_dropLast] at hentry
    obtain ⟨field, hfield, rfl⟩ := List.mem_map.1 hentry
    simpa using ne_nil_of_mem_inner_fieldsChars hfield
  · rw [hempty, ← getLast?_fieldsChars_eq_nil, fields, List.getLast?_map, Option.map_eq_some_iff]
    simp
  · rw [hempty, ← head?_fieldsChars_eq_nil, fields, List.head?_map, Option.map_eq_some_iff]
    simp

/-- A marker of two characters, with white space of two scripts at both edges of the rest. -/
theorem tokens_eq_entries_tag :
    let text := "\t::\u3000tag  a\u00a0b "
    (∀ c ∈ "::".toList, isBlank c = false) ∧ isCommand text "::" = true ∧
      draftFields? text "::" = some ["", "tag", "a", "b", ""] ∧
      (∀ c ∈ (dropLead (trimLeft text) "::").toList, isQuote c = false) ∧
      (parse text "::").tokens = ["tag", "a", "b"] := by
  intro text
  have hmarker : ∀ c ∈ "::".toList, isBlank c = false :=
    fun c hc => Bool.eq_false_iff.2 (List.any_eq_false.1 (by decide) c hc)
  have hcommand : isCommand text "::" = true := by decide
  have hquote : ∀ c ∈ (dropLead (trimLeft text) "::").toList, isQuote c = false :=
    fun c hc => Bool.eq_false_iff.2 (List.any_eq_false.1 (by decide) c hc)
  have hentries : draftFields? text "::" = some ["", "tag", "a", "b", ""] := by decide
  obtain ⟨entries, hfields, htokens, -⟩ := tokens_eq_entries hmarker hcommand
  obtain rfl : ["", "tag", "a", "b", ""] = entries := Option.some.inj (hentries.symm.trans hfields)
  exact ⟨hmarker, hcommand, hentries, hquote, htokens hquote⟩

/-! ### The name -/

/-- The name in a line that is being typed: it holds no white space and no marker, and it is the name
of the line when it is run. -/
theorem name_of_draftFields? {text marker name : String} {args : List String}
    (hmarker : Configuration.isMarker marker = true)
    (hfields : draftFields? text marker = some (name :: args)) :
    (∀ c ∈ name.toList, isBlank c = false) ∧ startsWith name marker = false ∧
      ((∀ c ∈ text.toList, isQuote c = false) → name ≠ "" → (parse text marker).name = name) := by
  obtain ⟨lead, rest, hcut, hentries⟩ := draftFields?_eq_some.1 hfields
  have hhead : name.toList = rest.toList.takeWhile (!isBlank ·) := by
    have hfirst := congrArg List.head? hentries
    rw [fields, List.head?_map, head?_fieldsChars] at hfirst
    rw [Option.some.inj hfirst, String.toList_ofList]
  refine ⟨?_, ?_, ?_⟩
  · intro c hc
    rw [hhead] at hc
    simpa using List.mem_takeWhile_imp hc
  · rw [← Bool.not_eq_true, startsWith_iff]
    intro hmarked
    have hprefix : name.toList <+: rest.toList := hhead ▸ List.takeWhile_prefix _
    have hunmarked := hcut.unmarked
    rw [← Bool.not_eq_true, startsWith_iff] at hunmarked
    exact hunmarked (hmarked.trans hprefix)
  · intro hquote hname
    have hrest : ∀ c ∈ rest.toList, isQuote c = false :=
      fun c hc => hquote c (by simp [hcut.toList_eq, hc])
    rw [hcut.parse_eq (Configuration.not_isBlank_of_isMarker hmarker) hrest, words_eq_filter_fields,
      ← hentries, List.filter_cons_of_pos (by simpa using hname)]
    rfl

/-! ### The last entry -/

theorem toList_mem_fieldsChars {s entry : String} (hentry : entry ∈ fields s) :
    entry.toList ∈ fieldsChars s.toList := by
  rw [← map_toList_fields]
  exact List.mem_map_of_mem hentry

/-- The entries of a line consist of characters of it. -/
theorem mem_of_mem_draftFields? {text marker : String} {entries : List String}
    (hfields : draftFields? text marker = some entries) {entry : String} (hentry : entry ∈ entries)
    {c : Char} (hc : c ∈ entry.toList) : c ∈ text.toList := by
  obtain ⟨lead, rest, hcut, rfl⟩ := draftFields?_eq_some.1 hfields
  have hfield := toList_mem_fieldsChars hentry
  rw [hcut.toList_eq, List.mem_append, List.mem_append]
  exact .inr (.inr (mem_of_mem_fieldsChars hfield hc))

theorem draftFields?_of_name {text marker lead : String}
    (hdraft : Draft.read text marker = .name lead) : draftFields? text marker = some [lead] := by
  revert hdraft
  rw [Draft.read]
  match draftFields? text marker with
  | none => exact nofun
  | some [] => exact nofun
  | some [entry] =>
      intro hdraft
      rw [Draft.name.inj hdraft]
  | some (_ :: _ :: _) => exact nofun

theorem draftFields?_of_arguments {text marker name : String} {args : List String}
    (hdraft : Draft.read text marker = .arguments name args) :
    draftFields? text marker = some (name :: args) ∧ args ≠ [] := by
  revert hdraft
  rw [Draft.read]
  match draftFields? text marker with
  | none => exact nofun
  | some [] => exact nofun
  | some [_] => exact nofun
  | some (_ :: _ :: _) =>
      intro hdraft
      obtain ⟨rfl, rfl⟩ := Draft.arguments.inj hdraft
      exact ⟨rfl, List.cons_ne_nil _ _⟩

/-- While the name is being typed, it stands at the end behind the marker. -/
theorem toList_of_name {text marker lead : String} (hdraft : Draft.read text marker = .name lead) :
    ∃ margin : List Char, (∀ c ∈ margin, isBlank c = true) ∧
      text.toList = margin ++ (marker ++ lead).toList := by
  obtain ⟨margin, rest, hcut, hentries⟩ := draftFields?_eq_some.1 (draftFields?_of_name hdraft)
  have hlead : rest.toList = lead.toList := by
    apply eq_of_fieldsChars_eq_singleton
    rw [← map_toList_fields, ← hentries]
    rfl
  exact ⟨margin, hcut.blank, by rw [hcut.toList_eq, String.toList_append, hlead]⟩

/-- With more than one entry an argument is being typed. -/
theorem read_of_draftFields? {text marker name : String} {args : List String} (hargs : args ≠ [])
    (hfields : draftFields? text marker = some (name :: args)) :
    Draft.read text marker = .arguments name args := by
  obtain ⟨arg, args, rfl⟩ := List.exists_cons_of_ne_nil hargs
  rw [Draft.read, hfields]
  rfl

theorem dropLast_append_current {args : List String} (hargs : args ≠ []) :
    args.dropLast ++ [Draft.current args] = args := by
  rw [Draft.current, List.getLastD_eq_getLast?, List.getLast?_eq_some_getLast hargs, Option.getD_some,
    List.dropLast_concat_getLast]

/-- The argument being typed stands at the end of the rest. -/
theorem rtakeWhile_of_fields {rest name : String} {args : List String} (hargs : args ≠ [])
    (hentries : name :: args = fields rest) :
    rest.toList.rtakeWhile (!isBlank ·) = (Draft.current args).toList := by
  have hlast := getLast?_fieldsChars rest.toList
  rw [← map_toList_fields, ← hentries, ← dropLast_append_current hargs, ← List.cons_append,
    List.map_append, List.map_singleton, List.getLast?_concat] at hlast
  exact (Option.some.inj hlast).symm

/-- The argument being typed stands at the end behind white space. -/
theorem rtakeWhile_of_arguments {text marker name : String} {args : List String}
    (hdraft : Draft.read text marker = .arguments name args) :
    text.toList.rtakeWhile (!isBlank ·) = (Draft.current args).toList := by
  obtain ⟨hfields, hargs⟩ := draftFields?_of_arguments hdraft
  obtain ⟨margin, rest, hcut, hentries⟩ := draftFields?_eq_some.1 hfields
  have hchars : fieldsChars rest.toList = name.toList :: args.map String.toList := by
    rw [← map_toList_fields, ← hentries, List.map_cons]
  -- the last entry is the end of the text too, since white space stands before it
  rw [hcut.toList_eq, ← List.append_assoc,
    rtakeWhile_append_of_fieldsChars hchars (by simpa using hargs), rtakeWhile_of_fields hargs hentries]

theorem current_mem {args : List String} (hargs : args ≠ []) : Draft.current args ∈ args := by
  have hmem := List.mem_append_right args.dropLast (List.mem_singleton_self (Draft.current args))
  rwa [dropLast_append_current hargs] at hmem

/-- Behind a name that is not empty only the last entry can be empty. -/
theorem ne_empty_of_arguments {text marker name : String} {args : List String}
    (hdraft : Draft.read text marker = .arguments name args) (hname : name ≠ "") :
    ∀ entry ∈ name :: args.dropLast, entry ≠ "" := by
  obtain ⟨hfields, -⟩ := draftFields?_of_arguments hdraft
  obtain ⟨-, rest, -, hentries⟩ := draftFields?_eq_some.1 hfields
  have hchars := map_toList_fields rest
  rw [← hentries, List.map_cons] at hchars
  have hinner : ∀ field ∈ (fieldsChars rest.toList).tail.dropLast, field ≠ [] :=
    fun _ => ne_nil_of_mem_inner_fieldsChars
  rw [← hchars, List.tail_cons, ← List.map_dropLast, List.forall_mem_map] at hinner
  refine List.forall_mem_cons.2 ⟨hname, fun entry hentry => ?_⟩
  exact mt String.toList_eq_nil_iff.2 (hinner entry hentry)

theorem not_isBlank_of_mem_draftFields? {text marker : String} {entries : List String}
    (hfields : draftFields? text marker = some entries) {entry : String} (hentry : entry ∈ entries) :
    ∀ c ∈ entry.toList, isBlank c = false := by
  obtain ⟨-, rest, -, rfl⟩ := draftFields?_eq_some.1 hfields
  have hfield := toList_mem_fieldsChars hentry
  exact fun c => isBlank_of_mem_fieldsChars hfield

/-- If the first and the last entry of a line are not empty, all of them are words. -/
theorem isWord_of_arguments {text marker name : String} {args : List String}
    (hdraft : Draft.read text marker = .arguments name args) (hname : name ≠ "")
    (hcurrent : Draft.current args ≠ "") : ∀ entry ∈ name :: args, IsWord entry.toList := by
  obtain ⟨hfields, hargs⟩ := draftFields?_of_arguments hdraft
  have hne : ∀ entry ∈ name :: args, entry ≠ "" := by
    rw [← dropLast_append_current hargs, ← List.cons_append, List.forall_mem_append]
    exact ⟨ne_empty_of_arguments hdraft hname, List.forall_mem_singleton.2 hcurrent⟩
  exact fun entry hentry => ⟨mt String.toList_eq_nil_iff.1 (hne entry hentry),
    not_isBlank_of_mem_draftFields? hfields hentry⟩

/-- The rest of a line whose argument is being typed is cut before it: what stands before begins with no
white space but ends with it, and its words are the name and the arguments that are complete. -/
theorem exists_cut_of_arguments {text marker name : String} {args : List String}
    (hdraft : Draft.read text marker = .arguments name args) (hname : name ≠ "")
    (hcurrent : Draft.current args ≠ "") :
    ∃ lead rest kept c, Cut text marker lead rest ∧
      rest.toList = kept ++ c :: (Draft.current args).toList ∧
        (∀ d ∈ rest.toList.head?, isBlank d = false) ∧ isBlank c = true ∧
          wordsChars kept = (name :: args.dropLast).map String.toList := by
  have hwords := isWord_of_arguments hdraft hname hcurrent
  obtain ⟨hfields, hargs⟩ := draftFields?_of_arguments hdraft
  obtain ⟨lead, rest, hcut, hentries⟩ := draftFields?_eq_some.1 hfields
  have hchars : fieldsChars rest.toList =
      (name :: args.dropLast).map String.toList ++ [(Draft.current args).toList] := by
    rw [← map_toList_fields, ← hentries, ← List.map_singleton, ← List.map_append, List.cons_append,
      dropLast_append_current hargs]
  have hhead : ∀ d ∈ rest.toList.head?, isBlank d = false := by
    intro d hd
    by_contra hblank
    have hempty := (head?_fieldsChars_eq_nil rest.toList).2 (.inr ⟨d, hd, by simpa using hblank⟩)
    rw [hchars] at hempty
    exact hname (by simpa using hempty)
  have hlast := rtakeWhile_of_fields hargs hentries
  have hsplit : rest.toList.rdropWhile (!isBlank ·) ++ (Draft.current args).toList = rest.toList := by
    rw [← hlast]
    exact List.rdropWhile_append_rtakeWhile
  obtain ⟨hcurrentNe, hcurrentBlank⟩ : IsWord (Draft.current args).toList :=
    hwords _ (List.mem_cons_of_mem _ (current_mem hargs))
  -- the rest is more than one entry, so that white space stands before the last one
  have hne : rest.toList.rdropWhile (!isBlank ·) ≠ [] := by
    intro hnone
    rw [hnone, List.nil_append] at hsplit
    rw [← hsplit, fieldsChars_eq_singleton hcurrentBlank] at hchars
    simp at hchars
  obtain ⟨kept, c, hkept⟩ := (List.eq_nil_or_concat' _).resolve_left hne
  have hblank : isBlank c = true := by
    have hnot := List.rdropWhile_last_not (!isBlank ·) rest.toList hne
    simpa [hkept] using hnot
  rw [hkept, List.append_assoc, List.singleton_append] at hsplit
  refine ⟨lead, rest, kept, c, hcut, hsplit.symm, hhead, hblank, ?_⟩
  have happend := wordsChars_append_cons hblank kept (Draft.current args).toList
  have hall : wordsChars rest.toList = fieldsChars rest.toList := by
    rw [wordsChars, List.filter_eq_self, ← map_toList_fields, ← hentries, List.forall_mem_map]
    exact fun entry hentry => by simpa using (hwords entry hentry).1
  rw [hsplit, hall, hchars, wordsChars_eq_singleton hcurrentBlank hcurrentNe] at happend
  exact (List.append_cancel_right happend).symm

end Line

end Jotter
