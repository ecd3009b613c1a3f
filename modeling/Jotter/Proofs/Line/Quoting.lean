import Mathlib.Data.List.Basic
import Jotter.Line
import Jotter.Proofs.Text.Margins
import Jotter.Settings.Configuration

/-! Quoting. Every token, whatever its characters, can be written on a line: each character stands in a
quotation of its own, between double quotation marks, or between single ones if it is a double one. The
main statement is that a line of quoted tokens, set apart by any white space, is read back as these
tokens, also if the marker is itself a quotation mark. -/

namespace Jotter.Line

open Text

/-! ### Writing -/

/-- A character in a quotation of its own. -/
def quoteChar (c : Char) : List Char :=
  if c = '"' then ['\x27', c, '\x27'] else ['"', c, '"']

def quoteChars (cs : List Char) : List Char :=
  cs.flatMap quoteChar

/-- A token as it is written on a line. -/
def quote (token : String) : String :=
  .ofList (quoteChars token.toList)

/-- Quoted tokens, each behind its gap. -/
def spacedChars (args : List (String × String)) : List Char :=
  args.flatMap fun arg => arg.1.toList ++ quoteChars arg.2.toList

def spaced (args : List (String × String)) : String :=
  .ofList (spacedChars args)

/-- The line of a name and its arguments, each behind its gap, between two margins. -/
def written (lead marker name : String) (args : List (String × String)) (trail : String) : String :=
  lead ++ (marker ++ (quote name ++ spaced args)) ++ trail

/-! ### Reading -/

/-- A quotation adds its character to the token, whatever the character is. -/
theorem scanTokens_quoteChar (held : List Char) (c : Char) (rest : List Char) :
    scanTokens none held (quoteChar c ++ rest) = scanTokens none (c :: held) rest := by
  by_cases hc : c = '"'
  · subst hc
    rfl
  · rw [quoteChar, if_neg hc]
    have hopen : isQuote '"' = true := rfl
    simp only [List.cons_append, List.nil_append, scanTokens, hopen, if_true, if_neg hc]

theorem scanTokens_quoteChars (held cs rest : List Char) :
    scanTokens none held (quoteChars cs ++ rest) = scanTokens none (cs.reverse ++ held) rest := by
  induction cs generalizing held with
  | nil => rfl
  | cons c cs ih =>
      rw [quoteChars, List.flatMap_cons, List.append_assoc, scanTokens_quoteChar, List.reverse_cons,
        List.append_assoc]
      exact ih (c :: held)

theorem not_isQuote_of_isBlank {c : Char} (hc : isBlank c = true) : isQuote c = false := by
  rw [isQuote, Bool.or_eq_false_iff]
  constructor
  · rw [beq_eq_false_iff_ne]
    rintro rfl
    cases hc
  · rw [beq_eq_false_iff_ne]
    rintro rfl
    cases hc

/-- White space before a token is passed over. -/
theorem scanTokens_blank {gap : List Char} (hgap : ∀ c ∈ gap, isBlank c = true) (rest : List Char) :
    scanTokens none [] (gap ++ rest) = scanTokens none [] rest := by
  induction gap with
  | nil => rfl
  | cons c gap ih =>
      have hc := hgap c List.mem_cons_self
      rw [List.cons_append, scanTokens, if_neg (by simp [not_isQuote_of_isBlank hc]), if_pos hc]
      exact ih fun d hd => hgap d (List.mem_cons_of_mem _ hd)

/-- White space after a token ends it. -/
theorem scanTokens_gap {held gap : List Char} (hheld : held ≠ []) (hne : gap ≠ [])
    (hgap : ∀ c ∈ gap, isBlank c = true) (rest : List Char) :
    scanTokens none held (gap ++ rest) = held.reverse :: scanTokens none [] rest := by
  cases gap with
  | nil => exact absurd rfl hne
  | cons c gap =>
      have hc := hgap c List.mem_cons_self
      rw [List.cons_append, scanTokens, if_neg (by simp [not_isQuote_of_isBlank hc]), if_pos hc,
        if_neg (by simpa using hheld)]
      rw [scanTokens_blank fun d hd => hgap d (List.mem_cons_of_mem _ hd)]

theorem countP_scanTokens_le (quote : Option Char) (held cs : List Char) :
    (scanTokens quote held cs).flatten.countP isQuote ≤ held.countP isQuote + cs.countP isQuote := by
  induction cs generalizing quote held with
  | nil =>
      rw [scanTokens.eq_def]
      dsimp only
      split <;> simp
  | cons c cs ih =>
      cases quote with
      | none =>
          rw [scanTokens, List.countP_cons]
          split
          · have hrest := ih (some c) held
            omega
          · rename_i hc
            split
            · have hrest := ih none []
              rw [List.countP_nil] at hrest
              split
              · omega
              · rw [List.flatten_cons, List.countP_append, List.countP_reverse]
                omega
            · have hrest := ih none (c :: held)
              rw [List.countP_cons, if_neg hc] at hrest
              omega
      | some quote =>
          rw [scanTokens, List.countP_cons]
          split
          · have hrest := ih none held
            omega
          · have hrest := ih (some quote) (c :: held)
            rw [List.countP_cons] at hrest
            omega

/-- The mark that opens a quotation is in no token. -/
theorem countP_scanTokens (held cs : List Char) :
    (scanTokens none held cs).flatten.countP isQuote ≤
      held.countP isQuote + (cs.countP isQuote - 1) := by
  induction cs generalizing held with
  | nil => exact countP_scanTokens_le none held []
  | cons c cs ih =>
      rw [scanTokens, List.countP_cons]
      split
      · rename_i hc
        have hrest := countP_scanTokens_le (some c) held cs
        omega
      · rename_i hc
        split
        · have hrest := ih []
          rw [List.countP_nil] at hrest
          split
          · omega
          · rw [List.flatten_cons, List.countP_append, List.countP_reverse]
            omega
        · have hrest := ih (c :: held)
          rw [List.countP_cons, if_neg hc] at hrest
          omega

/-- Arguments that can be written: none is empty, and white space stands before each. -/
def Writable (args : List (String × String)) : Prop :=
  ∀ arg ∈ args, isBlankText arg.1 = true ∧ arg.2 ≠ ""

theorem scanTokens_spaced {held : List Char} (hheld : held ≠ []) {args : List (String × String)}
    (hargs : Writable args) :
    scanTokens none held (spacedChars args) =
      held.reverse :: args.map fun arg => arg.2.toList := by
  -- the token before each gap is held until the gap ends it
  induction args generalizing held with
  | nil =>
      have hempty : held.isEmpty = false := by simpa using hheld
      simp [spacedChars, scanTokens, hempty]
  | cons arg args ih =>
      obtain ⟨hgap, harg⟩ := hargs arg List.mem_cons_self
      simp only [isBlankText, Bool.and_eq_true, Bool.not_eq_true', List.all_eq_true] at hgap
      have hne : arg.1.toList ≠ [] := by
        intro h
        rw [String.toList_eq_nil_iff.1 h] at hgap
        cases hgap.1
      have htoken : arg.2.toList.reverse ++ [] ≠ [] := by simpa using harg
      rw [spacedChars, List.flatMap_cons, List.append_assoc, scanTokens_gap hheld hne hgap.2,
        scanTokens_quoteChars, List.map_cons]
      have hrest := ih htoken fun other hother => hargs other (List.mem_cons_of_mem _ hother)
      rw [spacedChars] at hrest
      rw [hrest, List.append_nil, List.reverse_reverse]

/-! ### Margins -/

/-- A quotation ends in a quotation mark. -/
theorem getLast?_append_quoteChar (cs : List Char) (c : Char) :
    ∀ d ∈ (cs ++ quoteChar c).getLast?, isBlank d = false := by
  rw [quoteChar, List.getLast?_append]
  split
  · rintro d ⟨⟩
    rfl
  · rintro d ⟨⟩
    rfl

theorem getLast?_append_quoteChars (cs : List Char) {token : List Char} (htoken : token ≠ []) :
    ∀ d ∈ (cs ++ quoteChars token).getLast?, isBlank d = false := by
  obtain rfl | ⟨before, c, rfl⟩ := token.eq_nil_or_concat'
  · exact absurd rfl htoken
  · rw [quoteChars, List.flatMap_append, List.flatMap_singleton, ← List.append_assoc]
    exact getLast?_append_quoteChar _ c

/-- What is written after the marker does not end in white space. -/
theorem getLast?_written (cs : List Char) {name : String} (hname : name ≠ "")
    {args : List (String × String)} (hargs : Writable args) :
    ∀ d ∈ (cs ++ (quoteChars name.toList ++ spacedChars args)).getLast?, isBlank d = false := by
  obtain rfl | ⟨before, last, rfl⟩ := args.eq_nil_or_concat'
  · rw [spacedChars, List.flatMap_nil, List.append_nil]
    exact getLast?_append_quoteChars _ (by simpa using hname)
  · have hlast := (hargs last (by simp)).2
    rw [spacedChars, List.flatMap_append, List.flatMap_singleton]
    simp only [← List.append_assoc]
    exact getLast?_append_quoteChars _ (by simpa using hlast)

theorem body_written {lead marker name trail : String} {args : List (String × String)}
    (hmarker : Configuration.isMarker marker = true) (hname : name ≠ "") (hargs : Writable args)
    (hlead : ∀ c ∈ lead.toList, isBlank c = true) (htrail : ∀ c ∈ trail.toList, isBlank c = true) :
    body (written lead marker name args trail) marker = quote name ++ spaced args := by
  obtain ⟨c, hc, hblank⟩ := Configuration.exists_of_isMarker hmarker
  have hcore : (marker ++ (quote name ++ spaced args)).toList =
      marker.toList ++ (quoteChars name.toList ++ spacedChars args) := by
    simp [quote, spaced]
  have hhead : ∀ d ∈ (marker ++ (quote name ++ spaced args)).toList.head?, isBlank d = false := by
    rw [hcore, hc]
    rintro d ⟨⟩
    exact hblank
  have hlast : ∀ d ∈ (marker ++ (quote name ++ spaced args)).toList.getLast?, isBlank d = false := by
    rw [hcore]
    exact getLast?_written _ hname hargs
  have htrim : trim (written lead marker name args trail) = marker ++ (quote name ++ spaced args) := by
    apply String.toList_injective
    rw [toList_trim, written, String.toList_append, String.toList_append,
      trimChars_margins hlead htrail hhead hlast]
  rw [body, htrim, dropLead_append]

/-- A line of quoted tokens is read back as the tokens: any name and arguments that are not empty can
be written, set apart by any white space and with any margins. -/
theorem parse_written {lead marker name trail : String} {args : List (String × String)}
    (hmarker : Configuration.isMarker marker = true) (hname : name ≠ "")
    (hargs : ∀ arg ∈ args, isBlankText arg.1 = true ∧ arg.2 ≠ "")
    (hlead : ∀ c ∈ lead.toList, isBlank c = true) (htrail : ∀ c ∈ trail.toList, isBlank c = true) :
    parse (written lead marker name args trail) marker = ⟨name, args.map Prod.snd⟩ := by
  have hheld : name.toList.reverse ++ [] ≠ [] := by simpa using hname
  have htokens : scanTokens none [] (quote name ++ spaced args).toList =
      name.toList :: args.map fun arg => arg.2.toList := by
    rw [quote, spaced, String.toList_append, String.toList_ofList, String.toList_ofList,
      scanTokens_quoteChars, scanTokens_spaced hheld hargs, List.append_nil, List.reverse_reverse]
  rw [parse, body_written hmarker hname hargs hlead htrail, htokens]
  simp [Invocation.ofTokens, Function.comp_def]

/-- Tokens of quotation marks, of white space and of the marker itself, which is a quotation mark. -/
theorem parse_written_marks :
    written " " "\"" "'\"" [("\t", " "), ("  ", "\"'")] "\n" =
      " \"\"'\"'\"'\t\" \"  '\"'\"'\"\n" ∧
    parse (written " " "\"" "'\"" [("\t", " "), ("  ", "\"'")] "\n") "\"" =
      ⟨"'\"", [" ", "\"'"]⟩ :=
  ⟨by decide, parse_written (by decide) (by decide) (by decide) (List.all_eq_true.1 (by decide))
    (List.all_eq_true.1 (by decide))⟩

end Jotter.Line
