import Jotter.Proofs.Composer.Notes
import Jotter.Proofs.Line.Draft

/-! The doubled marker. A text of which a marker at the beginning is doubled is stored as it is, whatever
white space is typed around it; no command has a part in that. Apart from blank lines, the lines with one
marker at their beginning are run, and all others are stored. -/

namespace Jotter

open Text

/-! ### Writing a text as a line -/

namespace Line

/-- A text as it is typed to be stored. -/
def escape (text marker : String) : String :=
  if startsWith text marker then marker ++ text else text

variable {text marker : String}

theorem startsWith_of_doubled (htext : startsWith text (marker ++ marker) = true) :
    startsWith text marker = true := by
  rw [startsWith_iff, String.toList_append] at htext
  exact startsWith_iff.2 ((List.prefix_append _ _).trans htext)

/-- A line begins with the doubled marker iff its text began with one. -/
theorem startsWith_escape (text marker : String) :
    startsWith (escape text marker) (marker ++ marker) = startsWith text marker := by
  rw [escape]
  split
  · exact startsWith_append_append marker text marker
  · rename_i hmarked
    rw [Bool.not_eq_true] at hmarked
    rw [hmarked, ← Bool.not_eq_true]
    exact fun hdoubled => Bool.false_ne_true (hmarked.symm.trans (startsWith_of_doubled hdoubled))

/-- Without a doubled marker a line is its text. -/
theorem dropLead_escape (text marker : String) :
    (if startsWith text marker then dropLead (escape text marker) marker else escape text marker) =
      text := by
  rw [escape]
  split
  · exact dropLead_append marker text
  · rfl

theorem escape_ne_empty (htext : text ≠ "") : escape text marker ≠ "" := by
  rw [escape]
  split
  · exact fun hempty => htext (String.append_eq_empty_iff.1 hempty).2
  · exact htext

/-- Like its text, a line neither begins nor ends with white space. -/
theorem ends_escape (hmarker : Configuration.isMarker marker = true) (htrim : trim text = text) :
    (∀ c ∈ (escape text marker).toList.head?, isBlank c = false) ∧
      ∀ c ∈ (escape text marker).toList.getLast?, isBlank c = false := by
  obtain ⟨hhead, hlast⟩ := ends_trimChars text.toList
  rw [← toList_trim, htrim] at hhead hlast
  rw [escape]
  split
  · obtain ⟨c, hc, hblank⟩ := Configuration.exists_of_isMarker hmarker
    rw [String.toList_append, hc, List.singleton_append]
    refine ⟨fun d hd => Option.some.inj hd ▸ hblank, fun d hd => ?_⟩
    rw [List.getLast?_cons] at hd
    cases hend : text.toList.getLast? with
    | none =>
        rw [hend] at hd
        exact Option.some.inj hd ▸ hblank
    | some last =>
        rw [hend] at hd
        exact Option.some.inj hd ▸ hlast last hend
  · exact ⟨hhead, hlast⟩

variable {lead trail : String}

theorem trim_escape (hmarker : Configuration.isMarker marker = true) (htrim : trim text = text)
    (hlead : ∀ c ∈ lead.toList, isBlank c = true) (htrail : ∀ c ∈ trail.toList, isBlank c = true) :
    trim (lead ++ escape text marker ++ trail) = escape text marker := by
  obtain ⟨hhead, hlast⟩ := ends_escape hmarker htrim
  apply String.toList_injective
  rw [toList_trim, String.toList_append, String.toList_append,
    trimChars_margins hlead htrail hhead hlast]

/-- The note of such a line is the text. -/
theorem noteText_escape (hmarker : Configuration.isMarker marker = true) (htrim : trim text = text)
    (hlead : ∀ c ∈ lead.toList, isBlank c = true) (htrail : ∀ c ∈ trail.toList, isBlank c = true) :
    noteText (lead ++ escape text marker ++ trail) marker = text := by
  rw [noteText, trim_escape hmarker htrim hlead htrail, startsWith_escape]
  exact dropLead_escape text marker

/-- Such a line is no command: it begins with two markers or with none. -/
theorem isCommand_escape (hmarker : Configuration.isMarker marker = true) (htrim : trim text = text)
    (htext : text ≠ "") (hlead : ∀ c ∈ lead.toList, isBlank c = true) :
    isCommand (lead ++ escape text marker ++ trail) marker = false := by
  obtain ⟨hhead, -⟩ := ends_escape hmarker htrim
  have hne : (escape text marker).toList ≠ [] :=
    mt String.toList_eq_nil_iff.1 (escape_ne_empty htext)
  have hline : trimLeft (lead ++ escape text marker ++ trail) = escape text marker ++ trail := by
    apply String.toList_injective
    rw [toList_trimLeft, String.append_assoc, String.toList_append, trimLeftChars_append hlead,
      trimLeftChars_eq_self]
    rwa [String.toList_append, List.head?_append_of_ne_nil _ hne]
  rw [isCommand, hline, startsWith_append_right hmarker (escape_ne_empty htext)]
  cases hmarked : startsWith text marker with
  | true =>
      have hdoubled : startsWith (escape text marker ++ trail) (marker ++ marker) = true := by
        have hescape := startsWith_escape text marker
        have hprefix : (escape text marker).toList <+: (escape text marker ++ trail).toList := by
          rw [String.toList_append]
          exact List.prefix_append _ _
        rw [hmarked, startsWith_iff] at hescape
        exact startsWith_iff.2 (hescape.trans hprefix)
      rw [hdoubled, Bool.not_true, Bool.and_false]
  | false =>
      have hplain : startsWith (escape text marker) marker = false := by
        rw [escape, hmarked, if_neg Bool.false_ne_true, hmarked]
      rw [hplain, Bool.false_and]

end Line

/-! ### Submitting it -/

namespace Composer

variable {τ : Type} {room : Room τ} {before after : Composer τ} {line : String}

/-- The composer with other commands. -/
def withRegistry (composer : Composer τ) (registry : Registry (Hooks τ)) : Composer τ :=
  { composer with session := { composer.session with registry := registry } }

/-- A line that stores a text and does nothing else: the vault gets one note, the history gets nothing,
and with other commands the line comes to the same. -/
structure OnlyStores (room : Room τ) (before : Composer τ) (line text : String) : Prop where
  stored : ∃ note, ((submit room.services line).run.run before).1 = .ok (.note note) ∧
    note.content = text ∧
    (((submit room.services line).run.run before).2.vault room).notes =
      (before.vault room).notes ++ [note]
  history : ((submit room.services line).run.run before).2.session.history = before.session.history
  commands : ∀ registry, (submit room.services line).run.run (before.withRegistry registry) =
    (((submit room.services line).run.run before).1,
      ((submit room.services line).run.run before).2.withRegistry registry)

theorem onlyStores_of_text (hblank : (trim line).isEmpty = false)
    (hcommand : Line.isCommand line before.session.marker = false) :
    OnlyStores room before line (Line.noteText line before.session.marker) := by
  have hsubmit : (submit room.services line).run.run before = _ := submit_of_text hblank hcommand
  rcases hstored : before.session.stored room.services (Line.noteText line before.session.marker) with
    ⟨failure | note, session⟩
  · exact absurd hstored (Session.stored_ne_error _ _ _ _ _)
  · obtain ⟨hnote, hdesk, -⟩ := Session.desk_of_stored room.faithful_services hstored
    rw [hstored] at hsubmit
    obtain ⟨hanswer, rfl⟩ := Prod.mk.inj hstored
    refine ⟨⟨note, by rw [hsubmit], by rw [hnote]; rfl, ?_⟩, by rw [hsubmit], fun registry => ?_⟩
    · rw [hsubmit, vault, Room.vault, hdesk, hnote]
      rfl
    · -- the store is asked the same, whatever the commands are
      have hother : (submit room.services line).run.run (before.withRegistry registry) = _ :=
        submit_of_text hblank hcommand
      have hsame : (before.withRegistry registry).session.stored room.services
          (Line.noteText line (before.withRegistry registry).session.marker) =
            (.ok note, { before.session with
              registry := registry
              state := ((room.services.createNote before.session.context.vaultPath
                before.session.context.notebook
                (Line.noteText line before.session.marker)).run.run before.session.state).2 }) :=
        Prod.ext hanswer rfl
      rw [hother, hsame, hsubmit]
      rfl

theorem Running.ne_note {services : Services τ} {outcome : Except Failure Submission}
    (hrunning : Running services before line outcome after) (note : Note) :
    outcome ≠ .ok (.note note) := by
  cases hrunning <;> exact nofun

/-- The store of a desk takes every note, so that a line of text comes to one. -/
theorem Noting.eq_note {outcome : Except Failure Submission}
    (hnoting : Noting room.services before line outcome after) :
    ∃ note, outcome = .ok (.note note) := by
  cases hnoting with
  | stored => exact ⟨_, rfl⟩
  | unstored hstored => exact absurd hstored (Session.stored_ne_error _ _ _ _ _)

/-- Each line that is not blank goes one way: that of commands if it begins with one marker, else that of
text. -/
theorem running_iff_noting (hblank : (trim line).isEmpty = false) :
    let ended := (submit room.services line).run.run before
    (Running room.services before line ended.1 ended.2 ↔
        Line.isCommand line before.session.marker = true) ∧
      (Noting room.services before line ended.1 ended.2 ↔
        Line.isCommand line before.session.marker = false) := by
  intro ended
  have hexclusive : ¬ (Running room.services before line ended.1 ended.2 ∧
      Noting room.services before line ended.1 ended.2) := by
    rintro ⟨hrunning, hnoting⟩
    obtain ⟨note, hnote⟩ := hnoting.eq_note
    exact hrunning.ne_note note hnote
  have hcourse : Course room.services before line ended.1 ended.2 :=
    submit_course room.services line before
  generalize ended.1 = outcome, ended.2 = after at hexclusive hcourse ⊢
  cases hcourse with
  | blank hempty => exact absurd hempty (by rw [hblank]; exact Bool.false_ne_true)
  | text _ hcommand hnoting =>
      refine ⟨⟨fun hrunning => absurd ⟨hrunning, hnoting⟩ hexclusive, fun hline => ?_⟩,
        fun _ => hcommand, fun _ => hnoting⟩
      exact absurd (hcommand.symm.trans hline) Bool.false_ne_true
  | command _ hcommand hrunning =>
      refine ⟨⟨fun _ => hcommand, fun _ => hrunning⟩,
        fun hnoting => absurd ⟨hrunning, hnoting⟩ hexclusive, fun hline => ?_⟩
      exact absurd (hline.symm.trans hcommand) Bool.false_ne_true

/-- Any text can be stored: the line of a text without margins, with any white space around it, stores
exactly this text and runs nothing. A line that is not blank is run if it begins with one marker that is
not doubled, and it is stored if not, and it never is both. -/
theorem any_text_is_saved (room : Room τ) (before : Composer τ)
    (hmarker : Configuration.isMarker before.session.marker = true) :
    let marker := before.session.marker
    (∀ lead text trail : String, (∀ c ∈ lead.toList, isBlank c = true) →
      (∀ c ∈ trail.toList, isBlank c = true) → trim text = text → text ≠ "" →
        OnlyStores room before (lead ++ Line.escape text marker ++ trail) text) ∧
    ∀ line : String, (trim line).isEmpty = false →
      let ended := (submit room.services line).run.run before
      let marked := startsWith (trimLeft line) marker = true ∧
        startsWith (trimLeft line) (marker ++ marker) = false
      (Running room.services before line ended.1 ended.2 ↔ marked) ∧
        (Noting room.services before line ended.1 ended.2 ↔ ¬ marked) := by
  intro marker
  constructor
  · intro lead text trail hlead htrail htrim htext
    have hblank : (trim (lead ++ Line.escape text marker ++ trail)).isEmpty = false := by
      rw [Line.trim_escape hmarker htrim hlead htrail, Bool.eq_false_iff, ne_eq, String.isEmpty_iff]
      exact Line.escape_ne_empty htext
    have hstores : OnlyStores room before (lead ++ Line.escape text marker ++ trail) _ :=
      onlyStores_of_text hblank (Line.isCommand_escape hmarker htrim htext hlead)
    rwa [Line.noteText_escape hmarker htrim hlead htrail] at hstores
  · intro line hblank ended marked
    have hcommand : Line.isCommand line before.session.marker = true ↔ marked := by
      rw [Line.isCommand, Bool.and_eq_true, Bool.not_eq_true']
    have hways : (Running room.services before line ended.1 ended.2 ↔ _) ∧
        (Noting room.services before line ended.1 ended.2 ↔ _) := running_iff_noting hblank
    obtain ⟨hrunning, hnoting⟩ := hways
    exact ⟨hrunning.trans hcommand, hnoting.trans (by rw [← hcommand, Bool.not_eq_true])⟩

/-- A new composer with the built-in commands behind a marker. -/
def markedBy (marker : String) : Composer Desk where
  session :=
    { registry := Builtin.registry Desk.services marker
      history := ⟨50, [], 1⟩
      marker := marker
      context := {}
      state := ⟨{}, newYear⟩ }

/-- Two quotation marks and a letter are stored behind a third one, where the marker is a quotation
mark. -/
theorem quotation_marks_are_saved :
    let before := markedBy "\""
    let line := "\t\"\"\" a\n"
    let ended := (submit Room.own.services line).run.run before
    Configuration.isMarker before.session.marker = true ∧
      line = "\t" ++ Line.escape "\"\" a" "\"" ++ "\n" ∧ (trim line).isEmpty = false ∧
      OnlyStores .own before line "\"\" a" ∧ Noting Room.own.services before line ended.1 ended.2 := by
  intro before line ended
  have hmarker : Configuration.isMarker before.session.marker = true := by decide
  have hline : line = "\t" ++ Line.escape "\"\" a" "\"" ++ "\n" := by decide
  have hblank : (trim line).isEmpty = false := by decide
  obtain ⟨hsaved, hways⟩ := any_text_is_saved .own before hmarker
  have hstores := hsaved "\t" "\"\" a" "\n" (List.all_eq_true.1 (by decide))
    (List.all_eq_true.1 (by decide)) (by decide) (by decide)
  rw [show before.session.marker = "\"" from rfl, ← hline] at hstores
  exact ⟨hmarker, hline, hblank, hstores, (hways line hblank).2.2 (by decide)⟩

end Composer

end Jotter
