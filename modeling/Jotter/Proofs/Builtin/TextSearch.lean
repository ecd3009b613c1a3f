import Jotter.Proofs.Builtin.Desk
import Jotter.Proofs.Text.Sigma

/-! The search for a text. The query and the notes are both put in lower case before they are compared. A
note that holds the query as it is written is found, unless a capital sigma of the query ends a word in one
of them and not in the other. -/

namespace Jotter

open Text

namespace Vault

/-! ### The notes found -/

theorem mem_notesWithText {vault : Vault} {query : String} {note : Note} :
    note ∈ vault.notesWithText query ↔
      note ∈ vault.notes ∧ occursIn (lower query) (lower note.content) = true := by
  rw [notesWithText, List.mem_filter]

/-- The notes that are found come in the order in which they were made, each once. -/
theorem notesWithText_numbered (changes : List Change) (query : String) :
    let vault := ({} : Vault).run changes
    (vault.notesWithText query).Sublist vault.notes ∧
      ∃ numbers : List Nat, numbers.Pairwise (· < ·) ∧
        (vault.notesWithText query).map (·.id) = numbers.map noteId := by
  intro vault
  have hsublist : (vault.notesWithText query).Sublist vault.notes := List.filter_sublist
  obtain ⟨notes, reminders, hgrown, -⟩ := ({} : Vault).grown_run changes
  obtain ⟨numbers, _, hnumbered⟩ := hgrown.numbered
  have hnotes : vault.notes = notes := by rw [hgrown.notes_eq, List.nil_append]
  have hids := hsublist.map (·.id)
  rw [hnotes, hnumbered.notes_eq, List.sublist_map_iff] at hids
  obtain ⟨foundNumbers, hfound, hmap⟩ := hids
  exact ⟨hsublist, foundNumbers, hnumbered.notes_lt.sublist hfound, hmap⟩

/-- Notes that hold the query where it keeps its sigmas are among those found. -/
theorem sublist_notesWithText {vault : Vault} {query : String} {literal : List Note}
    (hliteral : literal.Sublist vault.notes) (hkept : ∀ note ∈ literal, OccursKept query note.content) :
    literal.Sublist (vault.notesWithText query) := by
  have hall : (literal.filter fun note => occursIn (lower query) (lower note.content)) = literal :=
    List.filter_eq_self.2 fun note hnote => (hkept note hnote).occursIn_lower
  rw [← hall]
  exact hliteral.filter _

/-- A search finds each note that holds the query, whatever the notes are, iff the query settles its
sigmas. -/
theorem finds_all_iff {query : String} :
    (∀ changes : List Change, let vault := ({} : Vault).run changes
      ∀ note ∈ vault.notes, occursIn query note.content = true → note ∈ vault.notesWithText query) ↔
      SettlesSigmas query := by
  rw [settlesSigmas_iff]
  constructor
  · intro hfinds content hoccurs
    have hnote := hfinds [.note ⟨0, none, by decide⟩ .null content] _ List.mem_cons_self hoccurs
    exact (mem_notesWithText.1 hnote).2
  · intro hsettles changes vault note hnote hoccurs
    exact mem_notesWithText.2 ⟨hnote, hsettles _ hoccurs⟩

end Vault

namespace Builtin

/-! ### The command -/

/-- Arguments that are not a single one with a number sign before it ask for the text that they make. -/
theorem ofArguments_text {args : List String}
    (hargs : ∀ arg, args = [arg] → startsWith arg "#" = true → arg.length ≤ 1) :
    SearchQuery.ofArguments args = .text (" ".intercalate args) := by
  match args with
  | [] => rfl
  | [arg] =>
      rw [SearchQuery.ofArguments, if_neg, String.intercalate_singleton]
      intro htag
      rw [Bool.and_eq_true, decide_eq_true_eq] at htag
      exact Nat.not_lt.2 (hargs arg rfl htag.1) htag.2
  | _ :: _ :: _ => rfl

/-- What is told of notes that were found. -/
theorem searchMessage_of_ne_zero {count : Nat} (hcount : count ≠ 0) (query : String) :
    searchMessage count query = "Found " ++ toString count ++ " note(s) matching \"" ++ query ++ "\"" :=
  if_neg hcount

/-- Whatever calls have changed a vault, a search for a text finds notes in the order in which they were
made, each once, and among them are all that hold the text at a place where each capital sigma of it ends a
word iff it does in the text alone. Whatever is stored, all notes that hold the text are found iff nothing
that stands around the text can change the form of one of its sigmas. If notes hold it in that way, then
the command, called with arguments that make the text and are not a single one with a number sign before
it, tells at least as many. -/
theorem literal_text_is_found (query : String) :
    (∀ (changes : List Vault.Change) (now : Moment) (path : Option String),
      let desk : Desk := ⟨({} : Vault).run changes, now⟩
      ∃ found, (Desk.services.searchNotes path query).run.run desk = (.ok found, desk) ∧
        found.Sublist desk.vault.notes ∧ (found.map (·.id)).Nodup ∧
        (∃ numbers : List Nat, numbers.Pairwise (· < ·) ∧ found.map (·.id) = numbers.map Vault.noteId) ∧
        ∀ note ∈ desk.vault.notes, OccursKept query note.content → note ∈ found) ∧
    ((∀ (changes : List Vault.Change) (now : Moment) (path : Option String),
      let desk : Desk := ⟨({} : Vault).run changes, now⟩
      ∃ found, (Desk.services.searchNotes path query).run.run desk = (.ok found, desk) ∧
        ∀ note ∈ desk.vault.notes, occursIn query note.content = true → note ∈ found) ↔
      SettlesSigmas query) ∧
    ∀ args, " ".intercalate args = query →
      (∀ arg, args = [arg] → startsWith arg "#" = true → arg.length ≤ 1) →
      ∀ changes : List Vault.Change,
        let vault := ({} : Vault).run changes
        let count := (vault.notesWithText query).length
        let told : Result :=
          { success := true
            message := some ("Found " ++ toString count ++ " note(s) matching \"" ++ query ++ "\"")
            clearInput := true }
        ∀ literal, literal.Sublist vault.notes → literal ≠ [] →
          (∀ note ∈ literal, OccursKept query note.content) →
          literal.length ≤ count ∧
          (∀ (marker : String) (scene : Scene Desk), scene.state.vault = vault →
            ((search Desk.services marker).hooks.execute args).run.run scene = (.ok told, scene)) ∧
          ∀ (session : Session Desk) (marker raw name : String),
            session.registry = registry Desk.services marker → session.marker = marker →
            session.state.vault = vault → Line.parse raw marker = ⟨name, args⟩ →
            Registry.normalize name defaultMarker ∈ ["search", "find", "s"] → args ≠ [] →
            ((Session.execute raw).run.run session).1 = .ok told := by
  have hsearch (path : Option String) (desk : Desk) :
      (Desk.services.searchNotes path query).run.run desk = (.ok (desk.vault.notesWithText query), desk) :=
    rfl
  refine ⟨fun changes now path => ?_, ?_, ?_⟩
  · intro desk
    obtain ⟨hsublist, numbers, hnumbers, hids⟩ := Vault.notesWithText_numbered changes query
    refine ⟨_, hsearch path desk, hsublist, ?_, ⟨numbers, hnumbers, hids⟩, fun note hnote hkept => ?_⟩
    · rw [hids]
      exact (hnumbers.imp Nat.ne_of_lt).map _ fun _ _ h => Vault.noteId_injective.ne h
    · exact Vault.mem_notesWithText.2 ⟨hnote, hkept.occursIn_lower⟩
  · rw [← Vault.finds_all_iff]
    constructor
    · intro hfinds changes vault note hnote hoccurs
      obtain ⟨found, hrun, hall⟩ := hfinds changes ⟨0, none, by decide⟩ none
      rw [hsearch] at hrun
      obtain rfl := Except.ok.inj (congrArg Prod.fst hrun)
      exact hall note hnote hoccurs
    · exact fun hfinds changes now path => ⟨_, hsearch path _, hfinds changes⟩
  · rintro args rfl hargs changes vault count told literal hliteral hne hkept
    have hcount : literal.length ≤ count := (Vault.sublist_notesWithText hliteral hkept).length_le
    have hpositive : count ≠ 0 := by
      have hlength := List.length_pos_iff.2 hne
      omega
    have hfound : found vault args = vault.notesWithText (" ".intercalate args) := by
      rw [found, ofArguments_text hargs]
    have htold : told =
        { success := true
          message := some (searchMessage (found vault args).length (" ".intercalate args))
          clearInput := true } := by
      rw [hfound, searchMessage_of_ne_zero hpositive]
    refine ⟨hcount, fun marker scene hvault => ?_,
      fun session marker raw name hregistry hmarker hvault hparse hname hne => ?_⟩
    · rw [htold, ← hvault]
      exact searchNotes_run args scene
    · rw [htold, ← hvault]
      exact execute_search hregistry hmarker hparse hname hne

/-- A sigma that ends a word in the query and in one of two notes, although not in each word of it. -/
theorem search_for_mus :
    let now : Moment := ⟨63871286400000000, some 0, by decide⟩
    let vault := ({} : Vault).run [.note now .null "ΜΟΥΣΑ, ΜΟΥΣ!", .note now .null "μουσ"]
    let session : Session Desk := ⟨registry Desk.services "/", ⟨50, [], 1⟩, "/", {}, ⟨vault, now⟩⟩
    (vault.notes.take 1).length ≤ (vault.notesWithText "ΜΟΥΣ").length ∧
      ((Session.execute "/find ΜΟΥΣ").run.run session).1 =
        .ok { success := true
              message := some "Found 1 note(s) matching \"ΜΟΥΣ\""
              clearInput := true } := by
  intro now vault session
  obtain ⟨-, -, hcommand⟩ := literal_text_is_found "ΜΟΥΣ"
  have hkept : ∀ note ∈ vault.notes.take 1, OccursKept "ΜΟΥΣ" note.content := by
    intro note hnote
    obtain rfl := List.mem_singleton.1 hnote
    exact ⟨"ΜΟΥΣΑ, ", "!", by decide +kernel, keepsSigmas_iff.2 (by decide +kernel)⟩
  have hsign : ∀ arg, ["ΜΟΥΣ"] = [arg] → startsWith arg "#" = true → arg.length ≤ 1 := by
    rintro arg harg hlead
    rw [← (List.cons.inj harg).1] at hlead
    exact absurd hlead (by decide +kernel)
  obtain ⟨hcount, -, hexecute⟩ := hcommand ["ΜΟΥΣ"] (by decide +kernel) hsign _ (vault.notes.take 1)
    (List.take_sublist _ _) (List.cons_ne_nil _ _) hkept
  have hone : (vault.notesWithText "ΜΟΥΣ").length = 1 := by decide +kernel
  have htold := hexecute session "/" "/find ΜΟΥΣ" "find" rfl rfl rfl (by decide +kernel)
    (by decide +kernel) (List.cons_ne_nil _ _)
  rw [hone] at htold
  exact ⟨hcount, htold⟩

/-- A note that begins with the query is not found, because a letter follows there. -/
theorem search_misses_musa :
    let now : Moment := ⟨63871286400000000, some 0, by decide⟩
    let desk : Desk := ⟨({} : Vault).run [.note now .null "ΜΟΥΣΑ"], now⟩
    (∃ note ∈ desk.vault.notes, occursIn "ΜΟΥΣ" note.content = true) ∧
      (Desk.services.searchNotes none "ΜΟΥΣ").run.run desk = (.ok [], desk) := by
  intro now desk
  have hnone : desk.vault.notesWithText "ΜΟΥΣ" = [] := by
    rw [Vault.notesWithText, List.filter_eq_nil_iff]
    intro note hnote
    obtain rfl := List.mem_singleton.1 hnote
    decide +kernel
  refine ⟨⟨_, List.mem_cons_self, by decide +kernel⟩, ?_⟩
  exact congrArg (fun notes => (Except.ok notes, desk)) hnone

end Builtin

end Jotter
