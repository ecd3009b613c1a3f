import Jotter.Proofs.Builtin.Desk
import Jotter.Proofs.Line.Draft
import Jotter.Proofs.Vault.Tags

/-! The index of tags behind the `search` command. A line that asks for a listed tag reaches the handler
with the tag as its only argument, and what it tells is the number of the notes in whose text the tag
stands. -/

namespace Jotter.Builtin

open Text Hashtag

/-! ### The line -/

/-- A line that asks for a tag. -/
def tagLine (tag : String) : String :=
  "/search #" ++ tag

variable {tag : String}

theorem cut_tagLine (tag : String) : Line.Cut (tagLine tag) "/" [] ("search #" ++ tag) where
  blank := nofun
  toList_eq := by simp [tagLine]
  trimLeft_eq := by
    apply String.toList_injective
    rw [toList_trimLeft, trimLeftChars_eq_self]
    · simp [tagLine]
    · simp [tagLine, isBlank]
  unmarked := by simp [startsWith, List.isPrefixOf]

theorem words_tagLine (htag : IsTag tag) : words ("search #" ++ tag) = ["search", "#" ++ tag] := by
  have hblank : ∀ c ∈ '#' :: tag.toList, isBlank c = false := by
    rw [List.forall_mem_cons]
    exact ⟨by decide, fun c hc =>
      eq_false_of_not_isSeparator isSeparator_of_isBlank (htag.unseparated c hc)⟩
  have hname : ∀ c ∈ "search".toList, isBlank c = false := by simp [isBlank]
  have hchars : ("search #" ++ tag).toList = "search".toList ++ ([' '] ++ '#' :: tag.toList) := by
    simp
  rw [words, hchars, wordsChars_append hname (List.cons_ne_nil _ _) isBlank_space,
    wordsChars_eq_singleton hname (by decide), wordsChars_eq_singleton hblank (List.cons_ne_nil _ _)]
  simp

theorem parse_tagLine (htag : IsTag tag) :
    Line.parse (tagLine tag) "/" = ⟨"search", ["#" ++ tag]⟩ := by
  have hquote : ∀ c ∈ ("search #" ++ tag).toList, Line.isQuote c = false := by
    rw [String.toList_append, List.forall_mem_append]
    exact ⟨by simp [Line.isQuote],
      fun c hc => eq_false_of_not_isSeparator isSeparator_of_isQuote (htag.unseparated c hc)⟩
  rw [(cut_tagLine tag).parse_eq (by simp [isBlank]) hquote, words_tagLine htag]
  rfl

/-! ### The search -/

theorem ofArguments_sign (htag : IsTag tag) : SearchQuery.ofArguments ["#" ++ tag] = .tag tag := by
  have hlength : 1 < ("#" ++ tag).length := by
    have hne : tag.length ≠ 0 := mt String.length_eq_zero_iff.1 htag.ne_empty
    rw [String.length_append, show "#".length = 1 from rfl]
    omega
  rw [SearchQuery.ofArguments, startsWith_append, dropLead_append, Bool.true_and, decide_eq_true hlength,
    if_pos rfl]

theorem searchMessage_sign {count : Nat} (hcount : count ≠ 0) (tag : String) :
    searchMessage count ("#" ++ tag) =
      "Found " ++ toString count ++ " note(s) matching \"#" ++ tag ++ "\"" := by
  rw [searchMessage, if_neg hcount]
  apply String.toList_injective
  simp

/-- A line that asks for a tag tells the number of the notes in which it stands. -/
theorem execute_tagLine {session : Session Desk} (hregistry : session.registry = registry Desk.services "/")
    (hmarker : session.marker = "/") (hvault : session.state.vault.Tagged) (htag : IsTag tag) :
    ((Session.execute (tagLine tag)).run.run session).1 =
      .ok { success := true
            message := some (searchMessage (session.state.vault.holding tag).length ("#" ++ tag))
            clearInput := true } := by
  have hfound : found session.state.vault ["#" ++ tag] = session.state.vault.holding tag := by
    rw [found, ofArguments_sign htag]
    exact Vault.notesWithTag_eq hvault htag (.inl htag.lower_eq)
  rw [execute_search hregistry hmarker (parse_tagLine htag) (by decide) (List.cons_ne_nil _ _), hfound]
  simp

/-- Whatever calls have changed a vault, its index of tags is strictly increasing and lists the tags of
the texts of its notes; a search by any of these tags, in any case and with or without its number sign,
finds the notes in whose text the tag stands, in their order; and a line that searches for a listed tag
tells their number, which is not zero. -/
theorem tag_index_is_coherent (changes : List Vault.Change) (now : Moment) :
    let vault := ({} : Vault).run changes
    (vault.tags.Pairwise (· < ·) ∧
      ∀ listed, listed ∈ vault.tags ↔
        ∃ note ∈ vault.notes, ∃ tag ∈ extract note.content, listed = "#" ++ tag) ∧
    (∀ content, ∀ tag ∈ extract content, ∀ wanted,
      lower wanted = lower tag ∨ lower wanted = lower ("#" ++ tag) → ∀ path,
        (Desk.services.searchByTag path wanted).run.run ⟨vault, now⟩ =
          (.ok (vault.notes.filter fun note => (extract note.content).contains tag), ⟨vault, now⟩)) ∧
    ∀ tag, "#" ++ tag ∈ vault.tags →
      let count := (vault.notes.filter fun note => (extract note.content).contains tag).length
      1 ≤ count ∧ ∀ session : Session Desk, session.registry = registry Desk.services "/" →
        session.marker = "/" → session.state.vault = vault →
          ((Session.execute ("/search #" ++ tag)).run.run session).1 =
            .ok { success := true
                  message := some
                    ("Found " ++ toString count ++ " note(s) matching \"#" ++ tag ++ "\"")
                  clearInput := true } := by
  intro vault
  have hnew : ({} : Vault).Tagged := nofun
  have htagged : vault.Tagged := hnew.run changes
  refine ⟨⟨vault.pairwise_tags, fun listed => Vault.mem_tags htagged⟩, ?_, ?_⟩
  · intro content tag htag wanted hwanted path
    have hown := isTag_of_mem_extract htag
    rw [lower_sign, hown.lower_eq] at hwanted
    have hnotes := Vault.notesWithTag_eq htagged hown hwanted
    exact congrArg (fun notes => (Except.ok notes, (⟨vault, now⟩ : Desk))) hnotes
  · intro tag hlisted count
    obtain ⟨note, hnote, own, hown, hsame⟩ := (Vault.mem_tags htagged).1 hlisted
    obtain rfl : tag = own := (String.append_right_inj _).1 hsame
    have hpositive : 1 ≤ count :=
      List.length_pos_of_mem (List.mem_filter.2 ⟨hnote, List.contains_iff_mem.2 hown⟩)
    refine ⟨hpositive, fun session hregistry hmarker hvault => ?_⟩
    have hexecute := execute_tagLine hregistry hmarker (hvault ▸ htagged) (isTag_of_mem_extract hown)
    have hcount : (vault.holding tag).length ≠ 0 := Nat.ne_of_gt hpositive
    rwa [hvault, searchMessage_sign hcount] at hexecute

/-- Two of three notes hold a tag, written in different cases. -/
theorem search_for_work :
    let now : Moment := ⟨63871286400000000, some 0, by decide⟩
    let changes : List Vault.Change :=
      [.note now .null "Plan #Work", .note now .null "#home", .note now .null "#wORK!"]
    let session : Session Desk :=
      ⟨registry Desk.services "/", ⟨50, [], 1⟩, "/", {}, ⟨({} : Vault).run changes, now⟩⟩
    "#work" ∈ session.state.vault.tags ∧ ((Session.execute "/search #work").run.run session).1 =
      .ok { success := true
            message := some "Found 2 note(s) matching \"#work\""
            clearInput := true } := by
  intro now changes session
  obtain ⟨⟨-, hlisted⟩, -, hsearch⟩ := tag_index_is_coherent changes now
  have hwork : "#" ++ "work" ∈ (({} : Vault).run changes).tags :=
    (hlisted _).2 ⟨_, List.mem_cons_self, "work", List.contains_iff_mem.1 (by decide +kernel), rfl⟩
  have hcount : ((({} : Vault).run changes).notes.filter fun note =>
      (extract note.content).contains "work").length = 2 := by decide +kernel
  obtain ⟨-, hexecute⟩ := hsearch "work" hwork
  have htold := hexecute session rfl rfl rfl
  rw [hcount] at htold
  exact ⟨hwork, htold⟩

end Jotter.Builtin
