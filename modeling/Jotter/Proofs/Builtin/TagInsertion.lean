import Jotter.Proofs.Panel.Notebook
import Jotter.Proofs.Vault.Hashtag

/-! The hashtags that the `tag` command inserts. A search for tags in the inserted text finds the arguments
again, in lower case and each once. A tag that is suggested for an argument is in use, and the line that it
makes when it is accepted inserts it last. -/

namespace Jotter

open Text

/-! ### Reading what is inserted -/

namespace Hashtag

theorem writtenFrom_eq_nil {cs : List Char} (hnone : ∀ c ∈ cs, c ≠ '#') (previous : Option Char) :
    writtenFrom previous 0 cs = [] := by
  induction cs generalizing previous with
  | nil => rfl
  | cons c cs ih =>
      rw [List.forall_mem_cons] at hnone
      rw [writtenFrom_cons, opened_of_ne hnone.1, ih hnone.2]
      rfl

/-- A number sign and nothing but the characters of a tag behind it. -/
theorem writtenFrom_sign {run : List Char} (hne : run ≠ []) (hrun : ∀ c ∈ run, isTagChar c = true) :
    writtenFrom none 0 ('#' :: run) = [run] := by
  have hopened : opened none '#' run = run := by
    rw [opened, if_pos (by decide), List.takeWhile_eq_self_iff.2 hrun]
  have hbehind := writtenFrom_eq_nil (fun c hc => ne_sign_of_isTagChar (hrun c hc)) (some '#')
  rw [writtenFrom_cons, hopened, hbehind]
  simp [hne]

/-- Tags with a blank behind each of them are found one after the other. -/
theorem writtenFrom_intercalate {runs : List (List Char)}
    (hruns : ∀ run ∈ runs, run ≠ [] ∧ ∀ c ∈ run, isTagChar c = true) :
    writtenFrom none 0 ([' '].intercalate (runs.map ('#' :: ·)) ++ [' ']) = runs := by
  have htag : isTagChar ' ' = false := by decide +kernel
  have hsign : ' ' ≠ '#' := by decide
  induction runs with
  | nil => exact writtenFrom_eq_nil (List.forall_mem_singleton.2 hsign) none
  | cons run runs ih =>
      obtain ⟨hrun, hothers⟩ := List.forall_mem_cons.1 hruns
      have hfirst := writtenFrom_sign hrun.1 hrun.2
      by_cases hlast : runs = []
      · subst hlast
        rw [List.map_singleton, List.intercalate_singleton, writtenFrom_append htag hsign, hfirst]
        rfl
      · rw [List.map_cons, List.intercalate_cons_of_ne_nil (by simpa using hlast), List.append_assoc,
          List.append_assoc, List.singleton_append, writtenFrom_append htag hsign, hfirst, ih hothers]
        rfl

namespace IsTag

variable {tag : String}

theorem not_isBlank (htag : IsTag tag) : ∀ c ∈ tag.toList, isBlank c = false := fun c hc =>
  eq_false_of_not_isSeparator isSeparator_of_isBlank (htag.unseparated c hc)

theorem exists_not_isBlank (htag : IsTag tag) : ∃ c ∈ tag.toList, isBlank c = false := by
  obtain ⟨c, hc⟩ := List.exists_mem_of_ne_nil _ (mt String.toList_eq_nil_iff.1 htag.ne_empty)
  exact ⟨c, hc, htag.not_isBlank c hc⟩

/-- In a line a tag is one token. -/
theorem scanTokens_eq (htag : IsTag tag) :
    (Line.scanTokens none [] (trimRightChars tag.toList)).map String.ofList = [tag] := by
  have hne : tag.toList ≠ [] := mt String.toList_eq_nil_iff.1 htag.ne_empty
  have htrim : trimRightChars tag.toList = tag.toList :=
    trimRightChars_eq_self fun c hc => htag.not_isBlank c (List.mem_of_getLast? hc)
  have hquote : ∀ c ∈ tag.toList, Line.isQuote c = false := fun c hc =>
    eq_false_of_not_isSeparator isSeparator_of_isQuote (htag.unseparated c hc)
  rw [htrim, Line.scanTokens_eq_words hquote, wordsChars_eq_singleton htag.not_isBlank hne,
    List.map_singleton, String.ofList_toList]

end IsTag

end Hashtag

namespace Builtin

theorem extract_tagText {args : List String} (hargs : ∀ arg ∈ args, bareTag (trim arg) ≠ "" ∧
    ∀ c ∈ (bareTag (trim arg)).toList, Hashtag.isTagChar c = true) :
    Hashtag.extract (tagText args) = (args.map fun arg => lower (bareTag (trim arg))).eraseDups := by
  have hruns : ∀ run ∈ args.map fun arg => (bareTag (trim arg)).toList,
      run ≠ [] ∧ ∀ c ∈ run, Hashtag.isTagChar c = true := by
    rw [List.forall_mem_map]
    exact fun arg harg => ⟨mt String.toList_eq_nil_iff.1 (hargs arg harg).1, (hargs arg harg).2⟩
  have hpiece : ∀ arg ∈ args, ("#" ++ bareTag (trim arg)).toList = '#' :: (bareTag (trim arg)).toList :=
    fun arg _ => by rw [String.toList_append]; rfl
  have hchars : (tagText args).toList =
      [' '].intercalate ((args.map fun arg => (bareTag (trim arg)).toList).map ('#' :: ·)) ++ [' '] := by
    rw [tagText, String.toList_append, String.toList_intercalate, show " ".toList = [' '] from rfl,
      List.map_map, List.map_map]
    exact congrArg (fun pieces => [' '].intercalate pieces ++ [' ']) (List.map_congr_left hpiece)
  rw [Hashtag.extract, hchars, Hashtag.writtenFrom_intercalate hruns, List.map_map]
  simp [Function.comp_def]

/-! ### The suggested tags -/

theorem offered_tag (session : Session Desk) (marker : String) {args : List String} (hargs : args ≠ []) :
    session.offered (tag Desk.services marker) args =
      .ok (some (tagOffer session.state.vault.tags args)) := by
  have hlist : (Action.onState Desk.services.listTags).run.run session.scene =
      (.ok session.state.vault.tags, session.scene) := rfl
  rw [Session.offered, Session.offer, tag]
  dsimp only
  rw [Session.run_run, if_neg (by simpa using hargs), Attempt.run_bind, hlist]
  rfl

/-- A tag that is offered is, with its number sign, one of those in use. -/
theorem mem_tags_of_offered {vault : Vault} (hvault : vault.Tagged) {args : List String} {value : String}
    (hvalue : value ∈ tagOffer vault.tags args) : Hashtag.IsTag value ∧ "#" ++ value ∈ vault.tags := by
  obtain ⟨listed, hlisted, rfl⟩ := List.mem_map.1 (List.mem_of_mem_take hvalue)
  have hmem := (List.mem_filter.1 hlisted).1
  obtain ⟨note, hnote, own, hown, rfl⟩ := (Vault.mem_tags hvault).1 hmem
  rw [bareTag, dropLead_append]
  exact ⟨Hashtag.isTag_of_mem_extract hown, hmem⟩

/-! ### Accepting a suggested tag -/

/-- A tag is inserted as it is. -/
theorem bareTag_trim_eq {tag : String} (htag : Hashtag.IsTag tag) : bareTag (trim tag) = tag := by
  rw [trim_eq_self htag.not_isBlank]
  refine dropLead_of_not_startsWith ?_
  rw [← Bool.not_eq_true, startsWith_iff]
  rintro ⟨rest, hrest⟩
  have hsign := htag.unseparated '#' (by rw [← hrest]; simp)
  rw [isSeparator_of_isSign '#' rfl] at hsign
  cases hsign

/-- What is inserted for a tag behind other arguments ends with the tag. -/
theorem exists_tagText_concat (before : List String) {tag : String} (htag : Hashtag.IsTag tag) :
    ∃ others, tagText (before ++ [tag]) = others ++ "#" ++ tag ++ " " := by
  rw [tagText, List.map_append, List.map_singleton, bareTag_trim_eq htag]
  by_cases hfirst : before = []
  · exact ⟨"", by simp [hfirst]⟩
  · rw [String.intercalate_append_of_ne_nil (by simpa using hfirst) (List.cons_ne_nil _ _),
      String.intercalate_singleton, ← String.append_assoc]
    exact ⟨_, rfl⟩

/-- A line of the command for tags inserts its arguments. -/
theorem execute_tag {session : Session Desk} {raw name marker : String} {args : List String}
    (hparse : Line.parse raw session.marker = ⟨name, args⟩) (hname : name ≠ "") (hargs : args ≠ [])
    (hresolve : session.registry.resolve? name defaultMarker = some (tag Desk.services marker)) :
    ((Session.execute raw).run.run session).1 = .ok (tagResult args) := by
  have hcalled : (⟨name, args⟩ : Invocation).isEmpty = false := by simpa [Invocation.isEmpty]
  have hvalid : (Session.validate (tag Desk.services marker) args).run.run session =
      (.ok .valid, session) := by
    cases args with
    | nil => exact absurd rfl hargs
    | cons arg args => rfl
  rw [Session.execute_of_valid hparse hcalled hresolve hvalid, Session.runHandler_run, Session.run_run]
  rfl

/-- The `tag` command inserts a text in which a search for tags finds its arguments, if each of them is a
tag: trimmed and without one number sign before it, it consists of word characters and hyphens. They are
found in lower case, in order and each once. Whatever calls have changed a vault, each tag that is shown for
an argument without quotation marks in the text is, with its number sign, one of the listed tags, and can be
accepted; the line that this makes inserts a text that ends with it. -/
theorem inserted_tags_are_read_back {σ : Type} (services : Services σ) (marker : String) :
    (∀ args : List String,
      (∀ arg ∈ args, bareTag (trim arg) ≠ "" ∧
        ∀ c ∈ (bareTag (trim arg)).toList, Hashtag.isTagChar c = true) →
      ∀ scene, ∃ result content,
        ((tag services marker).hooks.execute args).run.run scene = (.ok result, scene) ∧
          result.insertContent = some content ∧
            Hashtag.extract content = (args.map fun arg => lower (bareTag (trim arg))).eraseDups) ∧
    ∀ (changes : List Vault.Change) (session : Session Desk),
      session.state.vault = ({} : Vault).run changes → session.marker = "/" →
      ∀ panel : Panel (Hooks Desk), panel.settings.marker = "/" →
      ∀ (loop : Bool) (text : String), (∀ c ∈ text.toList, Line.isQuote c = false) →
      let shown := panel.settled loop text session session
      shown.command? = some (tag Desk.services "/") →
      ∀ i suggestion, shown.suggestions[i]? = some suggestion →
        "#" ++ suggestion.value ∈ session.state.vault.tags ∧
          ∃ line result others, (Panel.moveDown^[i] shown).accept? = some line ∧
            ((Session.execute line).run.run session).1 = .ok result ∧ result.success = true ∧
              result.insertContent = some (others ++ "#" ++ suggestion.value ++ " ") := by
  refine ⟨fun args hargs scene => ⟨tagResult args, _, rfl, rfl, extract_tagText hargs⟩, ?_⟩
  intro changes session hvault hmarker panel hpanel loop text hquote shown hcommand i suggestion hsuggestion
  have hnew : ({} : Vault).Tagged := nofun
  have htagged : session.state.vault.Tagged := hvault ▸ hnew.run changes
  obtain ⟨name, args, hdraft, hname, hcurrent, hresolve, hkind, hoffered⟩ :=
    Panel.offered_of_shown hcommand hsuggestion
  rw [hpanel] at hdraft hresolve
  obtain ⟨-, hargs⟩ := Line.draftFields?_of_arguments hdraft
  rw [offered_tag session "/" hargs] at hoffered
  obtain ⟨htag, hlisted⟩ := mem_tags_of_offered htagged hoffered
  have hrenewed := panel.renewed_settled loop text session session
  have haccept := Panel.accept?_iterate hrenewed.index_eq hrenewed.dismissed_eq hsuggestion
  rw [hrenewed.text_eq, Panel.accepted, hkind] at haccept
  have hparse := Panel.parse_accepted (by decide) hdraft hname hcurrent hquote htag.exists_not_isBlank
  rw [htag.scanTokens_eq, ← hmarker] at hparse
  obtain ⟨others, hothers⟩ := exists_tagText_concat args.dropLast htag
  exact ⟨hlisted, _, _, others, haccept, execute_tag hparse hname (by simp) hresolve, rfl,
    congrArg some hothers⟩

theorem mergeSort_pair {α : Type} (le : α → α → Bool) (a b : α) :
    [a, b].mergeSort le = if le a b then [a, b] else [b, a] := by
  simp [List.mergeSort, List.MergeSort.Internal.splitInTwo, List.merge]

/-- A session of the built-in commands over a vault with one note. -/
def noteSession (content : String) : Session Desk :=
  { Completion.workSession with
    registry := registry Desk.services "/"
    state := ⟨({} : Vault).run [.note Completion.workSession.state.now .null content],
      Completion.workSession.state.now⟩ }

/-- Tags in several cases and with hyphens at their ends, one of which gets a combining mark in lower case;
and the second of two suggestions for an argument behind another one, by a short name of the command. -/
theorem wool_is_inserted :
    let session := noteSession "Plan #Work with #WOOL"
    let shown := newPanel.settled true "/t home #WO" session session
    (∃ result content,
      ((tag Desk.services "/").hooks.execute ["#İ", " -x-", "-X-", "i"]).run.run session.scene =
          (.ok result, session.scene) ∧
        result.insertContent = some content ∧ Hashtag.extract content = ["i̇", "-x-", "i"]) ∧
      shown.suggestions.map (·.value) = ["wool", "work"] ∧
        "#" ++ "work" ∈ session.state.vault.tags ∧
          ∃ line result others, (Panel.moveDown^[1] shown).accept? = some line ∧
            ((Session.execute line).run.run session).1 = .ok result ∧ result.success = true ∧
              result.insertContent = some (others ++ "#" ++ "work" ++ " ") := by
  intro session shown
  have hall : ["#İ", " -x-", "-X-", "i"].all (fun arg =>
      bareTag (trim arg) != "" && (bareTag (trim arg)).toList.all Hashtag.isTagChar) = true := by
    decide +kernel
  have htags : ∀ arg ∈ ["#İ", " -x-", "-X-", "i"], bareTag (trim arg) ≠ "" ∧
      ∀ c ∈ (bareTag (trim arg)).toList, Hashtag.isTagChar c = true := by
    simpa only [List.all_eq_true, Bool.and_eq_true, bne_iff_ne] using hall
  have hlower : (["#İ", " -x-", "-X-", "i"].map fun arg => lower (bareTag (trim arg))).eraseDups =
      ["i̇", "-x-", "i"] := by decide +kernel
  obtain ⟨hread, hsuggested⟩ := inserted_tags_are_read_back Desk.services "/"
  obtain ⟨result, content, hrun, hcontent, hextract⟩ := hread _ htags session.scene
  have hdraft : Draft.read "/t home #WO" newPanel.settings.marker = .arguments "t" ["home", "#WO"] := by
    decide
  have hresolve : session.registry.resolve? "t" newPanel.settings.marker = some (tag Desk.services "/") :=
    rfl
  have hoffered := offered_tag session "/" (List.cons_ne_nil "home" ["#WO"])
  have hknown : session.state.vault.tags = ["#wool", "#work"] := by
    have hfound : ((session.state.vault.notes.flatMap (·.tags)).map ("#" ++ ·)).eraseDups =
        ["#work", "#wool"] := by decide +kernel
    rw [Vault.tags, hfound]
    exact (mergeSort_pair _ _ _).trans (if_neg (by decide))
  have hvalues : tagOffer session.state.vault.tags ["home", "#WO"] = ["wool", "work"] := by
    rw [hknown]
    decide +kernel
  rw [hvalues] at hoffered
  have hshown : shown = ((newPanel.renew "/t home #WO").showArguments (tag Desk.services "/")).install
      (tag Desk.services "/") ["wool", "work"] :=
    Panel.settled_of_arguments hdraft (by decide) hresolve (by decide) hoffered hoffered fun _ _ _ => rfl
  have hquote : ∀ c ∈ "/t home #WO".toList, Line.isQuote c = false := by simp [Line.isQuote]
  have hcommand : shown.command? = some (tag Desk.services "/") := congrArg Panel.command? hshown
  have hsecond : shown.suggestions[1]? = some ⟨"work", tag Desk.services "/", .arguments⟩ :=
    congrArg (fun panel : Panel (Hooks Desk) => panel.suggestions[1]?) hshown
  exact ⟨⟨result, content, hrun, hcontent, hextract.trans hlower⟩,
    congrArg (fun panel : Panel (Hooks Desk) => panel.suggestions.map (·.value)) hshown,
    hsuggested [.note Completion.workSession.state.now .null "Plan #Work with #WOOL"] session rfl rfl
      newPanel rfl true "/t home #WO" hquote hcommand 1 _ hsecond⟩

end Builtin

end Jotter
