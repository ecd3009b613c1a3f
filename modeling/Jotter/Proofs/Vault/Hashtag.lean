import Jotter.Proofs.Vault.Tags

/-! Where the tags of a text stand. The search for tags goes on behind each one that it finds, but no
character of a tag is a number sign, so nothing is passed over: the tags are those of all places at which
one can begin. White space stands in no tag and keeps none from beginning, so that the tags of two texts
with white space between them are the tags of the first one and then those of the second one. -/

namespace Jotter.Hashtag

open Text

/-! ### Places -/

/-- A number sign at the beginning, or behind a character that is neither a word character nor a number
sign. -/
def Begins (cs : List Char) (i : Nat) : Prop :=
  cs[i]? = some '#' ∧ (i = 0 ∨ ∃ c ∈ cs[i - 1]?, isWordChar c = false ∧ c ≠ '#')

instance (cs : List Char) : DecidablePred (Begins cs) :=
  fun _ => inferInstanceAs (Decidable (_ ∧ (_ ∨ _)))

/-- The word characters and hyphens directly behind a place, up to the first other character. -/
def runBehind (cs : List Char) (i : Nat) : List Char :=
  (cs.drop (i + 1)).takeWhile isTagChar

/-- The places at which a tag begins, in order. -/
def places (cs : List Char) : List Nat :=
  (List.range cs.length).filter fun i => Begins cs i ∧ runBehind cs i ≠ []

/-- What a place opens. -/
def openedAt (cs : List Char) (i : Nat) : List Char :=
  if Begins cs i then runBehind cs i else []

theorem canFollow_some {c : Char} : canFollow (some c) = true ↔ isWordChar c = false ∧ c ≠ '#' := by
  simp [canFollow]

theorem begins_append_cons (before after : List Char) (c : Char) :
    Begins (before ++ c :: after) before.length ↔ c = '#' ∧ canFollow before.getLast? = true := by
  have hhere : (before ++ c :: after)[before.length]? = some c := by simp
  rw [Begins, hhere, Option.some.injEq]
  refine and_congr_right fun _ => ?_
  obtain rfl | ⟨before, d, rfl⟩ := before.eq_nil_or_concat'
  · simp [canFollow]
  · rw [List.getLast?_concat, canFollow_some]
    simp

theorem openedAt_append_cons (before after : List Char) (c : Char) :
    openedAt (before ++ c :: after) before.length = opened before.getLast? c after := by
  have hbehind : runBehind (before ++ c :: after) before.length = after.takeWhile isTagChar := by
    simp [runBehind]
  by_cases hbegins : c = '#' ∧ canFollow before.getLast? = true
  · rw [openedAt, if_pos ((begins_append_cons before after c).2 hbegins), hbehind, opened,
      if_pos (by simpa using hbegins)]
  · rw [openedAt, if_neg (mt (begins_append_cons before after c).1 hbegins), opened,
      if_neg (by simpa using hbegins)]

/-! ### The search -/

theorem opened_of_ne {c : Char} (hc : c ≠ '#') (previous : Option Char) (after : List Char) :
    opened previous c after = [] := by
  simp [opened, hc]

theorem ne_sign_of_isTagChar {c : Char} (hc : isTagChar c = true) : c ≠ '#' := by
  rintro rfl
  exact absurd hc (by decide +kernel)

/-- Nothing is passed over: none of the characters of a tag opens another one. -/
theorem writtenFrom_taken {taken : Nat} {cs : List Char} (htaken : ∀ c ∈ cs.take taken, isTagChar c = true)
    (previous : Option Char) : writtenFrom previous taken cs = writtenFrom previous 0 cs := by
  induction cs generalizing previous taken with
  | nil => rfl
  | cons c cs ih =>
      cases taken with
      | zero => rfl
      | succ taken =>
          rw [List.take_succ_cons, List.forall_mem_cons] at htaken
          have hnone := opened_of_ne (ne_sign_of_isTagChar htaken.1) previous cs
          rw [writtenFrom, ih htaken.2, writtenFrom, hnone]

theorem writtenFrom_cons (previous : Option Char) (c : Char) (cs : List Char) :
    writtenFrom previous 0 (c :: cs) =
      [opened previous c cs].filter (· ≠ []) ++ writtenFrom (some c) 0 cs := by
  rw [writtenFrom]
  split
  · rename_i hnone
    rw [hnone]
    rfl
  · rename_i d run hopened
    have hrun : cs.takeWhile isTagChar = d :: run := by
      rw [← hopened, opened]
      split
      · rfl
      · rename_i hno
        rw [opened, if_neg hno] at hopened
        cases hopened
    have htaken : ∀ e ∈ cs.take (run.length + 1), isTagChar e = true := by
      have hlead : d :: run <+: cs := hrun ▸ List.takeWhile_prefix isTagChar
      rw [← List.length_cons (a := d), ← List.prefix_iff_eq_take.1 hlead, ← hrun]
      exact fun e he => List.mem_takeWhile_imp he
    rw [hopened, writtenFrom_taken htaken]
    rfl

/-- The tags of a text are what its places open, one after the other. -/
theorem writtenFrom_eq (before rest : List Char) :
    writtenFrom before.getLast? 0 rest =
      ((List.range' before.length rest.length).map (openedAt (before ++ rest))).filter (· ≠ []) := by
  induction rest generalizing before with
  | nil => rfl
  | cons c rest ih =>
      have hrest := ih (before ++ [c])
      rw [List.getLast?_concat, List.length_append, List.length_singleton, List.append_assoc,
        List.singleton_append] at hrest
      rw [writtenFrom_cons, hrest, List.length_cons, List.range'_succ, List.map_cons,
        openedAt_append_cons, ← List.singleton_append, ← List.filter_append]
      rfl

theorem openedAt_ne_nil {cs : List Char} {i : Nat} :
    openedAt cs i ≠ [] ↔ Begins cs i ∧ runBehind cs i ≠ [] := by
  by_cases hbegins : Begins cs i <;> simp [openedAt, hbegins]

theorem writtenFrom_eq_places (cs : List Char) : writtenFrom none 0 cs = (places cs).map (runBehind cs) := by
  calc writtenFrom none 0 cs
      = ((List.range cs.length).map (openedAt cs)).filter (· ≠ []) := by
        rw [List.range_eq_range']
        exact writtenFrom_eq [] cs
    _ = (places cs).map (openedAt cs) := by
        rw [List.filter_map, places]
        exact congrArg _ (List.filter_congr fun i _ => decide_eq_decide.2 openedAt_ne_nil)
    _ = (places cs).map (runBehind cs) := by
        refine List.map_congr_left fun i hi => ?_
        have hbegins : Begins cs i ∧ runBehind cs i ≠ [] := by simpa using (List.mem_filter.1 hi).2
        rw [openedAt, if_pos hbegins.1]

/-! ### Two texts -/

theorem writtenFrom_congr {previous other : Option Char} (hsame : canFollow previous = canFollow other)
    (cs : List Char) : writtenFrom previous 0 cs = writtenFrom other 0 cs := by
  cases cs with
  | nil => rfl
  | cons c cs => rw [writtenFrom_cons, writtenFrom_cons, opened, opened, hsame]

/-- A character that can stand in no tag and keeps none from beginning parts two texts. -/
theorem writtenFrom_append {c : Char} (hc : isTagChar c = false) (hsign : c ≠ '#')
    (previous : Option Char) (before after : List Char) :
    writtenFrom previous 0 (before ++ c :: after) =
      writtenFrom previous 0 before ++ writtenFrom none 0 after := by
  have hword : isWordChar c = false := by
    rw [isTagChar, Bool.or_eq_false_iff] at hc
    exact hc.1
  induction before generalizing previous with
  | nil =>
      have hfollow : canFollow (some c) = canFollow none := canFollow_some.2 ⟨hword, hsign⟩
      rw [List.nil_append, writtenFrom_cons, opened_of_ne hsign, writtenFrom_congr hfollow]
      rfl
  | cons d before ih =>
      have hstop : (before ++ c :: after).takeWhile isTagChar = before.takeWhile isTagChar := by
        rw [List.takeWhile_append, List.takeWhile_cons_of_neg (by simp [hc])]
        split
        · rename_i hall
          rw [List.append_nil]
          exact ((List.takeWhile_prefix isTagChar).eq_of_length hall).symm
        · rfl
      rw [List.cons_append, writtenFrom_cons, writtenFrom_cons, ih, opened, opened, hstop,
        List.append_assoc]

/-! ### Repeated tags -/

theorem eraseDups_filter {α : Type} [BEq α] [LawfulBEq α] (p : α → Bool) (items : List α) :
    (items.filter p).eraseDups = items.eraseDups.filter p := by
  induction hlength : items.length using Nat.strong_induction_on generalizing items with
  | _ n ih =>
      cases items with
      | nil => rfl
      | cons a rest =>
          have hshorter : (rest.filter fun b => !b == a).length < n := by
            rw [← hlength]
            exact Nat.lt_succ_of_le (List.length_filter_le _ _)
          have hrest := ih _ hshorter _ rfl
          rw [List.eraseDups_cons, List.filter_cons]
          cases hp : p a with
          | true =>
              rw [if_pos rfl, List.eraseDups_cons, List.filter_cons, hp, if_pos rfl, ← hrest]
              rw [List.filter_filter, List.filter_filter]
              simp only [Bool.and_comm]
          | false =>
              rw [if_neg Bool.false_ne_true, List.filter_cons, hp, if_neg Bool.false_ne_true, ← hrest,
                List.filter_filter]
              congr 1
              refine List.filter_congr fun b _ => ?_
              cases hb : b == a with
              | true =>
                  obtain rfl := beq_iff_eq.1 hb
                  simp [hp]
              | false => simp

theorem eraseDups_append {α : Type} [BEq α] [LawfulBEq α] (first second : List α) :
    (first ++ second).eraseDups =
      first.eraseDups ++ second.eraseDups.filter fun item => !first.eraseDups.contains item := by
  rw [List.eraseDups_append, List.removeAll, eraseDups_filter]
  congr 1
  refine List.filter_congr fun item _ => ?_
  rw [List.elem_eq_contains]
  congr 1
  rw [Bool.eq_iff_iff, List.contains_iff_mem, List.contains_iff_mem, List.mem_eraseDups]

/-- The tags of a text are, each once and in the order in which they first occur, the lower case of what
stands behind all the places at which a tag begins: the number signs at the beginning or behind a character
that is neither a word character nor a number sign, with word characters or hyphens behind them. White
space between two texts makes the tags those of the first one and then those of the second one that are not
among them. -/
theorem extract_eq_places :
    (∀ content : String,
      extract content = ((places content.toList).map fun i =>
        lower (.ofList (runBehind content.toList i))).eraseDups ∧
      (extract content).Nodup) ∧
    ∀ (before : String) (gap : Char) (after : String), isBlank gap = true →
      extract (before ++ String.singleton gap ++ after) =
        extract before ++ (extract after).filter fun tag => !(extract before).contains tag := by
  refine ⟨fun content => ⟨?_, Vault.nodup_eraseDups _⟩, fun before gap after hgap => ?_⟩
  · rw [extract, writtenFrom_eq_places, List.map_map]
    rfl
  · have hseparator := isSeparator_of_isBlank gap hgap
    have htag : isTagChar gap = false := by
      rw [← Bool.not_eq_true]
      intro htag
      rw [not_isSeparator_of_isTagChar htag] at hseparator
      cases hseparator
    have hsign : gap ≠ '#' := by
      rintro rfl
      exact absurd hgap (by decide)
    have hchars : (before ++ String.singleton gap ++ after).toList =
        before.toList ++ gap :: after.toList := by simp
    rw [extract, extract, extract, hchars, writtenFrom_append htag hsign, List.map_append,
      eraseDups_append]

/-- Hyphens at both ends, number signs side by side and within a word, and a tag that comes again in another
case. -/
theorem extract_around_gap :
    isBlank '\u3000' = true ∧
      extract ("#Plan #-x-" ++ String.singleton '\u3000' ++ "##y #plan a#b #z") =
        ["plan", "-x-", "z"] := by
  have hgap : isBlank '\u3000' = true := by decide
  refine ⟨hgap, ?_⟩
  rw [extract_eq_places.2 _ _ _ hgap]
  decide +kernel

end Jotter.Hashtag
