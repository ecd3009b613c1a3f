import Mathlib.Data.List.Pairwise
import Jotter.Proofs.Line.Quoting

/-! What becomes of each character of a line. A description of quotations by positions alone, without the
state of a scan, says which characters open or close a quotation, which white space parts tokens and which
characters are kept. The tokens are the kept characters in their order, and two of them are in one token
iff no white space parts them. -/

namespace Jotter.Line

open Text

/-! ### Positions -/

/-- The quotation that opens at `i` closes at `j`, where its character stands again for the first time. -/
structure Closes (cs : List Char) (i j : Nat) : Prop where
  lt : i < j
  getElem?_eq : cs[j]? = cs[i]?
  first : ∀ k, i < k → k < j → cs[k]? ≠ cs[i]?

/-- A position that reading from the left reaches outside quotations. -/
inductive Outside (cs : List Char) : Nat → Prop where
  | start : Outside cs 0
  | plain {i : Nat} {c : Char} (before : Outside cs i) (here : cs[i]? = some c)
      (hquote : isQuote c = false) : Outside cs (i + 1)
  | quotation {i j : Nat} {c : Char} (before : Outside cs i) (here : cs[i]? = some c)
      (hquote : isQuote c = true) (hcloses : Closes cs i j) : Outside cs (j + 1)

/-- A quotation mark that opens a quotation. -/
def Opens (cs : List Char) (i : Nat) : Prop :=
  Outside cs i ∧ ∃ c, cs[i]? = some c ∧ isQuote c = true

/-- A quotation mark that closes a quotation. -/
def Shuts (cs : List Char) (j : Nat) : Prop :=
  ∃ i, Opens cs i ∧ Closes cs i j

/-- White space outside quotations. -/
def Gap (cs : List Char) (i : Nat) : Prop :=
  Outside cs i ∧ ∃ c, cs[i]? = some c ∧ isBlank c = true

/-- A character that is none of these. -/
def Kept (cs : List Char) (i : Nat) : Prop :=
  i < cs.length ∧ ¬ Opens cs i ∧ ¬ Shuts cs i ∧ ¬ Gap cs i

/-- The characters at these positions. -/
def pick (cs : List Char) (places : List Nat) : List Char :=
  places.filterMap (cs[·]?)

/-! ### Inside quotations -/

/-- The quotation with the mark `c` that opens at `i` is not closed before `n`. -/
structure Within (cs : List Char) (i n : Nat) (c : Char) : Prop where
  outside : Outside cs i
  here : cs[i]? = some c
  quote : isQuote c = true
  lt : i < n
  unclosed : ∀ k, i < k → k < n → cs[k]? ≠ some c

variable {cs : List Char}

/-- No position is both within a quotation and outside. -/
theorem Within.not_outside {i n m : Nat} {c : Char} (hwithin : Within cs i n c) (hlt : i < m)
    (hle : m ≤ n) : ¬ Outside cs m := by
  induction m using Nat.strong_induction_on generalizing i n c with
  | _ m ih =>
      intro houtside
      cases houtside with
      | start => exact absurd hlt (Nat.not_lt_zero i)
      | @plain m d hbefore hhere hquote =>
          rcases Nat.lt_succ_iff_lt_or_eq.1 hlt with hless | rfl
          · exact ih m (Nat.lt_succ_self m) hwithin hless (Nat.le_of_succ_le hle) hbefore
          · obtain rfl := Option.some.inj (hhere.symm.trans hwithin.here)
            rw [hwithin.quote] at hquote
            cases hquote
      | @quotation k j d hbefore hhere hquote hcloses =>
          rcases Nat.lt_trichotomy i k with hless | rfl | hmore
          · exact ih k (Nat.lt_succ_of_lt hcloses.lt) hwithin hless
              ((Nat.le_of_lt hcloses.lt).trans (Nat.le_of_succ_le hle)) hbefore
          · exact hwithin.unclosed j hcloses.lt hle (hcloses.getElem?_eq.trans hwithin.here)
          · -- the quotation of `hwithin` opens within the one that is closed here
            have hother : Within cs k j d := by
              refine ⟨hbefore, hhere, hquote, hcloses.lt, fun l hkl hlj => ?_⟩
              rw [← hhere]
              exact hcloses.first l hkl hlj
            exact ih i hlt hother hmore (Nat.le_of_lt_succ hlt) hwithin.outside

theorem Closes.within {i j : Nat} {c : Char} (hcloses : Closes cs i j) (houtside : Outside cs i)
    (hhere : cs[i]? = some c) (hquote : isQuote c = true) : Within cs i j c := by
  refine ⟨houtside, hhere, hquote, hcloses.lt, fun k hik hkj => ?_⟩
  rw [← hhere]
  exact hcloses.first k hik hkj

/-- What a scan has come to before a position: it is outside quotations, or within one. -/
inductive Reads (cs : List Char) (n : Nat) : Option Char → Prop where
  | outside (houtside : Outside cs n) : Reads cs n none
  | within {i : Nat} {c : Char} (hwithin : Within cs i n c) : Reads cs n (some c)

section Position

variable {n : Nat} {c : Char}

theorem not_kept_of_opens (hopens : Opens cs n) : ¬ Kept cs n :=
  fun hkept => hkept.2.1 hopens

theorem not_kept_of_gap (hgap : Gap cs n) : ¬ Kept cs n :=
  fun hkept => hkept.2.2.2 hgap

theorem not_kept_of_shuts (hshuts : Shuts cs n) : ¬ Kept cs n :=
  fun hkept => hkept.2.2.1 hshuts

theorem not_gap_of_not_isBlank (hhere : cs[n]? = some c) (hblank : isBlank c = false) : ¬ Gap cs n := by
  rintro ⟨-, d, hd, hdblank⟩
  obtain rfl := Option.some.inj (hd.symm.trans hhere)
  rw [hblank] at hdblank
  cases hdblank

theorem not_isBlank_of_isQuote (hquote : isQuote c = true) : isBlank c = false := by
  rw [← Bool.not_eq_true]
  intro hblank
  rw [not_isQuote_of_isBlank hblank] at hquote
  cases hquote

/-- A character that is neither a quotation mark nor white space is kept outside quotations. -/
theorem kept_of_plain (hhere : cs[n]? = some c) (hquote : isQuote c = false)
    (hblank : isBlank c = false) : Kept cs n := by
  refine ⟨(List.getElem?_eq_some_iff.1 hhere).1, ?_, ?_, not_gap_of_not_isBlank hhere hblank⟩
  · rintro ⟨-, d, hd, hdquote⟩
    obtain rfl := Option.some.inj (hd.symm.trans hhere)
    rw [hquote] at hdquote
    cases hdquote
  · rintro ⟨i, ⟨-, d, hd, hdquote⟩, hcloses⟩
    obtain rfl := Option.some.inj (hd.symm.trans (hcloses.getElem?_eq.symm.trans hhere))
    rw [hquote] at hdquote
    cases hdquote

namespace Within

variable {i : Nat}

theorem next {d : Char} (hwithin : Within cs i n c) (hhere : cs[n]? = some d) (hd : d ≠ c) :
    Within cs i (n + 1) c where
  outside := hwithin.outside
  here := hwithin.here
  quote := hwithin.quote
  lt := Nat.lt_succ_of_lt hwithin.lt
  unclosed k hik hkn := by
    rcases Nat.lt_succ_iff_lt_or_eq.1 hkn with hless | rfl
    · exact hwithin.unclosed k hik hless
    · rw [hhere]
      exact fun hsame => hd (Option.some.inj hsame)

theorem closes (hwithin : Within cs i n c) (hhere : cs[n]? = some c) : Closes cs i n where
  lt := hwithin.lt
  getElem?_eq := hhere.trans hwithin.here.symm
  first k hik hkn := by
    rw [hwithin.here]
    exact hwithin.unclosed k hik hkn

theorem not_gap (hwithin : Within cs i n c) : ¬ Gap cs n :=
  fun hgap => hwithin.not_outside hwithin.lt le_rfl hgap.1

/-- Within a quotation every character but its own mark is kept. -/
theorem kept {d : Char} (hwithin : Within cs i n c) (hhere : cs[n]? = some d) (hd : d ≠ c) :
    Kept cs n := by
  have houtside := hwithin.not_outside hwithin.lt le_rfl
  refine ⟨(List.getElem?_eq_some_iff.1 hhere).1, fun hopens => houtside hopens.1, ?_, hwithin.not_gap⟩
  rintro ⟨k, ⟨hbefore, e, he, hquote⟩, hcloses⟩
  rcases Nat.lt_trichotomy i k with hless | rfl | hmore
  · exact hwithin.not_outside hless (Nat.le_of_lt hcloses.lt) hbefore
  · have hsame := hhere.symm.trans (hcloses.getElem?_eq.trans hwithin.here)
    exact hd (Option.some.inj hsame)
  · exact (hcloses.within hbefore he hquote).not_outside hmore (Nat.le_of_lt hwithin.lt) hwithin.outside

end Within

end Position

/-! ### Tokens as positions -/

/-- A token that is begun before `n`: kept characters, the last one first, that no white space parts. -/
structure Held (cs : List Char) (n : Nat) (held : List Nat) : Prop where
  kept : ∀ p ∈ held, Kept cs p
  lt : ∀ p ∈ held, p < n
  sorted : held.Pairwise (· > ·)
  together : ∀ p ∈ held, ∀ k, p < k → k < n → ¬ Gap cs k

/-- The tokens of a text from `n` on, as positions, where `held` is begun already. -/
structure Cuts (cs : List Char) (n : Nat) (held : List Nat) (places : List (List Nat)) : Prop where
  ne_nil : ∀ token ∈ places, token ≠ []
  sorted : places.flatten.Pairwise (· < ·)
  mem_iff : ∀ i, i ∈ places.flatten ↔ i ∈ held ∨ n ≤ i ∧ Kept cs i
  together : ∀ token ∈ places, ∀ p ∈ token, ∀ q ∈ token, ∀ k, p < k → k < q → ¬ Gap cs k
  apart : places.Pairwise fun token later =>
    ∀ p ∈ token, ∀ q ∈ later, ∃ k, p < k ∧ k < q ∧ Gap cs k

section Scan

variable {n : Nat} {held : List Nat} {places : List (List Nat)}

theorem held_nil (cs : List Char) (n : Nat) : Held cs n [] :=
  ⟨nofun, nofun, .nil, nofun⟩

namespace Held

theorem skip (hheld : Held cs n held) (hgap : ¬ Gap cs n) : Held cs (n + 1) held where
  kept := hheld.kept
  lt p hp := Nat.lt_succ_of_lt (hheld.lt p hp)
  sorted := hheld.sorted
  together p hp k hpk hkn := by
    rcases Nat.lt_succ_iff_lt_or_eq.1 hkn with hless | rfl
    · exact hheld.together p hp k hpk hless
    · exact hgap

theorem push (hheld : Held cs n held) (hkept : Kept cs n) : Held cs (n + 1) (n :: held) where
  kept := List.forall_mem_cons.2 ⟨hkept, hheld.kept⟩
  lt := List.forall_mem_cons.2 ⟨Nat.lt_succ_self n, fun p hp => Nat.lt_succ_of_lt (hheld.lt p hp)⟩
  sorted := List.pairwise_cons.2 ⟨hheld.lt, hheld.sorted⟩
  together := by
    refine List.forall_mem_cons.2 ⟨fun k hnk hkn => ?_, (hheld.skip hkept.2.2.2).together⟩
    exact absurd hnk (Nat.not_lt.2 (Nat.le_of_lt_succ hkn))

theorem sorted_reverse (hheld : Held cs n held) : held.reverse.Pairwise (· < ·) :=
  List.pairwise_reverse.2 hheld.sorted

theorem together_reverse (hheld : Held cs n held) :
    ∀ p ∈ held.reverse, ∀ q ∈ held.reverse, ∀ k, p < k → k < q → ¬ Gap cs k := by
  intro p hp q hq k hpk hkq
  rw [List.mem_reverse] at hp hq
  exact hheld.together p hp k hpk (Nat.lt_trans hkq (hheld.lt q hq))

end Held

namespace Cuts

theorem skip (hcuts : Cuts cs (n + 1) held places) (hkept : ¬ Kept cs n) : Cuts cs n held places :=
  { hcuts with
    mem_iff := fun i => by
      rw [hcuts.mem_iff, Nat.succ_le_iff, or_congr_right]
      refine and_congr_left fun hi => ⟨Nat.le_of_lt, fun hle => lt_of_le_of_ne hle ?_⟩
      rintro rfl
      exact hkept hi }

theorem push (hcuts : Cuts cs (n + 1) (n :: held) places) (hkept : Kept cs n) :
    Cuts cs n held places :=
  { hcuts with
    mem_iff := fun i => by
      rw [hcuts.mem_iff, List.mem_cons, Nat.succ_le_iff]
      constructor
      · rintro ((rfl | hi) | ⟨hlt, hi⟩)
        · exact .inr ⟨le_rfl, hkept⟩
        · exact .inl hi
        · exact .inr ⟨Nat.le_of_lt hlt, hi⟩
      · rintro (hi | ⟨hle, hi⟩)
        · exact .inl (.inr hi)
        · rcases Nat.eq_or_lt_of_le hle with rfl | hlt
          · exact .inl (.inl rfl)
          · exact .inr ⟨hlt, hi⟩ }

/-- White space ends the token that is begun. -/
theorem close (hcuts : Cuts cs (n + 1) [] places) (hheld : Held cs n held) (hne : held ≠ [])
    (hgap : Gap cs n) : Cuts cs n held (held.reverse :: places) := by
  have hskipped := hcuts.skip (not_kept_of_gap hgap)
  have hlater : ∀ q ∈ places.flatten, n < q := by
    intro q hq
    rcases (hcuts.mem_iff q).1 hq with hnone | ⟨hle, -⟩
    · cases hnone
    · exact hle
  refine ⟨?_, ?_, fun i => ?_, ?_, ?_⟩
  · exact List.forall_mem_cons.2 ⟨mt List.reverse_eq_nil_iff.1 hne, hcuts.ne_nil⟩
  · rw [List.flatten_cons, List.pairwise_append]
    refine ⟨hheld.sorted_reverse, hcuts.sorted, fun p hp q hq => ?_⟩
    exact Nat.lt_trans (hheld.lt p (List.mem_reverse.1 hp)) (hlater q hq)
  · rw [List.flatten_cons, List.mem_append, List.mem_reverse, hskipped.mem_iff]
    simp
  · exact List.forall_mem_cons.2 ⟨hheld.together_reverse, hcuts.together⟩
  · refine List.pairwise_cons.2 ⟨fun later hlater' p hp q hq => ⟨n, ?_, ?_, hgap⟩, hcuts.apart⟩
    · exact hheld.lt p (List.mem_reverse.1 hp)
    · exact hlater q (List.mem_flatten.2 ⟨later, hlater', hq⟩)

/-- At the end the token that is begun is the last one. -/
theorem finish (hheld : Held cs n held) (hend : cs.length ≤ n) :
    Cuts cs n held (if held.isEmpty then [] else [held.reverse]) := by
  have hnone : ∀ i, ¬ (n ≤ i ∧ Kept cs i) :=
    fun i hi => absurd hi.2.1 (Nat.not_lt.2 (hend.trans hi.1))
  split
  · rename_i hempty
    rw [List.isEmpty_iff] at hempty
    exact ⟨nofun, .nil, fun i => by simp [hempty, hnone i], nofun, .nil⟩
  · rename_i hne
    rw [List.isEmpty_iff] at hne
    refine ⟨?_, ?_, fun i => ?_, ?_, List.pairwise_singleton _ _⟩
    · exact List.forall_mem_singleton.2 (mt List.reverse_eq_nil_iff.1 hne)
    · simpa using hheld.sorted_reverse
    · simp [hnone i]
    · exact List.forall_mem_singleton.2 hheld.together_reverse

end Cuts

theorem pick_cons {c : Char} (hhere : cs[n]? = some c) (held : List Nat) :
    pick cs (n :: held) = c :: pick cs held :=
  List.filterMap_cons_some hhere

theorem pick_reverse (cs : List Char) (held : List Nat) :
    pick cs held.reverse = (pick cs held).reverse :=
  List.filterMap_reverse

theorem isEmpty_pick (hheld : ∀ p ∈ held, Kept cs p) : (pick cs held).isEmpty = held.isEmpty := by
  cases held with
  | nil => rfl
  | cons p held =>
      rw [pick_cons (List.getElem?_eq_getElem (hheld p List.mem_cons_self).1)]
      rfl

/-- The scan follows the description: what it makes of the rest are the characters of tokens that are
cut by position. -/
theorem exists_cuts {rest : List Char} {quote : Option Char} (hrest : cs.drop n = rest)
    (hreads : Reads cs n quote) (hheld : Held cs n held) :
    ∃ places, scanTokens quote (pick cs held) rest = places.map (pick cs) ∧
      Cuts cs n held places := by
  induction rest generalizing n quote held with
  | nil =>
      refine ⟨_, ?_, Cuts.finish hheld (List.drop_eq_nil_iff.1 hrest)⟩
      rw [scanTokens, isEmpty_pick hheld.kept]
      split
      · rfl
      · rw [List.map_singleton, pick_reverse]
  | cons c rest ih =>
      have hhere : cs[n]? = some c := by
        rw [← List.head?_drop, hrest]
        rfl
      have hnext : cs.drop (n + 1) = rest := by
        rw [← List.tail_drop, hrest]
        rfl
      cases hreads with
      | outside houtside =>
          rw [scanTokens]
          split
          · rename_i hquote
            have hwithin : Within cs n (n + 1) c :=
              ⟨houtside, hhere, hquote, Nat.lt_succ_self n, fun k hnk hkn => absurd hnk (by omega)⟩
            have hgap := not_gap_of_not_isBlank hhere (not_isBlank_of_isQuote hquote)
            obtain ⟨places, hscan, hcuts⟩ := ih hnext (.within hwithin) (hheld.skip hgap)
            exact ⟨places, hscan, hcuts.skip (not_kept_of_opens ⟨houtside, c, hhere, hquote⟩)⟩
          · rename_i hquote
            have hplain := houtside.plain hhere (by simpa using hquote)
            split
            · rename_i hblank
              have hgap : Gap cs n := ⟨houtside, c, hhere, hblank⟩
              obtain ⟨places, hscan, hcuts⟩ := ih hnext (.outside hplain) (held_nil cs (n + 1))
              rw [isEmpty_pick hheld.kept]
              split
              · rename_i hempty
                obtain rfl := List.isEmpty_iff.1 hempty
                exact ⟨places, hscan, hcuts.skip (not_kept_of_gap hgap)⟩
              · rename_i hne
                refine ⟨held.reverse :: places, ?_, hcuts.close hheld (mt List.isEmpty_iff.2 hne) hgap⟩
                rw [List.map_cons, pick_reverse]
                exact congrArg _ hscan
            · rename_i hblank
              have hkept := kept_of_plain hhere (by simpa using hquote) (by simpa using hblank)
              obtain ⟨places, hscan, hcuts⟩ := ih hnext (.outside hplain) (hheld.push hkept)
              rw [pick_cons hhere] at hscan
              exact ⟨places, hscan, hcuts.push hkept⟩
      | @within i mark hwithin =>
          rw [scanTokens]
          split
          · rename_i hmark
            rw [hmark] at hhere
            have hcloses := hwithin.closes hhere
            have hshuts : Shuts cs n := ⟨i, ⟨hwithin.outside, mark, hwithin.here, hwithin.quote⟩, hcloses⟩
            have houtside := hwithin.outside.quotation hwithin.here hwithin.quote hcloses
            obtain ⟨places, hscan, hcuts⟩ := ih hnext (.outside houtside) (hheld.skip hwithin.not_gap)
            exact ⟨places, hscan, hcuts.skip (not_kept_of_shuts hshuts)⟩
          · rename_i hmark
            have hkept := hwithin.kept hhere hmark
            obtain ⟨places, hscan, hcuts⟩ := ih hnext (.within (hwithin.next hhere hmark)) (hheld.push hkept)
            rw [pick_cons hhere] at hscan
            exact ⟨places, hscan, hcuts.push hkept⟩

/-- Two kept characters are in one token iff no white space outside quotations stands between them. -/
theorem Cuts.same_token_iff (hcuts : Cuts cs n held places) {p q : Nat} (hp : p ∈ places.flatten)
    (hq : q ∈ places.flatten) (hlt : p < q) :
    (∃ token ∈ places, p ∈ token ∧ q ∈ token) ↔ ∀ k, p < k → k < q → ¬ Gap cs k := by
  constructor
  · rintro ⟨token, htoken, hptoken, hqtoken⟩
    exact hcuts.together token htoken p hptoken q hqtoken
  · intro hnone
    obtain ⟨first, hfirst, hpfirst⟩ := List.mem_flatten.1 hp
    obtain ⟨last, hlast, hqlast⟩ := List.mem_flatten.1 hq
    obtain ⟨i, hi, rfl⟩ := List.getElem_of_mem hfirst
    obtain ⟨j, hj, rfl⟩ := List.getElem_of_mem hlast
    have hapart := List.pairwise_iff_getElem.1 hcuts.apart
    rcases Nat.lt_trichotomy i j with hless | rfl | hmore
    · obtain ⟨k, hpk, hkq, hgap⟩ := hapart i j hi hj hless p hpfirst q hqlast
      exact absurd hgap (hnone k hpk hkq)
    · exact ⟨_, hfirst, hpfirst, hqlast⟩
    · obtain ⟨k, hqk, hkp, -⟩ := hapart j i hj hi hmore q hqlast p hpfirst
      exact absurd (hqk.trans hkp) (Nat.lt_asymm hlt)

theorem Cuts.eq_nil_iff (hcuts : Cuts cs n held places) :
    places = [] ↔ ∀ i, i ∉ places.flatten := by
  rw [← List.eq_nil_iff_forall_not_mem, List.flatten_eq_nil_iff]
  constructor
  · rintro rfl
    exact nofun
  · intro hempty
    refine List.eq_nil_iff_forall_not_mem.2 fun token htoken => ?_
    exact hcuts.ne_nil token htoken (hempty token htoken)

end Scan

/-! ### What a line keeps -/

theorem isEmpty_ofTokens {tokens : List String} (htokens : ∀ token ∈ tokens, token ≠ "") :
    (Invocation.ofTokens tokens).isEmpty = true ↔ tokens = [] := by
  cases tokens with
  | nil => exact ⟨fun _ => rfl, fun _ => rfl⟩
  | cons name args =>
      have hname := htokens name List.mem_cons_self
      simpa [Invocation.ofTokens, Invocation.isEmpty] using hname

theorem flatMap_ofTokens (tokens : List (List Char)) :
    let invocation := Invocation.ofTokens (tokens.map String.ofList)
    (invocation.name :: invocation.args).flatMap String.toList = tokens.flatten := by
  cases tokens with
  | nil => rfl
  | cons name args => simp [Invocation.ofTokens, List.flatMap_map, List.flatMap_id']

/-- The line without its margins and one marker is read as tokens, of which there is none iff it keeps no
character. No token is empty. Put together they are what it keeps, which is all but the marks that open or
close a quotation and the white space outside quotations, in the same order. Two characters are in one
token iff no white space outside quotations stands between them. -/
theorem tokens_keep_characters (raw marker : String) :
    ((parse raw marker).isEmpty = true ↔ ∀ i, ¬ Kept (body raw marker).toList i) ∧
    let cs := (body raw marker).toList
    let invocation := parse raw marker
    ∃ places : List (List Nat),
      let tokens := places.map fun token => String.ofList (pick cs token)
      invocation = .ofTokens tokens ∧ (∀ token ∈ tokens, token ≠ "") ∧
      (invocation.name :: invocation.args).flatMap String.toList = pick cs places.flatten ∧
      places.flatten.Pairwise (· < ·) ∧ (∀ i, i ∈ places.flatten ↔ Kept cs i) ∧
      ∀ p q, Kept cs p → Kept cs q → p < q →
        ((∃ token ∈ places, p ∈ token ∧ q ∈ token) ↔ ∀ k, p < k → k < q → ¬ Gap cs k) := by
  set cs := (body raw marker).toList
  have hstart : cs.drop 0 = cs := rfl
  obtain ⟨places, hscan, hcuts⟩ := exists_cuts hstart (.outside .start) (held_nil cs 0)
  have hmem : ∀ i, i ∈ places.flatten ↔ Kept cs i := fun i => by simp [hcuts.mem_iff]
  have hread : parse raw marker = .ofTokens ((places.map (pick cs)).map String.ofList) := by
    rw [← hscan]
    rfl
  have hne : ∀ token ∈ places.map fun token => String.ofList (pick cs token), token ≠ "" := by
    intro token htoken
    obtain ⟨token, hplaces, rfl⟩ := List.mem_map.1 htoken
    have hkept : ∀ p ∈ token, Kept cs p :=
      fun p hp => (hmem p).1 (List.mem_flatten.2 ⟨token, hplaces, hp⟩)
    rw [ne_eq, String.ofList_eq_empty_iff, ← List.isEmpty_iff, isEmpty_pick hkept, List.isEmpty_iff]
    exact hcuts.ne_nil token hplaces
  have htokens :
      parse raw marker = .ofTokens (places.map fun token => String.ofList (pick cs token)) := by
    rw [hread, List.map_map]
    rfl
  refine ⟨?_, places, htokens, hne, ?_, hcuts.sorted, hmem, ?_⟩
  · rw [htokens, isEmpty_ofTokens hne, List.map_eq_nil_iff, hcuts.eq_nil_iff]
    exact forall_congr' fun i => not_congr (hmem i)
  · rw [hread, flatMap_ofTokens, pick, List.filterMap_flatten]
    rfl
  · exact fun p q hp hq => hcuts.same_token_iff ((hmem p).2 hp) ((hmem q).2 hq)

/-- A mark holds white space and other marks, joins what stands beside it, and may be left open. -/
example : parse " /tag a\"b 'c\"'d' \"e  'f " "/" = ⟨"tag", ["ab 'cd", "e  'f"]⟩ := by decide

end Jotter.Line
