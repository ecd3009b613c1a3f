import Jotter.Proofs.Settings.Pattern
import Jotter.Proofs.Settings.Shape
import Mathlib.Data.List.TakeWhile

/-! What becomes of the references in a text. References have a grammar, and a text is gone through from left
to right by it: a reference gives the value of its variable, or else its fallback, or else itself, and any
other character stays. The reader of references takes exactly what the grammar allows, and so does the
pattern. -/

namespace Jotter

namespace Reference

/-- Whether a reference can be written: a name in braces is not empty and holds neither a closing brace nor a
colon, a fallback holds neither a closing brace nor a line feed, and a name without braces is an ASCII
identifier. -/
def IsLegal : Reference → Prop
  | bare initial others => isInitial initial = true ∧ ∀ c ∈ others, isContinuing c = true
  | braced name fallback =>
    name ≠ [] ∧ (∀ c ∈ name, c ≠ '\x7d' ∧ c ≠ ':') ∧ ∀ run ∈ fallback, ∀ c ∈ run, c ≠ '\x7d' ∧ c ≠ '\n'

/-- Whether a text goes on in such a way that a reference before it has ended: an identifier is as long as it
can be. -/
def IsEnded : Reference → List Char → Prop
  | bare _ _, rest => ∀ c ∈ rest.head?, isContinuing c = false
  | braced _ _, _ => True

/-- A reference at the beginning of a text, and what is left behind it. -/
structure Begins (found : Reference) (cs rest : List Char) : Prop where
  source_eq : cs = found.source ++ rest
  legal : found.IsLegal
  ended : found.IsEnded rest

/-- No reference begins a text. -/
def NoneBegins (cs : List Char) : Prop :=
  ∀ found rest, ¬ Begins found cs rest

/-! ### Reading -/

theorem isInside_iff {c : Char} : isInside c = true ↔ c ≠ '\x7d' ∧ c ≠ ':' := by
  simp [isInside]

theorem isFallback_iff {c : Char} : isFallback c = true ↔ c ≠ '\x7d' ∧ c ≠ '\n' := by
  simp [isFallback]

theorem span_append {p : Char → Bool} {run : List Char} (hrun : ∀ c ∈ run, p c = true)
    (rest : List Char) (hrest : ∀ c ∈ rest.head?, p c = false) :
    (run ++ rest).takeWhile p = run ∧ (run ++ rest).dropWhile p = rest := by
  rw [List.takeWhile_append_of_pos hrun, List.dropWhile_append_of_pos hrun]
  cases rest with
  | nil => exact ⟨List.append_nil run, rfl⟩
  | cons c rest =>
      have hc : ¬ p c = true := by simp [hrest c rfl]
      rw [List.takeWhile_cons_of_neg hc, List.dropWhile_cons_of_neg hc, List.append_nil]
      exact ⟨rfl, rfl⟩

theorem legal_of_readEnd? {name cs rest : List Char} {found : Reference} (hname : name ≠ [])
    (hinside : ∀ c ∈ name, isInside c = true) (hread : readEnd? name cs = some (found, rest)) :
    found.IsLegal ∧ found.IsEnded rest := by
  have hfree : ∀ c ∈ name, c ≠ '\x7d' ∧ c ≠ ':' := fun c hc => isInside_iff.1 (hinside c hc)
  unfold readEnd? at hread
  split at hread
  · obtain ⟨rfl, rfl⟩ := hread
    exact ⟨⟨hname, hfree, nofun⟩, trivial⟩
  · split at hread
    · obtain ⟨rfl, rfl⟩ := hread
      refine ⟨⟨hname, hfree, ?_⟩, trivial⟩
      rintro run ⟨⟩ c hc
      exact isFallback_iff.1 (List.mem_takeWhile_imp hc)
    · cases hread
  · cases hread

/-- What the reader takes is a reference, in the grammar, at the beginning. -/
theorem begins_of_read? {cs rest : List Char} {found : Reference} (hread : read? cs = some (found, rest)) :
    found.Begins ('$' :: cs) rest := by
  have hsource := source_of_read? hread
  suffices hlegal : found.IsLegal ∧ found.IsEnded rest from ⟨hsource, hlegal.1, hlegal.2⟩
  unfold read? at hread
  split at hread
  · cases hread
  · rename_i tail
    dsimp only at hread
    split at hread
    · cases hread
    · rename_i hname
      exact legal_of_readEnd? (by simpa using hname) (fun c hc => List.mem_takeWhile_imp hc) hread
  · rename_i c tail _
    split at hread
    · rename_i hinitial
      obtain ⟨rfl, rfl⟩ := hread
      refine ⟨⟨hinitial, fun d hd => List.mem_takeWhile_imp hd⟩, fun d hd => ?_⟩
      have hstop := List.head?_dropWhile_not isContinuing tail
      rw [hd] at hstop
      simpa using hstop
    · cases hread

theorem read?_of_begins {cs rest : List Char} {found : Reference} (hbegins : found.Begins ('$' :: cs) rest) :
    read? cs = some (found, rest) := by
  obtain ⟨hsource, hlegal, hended⟩ := hbegins
  cases found with
  | bare initial others =>
      obtain ⟨hinitial, hothers⟩ := hlegal
      obtain rfl : cs = initial :: (others ++ rest) := (List.cons.inj hsource).2
      obtain ⟨hrun, hrest⟩ := span_append hothers rest hended
      rw [read?, if_pos hinitial, hrun, hrest]
      rintro rfl
      exact absurd hinitial (by decide)
  | braced name fallback =>
      obtain ⟨hname, hfree, hfallback⟩ := hlegal
      have hinside : ∀ c ∈ name, isInside c = true := fun c hc => isInside_iff.2 (hfree c hc)
      cases fallback with
      | none =>
          obtain rfl : cs = '\x7b' :: (name ++ '\x7d' :: rest) := by simpa [source] using hsource
          obtain ⟨hrun, hrest⟩ := span_append hinside ('\x7d' :: rest) (by simp [isInside])
          rw [read?, hrun, hrest]
          simp [hname, readEnd?]
      | some run =>
          obtain rfl : cs = '\x7b' :: (name ++ ':' :: '-' :: (run ++ '\x7d' :: rest)) := by
            simpa [source] using hsource
          have hgo : ∀ c ∈ run, isFallback c = true := fun c hc => isFallback_iff.2 (hfallback run rfl c hc)
          obtain ⟨hword, hbehind⟩ :=
            span_append hinside (':' :: '-' :: (run ++ '\x7d' :: rest)) (by simp [isInside])
          obtain ⟨hrun, hrest⟩ := span_append hgo ('\x7d' :: rest) (by simp [isFallback])
          rw [read?, hword, hbehind]
          simp [hname, readEnd?, hrun, hrest]

/-- A reference begins a text iff the text begins with a dollar sign and the reader takes the reference
behind it. -/
theorem begins_iff {cs rest : List Char} {found : Reference} :
    found.Begins cs rest ↔ ∃ behind, cs = '$' :: behind ∧ read? behind = some (found, rest) := by
  constructor
  · intro hbegins
    have hdollar : ∃ behind, found.source ++ rest = '$' :: behind := by
      rcases found with ⟨initial, others⟩ | ⟨name, _ | fallback⟩ <;> exact ⟨_, rfl⟩
    obtain ⟨behind, hbehind⟩ := hdollar
    obtain rfl : cs = '$' :: behind := hbegins.source_eq.trans hbehind
    exact ⟨behind, rfl, read?_of_begins hbegins⟩
  · rintro ⟨behind, rfl, hread⟩
    exact begins_of_read? hread

theorem Begins.unique {cs rest other : List Char} {found second : Reference} (hfound : found.Begins cs rest)
    (hsecond : second.Begins cs other) : found = second ∧ rest = other := by
  obtain ⟨behind, rfl, hread⟩ := begins_iff.1 hfound
  obtain ⟨_, hbehind, hagain⟩ := begins_iff.1 hsecond
  obtain rfl := (List.cons.inj hbehind).2
  rw [hread, Option.some.injEq, Prod.mk.injEq] at hagain
  exact hagain

end Reference

/-! ### The scan -/

/-- What becomes of a text, read from left to right. At each place a reference that begins there gives the
value of its variable, if the variable is set, or else its fallback, if it has one, or else what it is written
as, and the scan goes on behind it; any other character stays. -/
inductive Substituted (environment : Environment) : List Char → List Char → Prop
  | nil : Substituted environment [] []
  | value {cs rest out : List Char} {found : Reference} {value : String} (hfound : found.Begins cs rest)
      (hvalue : environment.value? (.ofList found.name) = some value)
      (hrest : Substituted environment rest out) : Substituted environment cs (value.toList ++ out)
  | fallback {cs rest out run : List Char} {found : Reference} (hfound : found.Begins cs rest)
      (hunset : environment.value? (.ofList found.name) = none) (hfallback : found.fallback? = some run)
      (hrest : Substituted environment rest out) : Substituted environment cs (run ++ out)
  | written {cs rest out run : List Char} {found : Reference} (hfound : found.Begins cs rest)
      (hunset : environment.value? (.ofList found.name) = none) (hfallback : found.fallback? = none)
      (hrun : cs = run ++ rest) (hrest : Substituted environment rest out) :
      Substituted environment cs (run ++ out)
  | character {c : Char} {cs out : List Char} (hnone : Reference.NoneBegins (c :: cs))
      (hrest : Substituted environment cs out) : Substituted environment (c :: cs) (c :: out)

/-- The references that the scan takes. -/
inductive Taken : List Char → Reference → Prop
  | here {cs rest : List Char} {found : Reference} (hfound : found.Begins cs rest) : Taken cs found
  | behind {cs rest : List Char} {found other : Reference} (hother : other.Begins cs rest)
      (hfound : Taken rest found) : Taken cs found
  | later {c : Char} {cs : List Char} {found : Reference}
      (hnone : Reference.NoneBegins (c :: cs)) (hfound : Taken cs found) : Taken (c :: cs) found

namespace Piece

theorem all_of_begins {cs rest : List Char} {found : Reference} (hfound : found.Begins cs rest) :
    all cs = reference found :: all rest := by
  obtain ⟨behind, rfl, hread⟩ := Reference.begins_iff.1 hfound
  rw [all, if_pos rfl]
  split
  · rename_i other left hother
    rw [hread, Option.some.injEq, Prod.mk.injEq] at hother
    obtain ⟨rfl, rfl⟩ := hother
    rfl
  · rename_i hnone
    rw [hread] at hnone
    cases hnone

theorem all_of_not_begins {c : Char} {cs : List Char} (hnone : Reference.NoneBegins (c :: cs)) :
    all (c :: cs) = character c :: all cs := by
  rw [all]
  split
  · rename_i hdollar
    subst hdollar
    split
    · rename_i found rest hread
      exact absurd (Reference.begins_of_read? hread) (hnone found rest)
    · rfl
  · rfl

/-- To show something of all texts, show it of the empty one, of one that a reference begins if it holds of
what is behind it, and of any other one if it holds of it without its first character. -/
theorem scanInduction {motive : List Char → Prop} (nil : motive [])
    (reference : ∀ cs rest found, Reference.Begins found cs rest → motive rest → motive cs)
    (character : ∀ c cs, Reference.NoneBegins (c :: cs) → motive cs →
      motive (c :: cs)) (cs : List Char) : motive cs := by
  fun_induction all cs with
  | case1 => exact nil
  | case2 cs found rest hread _ ih => exact reference _ rest found (Reference.begins_of_read? hread) ih
  | case3 cs hread ih =>
      refine character _ cs (fun found rest hbegins => ?_) ih
      rw [Reference.read?_of_begins hbegins] at hread
      cases hread
  | case4 c cs hdollar ih =>
      refine character c cs (fun found rest hbegins => ?_) ih
      obtain ⟨behind, hbehind, -⟩ := Reference.begins_iff.1 hbegins
      exact hdollar (List.cons.inj hbehind).1

theorem taken_of_mem_all {cs : List Char} {found : Reference} (hfound : reference found ∈ all cs) :
    Taken cs found := by
  induction cs using scanInduction with
  | nil =>
      rw [all] at hfound
      cases hfound
  | reference cs rest other hother ih =>
      rw [all_of_begins hother, List.mem_cons] at hfound
      rcases hfound with hsame | hbehind
      · cases hsame
        exact .here hother
      · exact .behind hother (ih hbehind)
  | character c cs hnone ih =>
      rw [all_of_not_begins hnone, List.mem_cons] at hfound
      exact .later hnone (ih (hfound.resolve_left Piece.noConfusion))

theorem mem_all_of_taken {cs : List Char} {found : Reference} (hfound : Taken cs found) :
    reference found ∈ all cs := by
  induction hfound with
  | here hfound =>
      rw [all_of_begins hfound]
      exact List.mem_cons_self
  | behind hother _ ih =>
      rw [all_of_begins hother]
      exact List.mem_cons_of_mem _ ih
  | later hnone _ ih =>
      rw [all_of_not_begins hnone]
      exact List.mem_cons_of_mem _ ih

end Piece

/-! ### Texts and values -/

/-- The scan comes to one result, and it is that of the pieces. -/
theorem substituted_iff {environment : Environment} {cs out : List Char} :
    Substituted environment cs out ↔ out = (Piece.all cs).flatMap (·.resolve environment) := by
  constructor
  · intro hscan
    induction hscan with
    | nil =>
        rw [Piece.all]
        rfl
    | value hfound hvalue _ ih =>
        rw [Piece.all_of_begins hfound, List.flatMap_cons, ← ih, Piece.resolve, Reference.resolve, hvalue]
    | fallback hfound hunset hfallback _ ih =>
        rw [Piece.all_of_begins hfound, List.flatMap_cons, ← ih, Piece.resolve, Reference.resolve, hunset,
          hfallback]
    | written hfound hunset hfallback hrun _ ih =>
        rw [Piece.all_of_begins hfound, List.flatMap_cons, ← ih, Piece.resolve, Reference.resolve, hunset,
          hfallback, List.append_cancel_right (hrun.symm.trans hfound.source_eq)]
    | character hnone _ ih =>
        rw [Piece.all_of_not_begins hnone, List.flatMap_cons, ← ih]
        rfl
  · rintro rfl
    induction cs using Piece.scanInduction with
    | nil =>
        rw [Piece.all]
        exact .nil
    | reference cs rest found hfound ih =>
        rw [Piece.all_of_begins hfound, List.flatMap_cons, Piece.resolve, Reference.resolve]
        cases hvalue : environment.value? (.ofList found.name) with
        | some value => exact .value hfound hvalue ih
        | none =>
            cases hfallback : found.fallback? with
            | some run => exact .fallback hfound hvalue hfallback ih
            | none => exact .written hfound hvalue hfallback hfound.source_eq ih
    | character c cs hnone ih =>
        rw [Piece.all_of_not_begins hnone, List.flatMap_cons]
        exact .character hnone ih

/-- References of which none stands for anything are left as they are. -/
theorem expand_of_taken {environment : Environment} {text : String}
    (htext : ∀ found, Taken text.toList found →
      environment.value? (.ofList found.name) = none ∧ found.fallback? = none) :
    environment.expand text = text := by
  have hpieces : ∀ piece ∈ Piece.all text.toList, piece.resolve environment = piece.source := by
    intro piece hpiece
    cases piece with
    | character c => rfl
    | reference found =>
        obtain ⟨hunset, hfallback⟩ := htext found (Piece.taken_of_mem_all hpiece)
        rw [Piece.resolve, Reference.resolve, hunset, hfallback]
        rfl
  rw [Environment.expand, List.flatMap_congr hpieces, Piece.flatMap_source_all, String.ofList_toList]

/-- A reference that the scan takes begins with a dollar sign in the text. -/
theorem dollar_mem_of_taken {cs : List Char} {found : Reference} (hfound : Taken cs found) : '$' ∈ cs := by
  induction hfound with
  | here hfound =>
      obtain ⟨behind, rfl, -⟩ := Reference.begins_iff.1 hfound
      exact List.mem_cons_self
  | behind hother _ _ =>
      obtain ⟨behind, rfl, -⟩ := Reference.begins_iff.1 hother
      exact List.mem_cons_self
  | later _ _ ih => exact List.mem_cons_of_mem _ ih

/-- References are resolved once, in texts and nowhere else. A value keeps its shape, and looking something up
in it can come before or after. The preferred match of the pattern at the beginning of a text is the reference
that begins the text by the grammar, and a text becomes what the scan comes to, and nothing else. A text
without a dollar sign stays as it is, and so does one whose references have neither a value nor a fallback. -/
theorem references_are_resolved_once (environment : Environment) :
    (∀ value : Setting, Setting.SameShape value (value.expand environment) ∧
      ∀ steps, (value.expand environment).follow? steps =
        (value.follow? steps).map (·.expand environment)) ∧
    (∀ cs found rest, (Reference.pattern cs).head? = some (found, rest) ↔ found.Begins cs rest) ∧
    (∀ text : String, (Setting.text text).expand environment = .text (environment.expand text) ∧
      ∀ out, Substituted environment text.toList out ↔ out = (environment.expand text).toList) ∧
    (∀ text : String, '$' ∉ text.toList → environment.expand text = text) ∧
    ∀ text : String, (∀ found, Taken text.toList found →
        environment.value? (.ofList found.name) = none ∧ found.fallback? = none) →
      environment.expand text = text := by
  refine ⟨fun value => ⟨Setting.sameShape_expand environment value, Setting.follow?_expand environment value⟩,
    fun cs found rest => Reference.head?_pattern_eq_some.trans Reference.begins_iff.symm,
    fun text => ⟨rfl, fun out => ?_⟩, fun text hdollar => ?_, fun text => expand_of_taken⟩
  · rw [substituted_iff, Environment.expand, String.toList_ofList]
  · exact expand_of_taken fun found hfound => absurd (dollar_mem_of_taken hfound) hdollar

/-- A value that looks like a reference stays, an unset variable gives the fallback up to the first closing
brace, and what is no reference or stands for nothing is left. -/
theorem home_is_resolved_once :
    let environment : Environment := ⟨[("HOME", "/h$HOME")]⟩
    Substituted environment "$HOME$\x7bA:-b$\x7bC\x7d\x7d".toList "/h$HOMEb$\x7bC\x7d".toList ∧
      '$' ∉ "\x7bHOME\x7d".toList ∧ environment.expand "\x7bHOME\x7d" = "\x7bHOME\x7d" ∧
        Taken "$1 $A_$\x7bB:c\x7d".toList (.bare 'A' ['_']) ∧
          environment.expand "$1 $A_$\x7bB:c\x7d" = "$1 $A_$\x7bB:c\x7d" := by
  intro environment
  obtain ⟨-, -, hscan, hplain, hunset⟩ := references_are_resolved_once environment
  have hdollar : '$' ∉ "\x7bHOME\x7d".toList := by simp
  have hpieces : Piece.all "$1 $A_$\x7bB:c\x7d".toList =
      [.character '$', .character '1', .character ' ', .reference (.bare 'A' ['_']), .character '$',
        .character '\x7b', .character 'B', .character ':', .character 'c', .character '\x7d'] := by
    decide +kernel
  have hknown : environment.expand "$HOME$\x7bA:-b$\x7bC\x7d\x7d" = "/h$HOMEb$\x7bC\x7d" := by
    decide +kernel
  refine ⟨(hscan _).2 _ |>.2 (congrArg String.toList hknown).symm, hdollar, hplain _ hdollar,
    Piece.taken_of_mem_all (by rw [hpieces]; simp), hunset _ fun found hfound => ?_⟩
  have hmem := Piece.mem_all_of_taken hfound
  rw [hpieces] at hmem
  obtain rfl : found = .bare 'A' ['_'] := by simpa using hmem
  exact ⟨rfl, rfl⟩

end Jotter
