import Jotter.Settings.Reference

/-! References as a pattern finds them. A pattern lists all its matches at the beginning of a text, the
preferred one first, so that a part that does not fit makes it fall back on the next match of what is before
it. The preferred match of the pattern for references is what the reader of references takes, which never
falls back. -/

namespace Jotter

/-- The matches of a pattern at the beginning of a text, the preferred one first, each with what it captures
and what it leaves. -/
abbrev Pattern (α : Type) := List Char → List (α × List Char)

namespace Pattern

variable {α β : Type}

/-- One character of a class. -/
def one (p : Char → Bool) : Pattern Char
  | [] => []
  | c :: cs => if p c then [(c, cs)] else []

/-- Characters of a class, rather more than fewer of them. -/
def longest (p : Char → Bool) : Pattern (List Char)
  | [] => [([], [])]
  | c :: cs =>
    (if p c then (longest p cs).map fun (run, rest) => (c :: run, rest) else []) ++ [([], c :: cs)]

/-- Characters of a class, rather fewer than more of them. -/
def shortest (p : Char → Bool) : Pattern (List Char)
  | [] => [([], [])]
  | c :: cs =>
    ([], c :: cs) :: if p c then (shortest p cs).map fun (run, rest) => (c :: run, rest) else []

/-- A pattern and another one behind it. -/
def andThen (first : Pattern α) (next : α → Pattern β) : Pattern β :=
  fun cs => (first cs).flatMap fun (a, rest) => next a rest

/-- A pattern or, rather not, another one. -/
def orElse (first second : Pattern α) : Pattern α :=
  fun cs => first cs ++ second cs

/-- Nothing, with something captured. -/
def succeed (a : α) : Pattern α :=
  fun cs => [(a, cs)]

/-- Rather a pattern than nothing. -/
def optionally (first : Pattern α) : Pattern (Option α) :=
  (first.andThen fun a => succeed (some a)).orElse (succeed none)

/-- One certain character. -/
def sign (c : Char) : Pattern Char :=
  one (· == c)

/-! ### Matches -/

theorem one_andThen_of_pos {p : Char → Bool} {c : Char} (hc : p c = true) (next : Char → Pattern β)
    (cs : List Char) : (one p).andThen next (c :: cs) = next c cs := by
  simp [andThen, one, hc]

theorem one_andThen_of_neg {p : Char → Bool} {cs : List Char} (hcs : ∀ c ∈ cs.head?, p c = false)
    (next : Char → Pattern β) : (one p).andThen next cs = [] := by
  cases cs with
  | nil => rfl
  | cons c cs => simp [andThen, one, hcs c rfl]

theorem sign_andThen_self (c : Char) (next : Char → Pattern β) (cs : List Char) :
    (sign c).andThen next (c :: cs) = next c cs :=
  one_andThen_of_pos (beq_self_eq_true c) next cs

theorem sign_andThen_of_ne {c : Char} {cs : List Char} (hcs : ∀ d ∈ cs.head?, d ≠ c)
    (next : Char → Pattern β) : (sign c).andThen next cs = [] :=
  one_andThen_of_neg (fun d hd => beq_false_of_ne (hcs d hd)) next

/-- The longest run comes first, and behind each other one stands a character of the class. -/
theorem longest_eq (p : Char → Bool) (cs : List Char) :
    ∃ shorter, longest p cs = (cs.takeWhile p, cs.dropWhile p) :: shorter ∧
      ∀ cut ∈ shorter, ∃ c rest, cut.2 = c :: rest ∧ p c = true := by
  induction cs with
  | nil => exact ⟨[], rfl, nofun⟩
  | cons c cs ih =>
      obtain ⟨shorter, hlongest, hshorter⟩ := ih
      cases hc : p c with
      | true =>
          refine ⟨shorter.map (fun (run, rest) => (c :: run, rest)) ++ [([], c :: cs)], ?_, ?_⟩
          · rw [longest, if_pos hc, hlongest, List.takeWhile_cons_of_pos hc, List.dropWhile_cons_of_pos hc]
            rfl
          · intro cut hcut
            rcases List.mem_append.1 hcut with hlonger | hnone
            · obtain ⟨other, hother, rfl⟩ := List.mem_map.1 hlonger
              exact hshorter other hother
            · rw [List.mem_singleton.1 hnone]
              exact ⟨c, cs, rfl, hc⟩
      | false =>
          refine ⟨[], ?_, nofun⟩
          have hstop : ¬ p c = true := by simp [hc]
          rw [longest, hc, List.takeWhile_cons_of_neg hstop, List.dropWhile_cons_of_neg hstop]
          rfl

/-- What cannot begin with a character of the class never makes a run of it shorter. -/
theorem longest_andThen (p : Char → Bool) {next : List Char → Pattern β}
    (hnext : ∀ run c rest, p c = true → next run (c :: rest) = []) (cs : List Char) :
    (longest p).andThen next cs = next (cs.takeWhile p) (cs.dropWhile p) := by
  obtain ⟨shorter, hlongest, hshorter⟩ := longest_eq p cs
  have hnone : shorter.flatMap (fun (run, rest) => next run rest) = [] := by
    rw [List.flatMap_eq_nil_iff]
    rintro ⟨run, behind⟩ hcut
    obtain ⟨c, rest, rfl, hc⟩ := hshorter _ hcut
    exact hnext run c rest hc
  rw [andThen, hlongest, List.flatMap_cons, hnone, List.append_nil]

theorem head?_longest_andThen_succeed (p : Char → Bool) (f : List Char → β) (cs : List Char) :
    ((longest p).andThen (fun run => succeed (f run)) cs).head? =
      some (f (cs.takeWhile p), cs.dropWhile p) := by
  obtain ⟨shorter, hlongest, -⟩ := longest_eq p cs
  rw [andThen, hlongest]
  rfl

/-- The shortest run up to a sign ends at the first one. `q` tells where the run can go on. -/
theorem head?_shortest_andThen {p q : Char → Bool} {c : Char} (hq : ∀ d, q d = (d != c && p d))
    (f : List Char → β) (cs : List Char) :
    ((shortest p).andThen (fun run => (sign c).andThen fun _ => succeed (f run)) cs).head? =
      match cs.dropWhile q with
      | d :: rest => if d = c then some (f (cs.takeWhile q), rest) else none
      | [] => none := by
  induction cs generalizing f with
  | nil => rfl
  | cons d cs ih =>
      have hsplit : (shortest p).andThen (fun run => (sign c).andThen fun _ => succeed (f run)) (d :: cs) =
          (sign c).andThen (fun _ => succeed (f [])) (d :: cs) ++
            if p d then (shortest p).andThen
              (fun run => (sign c).andThen fun _ => succeed (f (d :: run))) cs else [] := by
        rw [andThen, shortest, List.flatMap_cons]
        congr 1
        split
        · rw [List.flatMap_map]
          rfl
        · rfl
      rw [hsplit]
      by_cases hc : d = c
      · have hstop : q d = false := by simp [hq, hc]
        rw [List.dropWhile_cons_of_neg (by simp [hstop]), List.takeWhile_cons_of_neg (by simp [hstop]), hc,
          sign_andThen_self]
        simp [succeed]
      · rw [sign_andThen_of_ne (by simpa using hc), List.nil_append]
        cases hp : p d with
        | false =>
            have hstop : q d = false := by simp [hq, hp]
            rw [List.dropWhile_cons_of_neg (by simp [hstop])]
            simp [hc]
        | true =>
            have hmore : q d = true := by simp [hq, hc, hp]
            rw [if_pos rfl, ih, List.dropWhile_cons_of_pos hmore, List.takeWhile_cons_of_pos hmore]

theorem andThen_assoc {γ : Type} (first : Pattern α) (next : α → Pattern β) (last : β → Pattern γ) :
    (first.andThen next).andThen last = first.andThen fun a => (next a).andThen last := by
  funext cs
  simp [andThen, List.flatMap_assoc]

theorem optionally_andThen (first : Pattern α) (next : Option α → Pattern β) (cs : List Char) :
    (optionally first).andThen next cs = first.andThen (fun a => next (some a)) cs ++ next none cs := by
  simp [optionally, andThen, orElse, succeed, List.flatMap_assoc]

end Pattern

namespace Reference

open Pattern

/-- A name in braces is closed, perhaps with a fallback before. -/
def closing (name : List Char) : Pattern Reference :=
  (optionally ((sign ':').andThen fun _ => (sign '-').andThen fun _ => shortest (· != '\n'))).andThen
    fun fallback => (sign '\x7d').andThen fun _ => succeed (braced name fallback)

/-- The pattern of references: `${NAME}` or `${NAME:-FALLBACK}`, or else `$NAME`. -/
def pattern : Pattern Reference :=
  ((sign '$').andThen fun _ => (sign '\x7b').andThen fun _ => (one isInside).andThen fun c =>
      (longest isInside).andThen fun others => closing (c :: others)).orElse
    ((sign '$').andThen fun _ => (one isInitial).andThen fun c =>
      (longest isContinuing).andThen fun others => succeed (bare c others))

theorem closing_eq (name cs : List Char) :
    closing name cs =
      (sign ':').andThen (fun _ => (sign '-').andThen fun _ => (shortest (· != '\n')).andThen fun run =>
          (sign '\x7d').andThen fun _ => succeed (braced name (some run))) cs ++
        (sign '\x7d').andThen (fun _ => succeed (braced name none)) cs := by
  rw [closing, optionally_andThen, andThen_assoc]
  simp only [andThen_assoc]

theorem closing_cons_of_isInside (name : List Char) {c : Char} (hc : isInside c = true) (rest : List Char) :
    closing name (c :: rest) = [] := by
  rw [isInside, Bool.and_eq_true, bne_iff_ne, bne_iff_ne] at hc
  rw [closing_eq, sign_andThen_of_ne (by simpa using hc.2), sign_andThen_of_ne (by simpa using hc.1)]
  rfl

theorem head?_closing (name cs : List Char) : (closing name cs).head? = readEnd? name cs := by
  rw [closing_eq]
  cases cs with
  | nil => rfl
  | cons c cs =>
      by_cases hclose : c = '\x7d'
      · subst hclose
        rw [sign_andThen_of_ne (by simp), sign_andThen_self]
        rfl
      · rw [sign_andThen_of_ne (c := '\x7d') (by simpa using hclose), List.append_nil]
        by_cases hcolon : c = ':'
        · subst hcolon
          rw [sign_andThen_self]
          cases cs with
          | nil => rfl
          | cons d cs =>
              by_cases hhyphen : d = '-'
              · subst hhyphen
                rw [sign_andThen_self, head?_shortest_andThen (q := isFallback) fun _ => rfl, readEnd?]
                cases cs.dropWhile isFallback with
                | nil => rfl
                | cons e rest => by_cases he : e = '\x7d' <;> simp [he]
              · rw [sign_andThen_of_ne (by simpa using hhyphen)]
                simp [readEnd?, hhyphen]
        · rw [sign_andThen_of_ne (by simpa using hcolon)]
          simp [readEnd?, hclose, hcolon]

/-- The preferred match of the pattern is what the reader takes behind a dollar sign. -/
theorem head?_pattern_dollar (cs : List Char) : (pattern ('$' :: cs)).head? = read? cs := by
  rw [pattern, orElse, sign_andThen_self, sign_andThen_self]
  cases cs with
  | nil => rfl
  | cons c cs =>
      by_cases hbrace : c = '\x7b'
      · subst hbrace
        have hbare : (one isInitial).andThen (fun c => (longest isContinuing).andThen fun others =>
            succeed (bare c others)) ('\x7b' :: cs) = [] := rfl
        rw [hbare, List.append_nil, sign_andThen_self, read?]
        cases cs with
        | nil => rfl
        | cons d cs =>
            cases hd : isInside d with
            | true =>
                rw [List.takeWhile_cons_of_pos hd, List.dropWhile_cons_of_pos hd]
                rw [one_andThen_of_pos hd,
                  longest_andThen isInside fun run e rest he => closing_cons_of_isInside _ he rest,
                  head?_closing]
                rfl
            | false =>
                rw [List.takeWhile_cons_of_neg (by simp [hd]), one_andThen_of_neg (by simpa using hd)]
                rfl
      · rw [sign_andThen_of_ne (by simpa using hbrace), List.nil_append, read?]
        · cases hc : isInitial c with
          | true =>
              rw [one_andThen_of_pos hc, head?_longest_andThen_succeed]
              rfl
          | false =>
              rw [one_andThen_of_neg (by simpa using hc)]
              rfl
        · simpa using hbrace

theorem head?_pattern_eq_some {cs : List Char} {found : Reference} {rest : List Char} :
    (pattern cs).head? = some (found, rest) ↔
      ∃ behind, cs = '$' :: behind ∧ read? behind = some (found, rest) := by
  cases cs with
  | nil => simp [pattern, orElse, andThen, sign, one]
  | cons c cs =>
      by_cases hdollar : c = '$'
      · subst hdollar
        rw [head?_pattern_dollar]
        simp
      · rw [pattern, orElse, sign_andThen_of_ne (by simpa using hdollar),
          sign_andThen_of_ne (by simpa using hdollar)]
        simp [hdollar]

end Reference

end Jotter
