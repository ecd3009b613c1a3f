import Jotter.Console.Drawn

/-! Which texts can be drawn: those without a character that cannot stand in a document, at any place
in it. -/

namespace Jotter.Drawn

theorem drawFrom_eq_ok (width : Char → Nat) (line column : Nat) (cs : List Char) :
    (∃ drawn, drawFrom width line column cs = .ok drawn) ↔ ∀ c ∈ cs, isForbidden c = false := by
  have hmap : ∀ (came : Except Failure (List Char)) (c : Char),
      (∃ drawn, came.map (c :: ·) = .ok drawn) ↔ ∃ drawn, came = .ok drawn := by
    intro came c
    cases came with
    | error failure => exact ⟨nofun, nofun⟩
    | ok drawn => exact ⟨fun _ => ⟨drawn, rfl⟩, fun _ => ⟨c :: drawn, rfl⟩⟩
  fun_induction drawFrom width line column cs with
  | case1 => simp
  | case2 line column cs ih =>
      have hreturn : isForbidden '\r' = false ∧ isForbidden '\n' = false := by decide
      refine (hmap _ _).trans (ih.trans ?_)
      simp [hreturn]
  | case3 line column c cs _ hbreak ih =>
      have hbreak : isForbidden c = false := by
        rcases (by simpa using hbreak : c = '\n' ∨ c = '\r') with rfl | rfl <;> decide
      refine (hmap _ _).trans (ih.trans ?_)
      simp [hbreak]
  | case4 line column c cs _ _ hforbidden => simp [hforbidden]
  | case5 line column c cs _ _ hforbidden ih =>
      refine (hmap _ _).trans (ih.trans ?_)
      simp [hforbidden]

theorem draw_eq_ok (quotesSingle : Bool) (column : Nat) (text : String) :
    (∃ drawn, draw quotesSingle column text = .ok drawn) ↔
      ∀ c ∈ text.toList, isForbidden c = false := by
  rw [← drawFrom_eq_ok (width quotesSingle) 1 column, draw]
  cases drawFrom (width quotesSingle) 1 column text.toList with
  | error failure => exact ⟨nofun, nofun⟩
  | ok drawn => exact ⟨fun _ => ⟨drawn, rfl⟩, fun _ => ⟨_, rfl⟩⟩

end Jotter.Drawn
