import Mathlib.Data.List.Nodup
import Mathlib.Data.List.Intervals
import Jotter.Vault

/-! How a vault grows. Whatever calls change a vault, notes and reminders are only added at the end, and
one counter numbers them: from one moment to a later one each number in between is given once, to a note
or to a reminder, and those of the notes increase, as do those of the reminders. So no two of them share
an identifier. -/

namespace Jotter.Vault

/-! ### Changes -/

/-- A call that changes a vault. -/
inductive Change where
  | notebook (label : Setting)
  | activate (id : Setting)
  | note (now : Moment) (notebook : Setting) (content : String)
  | reminder (message : String) (dueAt : Int) (notebook : Setting)

def Change.isNote : Change → Bool
  | note _ _ _ => true
  | _ => false

/-- The vault after a call, which is the same one if the call fails. -/
def change (vault : Vault) : Change → Vault
  | .notebook label => vault.addNotebook label
  | .activate id =>
    match vault.setActive id with
    | .ok changed => changed
    | .error _ => vault
  | .note now notebook content => (vault.addNote now notebook content).2
  | .reminder message dueAt notebook => (vault.addReminder message dueAt notebook).2

def run (vault : Vault) (changes : List Change) : Vault :=
  changes.foldl change vault

theorem run_append (vault : Vault) (first second : List Change) :
    vault.run (first ++ second) = (vault.run first).run second :=
  List.foldl_append

/-- Making a notebook the active one changes nothing else. -/
theorem setActive_eq_ok {vault changed : Vault} {id : Setting} :
    vault.setActive id = .ok changed ↔
      vault.notebooks.any (·.id.sameAs id) = true ∧ changed = { vault with active := id } := by
  rw [setActive]
  split
  · rename_i hknown
    rw [Except.ok.injEq, eq_comm]
    exact (and_iff_right hknown).symm
  · rename_i hknown
    exact ⟨nofun, fun h => absurd h.1 hknown⟩

/-- A new vault holds no notes and no reminders, and no notebook is active. -/
theorem withNotebooks_eq (labels : List Setting) :
    ∃ notebooks, withNotebooks labels = { notebooks := notebooks } := by
  have hfold : ∀ vault : Vault, ∃ notebooks,
      labels.foldl addNotebook vault = { vault with notebooks := notebooks } := by
    induction labels with
    | nil => exact fun vault => ⟨vault.notebooks, rfl⟩
    | cons label labels ih => exact fun vault => ih (vault.addNotebook label)
  exact hfold {}

/-! ### Numbers -/

/-- The identifier of the note with a number. -/
def noteId (number : Nat) : String :=
  "note-" ++ toString number

/-- The identifier of the reminder with a number. -/
def reminderId (number : Nat) : String :=
  "reminder-" ++ toString number

theorem toString_injective : Function.Injective (toString : Nat → String) := by
  intro m n h
  have hdigits : Nat.toDigits 10 m = Nat.toDigits 10 n := by
    change m.repr = n.repr at h
    rwa [Nat.repr_eq_ofList_toDigits, Nat.repr_eq_ofList_toDigits, String.ofList_inj] at h
  rw [← Nat.ofDigitChars_toDigits (n := m) (by decide : 1 < 10) le_rfl, hdigits,
    Nat.ofDigitChars_toDigits (by decide) le_rfl]

theorem noteId_injective : Function.Injective noteId :=
  fun _ _ h => toString_injective ((String.append_right_inj _).1 h)

theorem reminderId_injective : Function.Injective reminderId :=
  fun _ _ h => toString_injective ((String.append_right_inj _).1 h)

theorem noteId_ne_reminderId (m n : Nat) : noteId m ≠ reminderId n := by
  intro h
  have hhead := congrArg (·.toList.head?) h
  simp [noteId, reminderId] at hhead

/-- Notes and reminders with their numbers, which are all the numbers from `first` up to `next`, each
given once and in order. -/
structure Numbered (first next : Nat) (notes : List Note) (reminders : List Reminder)
    (noteNumbers reminderNumbers : List Nat) : Prop where
  le : first ≤ next
  notes_eq : notes.map (·.id) = noteNumbers.map noteId
  reminders_eq : reminders.map (·.id) = reminderNumbers.map reminderId
  notes_lt : noteNumbers.Pairwise (· < ·)
  reminders_lt : reminderNumbers.Pairwise (· < ·)
  perm : (noteNumbers ++ reminderNumbers).Perm (List.Ico first next)

namespace Numbered

variable {first next last : Nat} {notes moreNotes : List Note} {reminders moreReminders : List Reminder}
  {noteNumbers reminderNumbers moreNoteNumbers moreReminderNumbers : List Nat}

theorem nil (first : Nat) : Numbered first first [] [] [] [] :=
  ⟨le_rfl, rfl, rfl, .nil, .nil, by rw [List.Ico.self_empty]; exact .refl _⟩

/-- A number is in the interval of its row. -/
theorem mem_Ico (hnumbered : Numbered first next notes reminders noteNumbers reminderNumbers) {n : Nat}
    (hn : n ∈ noteNumbers ∨ n ∈ reminderNumbers) : first ≤ n ∧ n < next :=
  List.Ico.mem.1 (hnumbered.perm.subset (List.mem_append.2 hn))

/-- Rows of which one goes on where the other ends. -/
theorem append (hnumbered : Numbered first next notes reminders noteNumbers reminderNumbers)
    (hmore : Numbered next last moreNotes moreReminders moreNoteNumbers moreReminderNumbers) :
    Numbered first last (notes ++ moreNotes) (reminders ++ moreReminders)
      (noteNumbers ++ moreNoteNumbers) (reminderNumbers ++ moreReminderNumbers) where
  le := hnumbered.le.trans hmore.le
  notes_eq := by rw [List.map_append, List.map_append, hnumbered.notes_eq, hmore.notes_eq]
  reminders_eq := by
    rw [List.map_append, List.map_append, hnumbered.reminders_eq, hmore.reminders_eq]
  notes_lt := List.pairwise_append.2 ⟨hnumbered.notes_lt, hmore.notes_lt, fun _ hm _ hn =>
    (hnumbered.mem_Ico (.inl hm)).2.trans_le (hmore.mem_Ico (.inl hn)).1⟩
  reminders_lt := List.pairwise_append.2 ⟨hnumbered.reminders_lt, hmore.reminders_lt, fun _ hm _ hn =>
    (hnumbered.mem_Ico (.inr hm)).2.trans_le (hmore.mem_Ico (.inr hn)).1⟩
  perm := by
    have hsorted : (noteNumbers ++ moreNoteNumbers ++ (reminderNumbers ++ moreReminderNumbers)).Perm
        (noteNumbers ++ reminderNumbers ++ (moreNoteNumbers ++ moreReminderNumbers)) := by
      rw [List.append_assoc, List.append_assoc]
      exact (List.perm_append_comm_assoc _ _ _).append_left _
    rw [← List.Ico.append_consecutive hnumbered.le hmore.le]
    exact hsorted.trans (hnumbered.perm.append hmore.perm)

theorem nodup_ids (hnumbered : Numbered first next notes reminders noteNumbers reminderNumbers) :
    (notes.map (·.id) ++ reminders.map (·.id)).Nodup := by
  rw [hnumbered.notes_eq, hnumbered.reminders_eq, List.nodup_append']
  refine ⟨(hnumbered.notes_lt.imp Nat.ne_of_lt).map _ fun _ _ h => noteId_injective.ne h,
    (hnumbered.reminders_lt.imp Nat.ne_of_lt).map _ fun _ _ h => reminderId_injective.ne h, ?_⟩
  intro id hnote hreminder
  obtain ⟨m, -, rfl⟩ := List.mem_map.1 hnote
  obtain ⟨n, -, h⟩ := List.mem_map.1 hreminder
  exact noteId_ne_reminderId m n h.symm

end Numbered

/-! ### Growth -/

/-- A vault and a later state of it: some notes and reminders are added behind the others, and their
numbers go on where the numbers before them ended. -/
structure Grown (before after : Vault) (notes : List Note) (reminders : List Reminder) : Prop where
  notes_eq : after.notes = before.notes ++ notes
  reminders_eq : after.reminders = before.reminders ++ reminders
  numbered : ∃ noteNumbers reminderNumbers,
    Numbered before.nextNumber after.nextNumber notes reminders noteNumbers reminderNumbers

namespace Grown

variable {before between after : Vault} {notes moreNotes : List Note}
  {reminders moreReminders : List Reminder}

theorem of_eq (hnotes : after.notes = before.notes) (hreminders : after.reminders = before.reminders)
    (hnext : after.nextNumber = before.nextNumber) : Grown before after [] [] where
  notes_eq := by rw [hnotes, List.append_nil]
  reminders_eq := by rw [hreminders, List.append_nil]
  numbered := ⟨[], [], hnext ▸ .nil _⟩

theorem trans (hfirst : Grown before between notes reminders)
    (hsecond : Grown between after moreNotes moreReminders) :
    Grown before after (notes ++ moreNotes) (reminders ++ moreReminders) where
  notes_eq := by rw [hsecond.notes_eq, hfirst.notes_eq, List.append_assoc]
  reminders_eq := by rw [hsecond.reminders_eq, hfirst.reminders_eq, List.append_assoc]
  numbered := by
    obtain ⟨noteNumbers, reminderNumbers, hnumbered⟩ := hfirst.numbered
    obtain ⟨moreNoteNumbers, moreReminderNumbers, hmore⟩ := hsecond.numbered
    exact ⟨_, _, hnumbered.append hmore⟩

theorem addNote (vault : Vault) (now : Moment) (notebook : Setting) (content : String) :
    Grown vault (vault.addNote now notebook content).2 [(vault.addNote now notebook content).1] [] where
  notes_eq := rfl
  reminders_eq := (List.append_nil _).symm
  numbered := ⟨[vault.nextNumber], [], Nat.le_succ _, rfl, rfl, List.pairwise_singleton _ _, .nil, by
    rw [Vault.addNote, List.Ico.succ_singleton]
    exact .refl _⟩

theorem addReminder (vault : Vault) (message : String) (dueAt : Int) (notebook : Setting) :
    Grown vault (vault.addReminder message dueAt notebook).2 []
      [(vault.addReminder message dueAt notebook).1] where
  notes_eq := (List.append_nil _).symm
  reminders_eq := rfl
  numbered := ⟨[], [vault.nextNumber], Nat.le_succ _, rfl, rfl, .nil, List.pairwise_singleton _ _, by
    rw [Vault.addReminder, List.Ico.succ_singleton]
    exact .refl _⟩

/-- What is added can be read off the two vaults. -/
theorem eq_drop (hgrown : Grown before after notes reminders) :
    notes = after.notes.drop before.notes.length ∧
      reminders = after.reminders.drop before.reminders.length := by
  rw [hgrown.notes_eq, hgrown.reminders_eq, List.drop_left, List.drop_left]
  exact ⟨rfl, rfl⟩

end Grown

/-- A call adds a note, a reminder or nothing. -/
theorem grown_change (vault : Vault) (change : Change) :
    ∃ notes reminders, Grown vault (vault.change change) notes reminders ∧
      (change.isNote = false → notes = []) := by
  cases change with
  | notebook label => exact ⟨[], [], .of_eq rfl rfl rfl, fun _ => rfl⟩
  | activate id =>
      rw [Vault.change]
      cases hactive : vault.setActive id with
      | error failure => exact ⟨[], [], .of_eq rfl rfl rfl, fun _ => rfl⟩
      | ok changed =>
          obtain ⟨-, rfl⟩ := setActive_eq_ok.1 hactive
          exact ⟨[], [], .of_eq rfl rfl rfl, fun _ => rfl⟩
  | note now notebook content => exact ⟨_, _, .addNote vault now notebook content, nofun⟩
  | reminder message dueAt notebook =>
      exact ⟨_, _, .addReminder vault message dueAt notebook, fun _ => rfl⟩

theorem grown_run (vault : Vault) (changes : List Change) :
    ∃ notes reminders, Grown vault (vault.run changes) notes reminders ∧
      ((∀ change ∈ changes, change.isNote = false) → notes = []) := by
  induction changes generalizing vault with
  | nil => exact ⟨[], [], .of_eq rfl rfl rfl, fun _ => rfl⟩
  | cons change changes ih =>
      obtain ⟨notes, reminders, hgrown, hquiet⟩ := vault.grown_change change
      obtain ⟨moreNotes, moreReminders, hmore, hquietMore⟩ := ih (vault.change change)
      refine ⟨_, _, hgrown.trans hmore, fun hchanges => ?_⟩
      rw [List.forall_mem_cons] at hchanges
      rw [hquiet hchanges.1, hquietMore hchanges.2, List.append_nil]

end Jotter.Vault
