import StepLab.Proofs.Workbench.Isolation

/-! # Typing

While a text is typed, or a cell is selected, a character is part of a program and not a
command, whatever it means as a control key.  Such a key either edits the source of the
active slot, and then the engine starts over on the new source, or it is ignored; it never
goes on to the control keys.  Texts and cells differ in what a key makes of the source, and
`Edits` leaves that open: a run of keys is followed once for both. -/

set_option autoImplicit false

namespace StepLab

namespace Key

/-- Enter, Backspace, and any character that comes without the control key. -/
def Types (key : Key) : Prop :=
  match key.code with
  | .char _ => key.control = false
  | .enter => True
  | .backspace => True
  | _ => False

/-- What a key that types makes of a text. -/
def typeInto (text : List Char) (key : Key) : List Char :=
  match key.code with
  | .char c => text ++ [c]
  | .enter => text ++ ['\n']
  | .backspace => text.dropLast
  | _ => text

end Key

namespace Workbench

variable {o : Options}

/-- Keys that are pressed, each at its time. -/
def keystrokes (keys : List (Nat × Key)) : List (Nat × Event) :=
  keys.map fun entry => (entry.1, .key entry.2)

theorem keystrokes_cons (now : Nat) (key : Key) (rest : List (Nat × Key)) :
    keystrokes ((now, key) :: rest) = (now, .key key) :: keystrokes rest := rfl

/-! ## Editing the active slot -/

/-- The workbench with another source and engine in its active slot. -/
def edited (w : Workbench o) (editor : Editor) (engine : Engine (w.active.language o))
    (status : String) : Workbench o :=
  { w.setSlot { w.slot with editor, engine } with status }

theorem edited_self (w : Workbench o) : w.edited w.slot.editor w.slot.engine w.status = w := by
  show { w.setSlot w.slot with status := w.status } = w
  rw [setSlot_slot]

theorem slot_edited (w : Workbench o) (editor : Editor) (engine : Engine (w.active.language o))
    (status : String) : (w.edited editor engine status).slot = { w.slot with editor, engine } :=
  slot_setSlot w { w.slot with editor, engine }

theorem get_edited (w : Workbench o) (editor : Editor) (engine : Engine (w.active.language o))
    (status : String) :
    (w.edited editor engine status).slots.get w.active = { w.slot with editor, engine } :=
  slot_edited w editor engine status

theorem stays_edited (w : Workbench o) (editor : Editor) (engine : Engine (w.active.language o))
    (status : String) : w.Stays (w.edited editor engine status) :=
  ⟨rfl, rfl, (stays_setSlot w { w.slot with editor, engine }).others⟩

theorem set_slots_edited (w : Workbench o) (editor : Editor)
    (engine : Engine (w.active.language o)) (status : String)
    (slot : Slot (w.active.language o)) :
    (w.edited editor engine status).slots.set w.active slot = w.slots.set w.active slot :=
  Slots.set_set w.slots w.active _ slot

theorem setEditor_edited (w : Workbench o) (editor next : Editor)
    (engine : Engine (w.active.language o)) (status : String) :
    (w.edited editor engine status).setEditor next = w.edited next engine status := by
  show { w with
    slots := (w.edited editor engine status).slots.set w.active
      { (w.edited editor engine status).slot with editor := next }
    status } = _
  rw [slot_edited, set_slots_edited]
  rfl

/-- An edit puts the source into the editor and a new engine beside it. -/
theorem value_edit_edited (w : Workbench o) (editor next : Editor)
    (engine : Engine (w.active.language o)) (status : String) (host : Host) (program : Program) :
    (((w.edited editor engine status).setEditor next).edit host program).value =
      w.edited next (Engine.fresh (w.active.language o) program engine.pace)
        "Edited (history cleared)" := by
  show say (((w.edited editor engine status).setEditor next).dispatch host
    (.edit program)).value "Edited (history cleared)" = _
  rw [value_dispatch_setEditor]
  show { w with
    slots := (w.edited editor engine status).slots.set w.active
      { (w.edited editor engine status).slot with
        editor := next
        engine := ((w.edited editor engine status).slot.engine.dispatch host
          (.edit program)).value }
    status := "Edited (history cleared)" } = _
  rw [slot_edited, set_slots_edited]
  rfl

/-! ## Runs of keys -/

section Runs

variable {σ : Type}

/-- On a workbench, the keys in question edit a source as `next` says: they put the new
source in place of the old one, or they are ignored. -/
def Edits (w : Workbench o) (editor : σ → Editor) (program : σ → Program)
    (next : σ → Key → Option σ) (allowed : Key → Prop) : Prop :=
  ∀ source engine status now key, allowed key →
    ((w.edited (editor source) engine status).handle now (.key key)).value =
      match next source key with
      | none => w.edited (editor source) engine status
      | some after =>
          w.edited (editor after) (Engine.fresh (w.active.language o) (program after) engine.pace)
            "Edited (history cleared)"

/-- A source after some keys, of which some may be ignored. -/
def sourceAfter (next : σ → Key → Option σ) (source : σ) (keys : List (Nat × Key)) : σ :=
  keys.foldl (fun source entry => (next source entry.2).getD source) source

variable {editor : σ → Editor} {program : σ → Program} {next : σ → Key → Option σ}

theorem sourceAfter_of_ignored {source : σ} {keys : List (Nat × Key)}
    (ignored : ∀ entry ∈ keys, next source entry.2 = none) :
    sourceAfter next source keys = source := by
  induction keys with
  | nil => rfl
  | cons entry rest ih =>
      have first : next source entry.2 = none := ignored entry List.mem_cons_self
      have later := ih fun entry member => ignored entry (List.mem_cons_of_mem _ member)
      simpa [sourceAfter, first] using later

/-- The engine is touched only by keys that are not ignored, and then it is a new one on
the source that the keys lead to. -/
theorem Edits.live {w : Workbench o} {allowed : Key → Prop}
    (edits : w.Edits editor program next allowed) (source : σ)
    (engine : Engine (w.active.language o)) (status : String) (keys : List (Nat × Key))
    (typed : ∀ entry ∈ keys, allowed entry.2) :
    ∃ engine' status',
      (w.edited (editor source) engine status).live (keystrokes keys) =
        w.edited (editor (sourceAfter next source keys)) engine' status' ∧
      ((∀ entry ∈ keys, next source entry.2 = none) → engine' = engine) ∧
      (¬ (∀ entry ∈ keys, next source entry.2 = none) →
        engine' = Engine.fresh (w.active.language o) (program (sourceAfter next source keys))
          engine.pace) := by
  induction keys generalizing source engine status with
  | nil =>
      refine ⟨engine, status, rfl, fun _ => rfl, ?_⟩
      intro effective
      simp at effective
  | cons entry rest ih =>
      obtain ⟨now, key⟩ := entry
      have handled := edits source engine status now key (typed (now, key) List.mem_cons_self)
      have others : ∀ entry ∈ rest, allowed entry.2 := by
        intro entry member
        exact typed entry (List.mem_cons_of_mem _ member)
      cases step : next source key with
      | none =>
          simp only [step] at handled
          obtain ⟨engine', status', reached, kept, fresh⟩ := ih source engine status others
          have onward : sourceAfter next source ((now, key) :: rest) =
              sourceAfter next source rest := by
            simp [sourceAfter, step]
          have same : (∀ entry ∈ (now, key) :: rest, next source entry.2 = none) ↔
              ∀ entry ∈ rest, next source entry.2 = none := by
            simp [step]
          rw [onward, same]
          refine ⟨engine', status', ?_, kept, fresh⟩
          rw [keystrokes_cons, Workbench.live, handled]
          exact reached
      | some after =>
          simp only [step] at handled
          obtain ⟨engine', status', reached, kept, fresh⟩ := ih after
            (Engine.fresh (w.active.language o) (program after) engine.pace)
            "Edited (history cleared)" others
          have onward : sourceAfter next source ((now, key) :: rest) =
              sourceAfter next after rest := by
            simp [sourceAfter, step]
          have edited : ¬ ∀ entry ∈ (now, key) :: rest, next source entry.2 = none := by
            simp [step]
          rw [onward]
          refine ⟨engine', status', ?_, fun ignored => absurd ignored edited, ?_⟩
          · rw [keystrokes_cons, Workbench.live, handled]
            exact reached
          · -- This key made the engine new; keys after it keep it or make it new again.
            intro _
            by_cases ignored : ∀ entry ∈ rest, next after entry.2 = none
            · rw [kept ignored, sourceAfter_of_ignored ignored]
            · exact fresh ignored

end Runs

/-! ## Texts -/

theorem typed?_eq_none_iff {source : String} {key : Key} (types : key.Types) :
    typed? source key = none ↔ key.code = .backspace ∧ source = "" := by
  obtain ⟨code, control⟩ := key
  cases code with
  | char c =>
      have free : control = false := types
      simp [typed?, free]
  | enter => simp [typed?]
  | backspace => simp [typed?]
  | _ => exact False.elim types

theorem toList_typed? {source : String} {key : Key} (types : key.Types) :
    ((typed? source key).getD source).toList = key.typeInto source.toList := by
  obtain ⟨code, control⟩ := key
  cases code with
  | char c =>
      have free : control = false := types
      simp [typed?, Key.typeInto, free]
  | enter => simp [typed?, Key.typeInto]
  | backspace =>
      by_cases empty : source = ""
      · simp [typed?, Key.typeInto, empty]
      · simp [typed?, Key.typeInto, empty]
  | _ => exact False.elim types

theorem toList_sourceAfter (source : String) (keys : List (Nat × Key))
    (types : ∀ entry ∈ keys, entry.2.Types) :
    (sourceAfter typed? source keys).toList =
      (keys.map Prod.snd).foldl Key.typeInto source.toList := by
  induction keys generalizing source with
  | nil => rfl
  | cons entry rest ih =>
      have later := ih ((typed? source entry.2).getD source) fun entry member =>
        types entry (List.mem_cons_of_mem _ member)
      rw [toList_typed? (types entry List.mem_cons_self)] at later
      exact later

theorem edits_text {w : Workbench o} (insert : w.mode = .insert) :
    w.Edits .text .text typed? Key.Types := by
  intro source engine status now key types
  have holds : (w.edited (.text source) engine status).slot.editor = .text source := by
    rw [slot_edited]
  have stays : key.code ≠ .escape := by
    intro escape
    rw [Key.Types, escape] at types
    exact types
  show ((w.edited (.text source) engine status).handleKey now key).value = _
  have routed : (w.edited (.text source) engine status).handleKey now key =
      (w.edited (.text source) engine status).insertKey now key := by
    have inserting : (w.edited (.text source) engine status).mode = .insert := insert
    simp [handleKey, inserting]
  rw [routed, insertKey, holds]
  simp only [stays, if_false]
  cases typed? source key with
  | none => rfl
  | some after => exact value_edit_edited w (.text source) (.text after) engine status _ _

/-! ## Cells -/

/-- What a character makes of a grid in which a cell is selected. -/
def cellTyped? (i : Nat) (g : Grid) (key : Key) : Option Grid :=
  match key.code with
  | .char c => if Text.isControl c = true ∨ g.get? i = some c then none else some (g.set i c)
  | _ => none

def selecting (i : Nat) (g : Grid) : Editor := .grid { grid := g, selection := some i }

theorem key_char_selecting (i : Nat) (g : Grid) (c : Char) :
    ({ grid := g, selection := some i } : GridEditor).key (.char c) =
      match cellTyped? i g { code := .char c } with
      | none => ({ grid := g, selection := some i }, .ignored)
      | some after => ({ grid := after, selection := some i }, .changed after) := by
  by_cases control : Text.isControl c = true
  · simp [GridEditor.key, GridEditor.keyAt, cellTyped?, control]
  · by_cases same : g.get? i = some c
    · simp [GridEditor.key, GridEditor.keyAt, GridEditor.write, cellTyped?, same]
    · simp [GridEditor.key, GridEditor.keyAt, GridEditor.write, GridEditor.install, cellTyped?,
        control, same]

theorem edits_cell {w : Workbench o} (normal : w.mode = .normal) (i : Nat) :
    w.Edits (selecting i) .grid (cellTyped? i) fun key => ∃ c, key = { code := .char c } := by
  rintro g engine status now _ ⟨c, rfl⟩
  have holds : (w.edited (selecting i g) engine status).slot.editor =
      .grid { grid := g, selection := some i } := by
    rw [slot_edited]
    rfl
  have calm : (w.edited (selecting i g) engine status).mode = .normal := normal
  have routed : (w.edited (selecting i g) engine status).handleKey now { code := .char c } =
      (w.edited (selecting i g) engine status).gridKey now { grid := g, selection := some i }
        (.char c) := by
    simp only [handleKey, calm, normalKey, selection, holds]
    rfl
  show ((w.edited (selecting i g) engine status).handleKey now { code := .char c }).value = _
  rw [routed, gridKey, key_char_selecting]
  cases cellTyped? i g { code := .char c } with
  | none => exact setEditor_edited w (selecting i g) (selecting i g) engine status
  | some after => exact value_edit_edited w (selecting i g) (selecting i after) engine status _ _

theorem cellTyped?_eq_none_iff (i : Nat) (g : Grid) (c : Char) :
    cellTyped? i g { code := .char c } = none ↔ Text.isControl c = true ∨ g.get? i = some c := by
  by_cases ignored : Text.isControl c = true ∨ g.get? i = some c
  · simp [cellTyped?, ignored]
  · simp [cellTyped?, ignored]

/-- One character leaves the size and the other cells alone. -/
theorem cellTyped?_frame (i : Nat) (g : Grid) (key : Key) :
    ((cellTyped? i g key).getD g).dims = g.dims ∧
      ∀ j, j ≠ i → ((cellTyped? i g key).getD g).get? j = g.get? j := by
  unfold cellTyped?
  split
  · split
    · exact ⟨rfl, fun _ _ => rfl⟩
    · exact ⟨rfl, fun j other => Grid.get?_set_of_ne g i j _ other.symm⟩
  · exact ⟨rfl, fun _ _ => rfl⟩

theorem sourceAfter_cell_frame (i : Nat) (g : Grid) (keys : List (Nat × Key)) :
    (sourceAfter (cellTyped? i) g keys).dims = g.dims ∧
      ∀ j, j ≠ i → (sourceAfter (cellTyped? i) g keys).get? j = g.get? j := by
  induction keys generalizing g with
  | nil => exact ⟨rfl, fun _ _ => rfl⟩
  | cons entry rest ih =>
      obtain ⟨dims, elsewhere⟩ := ih ((cellTyped? i g entry.2).getD g)
      obtain ⟨firstDims, firstElsewhere⟩ := cellTyped?_frame i g entry.2
      refine ⟨dims.trans firstDims, ?_⟩
      intro j other
      exact (elsewhere j other).trans (firstElsewhere j other)

theorem get?_cellTyped? {i : Nat} {g : Grid} (inside : i < g.dims.area) (c : Char) :
    ((cellTyped? i g { code := .char c }).getD g).get? i =
      if Text.isControl c then g.get? i else some c := by
  by_cases control : Text.isControl c = true
  · simp [cellTyped?, control]
  · by_cases same : g.get? i = some c
    · simp [cellTyped?, same]
    · simp [cellTyped?, control, same, Grid.get?_set_self g i c inside]

def charKeys (chars : List (Nat × Char)) : List (Nat × Key) :=
  chars.map fun entry => (entry.1, { code := .char entry.2 })

/-- The selected cell holds the last character that is no control character. -/
theorem get?_sourceAfter_cell {i : Nat} {g : Grid} (inside : i < g.dims.area)
    (chars : List (Nat × Char)) :
    (sourceAfter (cellTyped? i) g (charKeys chars)).get? i =
      ((chars.map Prod.snd).filter fun c => !Text.isControl c).getLast?.or (g.get? i) := by
  induction chars generalizing g with
  | nil => simp [sourceAfter, charKeys]
  | cons entry rest ih =>
      obtain ⟨now, c⟩ := entry
      have still : i < ((cellTyped? i g { code := .char c }).getD g).dims.area := by
        rw [(cellTyped?_frame i g { code := .char c }).1]
        exact inside
      have later := ih still
      rw [get?_cellTyped? inside c] at later
      show (sourceAfter (cellTyped? i) ((cellTyped? i g { code := .char c }).getD g)
        (charKeys rest)).get? i = _
      rw [later]
      cases control : Text.isControl c with
      | true => simp [control]
      | false =>
          simp only [List.map_cons, List.filter_cons, control, Bool.not_false, if_true,
            List.getLast?_cons, Bool.false_eq_true, if_false]
          cases ((rest.map Prod.snd).filter fun c => !Text.isControl c).getLast? with
          | none => rfl
          | some last => rfl

/-! ## All that typing does -/

/-- `after` is the workbench `w` with another source in its active slot: the engine is the
old one if everything was ignored, and else a new one on the program typed. -/
structure Retyped (w after : Workbench o) (editor : Editor) (program : Program)
    (ignored : Prop) : Prop extends Stays w after where
  shouldQuit : after.shouldQuit = w.shouldQuit
  editor : (after.slots.get w.active).editor = editor
  kept : ignored → (after.slots.get w.active).engine = w.slot.engine
  fresh : ¬ ignored → (after.slots.get w.active).engine =
    (Engine.create (w.active.language o) program o.pace).value

theorem program_eq_of_active {w after : Workbench o} (same : after.active = w.active) :
    after.program = (after.slots.get w.active).engine.program := by
  rw [← same]
  rfl

theorem selection_eq_of_active {w after : Workbench o} (same : after.active = w.active) :
    after.selection = (after.slots.get w.active).editor.selection := by
  rw [← same]
  rfl

namespace Retyped

variable {w after : Workbench o} {editor : Editor} {program : Program} {ignored : Prop}

theorem congr {silent : Prop} (typed : w.Retyped after editor program ignored)
    (same : ignored ↔ silent) : w.Retyped after editor program silent := by
  rwa [← propext same]

/-- The program is the one typed, unless everything was ignored. -/
theorem program_cases (typed : w.Retyped after editor program ignored) :
    (ignored ∧ after.program = w.program) ∨ (¬ ignored ∧ after.program = program) := by
  rw [program_eq_of_active typed.active]
  by_cases silent : ignored
  · left
    refine ⟨silent, ?_⟩
    rw [typed.kept silent]
    rfl
  · right
    refine ⟨silent, ?_⟩
    rw [typed.fresh silent]
    rfl

end Retyped

theorem Edits.retyped {σ : Type} {editor : σ → Editor} {program : σ → Program}
    {next : σ → Key → Option σ} {w : Workbench o} {allowed : Key → Prop}
    (edits : w.Edits editor program next allowed) {source : σ}
    (holds : w.slot.editor = editor source) (pace : w.slot.engine.pace = o.pace)
    (keys : List (Nat × Key)) (typed : ∀ entry ∈ keys, allowed entry.2) :
    w.Retyped (w.live (keystrokes keys)) (editor (sourceAfter next source keys))
      (program (sourceAfter next source keys)) (∀ entry ∈ keys, next source entry.2 = none) := by
  obtain ⟨engine, status, reached, kept, fresh⟩ :=
    edits.live source w.slot.engine w.status keys typed
  rw [← holds, edited_self] at reached
  rw [reached]
  refine ⟨stays_edited w _ engine status, rfl, ?_, ?_, ?_⟩
  · rw [get_edited]
  · intro ignored
    rw [get_edited, kept ignored]
  · intro effective
    rw [get_edited, fresh effective, pace]
    rfl

theorem Calm.exists_text {w : Workbench o} (calm : w.Calm) (tied : w.slot.Tied w.active)
    (insert : w.mode = .insert) :
    ∃ source, w.slot.editor = .text source ∧ w.program.toText = source := by
  cases holds : w.slot.editor with
  | text source => exact ⟨source, rfl, (tied.of_text holds).2⟩
  | grid editor =>
      have isGrid := (tied.of_grid holds).1
      rw [calm.typing insert] at isGrid
      contradiction

theorem exists_grid_of_selected {w : Workbench o} (tied : w.slot.Tied w.active) {i : Nat}
    (chosen : w.selection = some i) :
    ∃ g, w.slot.editor = selecting i g ∧ w.program = .grid g ∧ i < g.dims.area := by
  cases holds : w.slot.editor with
  | text source => simp [selection, holds, Editor.selection] at chosen
  | grid editor =>
      obtain ⟨g, selection⟩ := editor
      have selected : selection = some i := by
        simpa [Workbench.selection, holds, Editor.selection] using chosen
      subst selected
      obtain ⟨_, held, inside⟩ := tied.of_grid holds
      exact ⟨g, rfl, held, inside i rfl⟩

/-- At any moment of a session.  While a text is typed, characters, Enter and Backspace
change the active text as they read, and the engine is a new one on that text, unless all
of them were Backspaces on an empty text.  While a cell is selected, characters change
nothing of the active grid but that cell, which holds the last one that is no control
character, and the cell stays selected.  In both cases the mode, the active language, all
other slots and whether the session is to be left are as before. -/
theorem typing_edits_source_only (o : Options) (start : Kind) (program : Option Program)
    (events : List (Nat × Event)) :
    let w := (create o start program).value.live events
    (w.mode = .insert → ∀ keys : List (Nat × Key), (∀ entry ∈ keys, entry.2.Types) →
      let after := w.live (keystrokes keys)
      let text := (keys.map Prod.snd).foldl Key.typeInto w.program.toText.toList
      after.program.toText.toList = text ∧
      w.Retyped after (.text (String.ofList text)) (.text (String.ofList text))
        (∀ entry ∈ keys, entry.2.code = .backspace ∧ w.program.toText = "")) ∧
    (w.mode = .normal → ∀ i, w.selection = some i → ∀ chars : List (Nat × Char),
      let after := w.live (keystrokes (charKeys chars))
      ∃ g g' : Grid, w.program = .grid g ∧ after.program = .grid g' ∧
        after.selection = some i ∧
        g'.dims = g.dims ∧ (∀ j, j ≠ i → g'.get? j = g.get? j) ∧
        g'.get? i =
          ((chars.map Prod.snd).filter fun c => !Text.isControl c).getLast?.or (g.get? i) ∧
        w.Retyped after (.grid { grid := g', selection := some i }) (.grid g')
          (∀ entry ∈ chars, Text.isControl entry.2 = true ∨ g.get? i = some entry.2)) := by
  intro w
  have tied : w.slot.Tied w.active :=
    (tied_create o start program w.active).changes (leads_live _ events w.active)
  have calm : w.Calm := (calm_create o start program).live (tied_create o start program) events
  have pace : w.slot.engine.pace = o.pace := pace_live o start program events w.active
  constructor
  · intro insert keys types after text
    obtain ⟨source, holds, held⟩ := calm.exists_text tied insert
    have reached : sourceAfter typed? source keys = String.ofList text := by
      rw [← String.ofList_toList (s := sourceAfter typed? source keys),
        toList_sourceAfter source keys types, ← held]
    have silent : (∀ entry ∈ keys, typed? source entry.2 = none) ↔
        ∀ entry ∈ keys, entry.2.code = .backspace ∧ w.program.toText = "" := by
      rw [held]
      exact forall₂_congr fun entry member => typed?_eq_none_iff (types entry member)
    have typed := (edits_text insert).retyped holds pace keys types
    refine ⟨?_, reached ▸ typed.congr silent⟩
    rcases typed.program_cases with ⟨ignored, kept⟩ | ⟨_, fresh⟩
    · rw [kept, held, ← sourceAfter_of_ignored ignored, reached, String.toList_ofList]
    · rw [fresh, reached]
      exact String.toList_ofList
  · intro normal i chosen chars after
    obtain ⟨g, holds, held, inside⟩ := exists_grid_of_selected tied chosen
    have silent : (∀ entry ∈ charKeys chars, cellTyped? i g entry.2 = none) ↔
        ∀ entry ∈ chars, Text.isControl entry.2 = true ∨ g.get? i = some entry.2 := by
      simp only [charKeys, List.forall_mem_map, cellTyped?_eq_none_iff]
    have typed := (edits_cell normal i).retyped holds pace (charKeys chars) fun entry member => by
      obtain ⟨source, _, rfl⟩ := List.mem_map.mp member
      exact ⟨source.2, rfl⟩
    obtain ⟨dims, elsewhere⟩ := sourceAfter_cell_frame i g (charKeys chars)
    refine ⟨g, sourceAfter (cellTyped? i) g (charKeys chars), held, ?_, ?_, dims, elsewhere,
      get?_sourceAfter_cell inside chars, typed.congr silent⟩
    · rcases typed.program_cases with ⟨ignored, kept⟩ | ⟨_, fresh⟩
      · rw [kept, sourceAfter_of_ignored ignored]
        exact held
      · exact fresh
    · rw [selection_eq_of_active typed.active, typed.editor]
      rfl

/-- The keys for leaving, resetting and running are text in a text, and characters in a
cell, where a tab is ignored and the last of them stands. -/
theorem typing_edits_source_only_of_command_keys :
    let w := (create {} .stunStep (some (.text "+"))).value.live [(0, .key { code := .char 'i' })]
    let keys : List (Nat × Key) := [(1, { code := .char 'q' }), (2, { code := .backspace }),
      (3, { code := .char 'r' }), (4, { code := .enter })]
    let v := (create {} .back (some (.text "ab"))).value.live [(0, .key { code := .enter })]
    let chars : List (Nat × Char) := [(1, 'q'), (2, ' '), (3, '\t')]
    w.mode = .insert ∧ (w.live (keystrokes keys)).program.toText.toList = ['+', 'r', '\n'] ∧
      (w.live (keystrokes keys)).shouldQuit = w.shouldQuit ∧
      v.mode = .normal ∧ v.selection = some 0 ∧
      ∃ g : Grid, (v.live (keystrokes (charKeys chars))).program = .grid g ∧
        g.get? 0 = some ' ' := by
  intro w keys v chars
  have insert : w.mode = .insert := by decide +kernel
  have normal : v.mode = .normal := by decide +kernel
  have chosen : v.selection = some 0 := by decide +kernel
  have types : ∀ entry ∈ keys, entry.2.Types := by
    intro entry member
    simp only [keys, List.mem_cons, List.not_mem_nil, or_false] at member
    rcases member with rfl | rfl | rfl | rfl
    · rfl
    · trivial
    · rfl
    · trivial
  obtain ⟨text, typed⟩ := (typing_edits_source_only {} .stunStep (some (.text "+"))
    [(0, .key { code := .char 'i' })]).1 insert keys types
  obtain ⟨_, g, _, program, _, _, _, cell, _⟩ := (typing_edits_source_only {} .back
    (some (.text "ab")) [(0, .key { code := .enter })]).2 normal 0 chosen chars
  refine ⟨insert, text.trans ?_, typed.shouldQuit, normal, chosen, g, program, cell.trans ?_⟩
  · decide +kernel
  · rfl

end Workbench

end StepLab
