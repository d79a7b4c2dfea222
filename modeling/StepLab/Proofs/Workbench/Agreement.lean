import StepLab.Proofs.Language.Safety
import StepLab.Proofs.Workbench.Changes

/-! # Editor and engine agree

The source of a program is stored twice: in the editor of its slot, and in the engine
that was seeded from it.  A slot is tied when the two are the same source, in the form
that its kind is edited in.  Every change to a slot keeps it tied, since a changed
source goes to both sides at once and no other change touches either.  With the
invariants of the languages, the states of the engine show that source too. -/

set_option autoImplicit false

namespace StepLab

namespace Slot

variable {o : Options} {k : Kind}

/-- The engine of a slot is sound and holds the source that the editor holds. -/
structure Tied (k : Kind) (slot : Slot (k.language o)) : Prop where
  sound : slot.engine.Sound
  source : match slot.editor with
    | .text source => k.isGrid = false ∧ slot.engine.program.toText = source
    | .grid editor =>
        k.isGrid = true ∧ slot.engine.program = .grid editor.grid ∧ editor.Inside

theorem Tied.of_text {slot : Slot (k.language o)} (tied : slot.Tied k) {source : String}
    (holds : slot.editor = .text source) :
    k.isGrid = false ∧ slot.engine.program.toText = source := by
  have held := tied.source
  rw [holds] at held
  exact held

theorem Tied.of_grid {slot : Slot (k.language o)} (tied : slot.Tied k) {editor : GridEditor}
    (holds : slot.editor = .grid editor) :
    k.isGrid = true ∧ slot.engine.program = .grid editor.grid ∧ editor.Inside := by
  have held := tied.source
  rw [holds] at held
  exact held

theorem Tied.of_same_program {slot : Slot (k.language o)} (tied : slot.Tied k)
    (engine : Engine (k.language o)) (sound : engine.Sound)
    (same : engine.program = slot.engine.program) :
    Tied k { slot with engine } := by
  refine ⟨sound, ?_⟩
  have held := tied.source
  rw [← same] at held
  exact held

theorem Tied.change {slot after : Slot (k.language o)} (tied : slot.Tied k)
    (change : slot.Change after) : after.Tied k := by
  cases change with
  | acted host action installs =>
      have same : (slot.engine.dispatch host action).value.program = slot.engine.program := by
        rw [Engine.value_dispatch, Engine.program_perform, installs]
        rfl
      exact tied.of_same_program _ (tied.sound.perform host action) same
  | polled host =>
      exact tied.of_same_program _ (tied.sound.poll host) (tied.sound.program_poll host)
  | typed host before source holds =>
      have isText := (tied.of_text holds).1
      exact ⟨tied.sound.perform host _, isText, rfl⟩
  | redrawn host before after holds inside =>
      obtain ⟨isGrid, _, kept⟩ := tied.of_grid holds
      exact ⟨tied.sound.perform host _, isGrid, rfl, inside kept⟩
  | reselected before after holds same inside =>
      obtain ⟨isGrid, program, kept⟩ := tied.of_grid holds
      refine ⟨tied.sound, isGrid, ?_, inside kept⟩
      rw [same]
      exact program
  | laidOut needsFit fit => exact ⟨tied.sound, tied.source⟩

theorem Tied.changes {slot after : Slot (k.language o)} (tied : slot.Tied k)
    (changes : Relation.ReflTransGen Change slot after) : after.Tied k := by
  induction changes with
  | refl => exact tied
  | tail _ change ih => exact ih.change change

theorem tied_create (o : Options) (k : Kind) (given : Option Program) :
    (create o k given).value.Tied k := by
  refine ⟨Engine.sound_fresh _ _, ?_⟩
  cases isGrid : k.isGrid with
  | true => simp [create, Engine.create, Engine.fresh, Editor.ofProgram, Kind.shape, isGrid,
      Program.toGrid, GridEditor.Inside]
  | false => simp [create, Engine.create, Engine.fresh, Editor.ofProgram, Kind.shape, isGrid]

end Slot

/-- What a state of a text program shows is the program without what does not count. -/
theorem Kind.code_of_text (o : Options) (k : Kind) (isText : k.isGrid = false)
    (program : Program) (s : (k.language o).State) (sound : k.Sound o program s) :
    ((k.language o).view s).code = ((k.language o).normalize program.toText).toList := by
  cases k with
  | stunStep =>
      show StunStep.writeCode s.code =
        (String.ofList (StunStep.writeCode (StunStep.readCode program.toText))).toList
      rw [String.toList_ofList, sound.code_eq]
  | suffolk =>
      show Suffolk.writeCode s.code =
        (String.ofList (Suffolk.writeCode (Suffolk.readCode program.toText))).toList
      rw [String.toList_ofList, sound.code_eq]
  | wii2d => contradiction
  | back => contradiction

theorem Kind.code_of_grid (o : Options) (k : Kind) (isGrid : k.isGrid = true)
    (program : Program) (s : (k.language o).State) (sound : k.Sound o program s) :
    ((k.language o).view s).code = program.toGrid.cells.toList ∧
      ((k.language o).view s).grid = some program.toGrid.dims := by
  cases k with
  | stunStep => contradiction
  | suffolk => contradiction
  | wii2d =>
      have grid : s.grid = program.toGrid := Placed.grid_eq sound
      rw [← grid]
      exact ⟨rfl, rfl⟩
  | back =>
      have grid : s.grid = program.toGrid := sound.placed.grid_eq
      rw [← grid]
      exact ⟨rfl, rfl⟩

/-- Editor, engine and current state of a slot hold one source: a text whose counting
part is the code of the state, or a grid whose cells and dimensions the state shows and
in which any selection lies. -/
structure Slot.Agrees {o : Options} (k : Kind) (slot : Slot (k.language o)) : Prop where
  text : k.isGrid = false → ∃ source, slot.editor = .text source ∧
    slot.engine.program.toText = source ∧
    ((k.language o).view slot.engine.state).code = ((k.language o).normalize source).toList
  grid : k.isGrid = true → ∃ editor, slot.editor = .grid editor ∧
    slot.engine.program = .grid editor.grid ∧
    ((k.language o).view slot.engine.state).code = editor.grid.cells.toList ∧
    ((k.language o).view slot.engine.state).grid = some editor.grid.dims ∧
    ∀ i, editor.selection = some i → i < editor.grid.dims.area

theorem Slot.Tied.agrees {o : Options} {k : Kind} {slot : Slot (k.language o)}
    (tied : slot.Tied k) : slot.Agrees k := by
  have stateSound := (k.invariant o).state tied.sound
  constructor
  · intro isText
    cases holds : slot.editor with
    | grid editor => simp [(tied.of_grid holds).1] at isText
    | text source =>
        have program := (tied.of_text holds).2
        refine ⟨source, rfl, program, ?_⟩
        rw [← program]
        exact k.code_of_text o isText _ _ stateSound
  · intro isGrid
    cases holds : slot.editor with
    | text source => simp [(tied.of_text holds).1] at isGrid
    | grid editor =>
        obtain ⟨_, program, inside⟩ := tied.of_grid holds
        have shown := k.code_of_grid o isGrid _ _ stateSound
        rw [program] at shown
        exact ⟨editor, rfl, program, shown.1, shown.2, inside⟩

namespace Workbench

theorem tied_create (o : Options) (start : Kind) (program : Option Program) (k : Kind) :
    ((create o start program).value.slots.get k).Tied k := by
  cases k <;> exact Slot.tied_create o _ _

/-- After any list of events, in every slot the editor and the engine agree. -/
theorem live_agrees (o : Options) (start : Kind) (program : Option Program)
    (events : List (Nat × Event)) (k : Kind) :
    (((create o start program).value.live events).slots.get k).Agrees k := by
  have tied := tied_create o start program k
  have changes := leads_live (create o start program).value events k
  exact (tied.changes changes).agrees

end Workbench

end StepLab
