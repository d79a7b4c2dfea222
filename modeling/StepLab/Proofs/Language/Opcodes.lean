import StepLab.Language.StunStep
import StepLab.Language.Suffolk
import StepLab.Proofs.Engine.Script
import StepLab.Proofs.Grid.Rows
import StepLab.Proofs.Text.Lines

/-! # What a text language sees of a program

A language over text takes the characters of its alphabet and nothing else, be the program
a text or a grid.  A grid is written as text first, without the white space at the ends of
its rows and with newlines between them; neither is in an alphabet, so the characters taken
are those of its cells, row by row.

Two engines are twins when they differ in nothing but their programs, and these have the
same first state.  Whatever is done to both of them, they stay twins, and what is drawn of
them is the same. -/

set_option autoImplicit false

namespace StepLab

/-! ## Texts of grids -/

namespace Text

variable {counts : Char → Bool}

theorem filter_trimEnd (inked : ∀ c, counts c = true → isBlank c = false) (line : List Char) :
    (trimEnd line).filter counts = line.filter counts := by
  have split : trimEnd line ++ line.rtakeWhile isBlank = line :=
    List.rdropWhile_append_rtakeWhile
  have trimmed : (line.rtakeWhile isBlank).filter counts = [] := by
    rw [List.filter_eq_nil_iff]
    intro c member counted
    have blank := List.mem_rtakeWhile_imp member
    rw [inked c counted] at blank
    contradiction
  conv_rhs => rw [← split, List.filter_append, trimmed, List.append_nil]

theorem filter_unlines (newline : counts '\n' = false) (ls : List (List Char)) :
    (unlines ls).filter counts = ls.flatten.filter counts := by
  induction ls with
  | nil => rfl
  | cons line rest ih =>
      cases rest with
      | nil => simp [unlines]
      | cons next rest =>
          rw [unlines, List.intercalate_cons_cons, List.filter_append, List.filter_append,
            List.flatten_cons, List.filter_append, ← ih]
          simp [newline, unlines]

end Text

theorem Grid.filter_toText {counts : Char → Bool}
    (inked : ∀ c, counts c = true → Text.isBlank c = false) (g : Grid) :
    g.toText.toList.filter counts = g.cells.toList.filter counts := by
  have newline : counts '\n' = false := by
    by_contra counted
    have blank := inked '\n' (Bool.not_eq_false _ ▸ counted)
    contradiction
  have rows : (g.rows.map Text.trimEnd).map (List.filter counts) =
      g.rows.map (List.filter counts) := by
    rw [List.map_map]
    exact List.map_congr_left fun line _ => Text.filter_trimEnd inked line
  rw [toText, String.toList_ofList, Text.filter_unlines newline, List.filter_flatten, rows,
    ← List.filter_flatten, flatten_rows]

/-- The characters of an alphabet in a program, in reading order. -/
def Program.opcodes (alphabet : List Char) : Program → List Char
  | text source => source.toList.filter (· ∈ alphabet)
  | grid source => source.cells.toList.filter (· ∈ alphabet)

theorem Program.filter_toText {alphabet : List Char}
    (inked : ∀ c ∈ alphabet, Text.isBlank c = false) (program : Program) :
    program.toText.toList.filter (· ∈ alphabet) = program.opcodes alphabet := by
  cases program with
  | text source => rfl
  | grid source =>
      apply source.filter_toText
      intro c member
      exact inked c (of_decide_eq_true member)

/-! ## Reading instructions -/

/-- Instructions are read from the characters of an alphabet, each from its own. -/
structure Spells {Op : Type} (alphabet : List Char) (read : Char → Option Op)
    (write : Op → Char) : Prop where
  inked : ∀ c ∈ alphabet, Text.isBlank c = false
  isSome_iff : ∀ c, (read c).isSome ↔ c ∈ alphabet
  write_read : ∀ c, ∀ op ∈ read c, write op = c

namespace Spells

variable {Op : Type} {alphabet : List Char} {read : Char → Option Op} {write : Op → Char}

theorem filterMap_toText (spells : Spells alphabet read write) (program : Program) :
    program.toText.toList.filterMap read = (program.opcodes alphabet).filterMap read := by
  rw [← Program.filter_toText spells.inked, List.filterMap_filter]
  apply List.filterMap_congr
  intro c _
  by_cases member : c ∈ alphabet
  · simp [member]
  · rw [← spells.isSome_iff, Option.not_isSome_iff_eq_none] at member
    simp [member]

theorem toArray_filterMap_eq (spells : Spells alphabet read write) {p q : Program}
    (same : p.opcodes alphabet = q.opcodes alphabet) :
    (p.toText.toList.filterMap read).toArray = (q.toText.toList.filterMap read).toArray := by
  rw [spells.filterMap_toText, spells.filterMap_toText, same]

theorem map_filterMap_opcodes (spells : Spells alphabet read write) (program : Program) :
    (program.toText.toList.filterMap read).map write = program.opcodes alphabet := by
  rw [← Program.filter_toText spells.inked, List.map_filterMap, ← List.filterMap_eq_filter]
  apply List.filterMap_congr
  intro c _
  cases found : read c with
  | none =>
      have other : c ∉ alphabet := by simp [← spells.isSome_iff, found]
      simp [other, Option.guard]
  | some op =>
      have member : c ∈ alphabet := by simp [← spells.isSome_iff, found]
      simp [member, Option.guard, spells.write_read c op found]

end Spells

/-- What a language shows of a first state is the characters of an alphabet in the program,
and the first state depends on nothing else. -/
structure Language.Takes (L : Language) (alphabet : List Char) : Prop where
  code : ∀ program, (L.view (L.seed program)).code = program.opcodes alphabet
  seed : ∀ p q : Program, p.opcodes alphabet = q.opcodes alphabet → L.seed p = L.seed q

namespace StunStep

/-- The characters of the instructions. -/
def alphabet : List Char := ['+', '-', '>', '<']

theorem spells : Spells alphabet Op.ofChar? Op.glyph where
  inked := by simp [alphabet, Text.isBlank, Text.inRanges, Text.blankRanges]
  isSome_iff c := by
    simp only [alphabet, List.mem_cons, List.not_mem_nil, or_false]
    unfold Op.ofChar?
    grind
  write_read c op found := by
    unfold Op.ofChar? at found
    grind [Op.glyph]

theorem takes : stunStep.Takes alphabet where
  code := spells.map_filterMap_opcodes
  seed p q same := by
    have code : readCode p.toText = readCode q.toText := spells.toArray_filterMap_eq same
    show ({ code := readCode p.toText } : State) = { code := readCode q.toText }
    rw [code]

end StunStep

namespace Suffolk

/-- The characters of the instructions. -/
def alphabet : List Char := ['>', '<', '!', ',', '.']

theorem spells : Spells alphabet Op.ofChar? Op.glyph where
  inked := by simp [alphabet, Text.isBlank, Text.inRanges, Text.blankRanges]
  isSome_iff c := by
    simp only [alphabet, List.mem_cons, List.not_mem_nil, or_false]
    unfold Op.ofChar?
    grind
  write_read c op found := by
    unfold Op.ofChar? at found
    grind [Op.glyph]

theorem takes (input : String) : (suffolk input).Takes alphabet where
  code := spells.map_filterMap_opcodes
  seed p q same := by
    have code : readCode p.toText = readCode q.toText := spells.toArray_filterMap_eq same
    show ({ code := readCode p.toText, input := _ } : State) =
      { code := readCode q.toText, input := _ }
    rw [code]

end Suffolk

/-! ## Twins -/

namespace Engine

variable {L : Language} {e f : Engine L}

/-- Engines that differ in nothing but programs with the same first state. -/
structure Twin (e f : Engine L) : Prop where
  seed : L.seed f.program = L.seed e.program
  same : f = { e with program := f.program }

namespace Twin

theorem fresh {p q : Program} (seed : L.seed p = L.seed q) (pace : Pace) :
    Twin (fresh L p pace) (fresh L q pace) where
  seed := seed.symm
  same := by
    rw [Engine.fresh, Engine.fresh, seed]

theorem snapshot_eq (twin : Twin e f) : e.snapshot = f.snapshot := by
  rw [twin.same]
  rfl

theorem perform (twin : Twin e f) (host : Host) (action : Action) :
    Twin (e.perform host action).value (f.perform host action).value := by
  obtain ⟨seed, same⟩ := twin
  generalize f.program = program at seed same
  subst same
  cases action with
  | tick =>
      have ended : ({ e with program } : Engine L).terminated = e.terminated := rfl
      cases going : e.terminated with
      | true =>
          rw [perform_tick_of_ended e host going, perform_tick_of_ended _ host (ended.trans going)]
          exact ⟨seed, rfl⟩
      | false =>
          rw [perform_tick_of_going e host going, perform_tick_of_going _ host (ended.trans going)]
          exact ⟨seed, rfl⟩
  | reset =>
      cases agreed : host.confirm with
      | true =>
          rw [perform_reset_of_agreed e host agreed, perform_reset_of_agreed _ host agreed, seed]
          exact ⟨seed, rfl⟩
      | false =>
          rw [perform_reset_of_declined e host agreed, perform_reset_of_declined _ host agreed]
          exact ⟨seed, rfl⟩
  | edit next => exact ⟨rfl, rfl⟩
  | run | stop | prev | next | fastForward => exact ⟨seed, rfl⟩

theorem with_ticker (twin : Twin e f) (ticker : Ticker Action) :
    Twin { e with ticker } { f with ticker } where
  seed := twin.seed
  same := by
    rw [twin.same]

theorem poll (twin : Twin e f) (host : Host) :
    Twin (e.poll host).value.2 (f.poll host).value.2 := by
  have ticker : f.ticker = e.ticker := by rw [twin.same]
  unfold Engine.poll
  rw [ticker]
  rcases e.ticker.poll host.now with ⟨_ | action, after⟩
  · exact twin
  · exact (twin.with_ticker after).perform host action

theorem obey (twin : Twin e f) (host : Host) (command : Command) :
    Twin (e.obey host command) (f.obey host command) := by
  cases command with
  | dispatch action => exact twin.perform host action
  | poll => exact twin.poll host

theorem play (twin : Twin e f) (script : Script) : Twin (e.play script) (f.play script) := by
  induction script generalizing e f with
  | nil => exact twin
  | cons entry rest ih =>
      obtain ⟨host, command⟩ := entry
      exact ih (twin.obey host command)

end Twin

end Engine

theorem Language.Takes.snapshot_play_eq {L : Language} {alphabet : List Char}
    (takes : L.Takes alphabet) (pace : Pace) {p q : Program}
    (same : p.opcodes alphabet = q.opcodes alphabet) (script : Script) :
    ((Engine.create L p pace).value.play script).snapshot =
      ((Engine.create L q pace).value.play script).snapshot := by
  have seed := takes.seed p q same
  exact ((Engine.Twin.fresh seed pace).play script).snapshot_eq

/-- The code of a program in a text language is the characters of the alphabet in it, text
or grid.  Programs with the same ones look the same after every script. -/
theorem text_sessions_know_opcodes_alone (input : String) (pace : Pace) (p q : Program)
    (script : Script) :
    ((stunStep.view (stunStep.seed p)).code = p.opcodes StunStep.alphabet ∧
      (p.opcodes StunStep.alphabet = q.opcodes StunStep.alphabet →
        ((Engine.create stunStep p pace).value.play script).snapshot =
          ((Engine.create stunStep q pace).value.play script).snapshot)) ∧
    (((suffolk input).view ((suffolk input).seed p)).code = p.opcodes Suffolk.alphabet ∧
      (p.opcodes Suffolk.alphabet = q.opcodes Suffolk.alphabet →
        ((Engine.create (suffolk input) p pace).value.play script).snapshot =
          ((Engine.create (suffolk input) q pace).value.play script).snapshot)) := by
  refine ⟨⟨StunStep.takes.code p, ?_⟩, (Suffolk.takes input).code p, ?_⟩
  · intro same
    exact StunStep.takes.snapshot_play_eq pace same script
  · intro same
    exact (Suffolk.takes input).snapshot_play_eq pace same script

/-- A text with letters and a grid with blank ends of rows, over a tick and a reset. -/
theorem text_sessions_know_opcodes_alone_of_grid :
    let p := Program.text "add + go\n>,."
    let q := Program.grid (Grid.ofCells ⟨2, 4⟩ ['+', '>', ' ', ' ', ' ', ',', '.', ' '])
    let script : Script :=
      [({ now := 3 }, .dispatch .run), ({ now := 203 }, .poll), ({ now := 500 }, .poll),
        ({}, .dispatch .prev), ({ confirm := true }, .dispatch .reset), ({}, .dispatch .next)]
    q.toText = "+>\n ,." ∧
      (stunStep.view (stunStep.seed q)).code = ['+', '>'] ∧
      ((suffolk "A").view ((suffolk "A").seed q)).code = ['>', ',', '.'] ∧
      ((Engine.create stunStep p {}).value.play script).snapshot =
        ((Engine.create stunStep q {}).value.play script).snapshot ∧
      ((Engine.create (suffolk "A") p {}).value.play script).snapshot =
        ((Engine.create (suffolk "A") q {}).value.play script).snapshot := by
  intro p q script
  obtain ⟨⟨_, stun⟩, _, suffolk⟩ := text_sessions_know_opcodes_alone "A" {} p q script
  obtain ⟨⟨stunCode, _⟩, suffolkCode, _⟩ := text_sessions_know_opcodes_alone "A" {} q p script
  exact ⟨by decide +kernel, stunCode.trans (by decide +kernel),
    suffolkCode.trans (by decide +kernel), stun (by decide +kernel), suffolk (by decide +kernel)⟩

end StepLab
