import HartKernel.Proofs.Text.Form
import HartKernel.Proofs.Trap.Truncation

/-!
# What the printed texts tell

The dump that is written about a trap (`TrapInfo.written_eq`) and the debug texts of a frame are
forms, filled in with words. So they lose nothing of these words: two dumps are the same only if
they are about the same trap and the registers in them are the same (`TrapInfo.dumpText_eq_iff`),
and two debug texts only if the frames agree on all that is named there (`Frame.debugText_eq_iff`,
`Frame.debugLines_eq_iff`).
-/

namespace HartKernel

open Numeral

namespace Frame

/-- The words of the argument registers. -/
def argumentWords (frame : Frame) : List Word :=
  argumentSlots.map fun r => frame.regs[r]

theorem argumentWords_eq_iff {frame other : Frame} :
    frame.argumentWords = other.argumentWords ↔
      ∀ r : Register, 10 ≤ r.val ∧ r.val ≤ 17 → frame.regs[r] = other.regs[r] := by
  have hslots : ∀ r : Register, r ∈ argumentSlots ↔ 10 ≤ r.val ∧ r.val ≤ 17 := by decide
  rw [argumentWords, argumentWords, List.map_inj_left]
  exact forall_congr' fun r => by rw [hslots]

/-- The list of the argument registers with what is printed after it, as a form. -/
theorem argumentList_append (frame : Frame) (spelling : Spelling) (text : String)
    (h : Stops ("]" ++ text).toList) :
    frame.argumentList spelling.spell ++ text =
      "[" ++ Blank.fill (Blank.listed spelling ("]" ++ text) h 8) frame.argumentWords := by
  have hfill := Blank.fill_listed spelling ("]" ++ text) h frame.regs[Register.a0]
    (frame.argumentWords.tail)
  rw [argumentList, String.append_assoc, String.append_assoc]
  exact congrArg _ hfill.symm

end Frame

/-! ### The dump of a trap -/

namespace TrapInfo

/-- The text of the dump of a trap with its frame. -/
def dumpText (info : TrapInfo) (frame : Frame) : String :=
  " hart=" ++ decimal info.hart ++ " mepc=0x" ++ hex16 info.epc ++ "\n" ++
  " mcause=0x" ++ hex16 info.cause ++ " (" ++ HartKernel.causeName info.cause ++ ")\n" ++
  " mtval=0x" ++ hex16 info.tval ++ " mstatus=0x" ++ hex16 info.status ++ "\n" ++
  " ra=0x" ++ hex16 frame.regs[Register.ra] ++ " sp=0x" ++ hex16 frame.regs[Register.sp] ++ "\n" ++
  " a0..a7 = " ++ frame.argumentList hex16 ++ "\n"

theorem text_dump (info : TrapInfo) (frame : Frame) :
    (info.dump frame).text = info.dumpText frame := by
  unfold dump dumpText
  simp only [Pieces.text_cons, Pieces.text_nil, String.append_empty, String.append_assoc, causeName]

/-- How the routine that dumps a trap ends where nothing is refused, and what it leaves there. -/
def written (info : TrapInfo) (frame : Frame) : Bool × Sink :=
  (info.writeDump frame : Writing Sink Unit).outcome (.empty none)

theorem written_eq (info : TrapInfo) (frame : Frame) :
    info.written frame = (true, { accepted := info.dumpText frame, room := none }) := by
  rw [written, spells_writeDump, Outlet.acceptAll_sink, Sink.writeAll_empty_none, text_dump]

/-- The words of a dump, in the order in which they are printed. -/
def dumpWords (info : TrapInfo) (frame : Frame) : List Word :=
  [info.hart, info.epc, info.cause, info.tval, info.status, frame.regs[Register.ra],
    frame.regs[Register.sp]] ++ frame.argumentWords

/-- The blanks of a dump. The name of the cause is no blank, it depends on the cause word before. -/
def dumpForm : List Blank :=
  [.before .decimal " mepc=0x" (by decide),
    .before .hex16 ("\n" ++ " mcause=0x") (by decide),
    { spelling := .hex16
      after := fun cause => " (" ++ (HartKernel.causeName cause ++ (")\n" ++ " mtval=0x"))
      stops := fun cause => by rw [String.toList_append]; exact Stops.append (by decide) _ },
    .before .hex16 " mstatus=0x" (by decide),
    .before .hex16 ("\n" ++ " ra=0x") (by decide),
    .before .hex16 " sp=0x" (by decide),
    .before .hex16 ("\n" ++ (" a0..a7 = " ++ "[")) (by decide)] ++
  Blank.listed .hex16 ("]" ++ "\n") (by decide) 8

theorem dumpText_eq_fill (info : TrapInfo) (frame : Frame) :
    info.dumpText frame = " hart=" ++ Blank.fill dumpForm (info.dumpWords frame) := by
  have hlist : frame.argumentList hex16 ++ "\n" = _ :=
    frame.argumentList_append .hex16 "\n" (by decide)
  unfold dumpText
  simp only [String.append_assoc]
  rw [hlist]
  simp only [dumpForm, dumpWords, List.cons_append, List.nil_append, Blank.fill, Blank.before,
    Spelling.spell, String.append_assoc]

theorem length_dumpWords (info : TrapInfo) (frame : Frame) :
    (info.dumpWords frame).length = dumpForm.length := rfl

theorem dumpText_eq_iff {info other : TrapInfo} {frame frame' : Frame} :
    info.dumpText frame = other.dumpText frame' ↔
      info.dumpWords frame = other.dumpWords frame' := by
  rw [dumpText_eq_fill, dumpText_eq_fill, String.append_right_inj,
    Blank.fill_inj (length_dumpWords info frame) (length_dumpWords other frame')]

theorem dumpWords_eq_iff {info other : TrapInfo} {frame frame' : Frame} :
    info.dumpWords frame = other.dumpWords frame' ↔
      (info.hart = other.hart ∧ info.epc = other.epc ∧ info.cause = other.cause ∧
          info.tval = other.tval ∧ info.status = other.status) ∧
        frame.regs[Register.ra] = frame'.regs[Register.ra] ∧
        frame.regs[Register.sp] = frame'.regs[Register.sp] ∧
        frame.argumentWords = frame'.argumentWords := by
  simp only [dumpWords, List.cons_append, List.nil_append, List.cons.injEq, and_assoc]

end TrapInfo

/-! ### The debug texts of a frame -/

namespace Frame

/-- The words of a debug text, in the order in which they are printed. -/
def debugWords (frame : Frame) : List Word :=
  [frame.pc, frame.satp, frame.mode, frame.regs[Register.ra], frame.regs[Register.sp],
    frame.regs[Register.gp], frame.regs[Register.tp]] ++ frame.argumentWords

/-- The two debug texts differ in what is printed before, between and after the fields. -/
structure DebugLayout where
  opening : String
  between : String
  closing : String
  stops : Stops between.toList

namespace DebugLayout

def compact : DebugLayout :=
  { opening := "TrapFrame \x7b ", between := ", ", closing := " \x7d",
    stops := Blank.stops_comma }

def pretty : DebugLayout :=
  { opening := "TrapFrame \x7b\n" ++ "    ", between := ",\n" ++ "    ", closing := ",\n" ++ "\x7d",
    stops := by decide }

variable (layout : DebugLayout)

/-- The blank for the value of a field, with the text up to the value of the next field. -/
def blank (spelling : Spelling) (name mark : String) : Blank :=
  .before spelling (layout.between ++ (name ++ (": " ++ mark)))
    (by rw [String.toList_append]; exact layout.stops.append _)

theorem stops_closing : Stops ("]" ++ layout.closing).toList := by
  rw [String.toList_append]
  exact Stops.append (by decide) _

/-- The blanks of a debug text. -/
def form : List Blank :=
  [layout.blank .hex "satp" "0x", layout.blank .hex "mode" "", layout.blank .decimal "ra" "0x",
    layout.blank .hex "sp" "0x", layout.blank .hex "gp" "0x", layout.blank .hex "tp" "0x",
    layout.blank .hex "a0..a7" "["] ++
  Blank.listed .hex ("]" ++ layout.closing) layout.stops_closing 8

/-- The debug text of a frame in a layout. -/
def text (frame : Frame) : String :=
  layout.opening ++
    layout.between.intercalate (frame.debugFields.map fun field => field.1 ++ ": " ++ field.2) ++
    layout.closing

theorem text_eq_fill (frame : Frame) :
    layout.text frame =
      layout.opening ++ ("pc" ++ (": " ++ ("0x" ++ Blank.fill layout.form frame.debugWords))) := by
  have hlist : frame.argumentList hex ++ layout.closing = _ :=
    frame.argumentList_append .hex layout.closing layout.stops_closing
  simp only [text, debugFields, List.map_cons, List.map_nil, String.intercalate_cons_cons,
    String.intercalate_singleton, String.append_assoc]
  rw [hlist]
  simp only [form, blank, debugWords, List.cons_append, List.nil_append, Blank.fill, Blank.before,
    Spelling.spell, String.append_assoc, String.empty_append]

theorem text_eq_iff {frame other : Frame} :
    layout.text frame = layout.text other ↔ frame.debugWords = other.debugWords := by
  simp only [text_eq_fill, String.append_right_inj]
  exact Blank.fill_inj rfl rfl

end DebugLayout

theorem debugText_eq_text (frame : Frame) : frame.debugText = DebugLayout.compact.text frame := rfl

/-- A line for each field is what the fields are with line ends between them. -/
theorem debugLines_eq_text (frame : Frame) :
    frame.debugLines = DebugLayout.pretty.text frame := by
  simp only [debugLines, DebugLayout.text, DebugLayout.pretty, debugFields, List.map_cons,
    List.map_nil, String.join_cons, String.join_nil, String.intercalate_cons_cons,
    String.intercalate_singleton, String.append_assoc, String.empty_append]

theorem debugText_eq_iff {frame other : Frame} :
    frame.debugText = other.debugText ↔ frame.debugWords = other.debugWords := by
  rw [debugText_eq_text, debugText_eq_text, DebugLayout.text_eq_iff]

theorem debugLines_eq_iff {frame other : Frame} :
    frame.debugLines = other.debugLines ↔ frame.debugWords = other.debugWords := by
  rw [debugLines_eq_text, debugLines_eq_text, DebugLayout.text_eq_iff]

theorem debugWords_eq_iff {frame other : Frame} :
    frame.debugWords = other.debugWords ↔
      frame.pc = other.pc ∧ frame.satp = other.satp ∧ frame.mode = other.mode ∧
        frame.regs[Register.ra] = other.regs[Register.ra] ∧
        frame.regs[Register.sp] = other.regs[Register.sp] ∧
        frame.regs[Register.gp] = other.regs[Register.gp] ∧
        frame.regs[Register.tp] = other.regs[Register.tp] ∧
        frame.argumentWords = other.argumentWords := by
  simp only [debugWords, List.cons_append, List.nil_append, List.cons.injEq]

end Frame

/-- **The printed texts lose nothing of what they show.** A dump is written to its end where nothing
is refused. Two dumps leave the same text if and only if they are about the same trap, and the
registers shown are the same; of the frames, nothing else matters. The debug texts of two frames are
the same on one line if and only if they are the same on several, and that is if and only if the
frames agree on the fifteen words that are named. -/
theorem printed_texts_lose_nothing :
    (∀ (info : TrapInfo) (frame : Frame),
      info.written frame = (true, { accepted := info.dumpText frame, room := none })) ∧
    (∀ (info other : TrapInfo) (frame frame' : Frame),
      (info.written frame).2.accepted = (other.written frame').2.accepted ↔
        (info.hart = other.hart ∧ info.epc = other.epc ∧ info.cause = other.cause ∧
            info.tval = other.tval ∧ info.status = other.status) ∧
          frame.regs[Register.ra] = frame'.regs[Register.ra] ∧
          frame.regs[Register.sp] = frame'.regs[Register.sp] ∧
          ∀ r : Register, 10 ≤ r.val ∧ r.val ≤ 17 → frame.regs[r] = frame'.regs[r]) ∧
    ∀ frame other : Frame,
      (frame.debugText = other.debugText ↔ frame.debugLines = other.debugLines) ∧
        (frame.debugLines = other.debugLines ↔
          frame.pc = other.pc ∧ frame.satp = other.satp ∧ frame.mode = other.mode ∧
            frame.regs[Register.ra] = other.regs[Register.ra] ∧
            frame.regs[Register.sp] = other.regs[Register.sp] ∧
            frame.regs[Register.gp] = other.regs[Register.gp] ∧
            frame.regs[Register.tp] = other.regs[Register.tp] ∧
            ∀ r : Register, 10 ≤ r.val ∧ r.val ≤ 17 → frame.regs[r] = other.regs[r]) := by
  refine ⟨TrapInfo.written_eq, fun info other frame frame' => ?_, fun frame other => ⟨?_, ?_⟩⟩
  · rw [TrapInfo.written_eq, TrapInfo.written_eq, TrapInfo.dumpText_eq_iff,
      TrapInfo.dumpWords_eq_iff, Frame.argumentWords_eq_iff]
  · rw [Frame.debugText_eq_iff, Frame.debugLines_eq_iff]
  · rw [Frame.debugLines_eq_iff, Frame.debugWords_eq_iff, Frame.argumentWords_eq_iff]

end HartKernel
