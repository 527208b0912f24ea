import RouteTypes.Diagnostics
import RouteTypes.Proofs.Text.Wrap

/-!
# What the user is told

A warning is shown in every case. As plain text it is the message as it is. On a terminal it is laid
out for the columns that there are, which leaves its letters and where its words start
(`Diagnostics.warns_render`); only a terminal without columns shows nothing.
-/

namespace RouteTypes.Diagnostics

variable {diagnostics : Diagnostics} {message text ending : String}

/-- What a terminal can show of a message: the emoji in place of their names, and no control
characters. -/
def visible (diagnostics : Diagnostics) (message : String) : List Char :=
  (Text.replaceEmoji diagnostics.emoji message).toList.filter (!Text.isUnshown ·)

/-- What is written is a warning about a message. As plain text it is the message behind its mark. A
terminal shows the two, where no character of the message is wider than the terminal, and nothing
where it has no columns. -/
structure Warns (diagnostics : Diagnostics) (message written : String) : Prop where
  plain : diagnostics.plain = true → written = "Warning: " ++ message ++ "\n"
  terminal : diagnostics.plain = false → 0 < diagnostics.width →
    (∀ c ∈ diagnostics.visible message, Text.charWidth c ≤ diagnostics.width) →
      Text.Shows ("Warning: ".toList ++ diagnostics.visible message) written.toList
  hidden : diagnostics.plain = false → diagnostics.width = 0 → written = ""

theorem layOut_plain (plain : diagnostics.plain = true) :
    diagnostics.layOut text ending = text ++ ending :=
  if_pos plain

theorem layOut_hidden (terminal : diagnostics.plain = false) (none : diagnostics.width = 0) :
    diagnostics.layOut text ending = "" := by
  simp [layOut, terminal, none]

/-- The lines of a message on a terminal. -/
def screen (diagnostics : Diagnostics) (message : String) : List Char :=
  ['\n'].intercalate (Text.wrap diagnostics.width
    (Text.replaceEmoji diagnostics.emoji message).toList)

theorem toList_layOut (terminal : diagnostics.plain = false) (some : 0 < diagnostics.width) :
    (diagnostics.layOut text ending).toList = diagnostics.screen text ++ ending.toList := by
  have lineBreak : "\n".toList = ['\n'] := rfl
  simp [layOut, screen, terminal, some.ne', String.toList_intercalate, Function.comp_def,
    lineBreak]

theorem shows_screen (some : 0 < diagnostics.width)
    (narrow : ∀ c ∈ diagnostics.visible message, Text.charWidth c ≤ diagnostics.width) :
    Text.Shows (diagnostics.visible message) (diagnostics.screen message) :=
  Text.shows_wrap some narrow

/-- The mark of a warning is no name of an emoji, and all of it can be shown. -/
@[simp] theorem visible_mark (diagnostics : Diagnostics) :
    diagnostics.visible "Warning:" = "Warning:".toList := by
  cbv

theorem render_warning : diagnostics.render .warning message =
    diagnostics.layOut "Warning:" " " ++ diagnostics.layOut message "\n" :=
  rfl

/-- A terminal with columns shows a warning. -/
theorem shows_render (terminal : diagnostics.plain = false) (some : 0 < diagnostics.width)
    (narrow : ∀ c ∈ diagnostics.visible message, Text.charWidth c ≤ diagnostics.width) :
    Text.Shows ("Warning: ".toList ++ diagnostics.visible message)
      (diagnostics.render .warning message).toList := by
  have letters : "Warning:".toList.all (Text.charWidth · == 1) = true := by decide
  have mark : Text.Shows "Warning:".toList (diagnostics.screen "Warning:") := by
    rw [← visible_mark diagnostics]
    refine shows_screen some fun c member => ?_
    rw [eq_of_beq (List.all_eq_true.1 letters c (visible_mark diagnostics ▸ member))]
    exact some
  have blank : ∀ c ∈ ['\n'], Text.isBlank c = true := List.forall_mem_singleton.2 (by decide)
  have shown := (shows_screen some narrow).append_blank blank
  have parts : (diagnostics.render .warning message).toList =
      diagnostics.screen "Warning:" ++ ' ' :: (diagnostics.screen message ++ ['\n']) := by
    have space : " ".toList = [' '] := rfl
    have lineBreak : "\n".toList = ['\n'] := rfl
    rw [render_warning, String.toList_append, toList_layOut terminal some,
      toList_layOut terminal some, space, lineBreak, List.append_assoc, List.singleton_append]
  have front : "Warning: ".toList = "Warning:".toList ++ [' '] := by decide
  have whole := mark.join shown ' ' (by decide)
  rwa [parts, front, List.append_assoc, List.singleton_append]

/-- Whatever the terminal, a warning is written about a message. -/
theorem warns_render (diagnostics : Diagnostics) (message : String) :
    diagnostics.Warns message (diagnostics.render .warning message) where
  plain plain := by
    rw [render_warning, layOut_plain plain, layOut_plain plain, ← String.append_assoc]
    rfl
  terminal := shows_render
  hidden terminal none := by
    rw [render_warning, layOut_hidden terminal none, layOut_hidden terminal none]
    rfl

end RouteTypes.Diagnostics
