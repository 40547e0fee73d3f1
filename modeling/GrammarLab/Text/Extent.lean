/-
The extent of a line: how far to the right it takes the cursor of a terminal.

A character moves the cursor by its width. A backspace moves it one column back and a carriage return to the beginning,
and what is written from there on covers what was there before. A joiner makes one picture of the characters on its two
sides, so the second takes no room of its own; the emoji selector makes a narrow picture a wide one. An escape sequence
takes no room either, but it may move the cursor to the right or to the left.
-/
import GrammarLab.Text.Width

namespace GrammarLab.Text

/-- the narrow characters that the emoji selector makes wide, ascending -/
def pictureRanges : List (Nat × Nat) :=
  [(0x23, 0x23), (0x2A, 0x2A), (0x30, 0x39), (0xA9, 0xA9), (0xAE, 0xAE), (0x203C, 0x203C), (0x2049, 0x2049),
   (0x2122, 0x2122), (0x2139, 0x2139), (0x2194, 0x2199), (0x21A9, 0x21AA), (0x2328, 0x2328), (0x23CF, 0x23CF),
   (0x23ED, 0x23EF), (0x23F1, 0x23F2), (0x23F8, 0x23FA), (0x24C2, 0x24C2), (0x25AA, 0x25AB), (0x25B6, 0x25B6),
   (0x25C0, 0x25C0), (0x25FB, 0x25FC), (0x2600, 0x2604), (0x260E, 0x260E), (0x2611, 0x2611), (0x2618, 0x2618),
   (0x261D, 0x261D), (0x2620, 0x2620), (0x2622, 0x2623), (0x2626, 0x2626), (0x262A, 0x262A), (0x262E, 0x262F),
   (0x2638, 0x263A), (0x2640, 0x2640), (0x2642, 0x2642), (0x265F, 0x2660), (0x2663, 0x2663), (0x2665, 0x2666),
   (0x2668, 0x2668), (0x267B, 0x267B), (0x267E, 0x267E), (0x2692, 0x2692), (0x2694, 0x2697), (0x2699, 0x2699),
   (0x269B, 0x269C), (0x26A0, 0x26A0), (0x26A7, 0x26A7), (0x26B0, 0x26B1), (0x26C8, 0x26C8), (0x26CF, 0x26CF),
   (0x26D1, 0x26D1), (0x26D3, 0x26D3), (0x26E9, 0x26E9), (0x26F0, 0x26F1), (0x26F4, 0x26F4), (0x26F7, 0x26F9),
   (0x2702, 0x2702), (0x2708, 0x2709), (0x270C, 0x270D), (0x270F, 0x270F), (0x2712, 0x2712), (0x2714, 0x2714),
   (0x2716, 0x2716), (0x271D, 0x271D), (0x2721, 0x2721), (0x2733, 0x2734), (0x2744, 0x2744), (0x2747, 0x2747),
   (0x2763, 0x2764), (0x27A1, 0x27A1), (0x2934, 0x2935), (0x2B05, 0x2B07), (0x1F170, 0x1F171), (0x1F17E, 0x1F17F),
   (0x1F321, 0x1F321), (0x1F324, 0x1F32C), (0x1F336, 0x1F336), (0x1F37D, 0x1F37D), (0x1F396, 0x1F397),
   (0x1F399, 0x1F39B), (0x1F39E, 0x1F39F), (0x1F3CB, 0x1F3CE), (0x1F3D4, 0x1F3DF), (0x1F3F3, 0x1F3F3),
   (0x1F3F5, 0x1F3F5), (0x1F3F7, 0x1F3F7), (0x1F43F, 0x1F43F), (0x1F441, 0x1F441), (0x1F4FD, 0x1F4FD),
   (0x1F549, 0x1F54A), (0x1F56F, 0x1F570), (0x1F573, 0x1F579), (0x1F587, 0x1F587), (0x1F58A, 0x1F58D),
   (0x1F590, 0x1F590), (0x1F5A5, 0x1F5A5), (0x1F5A8, 0x1F5A8), (0x1F5B1, 0x1F5B2), (0x1F5BC, 0x1F5BC),
   (0x1F5C2, 0x1F5C4), (0x1F5D1, 0x1F5D3), (0x1F5DC, 0x1F5DE), (0x1F5E1, 0x1F5E1), (0x1F5E3, 0x1F5E3),
   (0x1F5E8, 0x1F5E8), (0x1F5EF, 0x1F5EF), (0x1F5F3, 0x1F5F3), (0x1F5FA, 0x1F5FA), (0x1F6CB, 0x1F6CB),
   (0x1F6CD, 0x1F6CF), (0x1F6E0, 0x1F6E5), (0x1F6E9, 0x1F6E9), (0x1F6F0, 0x1F6F0), (0x1F6F3, 0x1F6F3)]

/-- a cursor in its line -/
structure Cursor where
  column : Nat
  /-- the furthest column reached -/
  furthest : Nat
deriving DecidableEq, Repr

namespace Cursor

/-- the cursor moved to a column -/
def moveTo (cursor : Cursor) (column : Nat) : Cursor := ⟨column, max cursor.furthest column⟩

/-- the cursor moved `n` columns to the right -/
def right (cursor : Cursor) (n : Nat) : Cursor := cursor.moveTo (cursor.column + n)

/-- the cursor moved `n` columns to the left, but not out of the line -/
def left (cursor : Cursor) (n : Nat) : Cursor := cursor.moveTo (cursor.column - n)

/-- the decimal number that digits stand for, one if there are none -/
def count (digits : List Char) : Nat :=
  if digits.isEmpty then 1 else digits.foldl (fun n c => 10 * n + (c.toNat - 0x30)) 0

/-- the parameters and the final letter of a control sequence whose introducer has been read -/
def controlSequence? (cs : List Char) : Option (List Char × Char) :=
  let parameters := cs.takeWhile fun c => ' ' ≤ c && c < '@'
  match cs[parameters.length]? with
  | some final => if '@' ≤ final && final ≤ '~' then some (parameters, final) else none
  | none => none

/-- the cursor after a control sequence with the given parameters and final letter -/
def control (cursor : Cursor) (parameters : List Char) (final : Char) : Cursor :=
  if !parameters.all Char.isDigit then cursor
  else if final = 'C' then cursor.right (count parameters)
  else if final = 'D' then cursor.left (count parameters)
  else cursor

/-- the cursor after a text; `last` is the character just before it, if that took room -/
def write (cursor : Cursor) (last : Option Char) (cs : List Char) : Cursor :=
  match cs with
  | [] => cursor
  | '\x1b' :: '[' :: rest =>
    match controlSequence? rest with
    | some (parameters, final) =>
      write (cursor.control parameters final) none (rest.drop (parameters.length + 1))
    | none => write (cursor.right 1) (some '[') rest
  | '\x08' :: rest => write (cursor.left 1) none rest
  | '\r' :: rest => write (cursor.moveTo 0) none rest
  | '\u200d' :: _ :: rest => write cursor none rest
  | '\ufe0f' :: rest =>
    write (if last.any (inRanges pictureRanges) then cursor.right 1 else cursor) none rest
  | c :: rest => write (cursor.right (charWidth c)) (if charWidth c = 0 then none else some c) rest
termination_by cs.length
decreasing_by
  all_goals simp only [List.length_cons, List.length_drop]
  all_goals omega

end Cursor

/-- the columns that a line takes -/
def extent (cs : List Char) : Nat := (Cursor.write ⟨0, 0⟩ none cs).furthest

end GrammarLab.Text
