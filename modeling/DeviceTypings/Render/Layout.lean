import DeviceTypings.Text.Basic

namespace DeviceTypings.Render

/-!
# Lines

A declaration is laid out as a list of lines. Nested lines are indented by two
spaces a level, and an empty line stays empty.
-/

def indentLine (depth : Nat) (line : Text) : Text :=
  if line = "" then line else Text.ofList (List.replicate (2 * depth) ' ') ++ line

def indent (depth : Nat) (lines : List Text) : List Text := lines.map (indentLine depth)

/-- Puts a separator after the last line. -/
def closeWith (separator : Text) : List Text → List Text
  | [] => []
  | [line] => [line ++ separator]
  | line :: lines => line :: closeWith separator lines

def unlines (lines : List Text) : Text := Text.intercalate "\n" lines

/-- Blocks with an empty line between them. -/
def paragraphs (blocks : List Text) : Text := Text.intercalate "\n\n" blocks

@[simp] theorem closeWith_nil (s : Text) : closeWith s [] = [] := rfl

@[simp] theorem closeWith_singleton (s l : Text) : closeWith s [l] = [l ++ s] := rfl

theorem closeWith_cons (s l : Text) {ls : List Text} (h : ls ≠ []) :
    closeWith s (l :: ls) = l :: closeWith s ls := by
  cases ls with
  | nil => exact absurd rfl h
  | cons => rfl

theorem closeWith_append (s : Text) (ls : List Text) {ms : List Text} (h : ms ≠ []) :
    closeWith s (ls ++ ms) = ls ++ closeWith s ms := by
  induction ls with
  | nil => rfl
  | cons l ls ih => rw [List.cons_append, closeWith_cons _ _ (by simp [h]), ih, List.cons_append]

@[simp] theorem length_closeWith (s : Text) (ls : List Text) :
    (closeWith s ls).length = ls.length := by
  induction ls with
  | nil => rfl
  | cons l ls ih => cases ls <;> simp_all [closeWith]

end DeviceTypings.Render
