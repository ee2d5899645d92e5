/-! Byte strings: lines, arguments and paths are bytes before they are text. -/

namespace GuestInit

abbrev Bytes := List UInt8

namespace Bytes

def nul : UInt8 := 0
def newline : UInt8 := 10

/-- The UTF-8 encoding of a text. -/
def ofString (text : String) : Bytes := text.toList.flatMap String.utf8EncodeChar

/-- A string with a NUL byte cannot be handed to the kernel, which takes NUL for its end. -/
def hasNul (bytes : Bytes) : Bool := bytes.contains nul

@[simp] theorem hasNul_iff (bytes : Bytes) : hasNul bytes = true ↔ nul ∈ bytes := by
  simp [hasNul]

end Bytes

/-- The pieces that end at a separator, which is dropped, and what follows the last one unless it
is empty. -/
def cutAfter {α : Type} [DecidableEq α] (separator : α) : List α → List (List α)
  | [] => []
  | a :: rest =>
    if a = separator then [] :: cutAfter separator rest
    else match cutAfter separator rest with
      | [] => [[a]]
      | piece :: pieces => (a :: piece) :: pieces

@[simp] theorem cutAfter_nil {α : Type} [DecidableEq α] (separator : α) :
    cutAfter separator ([] : List α) = [] := rfl

@[simp] theorem cutAfter_separator {α : Type} [DecidableEq α] (separator : α) (rest : List α) :
    cutAfter separator (separator :: rest) = [] :: cutAfter separator rest := by
  simp [cutAfter]

end GuestInit
