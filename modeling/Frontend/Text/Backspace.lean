import Frontend.Text.Bytes
import Frontend.Text.Cluster.Basic

namespace Frontend.Text

/-!
# Backspaces

In a line that was typed rather than written, a backspace takes back the cluster before it.

* `Typed` — what a line has come to so far, and what a backspace would take back;
* `Typed.receive` — the next cluster;
* `applyBackspaces` — a line after all its backspaces.

How much to take back is remembered in bytes, and a single byte holds each number: of a cluster of
256 bytes or more, a backspace takes back the remainder modulo 256 only.
-/

/-- A text, its last character first, without `count` bytes at its end. -/
def dropBytes (count : Nat) : List Char → List Char
  | [] => []
  | c :: rest => if count = 0 then c :: rest else dropBytes (count - c.utf8Size) rest

/-- What a line has come to so far. -/
structure Typed where
  /-- The text, its last character first. -/
  text : List Char := []
  /-- How many bytes each backspace to come takes back, the first to be used first. -/
  sizes : List Nat := []
  deriving DecidableEq

/-- The backspace. -/
def backspace : Char := '\x08'

/-- Takes in the next cluster, or takes one back if it is a backspace.  At the start of a line a
    backspace does nothing. -/
def Typed.receive (typed : Typed) (cluster : List Char) : Typed :=
  if cluster = [backspace] then
    match typed.sizes with
    | [] => typed
    | size :: sizes => { text := dropBytes size typed.text, sizes }
  else
    { text := cluster.reverse ++ typed.text, sizes := byteCount cluster % 256 :: typed.sizes }

/-- A line after all its backspaces. -/
def applyBackspaces (line : List Char) : List Char :=
  ((clusters line).foldl Typed.receive {}).text.reverse

private theorem text_foldl_receive {pieces : List (List Char)} (h : [backspace] ∉ pieces)
    (typed : Typed) :
    (pieces.foldl Typed.receive typed).text.reverse = typed.text.reverse ++ pieces.flatten := by
  induction pieces generalizing typed with
  | nil => simp
  | cons piece rest ih =>
    simp only [List.mem_cons, not_or] at h
    rw [List.foldl_cons, ih h.2, Typed.receive, if_neg (Ne.symm h.1)]
    simp

/-- Without a backspace, a line stays as it is. -/
theorem applyBackspaces_of_notMem {line : List Char} (h : backspace ∉ line) :
    applyBackspaces line = line := by
  have hpieces : [backspace] ∉ clusters line := by
    intro hmem
    apply h
    rw [← flatten_clusters line]
    exact List.mem_flatten.mpr ⟨_, hmem, List.mem_singleton_self _⟩
  simpa [applyBackspaces] using text_foldl_receive hpieces {}

/-- A backspace takes back a letter together with its accent, and is lost at the start. -/
example : applyBackspaces ['\x08', 'f', 'e', '\u0301', '\x08', 'x'] = ['f', 'x'] := by
  decide +kernel

end Frontend.Text
