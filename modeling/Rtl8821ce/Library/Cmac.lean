import Rtl8821ce.Library.Cut

/-!
# Message authentication by a block cipher

A message is cut into pieces of the size of a block.  The pieces before the last one are
chained through the cipher.  The last one is combined with one of two subkeys before its
turn: with the first when it is full, and with the second when it had to be filled up
behind a mark.
-/

namespace Cmac

universe u

variable {Cell : Type u} {size : Nat}

/-- The cipher under one key, and the operations on blocks. -/
structure Mode (Cell : Type u) (size : Nat) where
  zero : Cell
  mark : Cell
  combine : Cell -> Cell -> Cell
  double : Vector Cell size -> Vector Cell size
  encrypt : Vector Cell size -> Vector Cell size

namespace Mode

variable (mode : Mode Cell size)

/-- A piece as a block, filled up with zeros. -/
def block (piece : List Cell) : Vector Cell size := Vector.ofFn (fun i => piece.getD i.val mode.zero)

def add (first second : Vector Cell size) : Vector Cell size := Vector.zipWith mode.combine first second

def subkey : Vector Cell size := mode.double (mode.encrypt (mode.block []))

/-- The last piece as it is combined with what was chained before. -/
def last (piece : List Cell) : Vector Cell size :=
  if piece.length = size then mode.add (mode.block piece) mode.subkey
  else mode.add (mode.block (piece ++ [mode.mark])) (mode.double mode.subkey)

/-- The code of a list of pieces behind a chain. -/
def chain : Vector Cell size -> List (List Cell) -> Vector Cell size
  | cbc, [] => cbc
  | cbc, [piece] => mode.encrypt (mode.add cbc (mode.last piece))
  | cbc, piece :: next :: rest => chain (mode.encrypt (mode.add cbc (mode.block piece))) (next :: rest)

def mac (message : List Cell) : Vector Cell size := mode.chain (mode.block []) (Cut.pieces size message)

variable {mode}

/-- A message that is one piece. -/
theorem chain_pieces_of_le {cbc : Vector Cell size} {message : List Cell} (fits : message.length ≤ size) :
    mode.chain cbc (Cut.pieces size message) = mode.encrypt (mode.add cbc (mode.last message)) := by
  rw [Cut.pieces_of_le fits, chain]

/-- The first piece of a longer message is chained. -/
theorem chain_pieces_of_gt {cbc : Vector Cell size} {message : List Cell} (positive : 0 < size)
    (long : size < message.length) :
    mode.chain cbc (Cut.pieces size message) =
      mode.chain (mode.encrypt (mode.add cbc (mode.block (message.take size))))
        (Cut.pieces size (message.drop size)) := by
  rw [Cut.pieces_of_gt positive long]
  cases later : Cut.pieces size (message.drop size) with
  | nil => exact absurd later (Cut.pieces_ne_nil size (message.drop size))
  | cons next rest => rw [chain]

end Mode

end Cmac
