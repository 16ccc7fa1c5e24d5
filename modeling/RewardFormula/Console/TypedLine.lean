import RewardFormula.Text.Cluster

/-!
# Typed lines

A line of a conversation is taken as it was meant: without its end, and without
what was taken back by backspaces. A line without backspaces is left as it is
(`afterBackspaces_eq_self`).
-/

namespace RewardFormula

/-- What is left of a line: its characters from the end, and the sizes of its
clusters from the last one. The size of a cluster is its number of bytes, and is
kept in one byte. -/
structure TypedLine where
  characters : List Char
  sizes : List UInt8

namespace TypedLine

def initial : TypedLine := ⟨[], []⟩

def backspace : Char := '\x08'

/-- A text, given from its end, without the characters that fill its last bytes. -/
def dropBytes (bytes : Nat) : List Char → List Char
  | [] => []
  | last :: before =>
    if bytes = 0 then last :: before else dropBytes (bytes - last.utf8Size) before

/-- Takes back the last cluster, if there is one. -/
def takeBack (line : TypedLine) : TypedLine :=
  match line.sizes with
  | [] => line
  | size :: sizes => ⟨dropBytes size.toNat line.characters, sizes⟩

def append (line : TypedLine) (cluster : List Char) : TypedLine :=
  let size := (String.ofList cluster).utf8ByteSize
  ⟨cluster.reverse ++ line.characters, size.toUInt8 :: line.sizes⟩

/-- Adds a cluster as it is typed. A backspace is a cluster of its own. -/
def type (line : TypedLine) (cluster : List Char) : TypedLine :=
  if cluster = [backspace] then line.takeBack else line.append cluster

theorem characters_foldl_type (line : TypedLine) {pieces : List (List Char)}
    (absent : [backspace] ∉ pieces) :
    (pieces.foldl type line).characters = pieces.flatten.reverse ++ line.characters := by
  induction pieces generalizing line with
  | nil => simp
  | cons piece rest inductionHypothesis =>
    rw [List.mem_cons, not_or] at absent
    rw [List.foldl_cons, inductionHypothesis _ absent.2, type, if_neg (Ne.symm absent.1)]
    simp [append]

/-- A text in which every backspace has taken back the cluster before it. -/
def afterBackspaces (text : List Char) : List Char :=
  ((clusters text).foldl type initial).characters.reverse

theorem afterBackspaces_eq_self {text : List Char} (absent : backspace ∉ text) :
    afterBackspaces text = text := by
  have absentPiece : [backspace] ∉ clusters text := fun member =>
    absent (by
      rw [← flatten_clusters text]
      exact List.mem_flatten.mpr ⟨_, member, List.mem_singleton.mpr rfl⟩)
  rw [afterBackspaces, characters_foldl_type initial absentPiece, flatten_clusters]
  simp [initial]

/-- A text without the end of its line. -/
def withoutEnd (text : List Char) : List Char :=
  match text.reverse with
  | '\n' :: '\r' :: before => before.reverse
  | '\n' :: before => before.reverse
  | _ => text

/-- A line as it was meant. -/
def clean (line : String) : String :=
  String.ofList (afterBackspaces (withoutEnd line.toList))

end TypedLine

end RewardFormula
