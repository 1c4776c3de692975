namespace GatewayTunnel.Text

/-- The characters with the Unicode property White_Space. -/
def isBlank (c : Char) : Bool :=
  let n := c.toNat
  (0x09 ≤ n && n ≤ 0x0d) || n == 0x20 || n == 0x85 || n == 0xa0 || n == 0x1680 ||
    (0x2000 ≤ n && n ≤ 0x200a) || n == 0x2028 || n == 0x2029 || n == 0x202f || n == 0x205f ||
    n == 0x3000

/-! ## Trimming -/

def trimStart (cs : List Char) : List Char :=
  cs.dropWhile isBlank

def trimEnd (cs : List Char) : List Char :=
  (cs.reverse.dropWhile isBlank).reverse

def trimmed (cs : List Char) : List Char :=
  trimEnd (trimStart cs)

def trim (s : String) : String :=
  String.ofList (trimmed s.toList)

def isBlankText (s : String) : Bool :=
  s.toList.all isBlank

/-! ## Pieces -/

def splitWhere {α : Type _} (p : α → Bool) : List α → List (List α)
  | [] => [[]]
  | a :: as =>
    if p a then [] :: splitWhere p as
    else
      match splitWhere p as with
      | [] => [[a]]
      | piece :: pieces => (a :: piece) :: pieces

theorem splitWhere_ne_nil {α : Type _} (p : α → Bool) (as : List α) : splitWhere p as ≠ [] := by
  cases as with
  | nil => simp [splitWhere]
  | cons a as =>
    by_cases h : p a
    · simp [splitWhere, h]
    · cases hs : splitWhere p as <;> simp [splitWhere, h, hs]

def words (cs : List Char) : List (List Char) :=
  (splitWhere isBlank cs).filter fun piece => !piece.isEmpty

/-! ## Lines -/

def dropReturn (line : List Char) : List Char :=
  if line.getLast? = some '\r' then line.dropLast else line

def endLines : List (List Char) → List (List Char)
  | [] => []
  | [last] => if last.isEmpty then [] else [last]
  | line :: rest => dropReturn line :: endLines rest

/-- The lines of a text. A line feed at its end does not start another line. -/
def lines (cs : List Char) : List (List Char) :=
  endLines (splitWhere (· == '\n') cs)

end GatewayTunnel.Text
