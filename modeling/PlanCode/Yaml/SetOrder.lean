import PlanCode.Datum

/-!
# The order of sets

A set of whole numbers shows its members in the order of the places that they take in a table. A
number goes to the place that it has modulo the size of the table, or, where that is taken, to the
first free one in a sequence that begins there. Sets with other members keep the order in which the
members came.

* `ordered_single`: one member is in order.
-/
namespace PlanCode.Yaml.SetOrder

/-- The number that decides the place of a value, if the value is a whole number. -/
def place? (d : Datum) : Option Int :=
  d.numeral?.map fun n =>
    let m := Int.tmod n (Nat.pow 2 61 - 1)
    if m = -1 then -2 else m

/-- The least power of two above a number, and at least eight. -/
def sizeAbove (n : Nat) : Nat := max 8 (Nat.pow 2 (Nat.log2 n + 1))

/-- Up to four members fit into the smallest table, and more into one of more than twice as many
places. -/
def tableSize (members : Nat) : Nat := if members < 5 then 8 else sizeAbove (2 * members)

/-- The places after a first one that are tried before the sequence goes on elsewhere. -/
def neighbours (size place : Nat) : List Nat :=
  if place + 9 < size then (List.range 9).map (place + 1 + ·) else []

/-- The first free place of the sequence that begins at a place. -/
def freePlace? (taken : List Nat) (size : Nat) : Nat → Nat → Nat → Option Nat
  | 0, _, _ => none
  | fuel + 1, place, rest =>
    match (place :: neighbours size place).find? fun p => !taken.contains p with
    | some p => some p
    | none =>
      let rest := rest / 32
      freePlace? taken size fuel ((5 * place + 1 + rest) % size) rest

/-- A value put into a table of places and values. -/
def put (size : Nat) (table : List (Nat × Datum)) (value : Datum × Int) : List (Nat × Datum) :=
  let word := (Int.emod value.2 (Nat.pow 2 64)).toNat
  match freePlace? (table.map (·.1)) size (size + 64) (word % size) word with
  | some p => table ++ [(p, value.1)]
  | none => table ++ [(size, value.1)]

/-- The members of a set as it shows them. -/
def ordered (members : List Datum) : List Datum :=
  match members.mapM fun d => (place? d).map (d, ·) with
  | none => members
  | some placed =>
    let table := placed.foldl (put (tableSize members.length)) []
    (table.mergeSort fun a b => decide (a.1 ≤ b.1)).map (·.2)

theorem ordered_single (d : Datum) : ordered [d] = [d] := by
  unfold ordered
  cases h : place? d with
  | none => simp [h]
  | some n =>
    simp only [List.mapM_cons, List.mapM_nil, h, Option.map_some, Option.pure_def,
      Option.bind_eq_bind, Option.bind_some, List.foldl_cons, List.foldl_nil, put]
    split <;> simp

end PlanCode.Yaml.SetOrder
