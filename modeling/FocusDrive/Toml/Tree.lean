import FocusDrive.Toml.Value

/-!
# The tree of a document under construction

A document builds its tables piece by piece: a header opens a table, assignments fill it, and later
headers reach into what is there. What may still be extended depends on how a table came about, so a
table remembers that (`Origin`) until the document is complete.

* A header may open a table that so far was only passed through on the way to another one, and no
  other table a second time.
* An assignment with a dotted key may extend tables that dotted keys made. It may pass through, but
  not extend, a table that headers passed through, and it stays out of tables that a header opened.
* A value, be it an array or an inline table, is complete when it is written.
* A path that meets an array of tables goes on in its last element.

Failure is `none`: the document is malformed.
-/

namespace FocusDrive.Toml

/-- How a table came about. -/
inductive Origin
  /-- Headers of tables inside it pass through it. -/
  | passed
  /-- Dotted keys pass through it. -/
  | dotted
  /-- A header opened it. -/
  | opened
deriving DecidableEq, Repr

/-- What a key leads to. -/
inductive Node
  | value (v : Value)
  | table (origin : Origin) (entries : List (String × Node))
  /-- An array of tables: the elements that are complete, and the entries of the last one. -/
  | tables (complete : List Value) (last : List (String × Node))

/-- The entries of a table under construction, without repeated keys. -/
abbrev Entries := List (String × Node)

/-! ### Completion -/

mutual

/-- The value that a node has become. -/
def Node.toValue : Node → Value
  | .value v => v
  | .table _ entries => .table (entriesToValues entries)
  | .tables complete last => .array (complete ++ [.table (entriesToValues last)])

/-- The entries of the completed table. -/
def entriesToValues : List (String × Node) → List (String × Value)
  | [] => []
  | (key, node) :: rest => (key, node.toValue) :: entriesToValues rest

end

namespace Entries

/-- The table that the entries make. -/
def toTable (t : Entries) : Value := .table (entriesToValues t)

/-! ### Entries -/

/-- Put a node under a key, in place of the one that is there, or at the end. -/
def put (key : String) (node : Node) : Entries → Entries
  | [] => [(key, node)]
  | (k, n) :: rest => if k = key then (key, node) :: rest else (k, n) :: put key node rest

theorem lookup_cons_entry (k key : String) (node : Node) (rest : Entries) :
    List.lookup k ((key, node) :: rest) = if k = key then some node else rest.lookup k := by
  by_cases hk : k = key
  · simp [hk]
  · have hbeq : (k == key) = false := beq_false_of_ne hk
    simp [List.lookup_cons, hbeq, hk]

/-- What was put is found, and everything else where it was. -/
theorem lookup_put (t : Entries) (key k : String) (node : Node) :
    (t.put key node).lookup k = if k = key then some node else t.lookup k := by
  induction t with
  | nil => rw [put, lookup_cons_entry]
  | cons entry rest ih =>
    obtain ⟨j, n⟩ := entry
    by_cases hj : j = key
    · rw [put, if_pos hj, lookup_cons_entry, lookup_cons_entry, hj]
      split <;> rfl
    · rw [put, if_neg hj, lookup_cons_entry, lookup_cons_entry, ih]
      -- the entry at hand comes first on both sides, and it is not the one that was put
      by_cases hk : k = j
      · have hne : ¬k = key := fun h ↦ hj (hk ▸ h)
        rw [if_pos hk, if_pos hk, if_neg hne]
      · rw [if_neg hk, if_neg hk]

/-- What follows a key in a path: change the entries there. A missing table is made with the given
origin, and `may` says which tables the path may go into. -/
def descend (origin : Origin) (may : Origin → Bool) (change : Entries → Option Entries)
    (key : String) (t : Entries) : Option Entries :=
  match t.lookup key with
  | none => (change []).map fun entries ↦ t.put key (.table origin entries)
  | some (.table found entries) =>
    if may found then (change entries).map fun entries ↦ t.put key (.table found entries) else none
  | some (.tables complete last) =>
    if may .passed then (change last).map fun last ↦ t.put key (.tables complete last) else none
  | some (.value _) => none

/-! ### Statements on a tree -/

/-- Assign a value to the key at the end of a path of dotted keys. -/
def assign (key : String) (v : Value) : List String → Entries → Option Entries
  | [], t => if (t.lookup key).isSome then none else some (t.put key (.value v))
  | first :: rest, t =>
    t.descend .dotted (fun found ↦ found == .dotted || (found == .passed && !rest.isEmpty))
      (assign key v rest) first

/-- Open the table at the end of a path. -/
def openTable (key : String) : List String → Entries → Option Entries
  | [], t =>
    match t.lookup key with
    | none => some (t.put key (.table .opened []))
    | some (.table .passed entries) => some (t.put key (.table .opened entries))
    | some _ => none
  | first :: rest, t => t.descend .passed (fun _ ↦ true) (openTable key rest) first

/-- Open a new element of the array of tables at the end of a path. -/
def openElement (key : String) : List String → Entries → Option Entries
  | [], t =>
    match t.lookup key with
    | none => some (t.put key (.tables [] []))
    | some (.tables complete last) => some (t.put key (.tables (complete ++ [toTable last]) []))
    | some _ => none
  | first :: rest, t => t.descend .passed (fun _ ↦ true) (openElement key rest) first

/-- Change the entries of the table at a path that exists. -/
def within (change : Entries → Option Entries) : List String → Entries → Option Entries
  | [], t => change t
  | first :: rest, t => t.descend .passed (fun _ ↦ true) (within change rest) first

end Entries

end FocusDrive.Toml
