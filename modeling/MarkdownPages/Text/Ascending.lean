/-!
# Ascending lists

A set of names is kept as the list of its members in strictly ascending order, and a table with
names for keys as the list of its entries in strictly ascending order of the keys. Texts are
compared character by character, which is also the order of their UTF-8 bytes, and raw texts byte by
byte.

## Main definitions

* `Ascending.insert` — a set with one more member
* `Ascending.put` — a table with a key set to a value
* `Ascending.get?` — the value of a key
* `Ascending.erase` — a table without a key
-/

namespace MarkdownPages

namespace Ascending

variable {κ : Type} [LT κ] [DecidableLT κ] [DecidableEq κ] {α : Type}

/-- The set `names` with the member `x`. -/
def insert (x : κ) : List κ → List κ
  | [] => [x]
  | y :: ys => if x < y then x :: y :: ys else if x = y then y :: ys else y :: insert x ys

/-- The table with `key` set to `value`; an earlier value of the key is replaced. -/
def put (key : κ) (value : α) : List (κ × α) → List (κ × α)
  | [] => [(key, value)]
  | (k, v) :: rest =>
    if key < k then (key, value) :: (k, v) :: rest
    else if key = k then (key, value) :: rest
    else (k, v) :: put key value rest

/-- The value of a key. -/
def get? (key : κ) : List (κ × α) → Option α
  | [] => none
  | (k, v) :: rest => if key = k then some v else get? key rest

/-- The table without a key. -/
def erase (key : κ) : List (κ × α) → List (κ × α)
  | [] => []
  | (k, v) :: rest => if key = k then rest else (k, v) :: erase key rest

/-- The table that holds the given entries, later ones winning. -/
def ofEntries (entries : List (κ × α)) : List (κ × α) :=
  entries.foldl (fun table (key, value) => put key value table) []

theorem mem_insert {x y : κ} {names : List κ} :
    y ∈ insert x names ↔ y = x ∨ y ∈ names := by
  induction names with
  | nil => simp [insert]
  | cons z zs ih =>
    rw [insert]
    split
    · simp
    · split
      · rename_i h
        subst h
        simp
      · simp only [List.mem_cons, ih]
        constructor
        · rintro (h | h | h) <;> simp [h]
        · rintro (h | h | h) <;> simp [h]

@[simp] theorem get?_put_self (key : κ) (value : α) (table : List (κ × α)) :
    get? key (put key value table) = some value := by
  induction table with
  | nil => simp [put, get?]
  | cons entry rest ih =>
    obtain ⟨k, v⟩ := entry
    rw [put]
    split
    · simp [get?]
    · split
      · simp [get?]
      · simp [get?, *]

end Ascending

end MarkdownPages
